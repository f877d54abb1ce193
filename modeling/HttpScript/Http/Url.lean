import HttpScript.Text.Blank
import HttpScript.Text.Case
import HttpScript.Text.Literal
import HttpScript.Text.Percent
import HttpScript.Text.Punycode

/-!
# Addresses

An address is taken apart, brought into a normal form, and put together again, so that it can be
sent. Addresses of other schemes are left as they are.
-/
namespace HttpScript

/-- Why an address cannot be used. -/
inductive UrlFault where
  | malformed
  | noScheme (address : String)
  | noHost (address : String)
  | invalidLabel
  deriving Repr, DecidableEq

def UrlFault.message : UrlFault → String
  | .malformed => "<url error>"
  | .noScheme address =>
    s!"Invalid URL {Text.quoted address}: No scheme supplied. Perhaps you meant https://{address}?"
  | .noHost address => s!"Invalid URL {Text.quoted address}: No host supplied"
  | .invalidLabel => "URL has an invalid label."

/-- The parts of an address. -/
structure Url where
  scheme : Option (List Char)
  user : Option (List Char)
  host : Option (List Char)
  port : Option Nat
  path : List Char
  query : Option (List Char)
  fragment : Option (List Char)
  deriving Repr, DecidableEq

namespace Url

/-! ## Taking apart -/

/-- A scheme: a letter, then letters, digits and marks. -/
def isScheme : List Char → Bool
  | c :: s => c.isAlpha && s.all fun c => c.isAlphanum || c == '+' || c == '.' || c == '-'
  | [] => false

/-- The scheme before the first colon, and what follows the colon. -/
def splitScheme (s : List Char) : Option (List Char) × List Char :=
  let scheme := s.takeWhile (· != ':')
  match s.drop scheme.length with
  | _ :: rest => if isScheme scheme then (some scheme, rest) else (none, s)
  | [] => (none, s)

/-- The part before the first character that satisfies `p`, and the rest from there on. -/
def cutAt (p : Char → Bool) (s : List Char) : List Char × List Char := s.span (!p ·)

/-- The part after two slashes, if there are any. -/
def splitAuthority (s : List Char) : Option (List Char) × List Char :=
  match s with
  | '/' :: '/' :: s =>
    let (authority, rest) := cutAt (fun c => c == '/' || c == '?' || c == '#' || c == '\\') s
    (some authority, rest)
  | s => (none, s)

/-- Path, query and fragment. -/
def splitPath (s : List Char) : List Char × Option (List Char) × Option (List Char) :=
  let (path, rest) := cutAt (fun c => c == '?' || c == '#') s
  let (query, rest) := match rest with
    | '?' :: s =>
      let (query, rest) := cutAt (· == '#') s
      (some query, rest)
    | s => (none, s)
  (path, query, match rest with
    | '#' :: s => some s
    | _ => none)

/-- The parts before and after the last occurrence of a character. -/
def splitAtLast (c : Char) (s : List Char) : Option (List Char × List Char) :=
  let after := (s.reverse.takeWhile (· != c)).reverse
  if after.length == s.length then none
  else some (s.take (s.length - after.length - 1), after)

/-! ## Hosts -/

/-- Characters that no name of a host has. -/
def isHostDelimiter (c : Char) : Bool :=
  "[]%:/?#".toList.contains c || Text.isBlank c || c.toNat < 0x20 || c.toNat == 0x7F

def isHostName : List Char → Bool
  | [] => true
  | '%' :: a :: b :: s =>
    (Text.Percent.hexValue? a).isSome && (Text.Percent.hexValue? b).isSome && isHostName s
  | c :: s => !isHostDelimiter c && isHostName s

def isIpv4 (s : List Char) : Bool :=
  let parts := Text.splitOn '.' s
  parts.length == 4 &&
    parts.all fun p => !p.isEmpty && p.length ≤ 3 && p.all Char.isDigit

/-- The number of groups in a part of an address of version 6. The last two may be written as an
address of version 4. -/
def groups? (s : List Char) : Option Nat :=
  if s.isEmpty then some 0
  else
    let parts := Text.splitOn ':' s
    let isGroup (p : List Char) : Bool :=
      !p.isEmpty && p.length ≤ 4 && p.all fun c => (Text.Percent.hexValue? c).isSome
    if parts.all isGroup then some parts.length
    else if parts.dropLast.all isGroup && isIpv4 (parts.getLastD []) then some (parts.length + 1)
    else none

def isIpv6 (s : List Char) : Bool :=
  match Text.find? [':', ':'] s with
  | none => groups? s == some 8
  | some n =>
    let left := s.take n
    match groups? left, groups? (s.drop (n + 2)) with
    | some a, some b => a + b ≤ 7 && !left.contains '.'
    | _, _ => false

/-- An address of version 6 between brackets, with or without a zone. -/
def isBracketed (s : List Char) : Bool :=
  match s with
  | '[' :: s =>
    s.getLast? == some ']' &&
      let (address, zone) := cutAt (· == '%') s.dropLast
      isIpv6 address && (zone.isEmpty || (1 < zone.length && isZone (zone.drop 1)))
  | _ => false
where
  isZone : List Char → Bool
    | [] => true
    | '%' :: a :: b :: s =>
      (Text.Percent.hexValue? a).isSome && (Text.Percent.hexValue? b).isSome && isZone s
    | c :: s => Text.Percent.isUnreserved c && isZone s

/-- A host and the digits of a port. The host may be empty. -/
def hostPort? (s : List Char) : Option (List Char × List Char) :=
  let (host, port) := match splitAtLast ':' s with
    | some (host, port) => if port.all Char.isDigit then (host, some port) else (s, none)
    | none => (s, none)
  if (isHostName host || isBracketed host) && (port.getD []).length ≤ 5 then
    some (host, port.getD [])
  else none

/-- The greatest port. -/
def lastPort : Nat := 65535

/-! ## Normal forms -/

/-- Characters of users; those of paths, queries and fragments are more and more. -/
def isUserChar (c : Char) : Bool :=
  Text.Percent.isUnreserved c || "!$&'()*+,;=:".toList.contains c

def isPathChar (c : Char) : Bool := isUserChar c || c == '@' || c == '/'

def isQueryChar (c : Char) : Bool := isPathChar c || c == '?'

/-- Escape what a part may not hold. Percent signs stay if all of them begin escapes. -/
def escapePart (keep : Char → Bool) (s : List Char) : List Char :=
  let s := Text.Percent.upperEscapes s
  let escaped := Text.Percent.isEscaped s
  Text.Percent.escape (fun c => keep c || (escaped && c == '%')) s

/-- Follow the names `.` and `..` of a path; `done` holds the names before, the last one first. -/
def followDots : List (List Char) → List (List Char) → List (List Char)
  | done, [] => done.reverse
  | done, ['.'] :: rest => followDots done rest
  | done, ['.', '.'] :: rest => followDots (done.drop 1) rest
  | done, name :: rest => followDots (name :: done) rest

def endsWith (tail s : List Char) : Bool := tail.reverse.isPrefixOf s.reverse

/-- A path without the names `.` and `..`. -/
def withoutDots (path : List Char) : List Char :=
  let names := followDots [] (Text.splitOn '/' path)
  let names :=
    if path.head? == some '/' && (names.head?.all fun name => !name.isEmpty) then [] :: names
    else names
  let names :=
    if endsWith ['/', '.'] path || endsWith ['/', '.', '.'] path then names ++ [[]] else names
  ['/'].intercalate names

/-- A host in lower case, and in ASCII. -/
def normalHost? (host : List Char) : Option (List Char) :=
  if isBracketed host then some (host.map Char.toLower)
  else ((Text.splitOn '.' host).mapM Text.Punycode.label?).map (['.'].intercalate ·)

/-- The address has one of the schemes whose normal form is known. -/
def isWeb (scheme : Option (List Char)) : Bool :=
  scheme.all fun s => s == "http".toList || s == "https".toList

/-- The part of an address that names the host: user, host and port. -/
def authorityParts? (web : Bool) (authority : List Char) :
    Option (Option (List Char) × List Char × Option Nat) := do
  let (user, place) := match splitAtLast '@' authority with
    | some (user, place) => (if user.isEmpty then none else some user, place)
    | none => (none, authority)
  let (host, digits) ← hostPort? place
  let port := digits.foldl (fun n c => 10 * n + (c.toNat - 48)) 0
  if lastPort < port then none
  let host ← if web then normalHost? host else some host
  return (if web then user.map (escapePart isUserChar) else user, host,
    if digits.isEmpty then none else some port)

/-- The text begins with a scheme, in which no point stands, or with a slash. -/
def hasBeginning (s : List Char) : Bool :=
  s.head? == some '/' ||
    match splitScheme s with
    | (some scheme, _) => !scheme.contains '.'
    | (none, _) => false

/-- Take an address apart and bring its parts into normal form. Without a scheme it begins with the
host. -/
def ofText? (s : List Char) : Option Url := do
  let s := if hasBeginning s then s else '/' :: '/' :: s
  let (scheme, rest) := splitScheme s
  let (authority, rest) := splitAuthority rest
  let (path, query, fragment) := splitPath rest
  let scheme := scheme.map (·.map Char.toLower)
  let web := isWeb scheme
  let (user, host, port) ← match authority with
    | none => pure (none, none, none)
    | some [] => pure (none, none, none)
    | some authority => do
      let (user, host, port) ← authorityParts? web authority
      pure (user, some host, port)
  let path := if web && !path.isEmpty then escapePart isPathChar (withoutDots path) else path
  let path := if path.isEmpty || path.head? == some '/' then path else '/' :: path
  let escapeQuery := if web then escapePart isQueryChar else id
  return ⟨scheme, user, host, port, path, query.map escapeQuery, fragment.map escapeQuery⟩

/-! ## Putting together -/

/-- Characters that stay in a finished address; others are escaped. -/
def isAddressChar (c : Char) : Bool :=
  Text.Percent.isUnreserved c || "!#$&'()*+,/:;=?@[]".toList.contains c

/-- Escape what an address may not hold, and resolve escapes that are not needed. -/
def finish (s : List Char) : List Char :=
  match Text.Percent.revealUnreserved s with
  | some s => Text.Percent.escape (fun c => isAddressChar c || c == '%') s
  | none => Text.Percent.escape isAddressChar s

/-- A part with its mark, unless it is missing or empty. -/
def marked (mark : Char) : Option (List Char) → List Char
  | some (c :: s) => mark :: c :: s
  | _ => []

/-- The text of an address with a scheme and a host. -/
def write (u : Url) (scheme host : List Char) : List Char :=
  let user := match u.user with
    | some user => user ++ ['@']
    | none => []
  let port := match u.port with
    | some n => if n == 0 then [] else ':' :: Nat.toDigits 10 n
    | none => []
  let path := if u.path.isEmpty then ['/'] else u.path
  finish (scheme ++ "://".toList ++ user ++ host ++ port ++ path ++ marked '?' u.query ++
    marked '#' u.fragment)

/-- An address with a colon whose scheme has nothing to do with the web is left alone. -/
def isForeign (s : List Char) : Bool :=
  s.contains ':' && !"http".toList.isPrefixOf (Text.lower s)

/-- The address to which a message is sent. -/
def prepare (address : String) : Except UrlFault String :=
  let s := address.toList.dropWhile Text.isBlank
  if isForeign s then .ok (.ofList s)
  else if s.isEmpty then .error (.noScheme "")
  else match ofText? s with
    | none => .error .malformed
    | some u =>
      match u.scheme, u.host with
      | none, _ => .error (.noScheme (.ofList s))
      | some _, none => .error (.noHost (.ofList s))
      | some _, some [] => .error (.noHost (.ofList s))
      | some scheme, some (c :: host) =>
        if c == '*' || c == '.' then .error .invalidLabel
        else .ok (.ofList (u.write scheme (c :: host)))

/-! ## Parts of a finished address -/

/-- The part that names the host, as far as an address has one. -/
def authorityOf (address : List Char) : List Char :=
  let (_, rest) := splitScheme address
  match rest with
  | '/' :: '/' :: s => (cutAt (fun c => c == '/' || c == '?' || c == '#') s).1
  | _ => []

/-- The name and the password that an address holds. -/
def credentials? (address : String) : Option (List Char × List Char) := do
  let (user, _) ← splitAtLast '@' (authorityOf address.toList)
  let name := user.takeWhile (· != ':')
  match user.drop name.length with
  | [] => none
  | _ :: password =>
    let name := Text.Percent.unescape name
    let password := Text.Percent.unescape password
    if name.isEmpty && password.isEmpty then none else some (name, password)

/-- Host and port of an address, without a user. -/
def placeOf (address : String) : List Char :=
  let authority := authorityOf address.toList
  ((splitAtLast '@' authority).map (·.2)).getD authority

/-- The host of an address in lower case. -/
def hostOf? (address : String) : Option String :=
  let place := placeOf address
  let host := match place.dropWhile (· != '[') with
    | '[' :: s => s.takeWhile (· != ']')
    | _ => place.takeWhile (· != ':')
  if host.isEmpty then none else some (.ofList (Text.lower host))

/-- The port that an address names. -/
def portOf? (address : String) : Option Nat :=
  let place := placeOf address
  let rest := match place.dropWhile (· != '[') with
    | '[' :: s => s.dropWhile (· != ']')
    | _ => place
  match rest.dropWhile (· != ':') with
  | _ :: digits =>
    if digits.isEmpty then none
    else some (digits.foldl (fun n c => 10 * n + (c.toNat - 48)) 0)
  | [] => none

end Url

end HttpScript
