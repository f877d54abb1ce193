import HttpScript.Http.Url
import HttpScript.Surroundings
import HttpScript.Text.Case

/-!
# Proxies

Variables whose names end in `_proxy`, in any letter case, name a proxy for a scheme; of two
spellings the lower-case one counts. The proxy for `no` is a list of hosts that need none.
-/
namespace HttpScript.Proxy

/-- The scheme that a variable names a proxy for. -/
def scheme? (name : String) : Option String :=
  let cs := name.toList
  let tail := cs.drop (cs.length - 6)
  if 5 < cs.length && Text.lower tail == "_proxy".toList then
    some (.ofList (Text.lower (cs.take (cs.length - 6))))
  else none

/-- Leave out an entry. -/
def erase (key : String) (entries : List (String × String)) : List (String × String) :=
  entries.filter (·.1 != key)

/-- Servers that answer for others are told of themselves under this name, so it proves nothing. -/
def gatewayVariable : String := "REQUEST_METHOD"

/-- The proxies that the environment names. -/
def ofEnvironment (env : Environment) : List (String × String) :=
  let named := env.filterMap fun (name, value) => (scheme? name).map fun s => (name, s, value)
  let all := named.foldl (fun acc (_, s, value) =>
    if value.isEmpty then acc else Entries.put s value acc) []
  let all := if Entries.contains gatewayVariable env then erase "http" all else all
  named.foldl (fun acc (name, s, value) =>
    if !"_proxy".toList.isSuffixOf name.toList then acc
    else if value.isEmpty then erase s acc
    else Entries.put s value acc) all

/-! ## Hosts without a proxy -/

/-- The number of an address of version 4. -/
def ipv4? (s : List Char) : Option Nat :=
  if Url.isIpv4 s then
    let parts := (Text.splitOn '.' s).map fun p => p.foldl (fun n c => 10 * n + (c.toNat - 48)) 0
    if parts.all (· < 256) then some (parts.foldl (fun n p => 256 * n + p) 0) else none
  else none

/-- An address lies in a network that is written with the length of its mask. -/
def inNetwork? (address : Nat) (network : List Char) : Option Bool := do
  let base ← ipv4? (network.takeWhile (· != '/'))
  match network.dropWhile (· != '/') with
  | _ :: digits =>
    if digits.isEmpty || !digits.all Char.isDigit then none
    let n := digits.foldl (fun n c => 10 * n + (c.toNat - 48)) 0
    if n < 1 || 32 < n then none
    return address / Nat.pow 2 (32 - n) == base / Nat.pow 2 (32 - n)
  | [] => none

/-- A host is listed by its end, an address of version 4 exactly or by its network. -/
def isListed (listed : List (List Char)) (host : List Char) (port : Option Nat) : Bool :=
  match ipv4? host with
  | some address => listed.any fun entry =>
    match inNetwork? address entry with
    | some inside => inside
    | none => entry == host
  | none =>
    let withPort := match port with
      | some n => if n == 0 then host else host ++ ':' :: Nat.toDigits 10 n
      | none => host
    listed.any fun entry => entry.isSuffixOf host || entry.isSuffixOf withPort

/-- A host is listed as a domain: itself or a name below it; a star lists all. -/
def isInDomains (list : String) (host : List Char) : Bool :=
  list == "*" || (Text.splitOn ',' list.toList).any fun entry =>
    let name := Text.lower ((Text.trim entry).dropWhile (· == '.'))
    !(Text.trim entry).isEmpty && (host == name || ('.' :: name).isSuffixOf host)

/-- The list of hosts without a proxy, in either spelling of its variable. -/
def exceptions (env : Environment) : String :=
  let of (name : String) : String := (Entries.get? name env).getD ""
  if (of "no_proxy").isEmpty then of "NO_PROXY" else of "no_proxy"

/-- An address is asked for without a proxy. -/
def isDirect (env : Environment) (address : String) : Bool :=
  match Url.hostOf? address with
  | none => true
  | some host =>
    let listed := ((Text.splitOn ',' ((exceptions env).toList.filter (· != ' '))).filter
      fun entry => !entry.isEmpty)
    isListed listed host.toList (Url.portOf? address) ||
      ((Entries.get? "no" (ofEnvironment env)).any fun list => isInDomains list host.toList)

/-- The proxies for an address. -/
def forAddress (env : Environment) (address : String) : List (String × String) :=
  if isDirect env address then [] else ofEnvironment env

end HttpScript.Proxy
