import HttpScript.Http.DirectSession

/-!
# Messages on the wire

A delivery as the bytes of a request, and a reply from the bytes that came back. A body ends where
its length says, after its last chunk, or with the connection.
-/
namespace HttpScript.Wire

/-- Where a delivery goes, and what it asks for there. -/
structure Target where
  host : String
  port : Nat
  path : String
  deriving Repr, DecidableEq

/-- The part of an address after the host, without a fragment. -/
def pathOf (url : String) : String :=
  let (_, rest) := Url.splitScheme url.toList
  let path := (rest.drop 2).dropWhile fun c => c != '/' && c != '?' && c != '#'
  let path := path.takeWhile (· != '#')
  .ofList (if path.head? == some '/' then path else '/' :: path)

/-- The target of an address that can be reached without encryption. -/
def target? (url : String) : Option Target :=
  match (Url.splitScheme url.toList).1 with
  | some scheme =>
    if scheme == "http".toList then
      (Url.hostOf? url).map fun host => ⟨host, (Url.portOf? url).getD 80, pathOf url⟩
    else none
  | none => none

def line (s : String) : List UInt8 := Text.Utf8.encode s.toList ++ [13, 10]

/-- The bytes of a delivery. -/
def request (d : Delivery) (t : Target) : List UInt8 :=
  let host := if t.port == 80 then t.host else s!"{t.host}:{t.port}"
  line s!"{d.method} {t.path} HTTP/1.1" ++ line ("Host: " ++ host) ++
    d.headers.flatMap (fun h => line (h.1 ++ ": " ++ h.2)) ++ line "" ++
    d.body.getD []

/-- A line without its end, and the bytes after it. -/
def splitLine? : List UInt8 → Option (List UInt8 × List UInt8)
  | [] => none
  | 10 :: rest => some ([], rest)
  | 13 :: 10 :: rest => some ([], rest)
  | b :: rest => (splitLine? rest).map fun (line, rest) => (b :: line, rest)

/-- The lines of a head up to the empty one, and the bytes after it. -/
def splitHead? : Nat → List UInt8 → Option (List (List Char) × List UInt8)
  | 0, _ => none
  | fuel + 1, bytes => do
    let (line, rest) ← splitLine? bytes
    if line.isEmpty then return ([], rest)
    let (lines, rest) ← splitHead? fuel rest
    return (Text.Encoding.latin1.decode line :: lines, rest)

def headerOf (line : List Char) : Header :=
  let name := line.takeWhile (· != ':')
  (.ofList name, .ofList (Text.trim (line.drop (name.length + 1))))

def numberOf? (base : Nat) (s : List Char) : Option Nat :=
  if s.isEmpty then none
  else s.foldlM (fun n c => do
    let v ← Text.Percent.hexValue? c
    if v < base then some (base * n + v) else none) 0

/-- A body in chunks, each after a line with its length. -/
def chunks? : Nat → List UInt8 → Option (List UInt8)
  | 0, _ => none
  | fuel + 1, bytes => do
    let (line, rest) ← splitLine? bytes
    let length ← numberOf? 16 ((Text.Encoding.latin1.decode line).takeWhile Char.isAlphanum)
    if length == 0 then return []
    if rest.length < length then none
    let (_, more) ← splitLine? (rest.drop length)
    return rest.take length ++ (← chunks? fuel more)

/-- The body at the beginning of bytes, if it is complete. -/
def body? (reply : Reply) (method : String) (closed : Bool) (bytes : List UInt8) :
    Option (List UInt8) :=
  if method == "HEAD" || reply.status == 204 || reply.status == 304 then some []
  else if (reply.header? "Transfer-Encoding").any (Text.sameIgnoringCase · "chunked") then
    chunks? (bytes.length + 1) bytes
  else match (reply.header? "Content-Length").bind fun n => numberOf? 10 n.toList with
    | some length => if length ≤ bytes.length || closed then some (bytes.take length) else none
    | none => if closed then some bytes else none

/-- The encoding that a type of content names. -/
def encodingOf (contentType : String) : Text.Encoding :=
  match Text.find? "charset=".toList (Text.lower contentType.toList) with
  | some n =>
    let name := (contentType.toList.drop (n + 8)).takeWhile fun c => c != ';' && c != ' '
    .ofName (.ofList (name.filter (· != '"')))
  | none => .utf8

/-- The reply that bytes are, if it is complete. Values under one name are joined. -/
def reply? (d : Delivery) (closed : Bool) (bytes : List UInt8) : Option RawReply := do
  let (lines, rest) ← splitHead? (bytes.length + 1) bytes
  match lines with
  | [] => none
  | first :: lines =>
    let (_, after) := Text.splitAtSpace first
    let (status, reason) := Text.splitAtSpace (after.getD [])
    let status ← numberOf? 10 status
    let headers := lines.map headerOf
    let head : Reply := ⟨status, d.url, "", headers, ""⟩
    let body ← body? head d.method closed rest
    return ⟨status, d.url, body, encodingOf ((head.header? "Content-Type").getD ""),
      (HeaderGroups.ofList headers).merged, reason.map String.ofList⟩

end HttpScript.Wire
