import HttpScript.Query.Value

/-!
# Documents inside a query

A string that holds a JSON text can be read within a query. The reader goes through the text once,
with a stack of the containers that are open, and reports where it stopped.
-/
namespace HttpScript.Query

namespace Document

/-- The value of four hexadecimal digits. -/
def hex4? : List Char → Option Nat
  | [a, b, c, d] =>
    [a, b, c, d].foldlM (fun n c =>
      if c.isDigit then some (16 * n + (c.toNat - 48))
      else if 'a' ≤ c && c ≤ 'f' then some (16 * n + (c.toNat - 87))
      else if 'A' ≤ c && c ≤ 'F' then some (16 * n + (c.toNat - 55))
      else none) 0
  | _ => none

/-- What a letter after a backslash stands for. -/
def escaped? : Char → Option Char
  | '"' => some '"'
  | '\\' => some '\\'
  | '/' => some '/'
  | 'b' => some '\x08'
  | 'f' => some '\x0c'
  | 'n' => some '\n'
  | 'r' => some '\r'
  | 't' => some '\t'
  | _ => none

/-- A unit that is half of a pair without the other half. -/
def replacement : Char := '\uFFFD'

/-- The characters of a string, given what stands between its quotes. `pending` is the first half of
a pair of units, whose second half must come next. -/
def unescape (pending : Option Nat) (s : List Char) : Except String (List Char) :=
  let flushed := pending.toList.map fun _ => replacement
  match s with
  | [] => .ok flushed
  | '\\' :: 'u' :: a :: b :: c :: d :: rest =>
    match hex4? [a, b, c, d] with
    | none => .error "Invalid characters in \\uXXXX escape"
    | some n =>
      if 0xDC00 ≤ n && n < 0xE000 then
        match pending with
        | some high =>
          (unescape none rest).map (Char.ofNat (0x10000 + (high - 0xD800) * 0x400 + (n - 0xDC00)) :: ·)
        | none => (unescape none rest).map (replacement :: ·)
      else if 0xD800 ≤ n && n < 0xDC00 then (unescape (some n) rest).map (flushed ++ ·)
      else (unescape none rest).map fun r => flushed ++ Char.ofNat n :: r
  | '\\' :: 'u' :: _ => .error "Invalid \\uXXXX escape"
  | ['\\'] => .error "Expected escape character at end of string"
  | '\\' :: c :: rest =>
    match escaped? c with
    | none => .error "Invalid escape"
    | some c => (unescape none rest).map fun r => flushed ++ c :: r
  | c :: rest => (unescape none rest).map fun r => flushed ++ c :: r
termination_by s.length

/-- A container that is open; the items of an array stand in reverse. -/
inductive Open where
  | array (items : List Value)
  | object (members : List (String × Value))
  | member (members : List (String × Value)) (name : String)

inductive Mode where
  | plain
  | inString
  | afterBackslash
  deriving DecidableEq

/-- Where the reader stands. -/
structure State where
  stack : List Open := []
  /-- The value that was read last, if nothing has been done with it yet. -/
  next : Option Value := none
  /-- The characters of the literal or string that is being read, in reverse. -/
  token : List Char := []
  mode : Mode := .plain
  line : Nat := 1
  column : Nat := 0
  /-- The values that stand outside of any container, in reverse. -/
  finished : List Value := []

namespace State

def take (st : State) (v : Value) : Except String State :=
  if st.next.isSome then .error "Expected separator between values"
  else .ok { st with next := some v, token := [] }

/-- A literal by name. -/
def named (st : State) (word name : List Char) (v : Value) : Except String State :=
  if word == name then st.take v else .error "Invalid literal"

/-- End the literal that is being read. -/
def endLiteral (st : State) : Except String State :=
  match st.token.reverse with
  | [] => .ok st
  | '\'' :: _ => .error "Invalid string literal; expected \", but got '"
  | word@('t' :: _) => st.named word "true".toList (.bool true)
  | word@('f' :: _) => st.named word "false".toList (.bool false)
  | word@('n' :: _) =>
    if word.length == 3 then st.named word "nan".toList (.ofFloat (0.0 / 0.0))
    else st.named word "null".toList .null
  | word =>
    match Number.ofText? word with
    | some n => st.take (.number n)
    | none => .error "Invalid numeric literal"

/-- End the string that is being read. -/
def endString (st : State) : Except String State :=
  let s := st.token.reverse
  match unescape none s with
  | .error message => .error message
  | .ok r =>
    if s.any fun c => c.toNat < 0x20 then
      .error "Invalid string: control characters from U+0000 through U+001F must be escaped"
    else ({ st with mode := .plain }).take (.string (.ofList r))

/-- A comma, a colon, or a bracket. -/
def structural (st : State) (c : Char) : Except String State :=
  match c, st.stack, st.next with
  | '[', _, some _ => .error "Expected separator between values"
  | '[', stack, none => .ok { st with stack := .array [] :: stack }
  | '\x7b', _, some _ => .error "Expected separator between values"
  | '\x7b', stack, none => .ok { st with stack := .object [] :: stack }
  | ':', .object _ :: _, none => .error "Expected string key before ':'"
  | ':', .object ms :: stack, some (.string k) =>
    .ok { st with stack := .member ms k :: stack, next := none }
  | ':', .object _ :: _, some _ => .error "Object keys must be strings"
  | ':', _, _ => .error "':' not as part of an object"
  | ',', _, none => .error "Expected value before ','"
  | ',', [], some _ => .error "',' not as part of an object or array"
  | ',', .array items :: stack, some v =>
    .ok { st with stack := .array (v :: items) :: stack, next := none }
  | ',', .member ms k :: stack, some v =>
    .ok { st with stack := .object (Entries.put k v ms) :: stack, next := none }
  | ',', .object _ :: _, some _ => .error "Objects must consist of key:value pairs"
  | ']', .array items :: stack, some v =>
    .ok { st with stack := stack, next := some (.array (v :: items).reverse) }
  | ']', .array [] :: stack, none => .ok { st with stack := stack, next := some (.array []) }
  | ']', .array _ :: _, none => .error "Expected another array element"
  | ']', _, _ => .error "Unmatched ']'"
  | '\x7d', [], _ => .error "Unmatched '\x7d'"
  | '\x7d', .member ms k :: stack, some v =>
    .ok { st with stack := stack, next := some (.object (Entries.put k v ms)) }
  | '\x7d', _, some _ => .error "Objects must consist of key:value pairs"
  | '\x7d', .object [] :: stack, none => .ok { st with stack := stack, next := some (.object []) }
  | '\x7d', .object _ :: _, none => .error "Expected another key-value pair"
  | '\x7d', _, none => .error "Unmatched '\x7d'"
  | _, _, _ => .ok st

/-- Put a value that stands outside of any container aside. -/
def settle (st : State) : State :=
  match st.stack, st.next with
  | [], some v => { st with next := none, finished := v :: st.finished }
  | _, _ => st

def isStructural (c : Char) : Bool :=
  c == '[' || c == ']' || c == '\x7b' || c == '\x7d' || c == ':' || c == ','

def isSpace (c : Char) : Bool := c == ' ' || c == '\t' || c == '\r' || c == '\n'

def advance (st : State) (c : Char) : State :=
  if c == '\n' then { st with line := st.line + 1, column := 0 }
  else { st with column := st.column + c.utf8Size }

def char (st : State) (c : Char) : Except String State :=
  match st.mode with
  | .plain =>
    if isStructural c then do
      let st ← st.endLiteral
      let st ← st.structural c
      return st.settle
    else if isSpace c then do
      let st ← st.endLiteral
      return st.settle
    else if c == '"' then do
      let st ← st.endLiteral
      return { st.settle with mode := .inString }
    else .ok { st with token := c :: st.token }
  | .inString =>
    if c == '"' then do
      let st ← st.endString
      return st.settle
    else .ok { st with token := c :: st.token, mode := if c == '\\' then .afterBackslash else .inString }
  | .afterBackslash => .ok { st with token := c :: st.token, mode := .inString }

def place (st : State) : String := s!"at line {st.line}, column {st.column}"

/-- The values of the rest of a text; no more than two are needed. -/
def run (st : State) : List Char → Except String (List Value)
  | [] =>
    if st.mode != .plain then .error ("Unfinished string at EOF " ++ st.place)
    else match st.endLiteral with
      | .error message => .error (message ++ " at EOF " ++ st.place)
      | .ok st =>
        if st.stack.isEmpty then .ok st.settle.finished.reverse
        else .error ("Unfinished JSON term at EOF " ++ st.place)
  | c :: rest =>
    if 2 ≤ st.finished.length then .ok st.finished.reverse
    else
      let st := st.advance c
      match st.char c with
      | .error message => .error (message ++ " " ++ st.place)
      | .ok st => st.run rest

end State

end Document

/-- The value that a JSON text holds. -/
def Value.ofText (s : String) : Except String Value :=
  let text := match s.toList with
    | '\uFEFF' :: rest => rest
    | other => other
  let failed (message : String) : Except String Value :=
    .error (message ++ " (while parsing '" ++ s ++ "')")
  match ({} : Document.State).run text with
  | .error message => failed message
  | .ok [v] => .ok v
  | .ok [] => failed "Expected JSON value"
  | .ok _ => failed "Unexpected extra JSON values"

end HttpScript.Query
