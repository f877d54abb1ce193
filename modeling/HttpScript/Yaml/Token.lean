import HttpScript.Yaml.ScalarText

/-!
# Tokens of YAML

What stands for itself in a text, and what the indentation of a text says. This module also reads
the tokens that begin with `%`, `&`, `*` and `!`.
-/
namespace HttpScript.Yaml

/-- A line that begins with `%`. -/
inductive Directive where
  | version (major minor : Nat)
  | handle (name expansion : String)
  | reserved
  deriving Repr, DecidableEq

inductive Token where
  | directive (d : Directive)
  | documentStart
  | documentEnd
  | blockSequenceStart
  | blockMappingStart
  | blockEnd
  | flowSequenceStart
  | flowSequenceEnd
  | flowMappingStart
  | flowMappingEnd
  | blockEntry
  | flowEntry
  | key
  | value
  | anchor (name : String)
  | alias (name : String)
  /-- A tag that is written out has no handle. -/
  | tag (handle : Option String) (suffix : String)
  | scalar (text : String) (plain : Bool)
  deriving Repr, DecidableEq

namespace Cursor

/-- A name of one character or more. -/
def name? (cur : Cursor) : Option (List Char × Cursor) :=
  let (name, cur) := cur.takeWhile isNameChar
  if name.isEmpty then none else some (name, cur)

def spaces (cur : Cursor) : Cursor := cur.dropWhile (· == ' ')

/-- A space or the end of a line follows. -/
def endsItem (cur : Cursor) : Bool := cur.current == ' ' || endsLine cur.current

/-- An anchor or an alias after its indicator. -/
def anchorName? (cur : Cursor) : Option (String × Cursor) := do
  let (name, cur) ← cur.step.name?
  if endsWord cur.current || "?:,]\x7d%@\x60".toList.contains cur.current then
    some (.ofList name, cur)
  else none

/-- A handle of a tag, with its exclamation marks. -/
def tagHandle? (cur : Cursor) : Option (List Char × Cursor) :=
  if cur.current != '!' then none
  else if cur.peek 1 == ' ' then some (['!'], cur.step)
  else
    let (name, after) := cur.step.takeWhile isNameChar
    if after.current == '!' then some ('!' :: (name ++ ['!']), after.step) else none

def isUriChar (c : Char) : Bool := isNameChar c || ";/?:@&=+$,.!~*'()[]%".toList.contains c

/-- Characters written as percent signs with their bytes. -/
def escapedBytes : Nat → Cursor → Option (List UInt8 × Cursor)
  | 0, _ => none
  | fuel + 1, cur =>
    if cur.current != '%' then some ([], cur)
    else do
      let high ← ScalarText.hexValue? (cur.peek 1)
      let low ← ScalarText.hexValue? (cur.peek 2)
      let (bytes, cur) ← escapedBytes fuel (cur.skip 3)
      return ((16 * high + low).toUInt8 :: bytes, cur)

/-- The characters of a tag's name, from `read` on. -/
def uriRest : Nat → List Char → Cursor → Option (List Char × Cursor)
  | 0, _, _ => none
  | fuel + 1, read, cur =>
    if cur.current == '%' then do
      let (bytes, cur) ← escapedBytes (cur.rest.length + 1) cur
      match Text.Utf8.decode bytes with
      | .ok cs => uriRest fuel (read ++ cs) cur
      | .error _ => none
    else if isUriChar cur.current then uriRest fuel (read ++ [cur.current]) cur.step
    else if read.isEmpty then none
    else some (read, cur)

def uri? (cur : Cursor) : Option (List Char × Cursor) := uriRest (cur.rest.length + 1) [] cur

/-- The characters up to the next space or the end of the line hold an exclamation mark. -/
def hasHandle (s : List Char) : Bool :=
  (s.takeWhile fun c => c != ' ' && !endsLine c).contains '!'

def tag? (cur : Cursor) : Option (Token × Cursor) := do
  let (token, cur) ←
    if cur.peek 1 == '<' then do
      let (suffix, cur) ← (cur.skip 2).uri?
      if cur.current == '>' then some (Token.tag none (.ofList suffix), cur.step) else none
    else if endsWord (cur.peek 1) then some (Token.tag none "!", cur.step)
    else if hasHandle (cur.rest.drop 1) then do
      let (handle, cur) ← cur.tagHandle?
      let (suffix, cur) ← cur.uri?
      some (Token.tag (some (.ofList handle)) (.ofList suffix), cur)
    else do
      let (suffix, cur) ← cur.step.uri?
      some (Token.tag (some "!") (.ofList suffix), cur)
  if cur.endsItem then some (token, cur) else none

def number? (cur : Cursor) : Option (Nat × Cursor) :=
  let (digits, cur) := cur.takeWhile Char.isDigit
  if digits.isEmpty then none
  else some (digits.foldl (fun n c => 10 * n + (c.toNat - 48)) 0, cur)

/-- The directive of a line. -/
def directive? (cur : Cursor) : Option (Token × Cursor) := do
  let (name, cur) ← cur.step.name?
  if !cur.endsItem then none
  let (d, cur) ←
    if name == "YAML".toList then do
      let (major, cur) ← cur.spaces.number?
      if cur.current != '.' then none
      let (minor, cur) ← cur.step.number?
      if cur.endsItem then some (Directive.version major minor, cur) else none
    else if name == "TAG".toList then do
      let (handle, cur) ← cur.spaces.tagHandle?
      if cur.current != ' ' then none
      let (expansion, cur) ← cur.spaces.uri?
      if cur.endsItem then some (Directive.handle (.ofList handle) (.ofList expansion), cur)
      else none
    else some (Directive.reserved, cur.dropWhile (!endsLine ·))
  let cur ← cur.restOfLine?
  return (.directive d, cur)

end Cursor

end HttpScript.Yaml
