import HttpScript.Text.Utf8
import HttpScript.Yaml.Cursor

/-!
# Texts of scalars

The five notations of a scalar: plain, between single or double quotes, and as a block of lines that
are kept or folded. Each function takes the place where the text begins and gives the text and the
place after it; where the notation is broken it gives nothing.
-/
namespace HttpScript.Yaml.ScalarText

/-- Folded lines: a single line break becomes a space, further ones stay. -/
def fold (first : Char) (more : List Char) : List Char :=
  if first != '\n' then first :: more
  else if more.isEmpty then [' ']
  else more

/-! ## Plain scalars -/

/-- The line breaks between two lines of a plain scalar. The edge of a document ends the scalar. -/
def plainBreaks : Nat → List Char → Cursor → Option (List Char) × Cursor
  | 0, breaks, cur => (some breaks, cur)
  | fuel + 1, breaks, cur =>
    if cur.current == ' ' then plainBreaks fuel breaks cur.step
    else match cur.lineBreak with
      | (none, _) => (some breaks, cur)
      | (some c, cur) =>
        if cur.atEdge then (none, cur) else plainBreaks fuel (breaks ++ [c]) cur

/-- What stands between two words of a plain scalar, whether a line ended there, and the place after
it; nothing if the scalar ends. -/
def plainSpaces (cur : Cursor) : Option (List Char) × Bool × Cursor :=
  let (blanks, cur) := cur.takeWhile (· == ' ')
  match cur.lineBreak with
  | (none, _) => (if blanks.isEmpty then none else some blanks, false, cur)
  | (some c, cur) =>
    if cur.atEdge then (none, true, cur)
    else match plainBreaks (cur.rest.length + 1) [] cur with
      | (none, cur) => (none, true, cur)
      | (some breaks, cur) => (some (fold c breaks), true, cur)

/-- Whether a plain scalar ends before a character, given the one after it. -/
def endsPlain (inFlow : Bool) (c next : Char) : Bool :=
  endsWord c ||
  (c == ':' && (endsWord next || (inFlow && ",[]\x7b\x7d".toList.contains next))) ||
  (inFlow && ",?[]\x7b\x7d".toList.contains c)

/-- The characters of a plain scalar up to a blank or an indicator. -/
def plainRun (inFlow : Bool) : List Char → List Char
  | [] => []
  | c :: rest => if endsPlain inFlow c (rest.headD '\x00') then [] else c :: plainRun inFlow rest

/-- The words of a plain scalar after `text`, and whether a line ended after the last one. -/
def plainWords (inFlow : Bool) (indent : Int) : Nat → List Char → List Char → Bool → Cursor →
    List Char × Bool × Cursor
  | 0, text, _, ended, cur => (text, ended, cur)
  | fuel + 1, text, spaces, ended, cur =>
    let run := plainRun inFlow cur.rest
    if cur.current == '#' || run.isEmpty then (text, ended, cur)
    else
      let text := text ++ spaces ++ run
      match plainSpaces (cur.skip run.length) with
      | (none, ended, cur) => (text, ended, cur)
      | (some spaces, ended, cur) =>
        if cur.current == '#' || (!inFlow && cur.column < indent) then (text, ended, cur)
        else plainWords inFlow indent fuel text spaces ended cur

/-- A plain scalar: its text, and whether a line ended after it. -/
def plain (inFlow : Bool) (indent : Int) (cur : Cursor) : List Char × Bool × Cursor :=
  plainWords inFlow indent (cur.rest.length + 1) [] [] false cur

/-! ## Quoted scalars -/

/-- What a character after a backslash stands for. -/
def escaped? : Char → Option Char
  | '0' => some '\x00'
  | 'a' => some '\x07'
  | 'b' => some '\x08'
  | 't' => some '\t'
  | '\t' => some '\t'
  | 'n' => some '\n'
  | 'v' => some '\x0b'
  | 'f' => some '\x0c'
  | 'r' => some '\r'
  | 'e' => some '\x1b'
  | ' ' => some ' '
  | '"' => some '"'
  | '\\' => some '\\'
  | '/' => some '/'
  | 'N' => some '\x85'
  | '_' => some '\u00a0'
  | 'L' => some '\u2028'
  | 'P' => some '\u2029'
  | _ => none

/-- How many hexadecimal digits follow a character after a backslash. -/
def codeLength? : Char → Option Nat
  | 'x' => some 2
  | 'u' => some 4
  | 'U' => some 8
  | _ => none

def hexValue? (c : Char) : Option Nat :=
  if c.isDigit then some (c.toNat - 48)
  else if 'a' ≤ c && c ≤ 'f' then some (c.toNat - 87)
  else if 'A' ≤ c && c ≤ 'F' then some (c.toNat - 55)
  else none

def hexNumber? (digits : List Char) : Option Nat :=
  digits.foldlM (fun n c => (hexValue? c).map (16 * n + ·)) 0

/-- The blanks and line breaks at the beginning of a line of a quoted scalar: its line breaks.
Nothing if a document ends here. -/
def quotedBreaks : Nat → List Char → Cursor → Option (List Char × Cursor)
  | 0, breaks, cur => some (breaks, cur)
  | fuel + 1, breaks, cur =>
    if cur.atEdge then none
    else
      match (cur.dropWhile fun c => c == ' ' || c == '\t').lineBreak with
      | (none, cur) => some (breaks, cur)
      | (some c, cur) => quotedBreaks fuel (breaks ++ [c]) cur

/-- Blanks inside a quoted scalar, or a line break with what surrounds it. -/
def quotedSpaces (cur : Cursor) : Option (List Char × Cursor) :=
  let (blanks, cur) := cur.takeWhile fun c => c == ' ' || c == '\t'
  if cur.atEnd then none
  else match cur.lineBreak with
    | (none, _) => some (blanks, cur)
    | (some c, cur) => do
      let (breaks, cur) ← quotedBreaks (cur.rest.length + 1) [] cur
      return (fold c breaks, cur)

/-- An escape sequence after its backslash. -/
def escape (cur : Cursor) : Option (List Char × Cursor) :=
  let c := cur.current
  match escaped? c, codeLength? c with
  | some r, _ => some ([r], cur.step)
  | none, some n => do
    let cur := cur.step
    let digits := cur.rest.take n
    if digits.length < n then none
    else
      let code ← hexNumber? digits
      return ([Char.ofNat code], cur.skip n)
  | none, none =>
    match cur.lineBreak with
    | (none, _) => none
    | (some _, cur) => quotedBreaks (cur.rest.length + 1) [] cur

/-- The rest of a scalar between quotes. Between single quotes only a doubled quote is special. -/
def quotedRest (double : Bool) : Nat → List Char → Cursor → Option (List Char × Cursor)
  | 0, _, _ => none
  | fuel + 1, text, cur =>
    let c := cur.current
    if cur.atEnd then none
    else if !double && c == '\'' && cur.peek 1 == '\'' then
      quotedRest double fuel (text ++ ['\'']) (cur.skip 2)
    else if c == (if double then '"' else '\'') then some (text, cur.step)
    else if double && c == '\\' then do
      let (more, cur) ← escape cur.step
      quotedRest double fuel (text ++ more) cur
    else if endsWord c then do
      let (more, cur) ← quotedSpaces cur
      quotedRest double fuel (text ++ more) cur
    else quotedRest double fuel (text ++ [c]) cur.step

/-- A scalar that begins with a quote. -/
def quoted (double : Bool) (cur : Cursor) : Option (List Char × Cursor) :=
  quotedRest double (cur.rest.length + 1) [] cur.step

/-! ## Block scalars -/

/-- The line breaks after the last line of a block. -/
inductive Chomping where
  | strip
  | clip
  | keep
  deriving DecidableEq

def chomping? : Char → Option Chomping
  | '+' => some .keep
  | '-' => some .strip
  | _ => none

/-- An explicit indentation: a digit other than zero. -/
def increment? (c : Char) : Option Nat :=
  if c.isDigit && c != '0' then some (c.toNat - 48) else none

/-- What stands between the indicator of a block and its first line. -/
def blockHeader (cur : Cursor) : Option (Chomping × Option Nat × Cursor) :=
  let (chomping, increment, cur) :=
    match chomping? cur.current with
    | some chomping =>
      match increment? (cur.peek 1) with
      | some n => (chomping, some n, cur.skip 2)
      | none => (chomping, none, cur.step)
    | none =>
      match increment? cur.current with
      | some n =>
        match chomping? (cur.peek 1) with
        | some chomping => (chomping, some n, cur.skip 2)
        | none => (.clip, some n, cur.step)
      | none => (.clip, none, cur)
  if cur.current == ' ' || endsLine cur.current then
    cur.restOfLine?.map fun cur => (chomping, increment, cur)
  else none

/-- The empty lines before the first line of a block, and the widest of their indentations. -/
def leadingLines : Nat → List Char → Nat → Cursor → List Char × Nat × Cursor
  | 0, breaks, widest, cur => (breaks, widest, cur)
  | fuel + 1, breaks, widest, cur =>
    if cur.current == ' ' then
      let cur := cur.step
      leadingLines fuel breaks (max widest cur.column) cur
    else match cur.lineBreak with
      | (none, _) => (breaks, widest, cur)
      | (some c, cur) => leadingLines fuel (breaks ++ [c]) widest cur

/-- Pass spaces up to a column. -/
def indentTo (indent : Nat) (cur : Cursor) : Cursor :=
  cur.skip (((cur.rest.takeWhile (· == ' ')).take (indent - cur.column)).length)

/-- The empty lines between two lines of a block. -/
def blockBreaks (indent : Nat) : Nat → List Char → Cursor → List Char × Cursor
  | 0, breaks, cur => (breaks, cur)
  | fuel + 1, breaks, cur =>
    let cur := indentTo indent cur
    match cur.lineBreak with
    | (none, _) => (breaks, cur)
    | (some c, cur) => blockBreaks indent fuel (breaks ++ [c]) cur

/-- The lines of a block: their text, the last line break, and the empty lines after it. -/
def blockLines (folded : Bool) (indent : Nat) : Nat → List Char → List Char → List Char → Cursor →
    List Char × List Char × List Char × Cursor
  | 0, text, lastBreak, breaks, cur => (text, lastBreak, breaks, cur)
  | fuel + 1, text, lastBreak, breaks, cur =>
    if cur.column != indent || cur.atEnd then (text, lastBreak, breaks, cur)
    else
      let leading := cur.current
      let (line, cur) := cur.takeWhile (!endsLine ·)
      let (lineBreak, cur) := cur.lineBreak
      let text := text ++ breaks ++ line
      let (breaks, cur) := blockBreaks indent (cur.rest.length + 1) [] cur
      if cur.column == indent && !cur.atEnd then
        let starts (c : Char) : Bool := c != ' ' && c != '\t'
        let joint :=
          if folded && lineBreak == some '\n' && starts leading && starts cur.current then
            if breaks.isEmpty then [' '] else []
          else lineBreak.toList
        blockLines folded indent fuel (text ++ joint) [] breaks cur
      else (text, lineBreak.toList, breaks, cur)

/-- A block that begins with its indicator, within a block that is indented by `outer`. -/
def block (folded : Bool) (outer : Int) (cur : Cursor) : Option (List Char × Cursor) := do
  let (chomping, increment, cur) ← blockHeader cur.step
  let least := max (outer + 1).toNat 1
  let fuel := cur.rest.length + 1
  let (breaks, indent, cur) := match increment with
    | none =>
      let (breaks, widest, cur) := leadingLines fuel [] 0 cur
      (breaks, max least widest, cur)
    | some n =>
      let indent := least + n - 1
      let (breaks, cur) := blockBreaks indent fuel [] cur
      (breaks, indent, cur)
  let (text, lastBreak, breaks, cur) := blockLines folded indent fuel [] [] breaks cur
  let tail := match chomping with
    | .strip => []
    | .clip => lastBreak
    | .keep => lastBreak ++ breaks
  return (text ++ tail, cur)

end HttpScript.Yaml.ScalarText
