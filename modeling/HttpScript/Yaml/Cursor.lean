/-!
# A place in a YAML text

The characters that are left, with the place where they begin. A place beyond the end shows the
character NUL, which no text holds.
-/
namespace HttpScript.Yaml

structure Cursor where
  rest : List Char
  index : Nat := 0
  line : Nat := 0
  column : Nat := 0
  deriving Repr

/-- Characters that may stand in a text: printable ones, tabulators and line breaks. -/
def isAllowed (c : Char) : Bool :=
  let n := c.toNat
  n == 0x09 || n == 0x0A || n == 0x0D || (0x20 ≤ n && n ≤ 0x7E) || n == 0x85 ||
    (0xA0 ≤ n && n ≤ 0xFFFD && !(0xD800 ≤ n && n ≤ 0xDFFF)) || 0x10000 ≤ n

/-- The characters that break a line. -/
def isBreak (c : Char) : Bool :=
  c == '\n' || c == '\r' || c == '\x85' || c == '\u2028' || c == '\u2029'

/-- A line break, or the end of the text. -/
def endsLine (c : Char) : Bool := c == '\x00' || isBreak c

/-- A blank, a line break, or the end of the text. -/
def endsWord (c : Char) : Bool := c == ' ' || c == '\t' || endsLine c

/-- The characters of names of anchors, directives and tag handles. -/
def isNameChar (c : Char) : Bool := c.isAlphanum || c == '-' || c == '_'

namespace Cursor

def peek (cur : Cursor) (offset : Nat) : Char := cur.rest.getD offset '\x00'

def current (cur : Cursor) : Char := cur.peek 0

def atEnd (cur : Cursor) : Bool := cur.rest.isEmpty

/-- Pass one character. -/
def step (cur : Cursor) : Cursor :=
  match cur.rest with
  | [] => cur
  | c :: rest =>
    let cur := { cur with rest := rest, index := cur.index + 1 }
    if isBreak c && !(c == '\r' && rest.head? == some '\n') then
      { cur with line := cur.line + 1, column := 0 }
    else if c == '\uFEFF' then cur
    else { cur with column := cur.column + 1 }

def skip : Nat → Cursor → Cursor
  | 0, cur => cur
  | n + 1, cur => skip n cur.step

/-- Pass the characters that satisfy `p`, and give them. -/
def takeWhile (p : Char → Bool) (cur : Cursor) : List Char × Cursor :=
  let taken := cur.rest.takeWhile p
  (taken, cur.skip taken.length)

def dropWhile (p : Char → Bool) (cur : Cursor) : Cursor := (cur.takeWhile p).2

/-- Pass a line break, if one stands here, and give what it stands for in a scalar. -/
def lineBreak (cur : Cursor) : Option Char × Cursor :=
  match cur.rest with
  | '\r' :: '\n' :: _ => (some '\n', cur.skip 2)
  | c :: _ =>
    if c == '\u2028' || c == '\u2029' then (some c, cur.step)
    else if isBreak c then (some '\n', cur.step)
    else (none, cur)
  | [] => (none, cur)

/-- Three equal characters that mark the edge of a document stand here. -/
def atMark (c : Char) (cur : Cursor) : Bool :=
  cur.peek 0 == c && cur.peek 1 == c && cur.peek 2 == c && endsWord (cur.peek 3)

/-- Either mark of the edge of a document stands here. -/
def atEdge (cur : Cursor) : Bool := cur.atMark '-' || cur.atMark '.'

/-- Pass the rest of a line that holds at most blanks and a comment. -/
def restOfLine? (cur : Cursor) : Option Cursor :=
  let cur := cur.dropWhile (· == ' ')
  let cur := if cur.current == '#' then cur.dropWhile (!endsLine ·) else cur
  if endsLine cur.current then some cur.lineBreak.2 else none

end Cursor

end HttpScript.Yaml
