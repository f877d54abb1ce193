import HttpScript.Text.Blank

/-!
# Types of plain scalars

A scalar without quotes and without a tag is a value of the first type whose form it has. A form
admits a line feed after its end.
-/
namespace HttpScript.Yaml

/-- The type of a node. `merge` and `value` are the types of the keys `<<` and `=`. -/
inductive Tag where
  | null
  | bool
  | int
  | float
  | text
  | binary
  | timestamp
  | list
  | orderedMap
  | pairs
  | map
  | set
  | merge
  | value
  | unknown
  deriving Repr, DecidableEq

/-- What the names of the common types begin with. -/
def commonTags : String := "tag:yaml.org,2002:"

def Tag.named : List (String × Tag) := [
  ("null", .null), ("bool", .bool), ("int", .int), ("float", .float), ("str", .text),
  ("binary", .binary), ("timestamp", .timestamp), ("seq", .list), ("omap", .orderedMap),
  ("pairs", .pairs), ("map", .map), ("set", .set), ("merge", .merge), ("value", .value)]

def Tag.ofName (name : String) : Tag :=
  ((Tag.named.find? fun t => commonTags ++ t.1 == name).map (·.2)).getD .unknown

namespace Implicit

/-! ## Pieces of the forms

A piece takes what it needs from the front of a text and gives the rest. -/

abbrev Piece := List Char → Option (List Char)

def one (p : Char → Bool) : Piece
  | c :: s => if p c then some s else none
  | [] => none

def many (p : Char → Bool) : Piece := fun s => some (s.dropWhile p)

def optionally (p : Piece) : Piece := fun s => some ((p s).getD s)

/-- One piece after another. -/
def inOrder : List Piece → Piece
  | [], s => some s
  | p :: rest, s => (p s).bind (inOrder rest)

def char (c : Char) : Piece := one (· == c)

def anyOf (cs : List Char) : Piece := one cs.contains

/-- The whole text is the pieces. -/
def has (pieces : List Piece) (s : List Char) : Bool :=
  match inOrder pieces s with
  | some [] => true
  | some ['\n'] => true
  | _ => false

def isSign (c : Char) : Bool := c == '-' || c == '+'

def sign : Piece := optionally (one isSign)

def digit : Piece := one Char.isDigit

def isDigitOrLine (c : Char) : Bool := c.isDigit || c == '_'

/-- Digits that may be set apart by low lines. -/
def digits : Piece := inOrder [digit, many isDigitOrLine]

def isLeadingDigit (c : Char) : Bool := c.isDigit && c != '0'

def sixtiethTen (c : Char) : Bool := '0' ≤ c && c ≤ '5'

/-- Parts of an hour or of a minute, each after a colon: at least one. -/
def sixtieths : Nat → Piece
  | 0, _ => none
  | fuel + 1, s =>
    match inOrder [char ':', one sixtiethTen, digit] s,
      inOrder [char ':', digit] s with
    | some s, _ => some ((sixtieths fuel s).getD s)
    | none, some s => some ((sixtieths fuel s).getD s)
    | none, none => none

/-! ## Forms -/

def trueWords : List String := ["yes", "Yes", "YES", "true", "True", "TRUE", "on", "On", "ON"]

def falseWords : List String := ["no", "No", "NO", "false", "False", "FALSE", "off", "Off", "OFF"]

def isBool (s : List Char) : Bool :=
  (trueWords ++ falseWords).any fun w => w.toList == s

def isNull (s : List Char) : Bool :=
  ["", "~", "null", "Null", "NULL"].any fun w => w.toList == s

def isInfinity (s : List Char) : Bool := [".inf", ".Inf", ".INF"].any fun w => w.toList == s

def isNaN (s : List Char) : Bool := [".nan", ".NaN", ".NAN"].any fun w => w.toList == s

def exponent : Piece := inOrder [anyOf ['e', 'E'], one isSign, digit, many Char.isDigit]

def isFloat (s : List Char) : Bool :=
  has [sign, digits, char '.', many isDigitOrLine, optionally exponent] s ||
  has [char '.', digits, optionally exponent] s ||
  has [sign, digits, sixtieths s.length, char '.', many isDigitOrLine] s ||
  isInfinity s || isInfinity (s.drop 1) && s.head?.any isSign ||
  isNaN s

def isHexOrLine (c : Char) : Bool :=
  isDigitOrLine c || ('a' ≤ c && c ≤ 'f') || ('A' ≤ c && c ≤ 'F')

def isOctalOrLine (c : Char) : Bool := ('0' ≤ c && c ≤ '7') || c == '_'

def isBinaryOrLine (c : Char) : Bool := c == '0' || c == '1' || c == '_'

/-- Digits of an integer that does not begin with zero. -/
def leadingDigits : Piece := inOrder [one isLeadingDigit, many isDigitOrLine]

def isInt (s : List Char) : Bool :=
  has [sign, char '0', char 'b', one isBinaryOrLine, many isBinaryOrLine] s ||
  has [sign, char '0', one isOctalOrLine, many isOctalOrLine] s ||
  has [sign, char '0'] s ||
  has [sign, leadingDigits] s ||
  has [sign, char '0', char 'x', one isHexOrLine, many isHexOrLine] s ||
  has [sign, leadingDigits, sixtieths s.length] s

def twoDigits : Piece := inOrder [digit, digit]

def upToTwoDigits : Piece := inOrder [digit, optionally digit]

def isTab (c : Char) : Bool := c == ' ' || c == '\t'

/-- What stands between a day and a time. -/
def timeMark : Piece := fun s =>
  match s with
  | c :: rest =>
    if c == 'T' || c == 't' then some rest else inOrder [one isTab, many isTab] s
  | [] => none

/-- The distance from universal time. -/
def zone : Piece := fun s =>
  match many isTab s with
  | some ('Z' :: rest) => some rest
  | some s => inOrder [one isSign, upToTwoDigits, optionally (inOrder [char ':', twoDigits])] s
  | none => none

def isTimestamp (s : List Char) : Bool :=
  let year := inOrder [twoDigits, twoDigits]
  has [year, char '-', twoDigits, char '-', twoDigits] s ||
  has [year, char '-', upToTwoDigits, char '-', upToTwoDigits, timeMark, upToTwoDigits,
    char ':', twoDigits, char ':', twoDigits,
    optionally (inOrder [char '.', many Char.isDigit]), optionally zone] s

end Implicit

/-- The type of a plain scalar. -/
def plainTag (s : List Char) : Tag :=
  if Implicit.isBool s then .bool
  else if Implicit.isFloat s then .float
  else if Implicit.isInt s then .int
  else if s == ['<', '<'] then .merge
  else if Implicit.isNull s then .null
  else if Implicit.isTimestamp s then .timestamp
  else if s == ['='] then .value
  else .text

end HttpScript.Yaml
