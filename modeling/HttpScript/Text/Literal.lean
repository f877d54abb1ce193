import HttpScript.Text.Printable
import HttpScript.Decimal.Layout

/-!
# Values as they are written in messages

A text in quotes, with everything escaped that could not be seen, and the literals of other values.
-/
namespace HttpScript.Text

/-- The digits of `n` to base 16, at least `width` of them. -/
def hexDigits (width n : Nat) : List Char :=
  let digits := Nat.toDigits 16 n
  Decimal.zeros (width - digits.length) ++ digits

/-- One character inside a text quoted with `mark`. -/
def quotedChar (mark c : Char) : List Char :=
  if c == mark || c == '\\' then ['\\', c]
  else if c == '\n' then ['\\', 'n']
  else if c == '\r' then ['\\', 'r']
  else if c == '\t' then ['\\', 't']
  else if isPrintable c then [c]
  else if c.toNat < 0x100 then '\\' :: 'x' :: hexDigits 2 c.toNat
  else if c.toNat < 0x10000 then '\\' :: 'u' :: hexDigits 4 c.toNat
  else '\\' :: 'U' :: hexDigits 8 c.toNat

/-- Single quotes, unless the text holds one and no double quote. -/
def quoteMark (s : List Char) : Char :=
  if s.contains '\'' && !s.contains '"' then '"' else '\''

def quoted (s : String) : String :=
  let mark := quoteMark s.toList
  .ofList (mark :: (s.toList.flatMap (quotedChar mark) ++ [mark]))

/-- A value of a message. `call` is a value made by a named constructor, and `verbatim` a text that
is its own literal. -/
inductive Literal where
  | none
  | bool (b : Bool)
  | int (n : Int)
  | float (x : Float)
  | text (s : String)
  | list (items : List Literal)
  | tuple (items : List Literal)
  | table (entries : List (Literal × Literal))
  | call (name : String) (arguments : List Literal)
  | verbatim (s : String)
  deriving Repr

mutual

/-- The literal of a value. -/
def Literal.write : Literal → String
  | .none => "None"
  | .bool b => if b then "True" else "False"
  | .int n => toString n
  | .float x => Decimal.plain.write x
  | .text s => quoted s
  | .list items => "[" ++ ", ".intercalate (writeAll items) ++ "]"
  | .tuple [item] => "(" ++ item.write ++ ",)"
  | .tuple items => "(" ++ ", ".intercalate (writeAll items) ++ ")"
  | .table entries => "\x7b" ++ ", ".intercalate (writeEntries entries) ++ "\x7d"
  | .call name arguments => name ++ "(" ++ ", ".intercalate (writeAll arguments) ++ ")"
  | .verbatim s => s

def writeAll : List Literal → List String
  | [] => []
  | v :: rest => v.write :: writeAll rest

def writeEntries : List (Literal × Literal) → List String
  | [] => []
  | (k, v) :: rest => (k.write ++ ": " ++ v.write) :: writeEntries rest

end

/-- The value as a text of its own: a text is itself, without quotes. -/
def Literal.display : Literal → String
  | .text s => s
  | v => v.write

end HttpScript.Text
