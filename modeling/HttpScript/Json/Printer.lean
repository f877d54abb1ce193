import HttpScript.Json.Value
import HttpScript.Decimal.Layout

/-!
# Writing JSON

One printer for all texts that are written: a style says what separates items, whether values go on
lines of their own, and whether characters beyond ASCII are escaped. The printer writes every number;
which of them have no text is told beside it.
-/
namespace HttpScript.Json

/-- The decisions of a JSON text. -/
structure Style where
  /-- Between two items on one line. -/
  itemSeparator : String
  /-- Between a name and its value. -/
  nameSeparator : String
  /-- Spaces per level when every item stands on a line of its own. -/
  indent : Option Nat
  asciiOnly : Bool

/-- No blank anywhere: the text that is sent and stored. -/
def compact : Style := ⟨",", ":", none, false⟩

/-- Two spaces per level: the text that is shown. -/
def indented : Style := ⟨",", ": ", some 2, false⟩

/-- On one line, with a space after each separator, in ASCII. -/
def spaced : Style := ⟨", ", ": ", none, true⟩

/-- Numbers in JSON texts. The non-finite ones are written as the literals that the reader knows. -/
def numbers : Decimal.Layout where
  positional _ point := -4 < point && point ≤ 16
  pointZero := true
  notANumber := "NaN"
  infinity := "Infinity"
  negativeInfinity := "-Infinity"

/-- Four hexadecimal digits. -/
def hex4 (n : Nat) : List Char :=
  let digits := Nat.toDigits 16 n
  Decimal.zeros (4 - digits.length) ++ digits

def unitEscape (n : Nat) : List Char := '\\' :: 'u' :: hex4 n

/-- One character inside a string. Beyond the basic plane an escape takes two surrogates. -/
def escapeChar (asciiOnly : Bool) (c : Char) : List Char :=
  match c with
  | '"' => ['\\', '"']
  | '\\' => ['\\', '\\']
  | '\n' => ['\\', 'n']
  | '\r' => ['\\', 'r']
  | '\t' => ['\\', 't']
  | '\x08' => ['\\', 'b']
  | '\x0c' => ['\\', 'f']
  | c =>
    let n := c.toNat
    if n < 0x20 then unitEscape n
    else if asciiOnly && 0x7E < n then
      if n < 0x10000 then unitEscape n
      else unitEscape (0xD800 + (n - 0x10000) / 0x400) ++ unitEscape (0xDC00 + (n - 0x10000) % 0x400)
    else [c]

/-- A string between double quotes. -/
def quote (asciiOnly : Bool) (s : String) : List Char :=
  '"' :: (s.toList.flatMap (escapeChar asciiOnly) ++ ['"'])

def intText (n : Int) : List Char :=
  match n with
  | .ofNat n => Nat.toDigits 10 n
  | .negSucc n => '-' :: Nat.toDigits 10 (n + 1)

/-- A line break and the indentation of a level, if the style breaks lines. -/
def Style.newline (style : Style) (level : Nat) : List Char :=
  match style.indent with
  | some width => '\n' :: List.replicate (width * level) ' '
  | none => []

mutual

/-- The text of a value at a level of nesting. -/
def write (style : Style) (level : Nat) : Json → List Char
  | .null => "null".toList
  | .bool b => (if b then "true" else "false").toList
  | .int n => intText n
  | .float x => (numbers.write x).toList
  | .string s => quote style.asciiOnly s
  | .array [] => ['[', ']']
  | .array (v :: rest) =>
    '[' :: (style.newline (level + 1) ++ write style (level + 1) v ++
      writeItems style (level + 1) rest ++ style.newline level ++ [']'])
  | .object [] => ['\x7b', '\x7d']
  | .object ((k, v) :: rest) =>
    '\x7b' :: (style.newline (level + 1) ++ quote style.asciiOnly k ++ style.nameSeparator.toList ++
      write style (level + 1) v ++ writeMembers style (level + 1) rest ++ style.newline level ++
      ['\x7d'])

/-- The items after the first, each with the separator before it. -/
def writeItems (style : Style) (level : Nat) : List Json → List Char
  | [] => []
  | v :: rest =>
    style.itemSeparator.toList ++ style.newline level ++ write style level v ++
      writeItems style level rest

def writeMembers (style : Style) (level : Nat) : List (String × Json) → List Char
  | [] => []
  | (k, v) :: rest =>
    style.itemSeparator.toList ++ style.newline level ++ quote style.asciiOnly k ++
      style.nameSeparator.toList ++ write style level v ++ writeMembers style level rest

end

/-- Why a number has no text. -/
inductive NumberFault where
  /-- An integer has too many digits. -/
  | longInteger
  /-- A number is infinite or undefined. -/
  | outOfRange
  deriving Repr, DecidableEq

def NumberFault.message : NumberFault → String
  | .longInteger =>
    s!"Exceeds the limit ({integerDigitLimit} digits) for integer string conversion; " ++
      "use sys.set_int_max_str_digits() to increase the limit"
  | .outOfRange => "Out of range float values are not JSON compliant"

mutual

/-- Why a value has no text: of its numbers without one, the first in the order of the text decides.
Infinite and undefined numbers have a text only if `strict` does not hold. -/
def numberFault? (strict : Bool) : Json → Option NumberFault
  | .int n =>
    if integerDigitLimit < (Nat.toDigits 10 n.natAbs).length then some .longInteger else none
  | .float x => if strict && (x.isNaN || x.isInf) then some .outOfRange else none
  | .array items => itemFault? strict items
  | .object members => memberFault? strict members
  | _ => none

def itemFault? (strict : Bool) : List Json → Option NumberFault
  | [] => none
  | v :: rest => (numberFault? strict v).or (itemFault? strict rest)

def memberFault? (strict : Bool) : List (String × Json) → Option NumberFault
  | [] => none
  | (_, v) :: rest => (numberFault? strict v).or (memberFault? strict rest)

end

/-- The text of a value. -/
def render (style : Style) (v : Json) : String := .ofList (write style 0 v)

end HttpScript.Json
