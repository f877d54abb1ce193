import HttpScript.Json.Reader
import HttpScript.Text.Literal
import HttpScript.Yaml.Timestamp

/-!
# Values of a document
-/
namespace HttpScript.Yaml

inductive Value where
  | null
  | bool (b : Bool)
  | int (n : Int)
  | float (x : Float)
  | text (s : String)
  | bytes (content : List UInt8)
  | day (d : Day)
  | moment (m : Moment)
  | list (items : List Value)
  | pairs (entries : List (Value × Value))
  | map (entries : List (Value × Value))
  | set (members : List Value)
  /-- A list or a map inside itself. -/
  | inside (isMap : Bool)
  deriving Repr

namespace Value

/-- One byte inside a literal that is quoted with `mark`. -/
def quotedByte (mark : Char) (b : UInt8) : List Char :=
  let c := Char.ofNat b.toNat
  if b < 0x7F then Text.quotedChar mark c else '\\' :: 'x' :: Text.hexDigits 2 b.toNat

def bytesLiteral (content : List UInt8) : String :=
  let mark := Text.quoteMark (content.map fun b => Char.ofNat b.toNat)
  .ofList ('b' :: mark :: (content.flatMap (quotedByte mark) ++ [mark]))

mutual

def literal : Value → Text.Literal
  | .null => .none
  | .bool b => .bool b
  | .int n => .int n
  | .float x => .float x
  | .text s => .text s
  | .bytes content => .verbatim (bytesLiteral content)
  | .day d => .verbatim d.literal
  | .moment m => .verbatim m.literal
  | .list items => .list (literals items)
  | .pairs entries => .list (pairLiterals entries)
  | .map entries => .table (entryLiterals entries)
  | .set [] => .call "set" []
  | .set members => .verbatim ("\x7b" ++ ", ".intercalate (Text.writeAll (literals members)) ++ "\x7d")
  | .inside isMap => .verbatim (if isMap then "\x7b...\x7d" else "[...]")

def literals : List Value → List Text.Literal
  | [] => []
  | v :: rest => v.literal :: literals rest

def pairLiterals : List (Value × Value) → List Text.Literal
  | [] => []
  | (k, v) :: rest => .tuple [k.literal, v.literal] :: pairLiterals rest

def entryLiterals : List (Value × Value) → List (Text.Literal × Text.Literal)
  | [] => []
  | (k, v) :: rest => (k.literal, v.literal) :: entryLiterals rest

end

/-- The literal of a value as a text. -/
def write (v : Value) : String := v.literal.write

/-- The text that a value stands for. -/
def display : Value → String
  | .day d => d.display
  | .moment m => m.display
  | v => v.literal.display

mutual

/-- The value has a text: no integer in it has more digits than integers are written with. -/
def isWritable : Value → Bool
  | .int n => (Nat.toDigits 10 n.natAbs).length ≤ Json.integerDigitLimit
  | .list items => areWritable items
  | .pairs entries => entriesAreWritable entries
  | .map entries => entriesAreWritable entries
  | .set members => areWritable members
  | _ => true

def areWritable : List Value → Bool
  | [] => true
  | v :: rest => v.isWritable && areWritable rest

def entriesAreWritable : List (Value × Value) → Bool
  | [] => true
  | (k, v) :: rest => k.isWritable && v.isWritable && entriesAreWritable rest

end

/-- A number as far as keys are concerned; truth values are 0 and 1. -/
def wholeNumber? : Value → Option Int
  | .bool b => some (if b then 1 else 0)
  | .int n => some n
  | .float x => Decimal.toInt? x
  | _ => none

/-- Two values are one key of a map. -/
def sameKey (a b : Value) : Bool :=
  match a.wholeNumber?, b.wholeNumber? with
  | some m, some n => m == n
  | none, none =>
    match a, b with
    | .null, .null => true
    | .float x, .float y => x == y || (x.isNaN && y.isNaN)
    | .text s, .text t => s == t
    | .bytes s, .bytes t => s == t
    | .day d, .day e => d == e
    | .moment d, .moment e => d == e
    | _, _ => false
  | _, _ => false

/-- Collections are no keys. -/
def isKey : Value → Bool
  | .list _ | .pairs _ | .map _ | .set _ | .inside _ => false
  | _ => true

/-- Write an entry of a map: the first of equal keys stays, with the last value. -/
def putEntry (key value : Value) : List (Value × Value) → List (Value × Value)
  | [] => [(key, value)]
  | (k, v) :: rest =>
    if sameKey k key then (k, value) :: rest else (k, v) :: putEntry key value rest

/-- The value under a text in a map. -/
def field? (name : String) : List (Value × Value) → Option Value
  | [] => none
  | (.text k, v) :: rest => if k == name then some v else field? name rest
  | _ :: rest => field? name rest

end Value

end HttpScript.Yaml
