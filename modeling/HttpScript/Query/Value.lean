import HttpScript.Entries
import HttpScript.Json.Printer
import HttpScript.Query.Number

/-!
# Values of a query

JSON values with the numbers of queries. Values of all kinds are ordered: null, false, true,
numbers, strings, arrays, objects.
-/
namespace HttpScript.Query

inductive Value where
  | null
  | bool (b : Bool)
  | number (n : Number)
  | string (s : String)
  | array (items : List Value)
  | object (members : List (String × Value))
  deriving Repr, Inhabited

namespace Value

def ofNat (n : Nat) : Value := .number (.ofNat n)

def ofFloat (x : Float) : Value := .number (.computed x)

/-- A number as it is written in JSON texts. -/
def numberOfFloat (x : Float) : Number :=
  (Number.ofText? (Json.numbers.write x).toList).getD (.computed x)

mutual

def ofJson : Json → Value
  | .null => .null
  | .bool b => .bool b
  | .int n => .number (.ofInt n)
  | .float x => .number (numberOfFloat x)
  | .string s => .string s
  | .array items => .array (ofJsonItems items)
  | .object members => .object (ofJsonMembers members)

def ofJsonItems : List Json → List Value
  | [] => []
  | v :: rest => ofJson v :: ofJsonItems rest

def ofJsonMembers : List (String × Json) → List (String × Value)
  | [] => []
  | (k, v) :: rest => (k, ofJson v) :: ofJsonMembers rest

end

/-- The largest finite number. -/
def largest : Float := 1.7976931348623157e308

/-- A number as JSON: whole numbers are integers, NaN is null, and an infinity is the largest
number. -/
def jsonOfFloat (x : Float) : Json :=
  if x.isNaN then .null
  else if x.isInf then .float (if x < 0 then -largest else largest)
  else match Decimal.toInt? x with
    | some n => .int n
    | none => .float x

mutual

def toJson : Value → Json
  | .null => .null
  | .bool b => .bool b
  | .number n => jsonOfFloat n.toFloat
  | .string s => .string s
  | .array items => .array (toJsonItems items)
  | .object members => .object (toJsonMembers members)

def toJsonItems : List Value → List Json
  | [] => []
  | v :: rest => toJson v :: toJsonItems rest

def toJsonMembers : List (String × Value) → List (String × Json)
  | [] => []
  | (k, v) :: rest => (k, toJson v) :: toJsonMembers rest

end

def kind : Value → String
  | .null => "null"
  | .bool _ => "boolean"
  | .number _ => "number"
  | .string _ => "string"
  | .array _ => "array"
  | .object _ => "object"

/-- Everything but null and false counts as true. -/
def isTrue : Value → Bool
  | .null => false
  | .bool b => b
  | _ => true

/-! ## Texts of values -/

/-- A string between double quotes; unlike in other JSON texts, the delete character is escaped. -/
def quoted (s : String) : List Char :=
  '"' :: (s.toList.flatMap fun c =>
    if c == '\x7f' then Json.unitEscape 0x7f else Json.escapeChar false c) ++ ['"']

mutual

/-- The text of a value, without blanks. -/
def write : Value → List Char
  | .null => "null".toList
  | .bool b => (if b then "true" else "false").toList
  | .number n => n.text.toList
  | .string s => quoted s
  | .array [] => ['[', ']']
  | .array (v :: rest) => '[' :: (v.write ++ writeItems rest ++ [']'])
  | .object [] => ['\x7b', '\x7d']
  | .object ((k, v) :: rest) =>
    '\x7b' :: (quoted k ++ ':' :: v.write ++ writeMembers rest ++ ['\x7d'])

def writeItems : List Value → List Char
  | [] => []
  | v :: rest => ',' :: v.write ++ writeItems rest

def writeMembers : List (String × Value) → List Char
  | [] => []
  | (k, v) :: rest => ',' :: (quoted k ++ ':' :: v.write) ++ writeMembers rest

end

def text (v : Value) : String := .ofList v.write

/-- The longest beginning of a text that takes at most so many bytes. -/
def takeBytes (limit : Nat) : List Char → List Char
  | [] => []
  | c :: rest => if c.utf8Size ≤ limit then c :: takeBytes (limit - c.utf8Size) rest else []

/-- The text of a value in a message: of a long one, the first 26 bytes. -/
def excerpt (v : Value) : String :=
  let s := v.text
  if s.utf8ByteSize ≤ 29 then s else .ofList (takeBytes 26 s.toList) ++ "..."

/-- The kind of a value and its text. -/
def described (v : Value) : String := v.kind ++ " (" ++ v.excerpt ++ ")"

/-! ## Order -/

/-- The place of a kind in the order. -/
def rank : Value → Nat
  | .null => 1
  | .bool false => 2
  | .bool true => 3
  | .number _ => 4
  | .string _ => 5
  | .array _ => 6
  | .object _ => 7

mutual

/-- The value with the members of all objects in the order of their names. -/
def sortNames : Value → Value
  | .array items => .array (sortNamesItems items)
  | .object members =>
    .object ((sortNamesMembers members).mergeSort fun a b => decide (a.1 ≤ b.1))
  | v => v

def sortNamesItems : List Value → List Value
  | [] => []
  | v :: rest => sortNames v :: sortNamesItems rest

def sortNamesMembers : List (String × Value) → List (String × Value)
  | [] => []
  | (k, v) :: rest => (k, sortNames v) :: sortNamesMembers rest

end

/-- The order of lists of names: lexicographic. -/
def compareNames : List String → List String → Ordering
  | [], [] => .eq
  | [], _ :: _ => .lt
  | _ :: _, [] => .gt
  | a :: as, b :: bs => (compare a b).then (compareNames as bs)

/-- NaN lies below every number, itself included. -/
def compareWithNaN (a b : Number) : Ordering :=
  if a.isNaN then .lt else if b.isNaN then .gt else Number.compareNumbers a b

mutual

/-- The order of values whose names are sorted. Objects are compared by their names first. -/
def compareSorted : Value → Value → Ordering
  | .number a, .number b => compareWithNaN a b
  | .string a, .string b => compare a b
  | .array as, .array bs => compareItems as bs
  | .object as, .object bs =>
    (compareNames (as.map (·.1)) (bs.map (·.1))).then (compareMembers as bs)
  | a, b => compare a.rank b.rank

def compareItems : List Value → List Value → Ordering
  | [], [] => .eq
  | [], _ :: _ => .lt
  | _ :: _, [] => .gt
  | a :: as, b :: bs => (compareSorted a b).then (compareItems as bs)

def compareMembers : List (String × Value) → List (String × Value) → Ordering
  | (_, a) :: as, (_, b) :: bs => (compareSorted a b).then (compareMembers as bs)
  | _, _ => .eq

end

/-- The order of values. -/
def order (a b : Value) : Ordering := compareSorted a.sortNames b.sortNames

def same (a b : Value) : Bool := order a b == .eq

def atMost (a b : Value) : Bool := order a b != .gt

end Value

end HttpScript.Query
