import HttpScript.Decimal.Reading
import HttpScript.Json.Reader
import HttpScript.Text.Base64
import HttpScript.Text.Case
import HttpScript.Yaml.Node
import HttpScript.Yaml.Reader

/-!
# Reading a document

The value of a YAML text. A collection is complete before those inside it are looked at, so of two
faults the one that lies less deep is reported, and of equally deep ones the first.
-/
namespace HttpScript.Yaml

/-- Why a text has no value. -/
inductive Fault where
  /-- The text, or what it describes, is malformed. -/
  | malformed
  | timestamp (why : TimestampFault)
  /-- A text that is tagged as a day or a time is neither. -/
  | noTimestamp
  | noInteger (base : Nat) (text : String)
  | longInteger (digits : Nat)
  | noDigits
  | noNumber (text : String)
  | noTruthValue (text : String)
  deriving Repr, DecidableEq

def Fault.message : Fault → String
  | .malformed => "<yaml error>"
  | .timestamp why => why.message
  | .noTimestamp => "'NoneType' object has no attribute 'groupdict'"
  | .noInteger base text =>
    s!"invalid literal for int() with base {base}: {Text.quoted text}"
  | .longInteger digits => Json.longIntegerMessage digits
  | .noDigits => "string index out of range"
  | .noNumber text => "could not convert string to float: " ++ Text.quoted text
  | .noTruthValue text => Text.quoted text

/-! ## Merging -/

namespace Node

def entries? : Node → Option (List (Node × Node))
  | .map _ entries => some entries
  | _ => none

/-- The entries that the value of a merge key brings in; of several maps the first comes last. -/
def mergeSource : Node → Option (List (Node × Node))
  | .list _ items => (items.mapM entries?).map fun sources => sources.reverse.flatten
  | n => n.entries?

def isMergeKey : Node → Bool
  | .scalar .merge _ => true
  | _ => false

/-- As a key, the sign `=` is a text. -/
def asKey : Node → Node
  | .scalar .value text => .scalar .text text
  | n => n

/-- The entries of a map with those that are merged into it, which come first. -/
def mergeEntries (entries : List (Node × Node)) : Option (List (Node × Node)) := do
  let (merges, own) := entries.partition (isMergeKey ·.1)
  let sources ← merges.mapM (mergeSource ·.2)
  return sources.flatten ++ own.map fun e => (e.1.asKey, e.2)

mutual

/-- A node in which nothing is left to merge. A map that cannot be merged has no value. -/
def merged : Node → Node
  | .list tag items => .list tag (mergedAll items)
  | .map tag entries =>
    match mergeEntries (mergedEntries entries) with
    | some entries => .map tag entries
    | none => .scalar .unknown []
  | n => n

def mergedAll : List Node → List Node
  | [] => []
  | n :: rest => n.merged :: mergedAll rest

def mergedEntries : List (Node × Node) → List (Node × Node)
  | [] => []
  | (k, v) :: rest => (k.merged, v.merged) :: mergedEntries rest

end

end Node

/-! ## Scalars -/

def digitOf (c : Char) : Option Nat :=
  match Text.digitValue? c with
  | some n => some n
  | none => if c.isAlpha then some (c.toLower.toNat - 87) else none

/-- Leave out the mark of a base, such as `0x`. -/
def withoutMark (base : Nat) : List Char → List Char
  | '0' :: c :: s =>
    if (base == 2 && c.toLower == 'b') || (base == 8 && c.toLower == 'o') ||
      (base == 16 && c.toLower == 'x') then s
    else '0' :: c :: s
  | s => s

/-- The integer that a text without low lines is to a base. -/
def integerOf (base : Nat) (text : List Char) : Except Fault Int :=
  let (negative, s) := Decimal.splitSign (Decimal.trimPadding text)
  let digits := withoutMark base s
  let values := digits.map digitOf
  if digits.isEmpty || values.any fun v => v.all (base ≤ ·) then
    .error (.noInteger base (.ofList text))
  else if base == 10 && Json.integerDigitLimit < digits.length then
    .error (.longInteger digits.length)
  else
    let n : Int := values.foldl (fun n v => base * n + v.getD 0) 0
    .ok (if negative then -n else n)

/-- The sign before a text, which must have a character. -/
def signOf : List Char → Except Fault (Int × List Char)
  | [] => .error .noDigits
  | '-' :: s => .ok (-1, s)
  | '+' :: s => .ok (1, s)
  | s => .ok (1, s)

/-- An integer: binary, octal, hexadecimal, to the base sixty with colons, or decimal. -/
def readInt (text : List Char) : Except Fault Int := do
  let (sign, s) ← signOf (text.filter (· != '_'))
  let magnitude ← match s with
    | [] => .error .noDigits
    | ['0'] => pure 0
    | '0' :: 'b' :: s => integerOf 2 s
    | '0' :: 'x' :: s => integerOf 16 s
    | '0' :: _ => integerOf 8 s
    | _ =>
      if s.contains ':' then do
        let parts ← (Text.splitOn ':' s).mapM (integerOf 10)
        pure (parts.foldl (fun n part => 60 * n + part) 0)
      else integerOf 10 s
  return sign * magnitude

def floatOf (text : List Char) : Except Fault Float :=
  match Decimal.ofText? text with
  | some x => .ok x
  | none => .error (.noNumber (.ofList text))

/-- A sum of parts to the base sixty, the last part first. -/
def sixtiethSum (base sum : Float) : List Float → Float
  | [] => sum
  | part :: rest => sixtiethSum (base * 60.0) (sum + part * base) rest

def readFloat (text : List Char) : Except Fault Float := do
  let (sign, s) ← signOf (Text.lower (text.filter (· != '_')))
  let magnitude ←
    if s == ".inf".toList then pure (1.0 / 0.0)
    else if s == ".nan".toList then pure (0.0 / 0.0)
    else if s.contains ':' then do
      let parts ← (Text.splitOn ':' s).mapM floatOf
      pure (sixtiethSum 1.0 0.0 parts.reverse)
    else floatOf s
  return if sign < 0 then -magnitude else magnitude

def readBool (text : List Char) : Except Fault Bool :=
  let word := Text.lower text
  if ["yes", "true", "on"].any fun w => w.toList == word then .ok true
  else if ["no", "false", "off"].any fun w => w.toList == word then .ok false
  else .error (.noTruthValue (.ofList word))

def readTimestamp (text : List Char) : Except Fault Value :=
  match Timestamp.ofText? text with
  | none => .error .noTimestamp
  | some t =>
    match t.fault? with
    | some why => .error (.timestamp why)
    | none => .ok (match t with
      | .day d => .day d
      | .moment m => .moment m)

def readBytes (text : List Char) : Except Fault Value :=
  if text.all (·.toNat < 0x80) then
    match Text.Base64.decode text with
    | some content => .ok (.bytes content)
    | none => .error .malformed
  else .error .malformed

def readScalar (tag : Tag) (text : List Char) : Except Fault Value :=
  match tag with
  | .null => .ok .null
  | .bool => (readBool text).map .bool
  | .int => (readInt text).map .int
  | .float => (readFloat text).map .float
  | .text => .ok (.text (.ofList text))
  | .binary => readBytes text
  | .timestamp => readTimestamp text
  | _ => .error .malformed

/-! ## Collections -/

/-- Faults with their depths, in the order in which they were found. -/
abbrev Build := StateM (List (Nat × Fault))

/-- Note a fault and go on. -/
def report (depth : Nat) (fault : Fault) : Build Value := fun faults =>
  (.null, faults ++ [(depth, fault)])

mutual

/-- The value of a node at a depth. -/
def build (depth : Nat) : Node → Build Value
  | .scalar tag text =>
    match readScalar tag text with
    | .ok v => pure v
    | .error fault => report depth fault
  | .list tag items =>
    match tag with
    | .list => return .list (← buildAll (depth + 1) items)
    | .pairs | .orderedMap => return .pairs (← buildPairs (depth + 1) items)
    | _ => report depth .malformed
  | .map tag entries =>
    match tag with
    | .map => return .map (← buildEntries (depth + 1) [] entries)
    | .set => return .set ((← buildEntries (depth + 1) [] entries).map (·.1))
    | _ => report depth .malformed
  | .inside isMap => pure (.inside isMap)

def buildAll (depth : Nat) : List Node → Build (List Value)
  | [] => return []
  | n :: rest => do
    let v ← build depth n
    return v :: (← buildAll depth rest)

/-- Maps of one entry each. -/
def buildPairs (depth : Nat) : List Node → Build (List (Value × Value))
  | [] => return []
  | .map _ [(k, v)] :: rest => do
    let k ← build depth k
    let v ← build depth v
    return (k, v) :: (← buildPairs depth rest)
  | _ :: _ => do
    let _ ← report depth .malformed
    return []

def buildEntries (depth : Nat) (done : List (Value × Value)) :
    List (Node × Node) → Build (List (Value × Value))
  | [] => return done
  | (k, v) :: rest => do
    let key ← build depth k
    if !key.isKey then let _ ← report depth .malformed
    let value ← build depth v
    buildEntries depth (Value.putEntry key value done) rest

end

/-- The first of the least deep faults. -/
def leastDeep : List (Nat × Fault) → Option (Nat × Fault)
  | [] => none
  | f :: rest =>
    match leastDeep rest with
    | some g => some (if f.1 ≤ g.1 then f else g)
    | none => some f

/-- The value of a node. -/
def valueOf (n : Node) : Except Fault Value :=
  let (v, faults) := (build 0 n.merged).run []
  match leastDeep faults with
  | some (_, fault) => .error fault
  | none => .ok v

/-- The value of a text. A text without a document has the value null. -/
def read (text : List Char) : Except Fault Value :=
  match Node.ofText? text with
  | none => .error .malformed
  | some none => .ok .null
  | some (some n) => valueOf n

def Fault.refusal : Fault → Refusal
  | .malformed => .malformed Fault.malformed.message
  | fault => .other fault.message

/-- The reader with which the program runs. It refuses nothing before all bytes are text. -/
def reader : Reader where
  read text := (read text).mapError Fault.refusal
  refusesEarly _ := none

end HttpScript.Yaml
