import HttpScript.Query.Filter
import HttpScript.Query.Stream
import HttpScript.Text.Blank

/-!
# Operations on values

Access to the parts of a value, arithmetic, and comparison. An operation that does not fit its
operands fails with a message that shows them.
-/
namespace HttpScript.Query.Value

/-- The message that something is wrong with one value. -/
def unfit (v : Value) (what : String) : String := v.described ++ " " ++ what

/-- The message that something is wrong with two values together. -/
def unfitPair (a b : Value) (what : String) : String :=
  a.described ++ " and " ++ b.described ++ " " ++ what

/-! ## Parts -/

/-- The position that a number means in a list: from the end if it is negative. -/
def position (length : Nat) (n : Number) : Option Nat :=
  match Decimal.truncate? n.toFloat with
  | none => none
  | some i =>
    let i := if i < 0 then i + length else i
    if 0 ≤ i && i < length then some i.toNat else none

/-- The bounds of a slice of something with a length: the lower one is rounded down, the upper one
up, and both are moved inside. -/
def bounds (length : Nat) (low high : Option Number) : Nat × Nat :=
  let inside (x : Float) : Float :=
    let x := if x < 0.0 then x + length.toFloat else x
    if x < 0.0 then 0.0 else if length.toFloat < x then length.toFloat else x
  let l := ((low.map fun n => inside n.toFloat).getD 0.0).floor
  let h := ((high.map fun n => inside n.toFloat).getD length.toFloat).ceil
  (l.toUInt64.toNat, if h < l then l.toUInt64.toNat else h.toUInt64.toNat)

/-- A bound of a slice: a number, or null where there is none. -/
def bound? : Value → Option (Option Number)
  | .null => some none
  | .number n => some (some n)
  | _ => none

/-- The key that a slice amounts to. -/
def sliceKey (low high : Value) : Value := .object [("start", low), ("end", high)]

/-- The items of a list between two bounds. -/
def between {α : Type} (items : List α) (low high : Option Number) : List α :=
  let (l, h) := bounds items.length low high
  (items.take h).drop l

def cannotIndex (container key : Value) : String :=
  "Cannot index " ++ container.kind ++ " with " ++ key.described

/-- A slice of an array or a string. -/
def slice (container low high : Value) : Except String Value :=
  match container with
  | .null => .ok .null
  | .array items =>
    match bound? low, bound? high with
    | some l, some h => .ok (.array (between items l h))
    | _, _ => .error "Start and end indices of an array slice must be numbers"
  | .string s =>
    match bound? low, bound? high with
    | some l, some h => .ok (.string (.ofList (between s.toList l h)))
    | _, _ => .error "Start and end indices of an string slice must be numbers"
  | container => .error (cannotIndex container (sliceKey low high))

/-- The positions at which one list occurs in another. -/
def occurrences (part : List Value) (offset : Nat) : List Value → List Value
  | [] => []
  | v :: rest =>
    let more := occurrences part (offset + 1) rest
    let here := (v :: rest).take part.length
    if !part.isEmpty && here.length == part.length &&
        (here.zip part).all fun p => same p.1 p.2 then ofNat offset :: more
    else more

/-- The value under a key. Where there is none, it is null. -/
def index (container key : Value) : Except String Value :=
  match container, key with
  | .object members, .string k => .ok ((Entries.get? k members).getD .null)
  | .array items, .number n => .ok (((position items.length n).bind (items[·]?)).getD .null)
  | .array items, .object members =>
    slice (.array items) ((Entries.get? "start" members).getD .null)
      ((Entries.get? "end" members).getD .null)
  | .string s, .object members =>
    slice (.string s) ((Entries.get? "start" members).getD .null)
      ((Entries.get? "end" members).getD .null)
  | .array items, .array part => .ok (.array (occurrences part 0 items))
  | .null, .string _ => .ok .null
  | .null, .number _ => .ok .null
  | .null, .null => .ok .null
  | .null, .object _ => .ok .null
  | container, key => .error (cannotIndex container key)

/-- The parts of a container. -/
def parts? : Value → Option (List Value)
  | .array items => some items
  | .object members => some (members.map (·.2))
  | _ => none

def iterate (container : Value) : Stream :=
  match container.parts? with
  | some vs => .ofList vs
  | none => .error ("Cannot iterate over " ++ container.described)

/-- Whether a container has a key. -/
def has (container key : Value) : Except String Value :=
  match container, key with
  | .object members, .string k => .ok (.bool (Entries.contains k members))
  | .array items, .number n =>
    .ok (.bool (match Decimal.truncate? n.toFloat with
      | some i => 0 ≤ i && i < items.length
      | none => false))
  | container, key =>
    .error ("Cannot check whether " ++ container.kind ++ " has a " ++ key.kind ++ " key")

def insert (object key value : Value) : Except String Value :=
  match object, key with
  | .object members, .string k => .ok (.object (Entries.put k value members))
  | _, key => .error ("Cannot use " ++ key.described ++ " as object key")

/-! ## Texts -/

/-- Whether one text occurs in another. -/
def occursIn (part s : List Char) : Bool := (Text.find? part s).isSome

/-- The pieces of a text between separators; `skip` counts the characters of a separator that are
still to be passed over. -/
def pieces (separator : List Char) : Nat → List Char → List (List Char)
  | _, [] => [[]]
  | skip + 1, _ :: rest => pieces separator skip rest
  | 0, c :: rest =>
    if separator.isPrefixOf (c :: rest) then [] :: pieces separator (separator.length - 1) rest
    else match pieces separator 0 rest with
      | [] => [[c]]
      | piece :: more => (c :: piece) :: more

/-- Split a text. An empty separator splits into characters, and an empty text has no pieces. -/
def splitText (s separator : String) : List Value :=
  if s.isEmpty then []
  else if separator.isEmpty then s.toList.map fun c => .string (.singleton c)
  else (pieces separator.toList 0 s.toList).map fun p => .string (.ofList p)

/-- A text so many times over. -/
def repeatText (s : String) (count : Float) : Value :=
  if count < 0.0 || count.isNaN then .null
  else .string (String.join (List.replicate count.toUInt64.toNat s))

/-! ## Arithmetic -/

/-- Merge members; where both values are objects, they are merged in turn. `depth` bounds how deep. -/
def mergeDeep : Nat → List (String × Value) → List (String × Value) → List (String × Value)
  | 0, members, new => Entries.putAll members new
  | depth + 1, members, new =>
    new.foldl (fun acc e =>
      match Entries.get? e.1 acc, e.2 with
      | some (.object old), .object more => Entries.put e.1 (.object (mergeDeep depth old more)) acc
      | _, _ => Entries.put e.1 e.2 acc) members

mutual

/-- How deep a value is nested. -/
def depth : Value → Nat
  | .array items => depthItems items + 1
  | .object members => depthMembers members + 1
  | _ => 0

def depthItems : List Value → Nat
  | [] => 0
  | v :: rest => Nat.max v.depth (depthItems rest)

def depthMembers : List (String × Value) → Nat
  | [] => 0
  | (_, v) :: rest => Nat.max v.depth (depthMembers rest)

end

def add : Value → Value → Except String Value
  | .null, b => .ok b
  | a, .null => .ok a
  | .number a, .number b => .ok (ofFloat (a.toFloat + b.toFloat))
  | .string a, .string b => .ok (.string (a ++ b))
  | .array a, .array b => .ok (.array (a ++ b))
  | .object a, .object b => .ok (.object (Entries.putAll a b))
  | a, b => .error (unfitPair a b "cannot be added")

def subtract : Value → Value → Except String Value
  | .number a, .number b => .ok (ofFloat (a.toFloat - b.toFloat))
  | .array a, .array b => .ok (.array (a.filter fun v => !b.any (same v)))
  | a, b => .error (unfitPair a b "cannot be subtracted")

def multiply : Value → Value → Except String Value
  | .number a, .number b => .ok (ofFloat (a.toFloat * b.toFloat))
  | .string s, .number n => .ok (repeatText s n.toFloat)
  | .number n, .string s => .ok (repeatText s n.toFloat)
  | .object a, .object b => .ok (.object (mergeDeep (Value.object b).depth a b))
  | a, b => .error (unfitPair a b "cannot be multiplied")

def divide : Value → Value → Except String Value
  | .number a, .number b =>
    if b.toFloat == 0.0 then
      .error (unfitPair (.number a) (.number b) "cannot be divided because the divisor is zero")
    else .ok (ofFloat (a.toFloat / b.toFloat))
  | .string a, .string b => .ok (.array (splitText a b))
  | a, b => .error (unfitPair a b "cannot be divided")

/-- The integer part of a number, within 64 bits. -/
def integerPart (x : Float) : Int :=
  let largest : Int := 0x7FFFFFFFFFFFFFFF
  match Decimal.truncate? x with
  | some i => max (-largest - 1) (min largest i)
  | none => if x < 0.0 then -largest - 1 else largest

/-- The remainder of the integer parts, with the sign of the dividend. -/
def remainder : Value → Value → Except String Value
  | .number a, .number b =>
    if a.isNaN || b.isNaN then .ok (ofFloat (0.0 / 0.0))
    else
      let d := integerPart b.toFloat
      if d == 0 then
        .error (unfitPair (.number a) (.number b) "cannot be divided because the divisor is zero")
      else
        let r := Int.tmod (integerPart a.toFloat) d
        .ok (ofFloat (Decimal.nearest (r < 0) r.natAbs 0))
  | a, b => .error (unfitPair a b "cannot be divided")

def negate : Value → Except String Value
  | .number n => .ok (.number n.neg)
  | v => .error (unfit v "cannot be negated")

end Value

def Arithmetic.apply : Arithmetic → Value → Value → Except String Value
  | .add => Value.add
  | .subtract => Value.subtract
  | .multiply => Value.multiply
  | .divide => Value.divide
  | .remainder => Value.remainder

def Comparison.holds (op : Comparison) (a b : Value) : Bool :=
  let o := Value.order a b
  match op with
  | .equal => o == .eq
  | .different => o != .eq
  | .less => o == .lt
  | .lessOrEqual => o != .gt
  | .greater => o == .gt
  | .greaterOrEqual => o != .lt

end HttpScript.Query
