import HttpScript.Query.Document
import HttpScript.Query.Operation

/-!
# Functions of the query language

A function takes its arguments as filters: what they give depends on the value that the function
hands to them.
-/
namespace HttpScript.Query

namespace Value

def number? : Value → Except String Float
  | .number n => .ok n.toFloat
  | v => .error (v.unfit "number required")

/-- A function of numbers. -/
def numeric (f : Float → Float) (v : Value) : Except String Value :=
  v.number?.map fun x => .ofFloat (f x)

def length : Value → Except String Value
  | .null => .ok (.ofNat 0)
  | .number n => .ok (.number n.abs)
  | .string s => .ok (.ofNat s.length)
  | .array items => .ok (.ofNat items.length)
  | .object members => .ok (.ofNat members.length)
  | v => .error (v.unfit "has no length")

def utf8ByteLength : Value → Except String Value
  | .string s => .ok (.ofNat s.utf8ByteSize)
  | v => .error (v.unfit "only strings have UTF-8 byte length")

def absolute : Value → Except String Value
  | .number n => .ok (.number n.abs)
  | v => .error (v.unfit "has no absolute value")

/-- The keys of a container, in their own order. -/
def keysUnsorted : Value → Except String (List Value)
  | .array items => .ok ((List.range items.length).map ofNat)
  | .object members => .ok (members.map fun m => .string m.1)
  | v => .error (v.unfit "has no keys")

def keys (v : Value) : Except String (List Value) :=
  v.keysUnsorted.map fun ks => ks.mergeSort atMost

/-- An array, or the message that a value is none. -/
def items? (what : String) : Value → Except String (List Value)
  | .array items => .ok items
  | v => .error (v.unfit what)

def sorted (v : Value) : Except String Value :=
  (v.items? "cannot be sorted, as it is not an array").map fun items =>
    .array (items.mergeSort atMost)

/-- The extreme item by key. Of items with the same key, the first is the least and the last is the
greatest. -/
def extreme (greatest : Bool) : List (Value × Value) → Value
  | [] => .null
  | first :: rest =>
    (rest.foldl (fun best e =>
      if (order e.1 best.1 == .lt) != greatest then e else best) first).2

/-- Runs of neighbours with the same key. -/
def groups : List (Value × Value) → List (List (Value × Value))
  | [] => []
  | e :: rest =>
    match groups rest with
    | (e' :: group) :: more => if same e.1 e'.1 then (e :: e' :: group) :: more else [e] :: (e' :: group) :: more
    | other => [e] :: other

def sortPairs (pairs : List (Value × Value)) : List (Value × Value) :=
  pairs.mergeSort fun a b => atMost a.1 b.1

def reversed (v : Value) : Except String Value :=
  match v with
  | .string s => .ok (.string (.ofList s.toList.reverse))
  | .array items => .ok (.array items.reverse)
  | v =>
    v.length.bind fun n =>
      match n with
      | .number n =>
        if n.toFloat ≤ 0.0 then .ok (.array [])
        else v.index (.ofFloat (n.toFloat - 1.0))
      | _ => .ok (.array [])

/-- The items of arrays in place of the arrays, down to a depth. -/
def flattened : Nat → List Value → List Value
  | 0, items => items
  | depth + 1, items =>
    items.flatMap fun
      | .array inner => flattened depth inner
      | v => [v]

def toText : Value → String
  | .string s => s
  | v => v.text

def toNumber : Value → Except String Value
  | .number n => .ok (.number n)
  | .string s =>
    match Number.ofText? s.toList with
    | some n => .ok (.number n)
    | none => .error ((Value.string s).unfit "cannot be parsed as a number")
  | v => .error (v.unfit "cannot be parsed as a number")

def fromJsonText : Value → Except String Value
  | .string s => Value.ofText s
  | v => .error (v.unfit "only strings can be parsed")

def toEntries (v : Value) : Except String (List Value) := do
  let ks ← v.keysUnsorted
  ks.mapM fun k => do
    let x ← v.index k
    return .object [("key", k), ("value", x)]

/-- The first of the members that holds something. -/
def firstMember (v : Value) : List String → Except String Value
  | [] => .ok .null
  | name :: rest => do
    let x ← v.index (.string name)
    if x.isTrue || rest.isEmpty then return x else firstMember v rest

/-- The key of an entry. -/
def entryKey (v : Value) : Except String String := do
  let k ← v.index (.string "key")
  match k with
  | .null => return (← firstMember v ["k", "name", "Name", "K", "Key"]).toText
  | k => return k.toText

/-- The value of an entry. -/
def entryValue (v : Value) : Except String Value := do
  if (← v.has (.string "value")).isTrue then v.index (.string "value")
  else if (← v.has (.string "v")).isTrue then v.index (.string "v")
  else v.index (.string "Value")

def fromEntries (entries : List Value) : Except String Value := do
  let members ← entries.mapM fun e => do
    let k ← e.entryKey
    let v ← e.entryValue
    return (k, v)
  return .object (Entries.collapse members)

/-- A part of a joined text. -/
def joinPart : Value → Value
  | .null => .string ""
  | .bool b => .string (Value.bool b).text
  | .number n => .string n.text
  | v => v

/-- The items as one text, with `separator` between them. -/
def joined (separator : Value) : List Value → Except String Value
  | [] => .ok (.string "")
  | first :: rest => do
    let start ← add (.string "") (joinPart first)
    rest.foldlM (fun text v => do
      let text ← add text separator
      add text (joinPart v)) start

/-- A text, or the message that `name` needs texts. -/
def texts? (name : String) : Value → Value → Except String (List Char × List Char)
  | .string s, .string t => .ok (s.toList, t.toList)
  | _, _ => .error (name ++ "() requires string inputs")

def startsWith (v part : Value) : Except String Bool :=
  (texts? "startswith" v part).map fun (s, t) => t.isPrefixOf s

def endsWith (v part : Value) : Except String Bool :=
  (texts? "endswith" v part).map fun (s, t) => t.isSuffixOf s

def trimPrefix (v part : Value) : Except String Value :=
  (texts? "startswith" v part).map fun (s, t) =>
    .string (.ofList (if t.isPrefixOf s then s.drop t.length else s))

def trimSuffix (v part : Value) : Except String Value :=
  (texts? "endswith" v part).map fun (s, t) =>
    .string (.ofList (if t.isSuffixOf s then s.take (s.length - t.length) else s))

mutual

/-- Whether a value contains another: texts by their parts, containers by their items. -/
def containsValue : Value → Value → Bool
  | .object a, .object b => containsMembers a b
  | .array a, .array b => b.all fun v => containsAny a v
  | .string a, .string b => occursIn b.toList a.toList
  | a, b => same a b

/-- Every member of the second is contained in the member of that name. -/
def containsMembers (a : List (String × Value)) (b : List (String × Value)) : Bool :=
  b.all fun e => containsUnder a e.1 e.2

def containsUnder : List (String × Value) → String → Value → Bool
  | [], _, _ => false
  | (k, v) :: rest, name, w => if k == name then containsValue v w else containsUnder rest name w

def containsAny : List Value → Value → Bool
  | [], _ => false
  | v :: rest, w => containsValue v w || containsAny rest w

end

def contains (a b : Value) : Except String Value :=
  if a.rank == b.rank then .ok (.bool (containsValue a b))
  else .error (unfitPair a b "cannot have their containment checked")

/-- A function of texts. -/
def textual (message : String) (f : List Char → List Char) : Value → Except String Value
  | .string s => .ok (.string (.ofList (f s.toList)))
  | _ => .error message

def explode : Value → Except String Value
  | .string s => .ok (.array (s.toList.map fun c => .ofNat c.toNat))
  | _ => .error "explode input must be a string"

def implode : Value → Except String Value
  | .array items => do
    let cs ← items.mapM fun
      | .number n =>
        match Decimal.truncate? n.toFloat with
        | some (.ofNat c) => if c.isValidChar then .ok (Char.ofNat c) else .ok Document.replacement
        | _ => .ok Document.replacement
      | _ => .error "Unicode codepoint must be numeric"
    return .string (.ofList cs)
  | _ => .error "implode input must be an array"

mutual

/-- The value and all values inside it, each before its parts. -/
def descendants : Value → List Value
  | .array items => .array items :: descendantsItems items
  | .object members => .object members :: descendantsMembers members
  | v => [v]

def descendantsItems : List Value → List Value
  | [] => []
  | v :: rest => descendants v ++ descendantsItems rest

def descendantsMembers : List (String × Value) → List Value
  | [] => []
  | (_, v) :: rest => descendants v ++ descendantsMembers rest

end

/-- The numbers from `x` up to but not including `limit`, in steps of one. -/
def countUp (limit : Float) : Nat → Float → List Value
  | 0, _ => []
  | fuel + 1, x => if x < limit then .ofFloat x :: countUp limit fuel (x + 1.0) else []

def range : Value → Value → Stream
  | .number a, .number b =>
    let x := a.toFloat
    let limit := b.toFloat
    .ofList (countUp limit (limit - x).ceil.toUInt64.toNat x)
  | _, _ => .error "Range bounds must be numeric"

end Value

namespace Stream

/-- Whether some value is true; what comes after it is not asked for. -/
def any (s : Stream) : Stream :=
  if s.values.any Value.isTrue then one (.bool true)
  else s.collect fun _ => one (.bool false)

/-- Whether all values are true. -/
def all (s : Stream) : Stream :=
  if s.values.any (!·.isTrue) then one (.bool false)
  else s.collect fun _ => one (.bool true)

/-- The sum of the values. -/
def sum (s : Stream) : Stream :=
  s.collect fun vs => ofExcept (vs.foldlM Value.add .null)

/-- The stream of one value if it satisfies `p`. -/
def when (p : Value → Bool) (v : Value) : Stream := if p v then one v else empty

end Stream

open Value in
/-- The values of a function of the input. -/
def Nullary.run (f : Nullary) (v : Value) : Stream :=
  match f with
  | .empty => .empty
  | .halt => ⟨[], .halted⟩
  | .error => .fail v
  | .length => .ofExcept v.length
  | .utf8ByteLength => .ofExcept v.utf8ByteLength
  | .not => .one (.bool (!v.isTrue))
  | .keys => .ofExcept (v.keys.map .array)
  | .keysUnsorted => .ofExcept (v.keysUnsorted.map .array)
  | .values => .when (fun v => v.kind != "null") v
  | .nulls => .when (fun v => v.kind == "null") v
  | .booleans => .when (fun v => v.kind == "boolean") v
  | .numbers => .when (fun v => v.kind == "number") v
  | .strings => .when (fun v => v.kind == "string") v
  | .arrays => .when (fun v => v.kind == "array") v
  | .objects => .when (fun v => v.kind == "object") v
  | .iterables => .when (fun v => v.parts?.isSome) v
  | .scalars => .when (fun v => v.parts?.isNone) v
  | .sort => .ofExcept v.sorted
  | .unique => .ofExcept (v.sorted.map fun
    | .array items => .array ((groups (items.map fun v => (v, v))).filterMap (·.head?.map (·.2)))
    | v => v)
  | .groupItems => .ofExcept (v.sorted.map fun
    | .array items => .array ((groups (items.map fun v => (v, v))).map fun g => .array (g.map (·.2)))
    | v => v)
  | .add => (iterate v).sum
  | .min => .ofExcept ((v.items? "").mapError (fun _ => unfitPair v v "cannot be iterated over") |>.map
      fun items => extreme false (items.map fun v => (v, v)))
  | .max => .ofExcept ((v.items? "").mapError (fun _ => unfitPair v v "cannot be iterated over") |>.map
      fun items => extreme true (items.map fun v => (v, v)))
  | .first => .ofExcept (v.index (.ofNat 0))
  | .last => .ofExcept (v.index (.number (.ofInt (-1))))
  | .reverse => .ofExcept v.reversed
  | .flatten => (iterate v).collect fun vs => .one (.array (flattened v.depth vs))
  | .toText => .one (.string v.toText)
  | .toNumber => .ofExcept v.toNumber
  | .toJsonText => .one (.string v.text)
  | .fromJsonText => .ofExcept v.fromJsonText
  | .type => .one (.string v.kind)
  | .toEntries => .ofExcept (v.toEntries.map .array)
  | .fromEntries => (iterate v).collect fun vs => .ofExcept (Value.fromEntries vs)
  | .any => (iterate v).any
  | .all => (iterate v).all
  | .floor => .ofExcept (v.numeric Float.floor)
  | .ceil => .ofExcept (v.numeric Float.ceil)
  | .round => .ofExcept (v.numeric Float.round)
  | .sqrt => .ofExcept (v.numeric Float.sqrt)
  | .fabs => .ofExcept (v.numeric Float.abs)
  | .abs => .ofExcept v.absolute
  | .upcase => .ofExcept (v.textual "ascii_upcase input must be a string" (·.map Char.toUpper))
  | .downcase => .ofExcept (v.textual "ascii_downcase input must be a string" (·.map Char.toLower))
  | .explode => .ofExcept v.explode
  | .implode => .ofExcept v.implode
  | .descend => .ofList v.descendants
  | .notANumber => .one (.ofFloat (0.0 / 0.0))
  | .infinite => .one (.ofFloat (1.0 / 0.0))
  | .isNotANumber => .ofExcept (v.number?.map fun x => .bool x.isNaN)
  | .isInfinite => .ofExcept (v.number?.map fun x => .bool x.isInf)

/-- The parts of a container with what `f` gives for each of them, all together as a key. -/
def keyed (f : Value → Stream) (v : Value) (use : List (Value × Value) → Value) : Stream :=
  ((Value.iterate v).bind fun item => (f item).collect fun ks => .one (.array ks)).collect fun ks =>
    match v with
    | .array items => .one (use (ks.zip items))
    | v => .error (v.unfitPair (.array ks) "cannot be sorted, as they are not both arrays")

/-- The first value of `f` on each part, where there is one. -/
def firstEach (f : Value → Stream) : List (String × Value) → Except StreamEnd (List (String × Value))
  | [] => .ok []
  | (k, v) :: rest =>
    match (f v).first with
    | ⟨w :: _, _⟩ => (firstEach f rest).map ((k, w) :: ·)
    | ⟨[], .done⟩ => firstEach f rest
    | ⟨[], ending⟩ => .error ending

def mapParts (f : Value → Stream) (v : Value) : Stream :=
  match v with
  | .array items =>
    match firstEach f (items.map fun v => ("", v)) with
    | .ok ms => .one (.array (ms.map (·.2)))
    | .error ending => ⟨[], ending⟩
  | .object members =>
    match firstEach f members with
    | .ok ms => .one (.object ms)
    | .error ending => ⟨[], ending⟩
  | v => Value.iterate v

/-- The first so many values of a stream. -/
def limited (n : Value) (s : Stream) : Stream :=
  match n with
  | .number n =>
    let count := n.toFloat
    if count < 0.0 then .error "Limit doesn't support negative count"
    else if count == 0.0 then .empty
    else s.take count.ceil.toUInt64.toNat
  | _ => s.take 1

/-- The value at a place of a stream. -/
def nthOf (n : Value) (s : Stream) : Stream :=
  match n with
  | .number n =>
    let place := n.toFloat
    if place < 0.0 then .error "Out of bounds negative array index"
    else match s.values[place.ceil.toUInt64.toNat]? with
      | some v => .one v
      | none => ⟨[], s.ending⟩
  | _ => s.first

open Value in
/-- The values of a function of the input and a filter. -/
def Unary.run (u : Unary) (f : Value → Stream) (v : Value) : Stream :=
  match u with
  | .error => (f v).bind .fail
  | .has => (f v).bind fun k => .ofExcept (v.has k)
  | .contains => (f v).bind fun w => .ofExcept (v.contains w)
  | .inside => (f v).bind fun w => .ofExcept (w.contains v)
  | .isIn => (f v).bind fun w => .ofExcept (w.has v)
  | .map => ((iterate v).bind f).collect fun vs => .one (.array vs)
  | .mapValues => mapParts f v
  | .select => (f v).bind fun b => if b.isTrue then .one v else .empty
  | .sortBy => keyed f v fun ps => .array ((sortPairs ps).map (·.2))
  | .groupBy => keyed f v fun ps => .array ((groups (sortPairs ps)).map fun g => .array (g.map (·.2)))
  | .uniqueBy =>
    keyed f v fun ps => .array ((groups (sortPairs ps)).filterMap (·.head?.map (·.2)))
  | .minBy => keyed f v (extreme false)
  | .maxBy => keyed f v (extreme true)
  | .add => (f v).sum
  | .any => ((iterate v).bind f).any
  | .all => ((iterate v).bind f).all
  | .first => (f v).first
  | .last => (f v).collect fun vs => .ofList vs.getLast?.toList
  | .nth => (f v).bind fun n => .ofExcept (v.index n)
  | .isEmpty =>
    match f v with
    | ⟨_ :: _, _⟩ => .one (.bool false)
    | ⟨[], .done⟩ => .one (.bool true)
    | other => other
  | .join => (f v).bind fun sep => (iterate v).collect fun vs => .ofExcept (joined sep vs)
  | .split => (f v).bind fun sep =>
    match v, sep with
    | .string s, .string t => .one (.array (splitText s t))
    | _, _ => .error "split input and separator must be strings"
  | .range => (f v).bind fun n => Value.range (.ofNat 0) n
  | .startsWith => (f v).bind fun w => .ofExcept ((v.startsWith w).map .bool)
  | .endsWith => (f v).bind fun w => .ofExcept ((v.endsWith w).map .bool)
  | .trimPrefix => (f v).bind fun w => .ofExcept (v.trimPrefix w)
  | .trimSuffix => (f v).bind fun w => .ofExcept (v.trimSuffix w)
  | .withEntries =>
    (Stream.ofExcept (v.toEntries.map .array)).bind fun es =>
      ((iterate es).bind f).collect fun vs => .ofExcept (Value.fromEntries vs)
  | .flatten => (f v).bind fun n =>
    match n with
    | .number n =>
      if n.toFloat < 0.0 then .error "flatten depth must not be negative"
      else (iterate v).collect fun vs => .one (.array (flattened n.toFloat.toUInt64.toNat vs))
    | _ => (iterate v).collect fun vs => .one (.array (flattened v.depth vs))

/-- The values of a function of the input and two filters. -/
def Binary.run (b : Binary) (f g : Value → Stream) (v : Value) : Stream :=
  match b with
  | .range => (f v).bind fun x => (g v).bind fun y => Value.range x y
  | .any => ((f v).bind g).any
  | .all => ((f v).bind g).all
  | .limit => (f v).bind fun n => limited n (g v)
  | .nth => (f v).bind fun n => nthOf n (g v)

end HttpScript.Query
