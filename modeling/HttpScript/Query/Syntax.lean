import HttpScript.Query.Filter
import HttpScript.Query.Lexeme

/-!
# Reading filters

A filter is read from its lexemes by recursive descent; a reader gives what it has read and the
lexemes that are left. Binary operators are read by precedence; a
pattern that takes a value apart is read into the filters that fetch its parts. The fuel of every
reader is bounded by the number of lexemes, since each nested call follows one.
-/
namespace HttpScript.Query

/-! ## Names of functions -/

def Nullary.names : List (String × Nullary) :=
  [("empty", .empty), ("halt", .halt), ("error", .error), ("length", .length),
    ("utf8bytelength", .utf8ByteLength), ("not", .not), ("keys", .keys),
    ("keys_unsorted", .keysUnsorted), ("values", .values), ("nulls", .nulls),
    ("booleans", .booleans), ("numbers", .numbers), ("strings", .strings), ("arrays", .arrays),
    ("objects", .objects), ("iterables", .iterables), ("scalars", .scalars), ("sort", .sort),
    ("unique", .unique), ("add", .add), ("min", .min), ("max", .max), ("first", .first),
    ("last", .last), ("reverse", .reverse), ("flatten", .flatten), ("tostring", .toText),
    ("tonumber", .toNumber), ("tojson", .toJsonText), ("fromjson", .fromJsonText),
    ("type", .type), ("to_entries", .toEntries), ("from_entries", .fromEntries), ("any", .any),
    ("all", .all), ("floor", .floor), ("ceil", .ceil), ("round", .round), ("sqrt", .sqrt),
    ("fabs", .fabs), ("abs", .abs), ("ascii_upcase", .upcase), ("ascii_downcase", .downcase),
    ("explode", .explode), ("implode", .implode), ("recurse", .descend), ("nan", .notANumber),
    ("infinite", .infinite), ("isnan", .isNotANumber), ("isinfinite", .isInfinite)]

def Unary.names : List (String × Unary) :=
  [("error", .error), ("has", .has), ("contains", .contains), ("inside", .inside), ("in", .isIn),
    ("map", .map), ("map_values", .mapValues), ("select", .select), ("sort_by", .sortBy),
    ("group_by", .groupBy), ("unique_by", .uniqueBy), ("min_by", .minBy), ("max_by", .maxBy),
    ("add", .add), ("any", .any), ("all", .all), ("first", .first), ("last", .last),
    ("nth", .nth), ("isempty", .isEmpty), ("join", .join), ("split", .split), ("range", .range),
    ("startswith", .startsWith), ("endswith", .endsWith), ("ltrimstr", .trimPrefix),
    ("rtrimstr", .trimSuffix), ("with_entries", .withEntries), ("flatten", .flatten)]

def Binary.names : List (String × Binary) :=
  [("range", .range), ("any", .any), ("all", .all), ("limit", .limit), ("nth", .nth)]

/-- Words that cannot be the names of functions. -/
def reservedWords : List String :=
  ["def", "if", "then", "else", "elif", "end", "and", "or", "reduce", "foreach", "as", "try",
    "catch", "label", "import", "include", "module", "__loc__"]

/-- The filter that a name and its arguments are. -/
def callNamed? (name : String) (arguments : List Filter) : Option Filter :=
  match name, arguments with
  | "null", [] => some (.constant .null)
  | "true", [] => some (.constant (.bool true))
  | "false", [] => some (.constant (.bool false))
  | name, [] => (Entries.get? name Nullary.names).map .call
  | name, [f] => (Entries.get? name Unary.names).map (.callWith · f)
  | name, [f, g] => (Entries.get? name Binary.names).map (.callWithTwo · f g)
  | _, _ => none

/-! ## Operators -/

/-- How a chain of operators of one strength is grouped. -/
inductive Grouping where
  | left
  | right
  | single
  deriving DecidableEq

/-- The strength of a binary operator, and its grouping. -/
def strength? : Lexeme → Option (Nat × Grouping)
  | .mark "|" => some (1, .right)
  | .mark "," => some (2, .left)
  | .mark "//" => some (3, .right)
  | .word "or" => some (5, .left)
  | .word "and" => some (6, .left)
  | .mark "==" => some (7, .single)
  | .mark "!=" => some (7, .single)
  | .mark "<" => some (7, .single)
  | .mark "<=" => some (7, .single)
  | .mark ">" => some (7, .single)
  | .mark ">=" => some (7, .single)
  | .mark "+" => some (8, .left)
  | .mark "-" => some (8, .left)
  | .mark "*" => some (9, .left)
  | .mark "/" => some (9, .left)
  | .mark "%" => some (9, .left)
  | _ => none

def operator (l : Lexeme) (a b : Filter) : Filter :=
  match l with
  | .mark "|" => .pipe a b
  | .mark "," => .comma a b
  | .mark "//" => .alternative a b
  | .word "or" => .either a b
  | .word "and" => .both a b
  | .mark "==" => .comparison .equal a b
  | .mark "!=" => .comparison .different a b
  | .mark "<" => .comparison .less a b
  | .mark "<=" => .comparison .lessOrEqual a b
  | .mark ">" => .comparison .greater a b
  | .mark ">=" => .comparison .greaterOrEqual a b
  | .mark "+" => .arithmetic .add a b
  | .mark "-" => .arithmetic .subtract a b
  | .mark "*" => .arithmetic .multiply a b
  | .mark "/" => .arithmetic .divide a b
  | _ => .arithmetic .remainder a b

/-- The strength of a sign before an operand. -/
def signStrength : Nat := 8

/-! ## Patterns -/

/-- A pattern: a name, or the parts of an array or object. The key of a member is a filter of the
value that is taken apart. -/
inductive Pattern where
  | name (s : String)
  | parts (ps : List (Filter × Pattern))

mutual

/-- Bind the names of a pattern to the parts of the values of `source`, within `body`. `depth` keeps
apart the names of the values that are taken apart. -/
def Pattern.bind (depth : Nat) (source : Filter) (body : Filter) : Pattern → Filter
  | .name s => .bind source s body
  | .parts ps =>
    let whole := toString depth
    .bind source whole (Pattern.bindParts depth whole body ps)

def Pattern.bindParts (depth : Nat) (whole : String) (body : Filter) :
    List (Filter × Pattern) → Filter
  | [] => body
  | (key, p) :: rest =>
    p.bind (depth + 1)
      (.index (.variable whole) (.pipe (.variable whole) key) false)
      (Pattern.bindParts depth whole body rest)

end

/-- The name for the values that a pattern stands for as a whole, and `body` within the pattern. -/
def Pattern.whole (p : Pattern) (bodies : List Filter) : String × List Filter :=
  match p with
  | .name s => (s, bodies)
  | p => ("0", bodies.map fun b => p.bind 1 (.variable "0") b)

/-! ## Readers -/

namespace Syntax

/-- Read one certain mark. -/
def expect (m : String) : List Lexeme → Option (List Lexeme)
  | .mark s :: rest => if s == m then some rest else none
  | _ => none

def expectWord (w : String) : List Lexeme → Option (List Lexeme)
  | .word s :: rest => if s == w then some rest else none
  | _ => none

/-- A question mark makes an access lenient. -/
def lenient : List Lexeme → Bool × List Lexeme
  | .mark "?" :: rest => (true, rest)
  | rest => (false, rest)

def textFilter (s : String) : Filter := .constant (.string s)

/-- The key that selects the value of a name. -/
def fieldOf (container : Filter) (name : String) (isLenient : Bool) : Filter :=
  .index container (textFilter name) isLenient

mutual

/-- A whole filter, as it stands between brackets. -/
def pipeline : Nat → List Lexeme → Option (Filter × List Lexeme)
  | 0, _ => none
  | fuel + 1, ls => operation fuel 1 ls

/-- Operators of at least a strength. -/
def operation : Nat → Nat → List Lexeme → Option (Filter × List Lexeme)
  | 0, _, _ => none
  | fuel + 1, least, ls => do
    let (a, ls) ← operand fuel ls
    operators fuel least a ls

/-- The operators after the operand `a`. -/
def operators : Nat → Nat → Filter → List Lexeme → Option (Filter × List Lexeme)
  | 0, _, _, _ => none
  | _ + 1, _, a, [] => some (a, [])
  | fuel + 1, least, a, l :: ls =>
    match strength? l with
    | none => some (a, l :: ls)
    | some (n, grouping) =>
      if n < least then some (a, l :: ls)
      else do
        let (b, ls) ← operation fuel (if grouping == .right then n else n + 1) ls
        let chained := ((ls.head?.bind strength?).map fun s => s.1 == n).getD false
        if grouping == .single && chained then none
        else operators fuel least (operator l a b) ls

/-- A term with what follows it, a sign, or `try`. -/
def operand : Nat → List Lexeme → Option (Filter × List Lexeme)
  | 0, _ => none
  | fuel + 1, ls =>
    match ls with
    | .mark "-" :: ls => do
      let (f, ls) ← operation fuel (signStrength + 1) ls
      return (.negate f, ls)
    | .word "try" :: ls => do
      let (body, ls) ← operand fuel ls
      match expectWord "catch" ls with
      | none => return (.attempt body (.call .empty), ls)
      | some ls => do
        let (handler, ls) ← operand fuel ls
        return (.attempt body handler, ls)
    | ls => do
      let (t, ls) ← term fuel ls
      let (t, ls) ← suffixes fuel t ls
      match expectWord "as" ls with
      | none => return (t, ls)
      | some ls => do
        let (p, ls) ← pattern fuel ls
        let ls ← expect "|" ls
        let (body, ls) ← pipeline fuel ls
        return (p.bind 0 t body, ls)

/-- Accesses to the parts of a term. -/
def suffixes : Nat → Filter → List Lexeme → Option (Filter × List Lexeme)
  | 0, _, _ => none
  | fuel + 1, t, ls =>
    match ls with
    | .field name :: ls =>
      let (isLenient, ls) := lenient ls
      suffixes fuel (fieldOf t name isLenient) ls
    | .mark "." :: .openText :: ls => do
      let (key, ls) ← text fuel (textFilter "") ls
      let (isLenient, ls) := lenient ls
      suffixes fuel (.index t key isLenient) ls
    | .mark "." :: .mark "[" :: ls => do
      let (t, ls) ← bracket fuel t ls
      suffixes fuel t ls
    | .mark "[" :: ls => do
      let (t, ls) ← bracket fuel t ls
      suffixes fuel t ls
    | .mark "?" :: ls => suffixes fuel (.attempt t (.call .empty)) ls
    | ls => some (t, ls)

/-- What stands in the brackets after a term. -/
def bracket : Nat → Filter → List Lexeme → Option (Filter × List Lexeme)
  | 0, _, _ => none
  | fuel + 1, t, ls =>
    match ls with
    | .mark "]" :: ls =>
      let (isLenient, ls) := lenient ls
      some (.iterate t isLenient, ls)
    | .mark ":" :: ls => do
      let (high, ls) ← pipeline fuel ls
      let ls ← expect "]" ls
      let (isLenient, ls) := lenient ls
      return (.slice t (.constant .null) high isLenient, ls)
    | ls => do
      let (key, ls) ← pipeline fuel ls
      match ls with
      | .mark "]" :: ls =>
        let (isLenient, ls) := lenient ls
        return (.index t key isLenient, ls)
      | .mark ":" :: .mark "]" :: ls =>
        let (isLenient, ls) := lenient ls
        return (.slice t key (.constant .null) isLenient, ls)
      | .mark ":" :: ls => do
        let (high, ls) ← pipeline fuel ls
        let ls ← expect "]" ls
        let (isLenient, ls) := lenient ls
        return (.slice t key high isLenient, ls)
      | _ => none

/-- A term without what follows it. -/
def term : Nat → List Lexeme → Option (Filter × List Lexeme)
  | 0, _ => none
  | fuel + 1, ls =>
    match ls with
    | .field name :: ls =>
      let (isLenient, ls) := lenient ls
      some (fieldOf .identity name isLenient, ls)
    | .mark "." :: .openText :: ls => do
      let (key, ls) ← text fuel (textFilter "") ls
      let (isLenient, ls) := lenient ls
      return (.index .identity key isLenient, ls)
    | .mark "." :: ls => some (.identity, ls)
    | .mark ".." :: ls => some (.call .descend, ls)
    | .number n :: ls => some (.constant (.number n), ls)
    | .openText :: ls => text fuel (textFilter "") ls
    | .variable name :: ls => some (.variable name, ls)
    | .mark "(" :: ls => do
      let (f, ls) ← pipeline fuel ls
      let ls ← expect ")" ls
      return (f, ls)
    | .mark "[" :: .mark "]" :: ls => some (.constant (.array []), ls)
    | .mark "[" :: ls => do
      let (f, ls) ← pipeline fuel ls
      let ls ← expect "]" ls
      return (.collect f, ls)
    | .mark "\x7b" :: .mark "\x7d" :: ls => some (.constant (.object []), ls)
    | .mark "\x7b" :: ls => members fuel (.constant (.object [])) ls
    | .word "if" :: ls => conditional fuel ls
    | .word "reduce" :: ls => do
      let (source, ls) ← term fuel ls
      let (source, ls) ← suffixes fuel source ls
      let ls ← expectWord "as" ls
      let (p, ls) ← pattern fuel ls
      let ls ← expect "(" ls
      let (start, ls) ← pipeline fuel ls
      let ls ← expect ";" ls
      let (update, ls) ← pipeline fuel ls
      let ls ← expect ")" ls
      match p.whole [update] with
      | (name, [update]) => return (.reduce source name start update, ls)
      | _ => none
    | .word "foreach" :: ls => do
      let (source, ls) ← term fuel ls
      let (source, ls) ← suffixes fuel source ls
      let ls ← expectWord "as" ls
      let (p, ls) ← pattern fuel ls
      let ls ← expect "(" ls
      let (start, ls) ← pipeline fuel ls
      let ls ← expect ";" ls
      let (update, ls) ← pipeline fuel ls
      let (extract, ls) ← match expect ";" ls with
        | none => some (Filter.identity, ls)
        | some ls => pipeline fuel ls
      let ls ← expect ")" ls
      match p.whole [update, extract] with
      | (name, [update, extract]) => return (.foreach source name start update extract, ls)
      | _ => none
    | .word name :: ls =>
      if reservedWords.contains name then none
      else match expect "(" ls with
        | none => (callNamed? name []).map (·, ls)
        | some ls => do
          let (fs, ls) ← arguments fuel ls
          let f ← callNamed? name fs
          return (f, ls)
    | _ => none

/-- The filters between parentheses, after the opening one. -/
def arguments : Nat → List Lexeme → Option ((List Filter) × List Lexeme)
  | 0, _ => none
  | fuel + 1, ls => do
    let (f, ls) ← pipeline fuel ls
    match ls with
    | .mark ";" :: ls => do
      let (fs, ls) ← arguments fuel ls
      return (f :: fs, ls)
    | .mark ")" :: ls => return ([f], ls)
    | _ => none

/-- A conditional, after its first word. -/
def conditional : Nat → List Lexeme → Option (Filter × List Lexeme)
  | 0, _ => none
  | fuel + 1, ls => do
    let (test, ls) ← pipeline fuel ls
    let ls ← expectWord "then" ls
    let (whenTrue, ls) ← pipeline fuel ls
    match ls with
    | .word "elif" :: ls => do
      let (whenFalse, ls) ← conditional fuel ls
      return (.cond test whenTrue whenFalse, ls)
    | .word "else" :: ls => do
      let (whenFalse, ls) ← pipeline fuel ls
      let ls ← expectWord "end" ls
      return (.cond test whenTrue whenFalse, ls)
    | .word "end" :: ls => return (.cond test whenTrue .identity, ls)
    | _ => none

/-- The rest of a string, after the part that `soFar` gives. -/
def text : Nat → Filter → List Lexeme → Option (Filter × List Lexeme)
  | 0, _, _ => none
  | fuel + 1, soFar, ls =>
    match ls with
    | .closeText :: ls => some (soFar, ls)
    | .piece s :: ls =>
      let soFar := match soFar with
        | .constant (.string "") => textFilter s
        | f => .arithmetic .add f (textFilter s)
      text fuel soFar ls
    | .openCode :: ls => do
      let (f, ls) ← pipeline fuel ls
      match ls with
      | .closeCode :: ls => text fuel (.arithmetic .add soFar (.pipe f (.call .toText))) ls
      | _ => none
    | _ => none

/-- The value of a member: operators up to the comma. -/
def memberValue : Nat → List Lexeme → Option (Filter × List Lexeme)
  | 0, _ => none
  | fuel + 1, ls => do
    let (f, ls) ← operation fuel 3 ls
    match ls with
    | .mark "|" :: ls => do
      let (g, ls) ← memberValue fuel ls
      return (.pipe f g, ls)
    | ls => return (f, ls)

/-- One member: its key, and its value when one is given. -/
def member : Nat → List Lexeme → Option ((Filter × Filter) × List Lexeme)
  | 0, _ => none
  | fuel + 1, ls =>
    match ls with
    | .variable name :: .mark ":" :: ls => do
      let (v, ls) ← memberValue fuel ls
      return ((.variable name, v), ls)
    | .variable name :: ls => some ((textFilter name, .variable name), ls)
    | .word name :: .mark ":" :: ls => do
      let (v, ls) ← memberValue fuel ls
      return ((textFilter name, v), ls)
    | .word name :: ls => some ((textFilter name, fieldOf .identity name false), ls)
    | .openText :: ls => do
      let (key, ls) ← text fuel (textFilter "") ls
      match ls with
      | .mark ":" :: ls => do
        let (v, ls) ← memberValue fuel ls
        return ((key, v), ls)
      | ls => return ((key, .index .identity key false), ls)
    | .mark "(" :: ls => do
      let (key, ls) ← pipeline fuel ls
      let ls ← expect ")" ls
      let ls ← expect ":" ls
      let (v, ls) ← memberValue fuel ls
      return ((key, v), ls)
    | _ => none

/-- The members of an object up to its end. -/
def members : Nat → Filter → List Lexeme → Option (Filter × List Lexeme)
  | 0, _, _ => none
  | fuel + 1, soFar, ls => do
    let ((key, value), ls) ← member fuel ls
    match ls with
    | .mark "," :: ls => members fuel (.insert soFar key value) ls
    | .mark "\x7d" :: ls => return (.insert soFar key value, ls)
    | _ => none

def pattern : Nat → List Lexeme → Option (Pattern × List Lexeme)
  | 0, _ => none
  | fuel + 1, ls =>
    match ls with
    | .variable name :: ls => some (.name name, ls)
    | .mark "[" :: ls => do
      let (ps, ls) ← itemPatterns fuel 0 ls
      return (.parts ps, ls)
    | .mark "\x7b" :: ls => do
      let (ps, ls) ← memberPatterns fuel ls
      return (.parts ps, ls)
    | _ => none

def itemPatterns : Nat → Nat → List Lexeme → Option ((List (Filter × Pattern)) × List Lexeme)
  | 0, _, _ => none
  | fuel + 1, place, ls => do
    let (p, ls) ← pattern fuel ls
    let first := (Filter.constant (.ofNat place), p)
    match ls with
    | .mark "," :: ls => do
      let (ps, ls) ← itemPatterns fuel (place + 1) ls
      return (first :: ps, ls)
    | .mark "]" :: ls => return ([first], ls)
    | _ => none

def memberPatterns : Nat → List Lexeme → Option ((List (Filter × Pattern)) × List Lexeme)
  | 0, _ => none
  | fuel + 1, ls => do
    let (first, ls) ← memberPattern fuel ls
    match ls with
    | .mark "," :: ls => do
      let (ps, ls) ← memberPatterns fuel ls
      return (first ++ ps, ls)
    | .mark "\x7d" :: ls => return (first, ls)
    | _ => none

/-- One member of a pattern. A variable as the key is bound to the value as well. -/
def memberPattern : Nat → List Lexeme → Option ((List (Filter × Pattern)) × List Lexeme)
  | 0, _ => none
  | fuel + 1, ls =>
    match ls with
    | .variable name :: .mark ":" :: ls => do
      let (p, ls) ← pattern fuel ls
      return ([(textFilter name, .name name), (textFilter name, p)], ls)
    | .variable name :: ls => some ([(textFilter name, .name name)], ls)
    | .word name :: .mark ":" :: ls => do
      let (p, ls) ← pattern fuel ls
      return ([(textFilter name, p)], ls)
    | .openText :: ls => do
      let (key, ls) ← text fuel (textFilter "") ls
      let ls ← expect ":" ls
      let (p, ls) ← pattern fuel ls
      return ([(key, p)], ls)
    | .mark "(" :: ls => do
      let (key, ls) ← pipeline fuel ls
      let ls ← expect ")" ls
      let ls ← expect ":" ls
      let (p, ls) ← pattern fuel ls
      return ([(key, p)], ls)
    | _ => none

end

end Syntax

/-- The filter that a text is: the whole text is one filter, and all its names are known. -/
def Filter.ofText? (s : String) : Option Filter := do
  let ls ← Lexeme.ofQuery? s.toList
  match Syntax.pipeline (16 * (ls.length + 1)) ls with
  | some (f, []) => if f.isClosed [] then some f else none
  | _ => none

end HttpScript.Query
