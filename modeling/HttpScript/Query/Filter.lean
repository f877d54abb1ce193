import HttpScript.Query.Value

/-!
# Filters

The expressions of the query language. A filter takes a value and gives a stream of values.
-/
namespace HttpScript.Query

inductive Arithmetic where
  | add
  | subtract
  | multiply
  | divide
  | remainder
  deriving Repr, DecidableEq

inductive Comparison where
  | equal
  | different
  | less
  | lessOrEqual
  | greater
  | greaterOrEqual
  deriving Repr, DecidableEq

/-- Functions of the input alone. -/
inductive Nullary where
  | empty
  | halt
  | error
  | length
  | utf8ByteLength
  | not
  | keys
  | keysUnsorted
  | values
  | nulls
  | booleans
  | numbers
  | strings
  | arrays
  | objects
  | iterables
  | scalars
  | sort
  | unique
  | groupItems
  | add
  | min
  | max
  | first
  | last
  | reverse
  | flatten
  | toText
  | toNumber
  | toJsonText
  | fromJsonText
  | type
  | toEntries
  | fromEntries
  | any
  | all
  | floor
  | ceil
  | round
  | sqrt
  | fabs
  | abs
  | upcase
  | downcase
  | explode
  | implode
  | descend
  | notANumber
  | infinite
  | isNotANumber
  | isInfinite
  deriving Repr, DecidableEq

/-- Functions of the input and a filter. -/
inductive Unary where
  | error
  | has
  | contains
  | inside
  | isIn
  | map
  | mapValues
  | select
  | sortBy
  | groupBy
  | uniqueBy
  | minBy
  | maxBy
  | add
  | any
  | all
  | first
  | last
  | nth
  | isEmpty
  | join
  | split
  | range
  | startsWith
  | endsWith
  | trimPrefix
  | trimSuffix
  | withEntries
  | flatten
  deriving Repr, DecidableEq

/-- Functions of the input and two filters. -/
inductive Binary where
  | range
  | any
  | all
  | limit
  | nth
  deriving Repr, DecidableEq

inductive Filter where
  | identity
  | constant (v : Value)
  | variable (name : String)
  /-- The value under a key. A lenient one gives nothing where there could be no such key. -/
  | index (container key : Filter) (lenient : Bool)
  | slice (container low high : Filter) (lenient : Bool)
  | iterate (container : Filter) (lenient : Bool)
  | pipe (first second : Filter)
  | comma (first second : Filter)
  /-- The true values of the first, or else the values of the second. -/
  | alternative (first second : Filter)
  | arithmetic (op : Arithmetic) (left right : Filter)
  | comparison (op : Comparison) (left right : Filter)
  | both (left right : Filter)
  | either (left right : Filter)
  | negate (f : Filter)
  | cond (test whenTrue whenFalse : Filter)
  /-- The values of `body` for each value of `source` under a name. -/
  | bind (source : Filter) (name : String) (body : Filter)
  | reduce (source : Filter) (name : String) (start update : Filter)
  | foreach (source : Filter) (name : String) (start update extract : Filter)
  | attempt (body handler : Filter)
  | collect (f : Filter)
  /-- The objects of `object` with one more member. -/
  | insert (object key value : Filter)
  | call (f : Nullary)
  | callWith (f : Unary) (argument : Filter)
  | callWithTwo (f : Binary) (first second : Filter)
  deriving Repr, Inhabited

namespace Filter

/-- No variable is used outside of what binds it. -/
def isClosed (names : List String) : Filter → Bool
  | .identity => true
  | .constant _ => true
  | .variable name => names.contains name
  | .index c k _ => c.isClosed names && k.isClosed names
  | .slice c l h _ => c.isClosed names && l.isClosed names && h.isClosed names
  | .iterate c _ => c.isClosed names
  | .pipe f g => f.isClosed names && g.isClosed names
  | .comma f g => f.isClosed names && g.isClosed names
  | .alternative f g => f.isClosed names && g.isClosed names
  | .arithmetic _ l r => l.isClosed names && r.isClosed names
  | .comparison _ l r => l.isClosed names && r.isClosed names
  | .both l r => l.isClosed names && r.isClosed names
  | .either l r => l.isClosed names && r.isClosed names
  | .negate f => f.isClosed names
  | .cond t a b => t.isClosed names && a.isClosed names && b.isClosed names
  | .bind s name b => s.isClosed names && b.isClosed (name :: names)
  | .reduce s name i u => s.isClosed names && i.isClosed names && u.isClosed (name :: names)
  | .foreach s name i u e =>
    s.isClosed names && i.isClosed names && u.isClosed (name :: names) && e.isClosed (name :: names)
  | .attempt b h => b.isClosed names && h.isClosed names
  | .collect f => f.isClosed names
  | .insert o k v => o.isClosed names && k.isClosed names && v.isClosed names
  | .call _ => true
  | .callWith _ f => f.isClosed names
  | .callWithTwo _ f g => f.isClosed names && g.isClosed names

end Filter

end HttpScript.Query
