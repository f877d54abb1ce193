import HttpScript.Json.Value

/-!
# Results of a query

A query gives any number of values, and may then stop early or fail.
-/
namespace HttpScript

/-- How the values of a query end. -/
inductive QueryEnd where
  | done
  | halted
  | failed (message : String)
  deriving Repr, DecidableEq

structure QueryResults where
  values : List Json
  ending : QueryEnd
  deriving Repr

/-- How queries are answered, given the text of a query and a document. -/
abbrev Evaluator := String → Json → QueryResults

end HttpScript
