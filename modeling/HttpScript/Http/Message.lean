import HttpScript.Text.Case

/-!
# Messages

What is asked of a server and what it answers, before and after the details of the wire.
-/
namespace HttpScript

/-- A header line. -/
abbrev Header := String × String

/-- A request that is ready to be sent. -/
structure Outgoing where
  method : String
  url : String
  headers : List Header
  body : Option String
  deriving Repr, DecidableEq

/-- An answer, with the url that it came from. -/
structure Reply where
  status : Int
  url : String
  text : String
  headers : List Header
  reason : String
  deriving Repr, DecidableEq

/-- The value of the first header with a name, whatever its letter case. -/
def Reply.header? (r : Reply) (name : String) : Option String :=
  (r.headers.find? fun h => Text.sameIgnoringCase h.1 name).map (·.2)

end HttpScript
