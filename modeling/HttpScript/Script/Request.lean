import HttpScript.Json.Value

/-!
# Requests of a script
-/
namespace HttpScript

/-- A name with a value: a header of a request, or a variable with the query that fills it. -/
structure Field where
  name : String
  value : String
  deriving Repr, DecidableEq

/-- One request of a script. A status of 0 means that any status is expected; `line` is the number
of the line that names the method. -/
structure Request where
  method : String
  url : String
  headers : List Field := []
  body : Option Json := none
  expectedStatus : Int := 0
  captures : List Field := []
  waitMs : Int := 0
  line : Int := 0
  deriving Repr

def Request.label (r : Request) : String := r.method ++ " " ++ r.url

end HttpScript
