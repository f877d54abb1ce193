/-!
# JSON values

Integers and floating-point numbers are kept apart, and the members of an object stay in order.
-/
namespace HttpScript

inductive Json where
  | null
  | bool (b : Bool)
  | int (n : Int)
  | float (x : Float)
  | string (s : String)
  | array (items : List Json)
  | object (members : List (String × Json))
  deriving Repr

namespace Json

/-- The most digits of an integer that is read or written. -/
def integerDigitLimit : Nat := 4300

end Json

end HttpScript
