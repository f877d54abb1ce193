import HttpScript.Template.Basic
import HttpScript.Json.Value

/-!
# Templates inside JSON values

Every string of a value is a template, the names of members included. Members whose names expand to
the same text become one.
-/
namespace HttpScript

mutual

/-- Expand all strings of a value, at any depth. -/
def expandJson (vars : Variables) : Json → Except Template.Error Json
  | .string s => (expand vars s).map .string
  | .array items => (expandItems vars items).map .array
  | .object members => (expandMembers vars members).map fun ms => .object (Entries.collapse ms)
  | v => .ok v

def expandItems (vars : Variables) : List Json → Except Template.Error (List Json)
  | [] => .ok []
  | v :: rest => do
    let v ← expandJson vars v
    let rest ← expandItems vars rest
    return v :: rest

/-- The value of a member is expanded before its name. -/
def expandMembers (vars : Variables) :
    List (String × Json) → Except Template.Error (List (String × Json))
  | [] => .ok []
  | (k, v) :: rest => do
    let v ← expandJson vars v
    let k ← expand vars k
    let rest ← expandMembers vars rest
    return (k, v) :: rest

end

end HttpScript
