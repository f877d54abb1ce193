import HttpScript.Http.Message
import HttpScript.Json.Printer
import HttpScript.Script.Request
import HttpScript.Template.Json

/-!
# From a request of a script to a message

Url, body and header values are expanded with the variables of the run. The headers that every
request has come before those of the script, and none is dropped.
-/
namespace HttpScript

/-- What a run carries from one request to the next. -/
structure Context where
  runId : String := ""
  vars : Variables := []
  token : String := ""
  /-- The last reply of any request. -/
  last : Option Reply := none
  deriving Repr

/-- The headers of every request. -/
def defaultHeaders (token : String) : List Header :=
  [("Content-Type", "application/json"), ("Authorization", "Bearer " ++ token)]

/-- The text of an expanded body, in which every number is written. Whether all of them have a text
is told by `Request.isWritable`. -/
def expandBody (vars : Variables) : Option Json → Except Template.Error (Option String)
  | none => .ok none
  | some body => (expandJson vars body).map fun v => some (Json.render Json.compact v)

/-- Unless url and body expand, the body is not written. Once they do, an integer of too many digits
leaves it without a text. -/
def Request.isWritable (r : Request) (vars : Variables) : Bool :=
  match expand vars r.url, r.body.map (expandJson vars) with
  | .ok _, some (.ok body) => (body.numberFault? false).isNone
  | _, _ => true

def expandHeaders (vars : Variables) : List Field → Except Template.Error (List Header)
  | [] => .ok []
  | h :: rest => do
    let value ← expand vars h.value
    let rest ← expandHeaders vars rest
    return (h.name, value) :: rest

/-- The message for a request. Of several templates that do not read, the first one in the order
url, body, headers is reported. -/
def prepare (r : Request) (ctx : Context) : Except Template.Error Outgoing := do
  let url ← expand ctx.vars r.url
  let body ← expandBody ctx.vars r.body
  let headers ← expandHeaders ctx.vars r.headers
  return ⟨r.method, url, defaultHeaders ctx.token ++ headers, body⟩

end HttpScript
