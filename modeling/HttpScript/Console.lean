import HttpScript.Http.Message
import HttpScript.Json.Reader
import HttpScript.Json.Printer
import HttpScript.Text.Blank

/-!
# What is shown while a script runs

Each reply is shown by its status, the trace that the server names, on request its headers, and its
body, which is laid out anew when it is JSON.
-/
namespace HttpScript

/-- Choices about what is shown. -/
structure Console where
  /-- Bodies are shown as they came. -/
  raw : Bool := false
  showHeaders : Bool := false
  /-- Only headers and bodies are shown. -/
  quiet : Bool := false
  deriving Repr, DecidableEq

/-- The header under which servers report the trace of a request. -/
def traceHeader : String := "X-B3-Traceid"

/-- A body on indented lines if it is JSON, else as it is. -/
def layOut (text : String) : String :=
  match Json.read .accept text.toList with
  | .ok v => Json.render Json.indented v
  | .error _ => text

namespace Console

def body (c : Console) (text : String) : String := if c.raw then text else layOut text

/-- The status line, and the trace if there is one. -/
def statusLines (r : Reply) : List String :=
  String.ofList (Text.dropRightWhile Text.isBlank s!"HTTP {r.status} {r.reason}".toList) ::
    match r.header? traceHeader with
    | none => []
    | some trace => if trace.isEmpty then [] else [traceHeader ++ ": " ++ trace]

/-- The lines that show a reply; an empty one comes last. -/
def replyLines (c : Console) (r : Reply) : List String :=
  (if c.quiet then [] else statusLines r) ++
  (if c.showHeaders then r.headers.map fun h => h.1 ++ ": " ++ h.2 else []) ++
  [c.body r.text, ""]

/-- The lines that show a pause. -/
def waitLines (c : Console) (ms : Int) : List String :=
  if c.quiet then [] else [s!"waiting... {ms}ms"]

end Console

/-- Lines as a text, each with its end. -/
def linesText (lines : List String) : String := String.join (lines.map (· ++ "\n"))

end HttpScript
