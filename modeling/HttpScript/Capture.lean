import HttpScript.Query.Results
import HttpScript.Script.Request
import HttpScript.Template.Basic
import HttpScript.Json.Reader
import HttpScript.Json.Printer
import HttpScript.Log

/-!
# Captures

Values that queries find in a reply become variables. Every value overwrites the one before, so the
last one stays. A query that fails is reported and changes nothing more; no failure ends a run.
-/
namespace HttpScript

/-- A value as the text of a variable: a string is itself, a whole number has neither point nor
exponent, and everything else is its JSON text. -/
def Json.asVariable : Json → String
  | .string s => s
  | .float x =>
    match Decimal.toInt? x with
    | some n => toString n
    | none => Json.render Json.compact (.float x)
  | v => Json.render Json.compact v

/-- What the captures of a reply have led to. -/
structure Captured where
  vars : Variables
  /-- The variables that received a value, with the last one. -/
  saved : Variables
  records : List Record

namespace Capture

def failed (log : Logger) (c : Field) (message : String) : Record :=
  log.record .warning "capture.failed"
    [("name", .text c.name), ("expr", .text c.value), ("error", .text message)]

def store (name : String) (values : List Json) (vars : Variables) : Variables :=
  values.foldl (fun vs v => Entries.put name v.asVariable vs) vars

/-- The record of a query that did not fail: `saved` holds what was stored so far, by this query and
those before it. -/
def stored (log : Logger) (c : Field) (saved : Variables) : Record :=
  match Entries.get? c.name saved with
  | some value => log.record .info "capture.saved" [("name", .text c.name), ("value", .text value)]
  | none => log.record .debug "capture.empty" [("name", .text c.name), ("expr", .text c.value)]

/-- Answer one query and store its values. -/
def step (evaluate : Evaluator) (log : Logger) (document : Json) (soFar : Captured) (c : Field) :
    Captured :=
  let results := evaluate c.value document
  let saved := store c.name results.values soFar.saved
  let record := match results.ending with
    | .failed message => failed log c message
    | _ => stored log c saved
  ⟨store c.name results.values soFar.vars, saved, soFar.records ++ [record]⟩

end Capture

/-- Answer the queries of `captures` on the text of a reply. -/
def capture (evaluate : Evaluator) (log : Logger) (captures : List Field) (text : String)
    (vars : Variables) : Captured :=
  if captures.isEmpty then ⟨vars, [], []⟩
  else
    match Json.read .accept text.toList with
    | .error fault =>
      let message := "response body is not JSON: " ++ fault.message text.toList
      ⟨vars, [], captures.map fun c => Capture.failed log c message⟩
    | .ok document =>
      captures.foldl (Capture.step evaluate log document) ⟨vars, [], []⟩

end HttpScript
