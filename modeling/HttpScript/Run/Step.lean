import HttpScript.Capture
import HttpScript.Console
import HttpScript.Run.Prepare

/-!
# One request of a run

A request is prepared, sent, shown, checked and captured from, in this order; the first of these
that fails ends it.
-/
namespace HttpScript

/-- What can be observed of a run, in the order in which it happens. -/
inductive Effect where
  | logged (r : Record)
  | sent (message : Outgoing)
  | printed (lines : List String)
  | slept (seconds : Float)
  deriving Repr

/-- Why a request failed. -/
inductive StepFailure where
  | template (e : Template.Error)
  | transport (message : String)
  | status (expected actual : Int)
  deriving Repr, DecidableEq

def StepFailure.message : StepFailure → String
  | .template e => "template error: " ++ e.message
  | .transport message => "client: error making http request: " ++ message
  | .status expected actual => s!"expected {expected} but got {actual}"

/-- How a request ended; `missing` if whoever handled it did not say, and `unwritable` if handling it
broke off because its body has no text. -/
inductive Outcome where
  | passed
  | failed (why : StepFailure)
  | missing
  | unwritable
  deriving Repr, DecidableEq

def Outcome.isPassed : Outcome → Bool
  | .passed => true
  | _ => false

/-- The result of one request: `link` is what is left of the connection to the server. -/
structure StepRun (σ : Type) where
  outcome : Outcome
  context : Context
  link : σ
  journal : List Effect

/-- Whoever handles the requests of a run. -/
structure Handler (σ : Type) where
  name : String
  handle : Logger → Request → Context → σ → StepRun σ

/-- How messages are sent: the answer or the reason why there is none. -/
abbrev Transport (σ : Type) := Outgoing → σ → Except String Reply × σ

namespace Step

def requestRecord (log : Logger) (o : Outgoing) : Record :=
  log.record .debug "http.request"
    [("method", .text o.method), ("url", .text o.url), ("headers", maskHeaders o.headers),
      ("body", (o.body.map Text.Literal.text).getD .none)]

/-- Of the text of a reply, a record holds the beginning. -/
def textHead (text : String) : String := .ofList (text.toList.take 200)

def responseRecord (log : Logger) (r : Reply) : Record :=
  log.record .info "http.response"
    [("status", .int r.status), ("final_url", .text r.url), ("text_head", .text (textHead r.text))]

/-- A reply has the status that the script expects, if it expects one. -/
def statusFailure? (r : Request) (reply : Reply) : Option StepFailure :=
  if r.expectedStatus != 0 && reply.status != r.expectedStatus then
    some (.status r.expectedStatus reply.status)
  else none

/-- What follows a reply. -/
def received {σ : Type} (evaluate : Evaluator) (console : Console) (log : Logger) (r : Request)
    (ctx : Context) (link : σ) (reply : Reply) : StepRun σ :=
  let shown : List Effect := [.logged (responseRecord log reply), .printed (console.replyLines reply)]
  let ctx := { ctx with last := some reply }
  match statusFailure? r reply with
  | some why => ⟨.failed why, ctx, link, shown⟩
  | none =>
    let captured := capture evaluate log r.captures reply.text ctx.vars
    ⟨.passed, { ctx with vars := captured.vars }, link,
      shown ++ captured.records.map .logged⟩

/-- Handle a request, whose body has a text, by sending it. -/
def run {σ : Type} (send : Transport σ) (evaluate : Evaluator) (console : Console) (log : Logger)
    (r : Request) (ctx : Context) (link : σ) : StepRun σ :=
  match prepare r ctx with
  | .error e =>
    ⟨.failed (.template e), ctx, link,
      [.logged (log.record .error "template.render_failed" [("error", .text e.message)])]⟩
  | .ok message =>
    let before : List Effect := [.logged (requestRecord log message), .sent message]
    match send message link with
    | (.error why, link) =>
      ⟨.failed (.transport why), ctx, link,
        before ++ [.logged (log.record .error "http.step_failed"
          [("url", .text message.url), ("error", .text why)])]⟩
    | (.ok reply, link) =>
      let after := received evaluate console log r ctx link reply
      { after with journal := before ++ after.journal }

end Step

/-- The handler that sends every request. Nothing is written about a body without a text. -/
def Handler.sending {σ : Type} (send : Transport σ) (evaluate : Evaluator) (console : Console) :
    Handler σ where
  name := "RequestStepHandler"
  handle log r ctx link :=
    if r.isWritable ctx.vars then Step.run send evaluate console log r ctx link
    else ⟨.unwritable, ctx, link, []⟩

end HttpScript
