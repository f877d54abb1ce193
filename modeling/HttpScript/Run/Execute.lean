import HttpScript.Run.Step

/-!
# Running a script

A run logs in, then handles the requests one after another, each with a fresh identifier in the
variable `uuid`, and pauses where the script says so. The first request that fails ends the run.
-/
namespace HttpScript

/-- The variable that holds the identifier of a request. -/
def identifierVariable : String := "uuid"

/-- A condition that no script is meant to reach. -/
inductive Crash where
  /-- A handler did not say how a request ended. -/
  | noOutcome (handler : String) (step : Nat)
  /-- A pause is too long to be expressed in seconds. -/
  | endlessWait
  /-- An integer in a body is too long to be written. -/
  | longInteger
  deriving Repr, DecidableEq

def Crash.message : Crash → String
  | .noOutcome handler step => s!"Handler returned None: handler={handler}, step={step}"
  | .endlessWait => "integer division result too large for a float"
  | .longInteger => Json.NumberFault.longInteger.message

/-- How a run ended. -/
inductive RunEnd where
  | completed (steps : Nat)
  | notAuthenticated (why : String)
  | stepFailed (step : Nat) (why : StepFailure)
  | crashed (why : Crash)
  deriving Repr, DecidableEq

/-- The parties that a run depends on. -/
structure Setup (σ : Type) where
  handler : Handler σ
  /-- A token for the run, or the reason why there is none. -/
  login : σ → Except String String × σ
  console : Console
  log : Logger
  /-- The identifier with a number. No two are the same. -/
  identifier : Nat → String
  /-- The duration in milliseconds that is reported for a step. -/
  elapsedMs : Nat → Int := fun _ => 0

/-- Where a run stands: `taken` counts the identifiers that were used. -/
structure Position (σ : Type) where
  context : Context
  link : σ
  taken : Nat

structure Run (σ : Type) where
  ending : RunEnd
  position : Position σ
  journal : List Effect

/-- The seconds of a pause, unless they are too many for a number. -/
def seconds? (ms : Int) : Option Float :=
  let x := Decimal.nearest (ms < 0) ms.natAbs (-3)
  if Decimal.isFinite x then some x else none

/-- The pause after a request that passed, with what can be observed of it. -/
def pause (console : Console) (log : Logger) (ms : Int) : Option Crash × List Effect :=
  if ms ≤ 0 then (none, [])
  else
    let announced : List Effect :=
      [.logged (log.record .info "step.wait" [("wait_ms", .int ms)]),
        .printed (console.waitLines ms)]
    match seconds? ms with
    | some x => (none, announced ++ [.slept x])
    | none => (some .endlessWait, announced)

namespace Run

def prepend {σ : Type} (effects : List Effect) (r : Run σ) : Run σ :=
  { r with journal := effects ++ r.journal }

/-- The context in which a request is handled. -/
def enter {σ : Type} (s : Setup σ) (p : Position σ) : Context :=
  { p.context with
    vars :=
      Entries.put identifierVariable (s.identifier (p.taken + 1)) p.context.vars }

/-- The effects of a request from its start on. -/
def begunJournal {σ : Type} (log : Logger) (r : Request) (result : StepRun σ) : List Effect :=
  .logged (log.record .info "step.start" [("method", .text r.method), ("url", .text r.url)]) ::
    result.journal

/-- The effects of a request from its start to its end. -/
def stepJournal {σ : Type} (s : Setup σ) (log : Logger) (number : Nat) (r : Request)
    (result : StepRun σ) : List Effect :=
  begunJournal log r result ++ [.logged (log.record .info "step.end"
    [("ok", .bool result.outcome.isPassed), ("elapsed_ms", .int (s.elapsedMs number))])]

/-- Handle the requests from step `number` on. `log` is bound to the run. -/
def steps {σ : Type} (s : Setup σ) (log : Logger) (number : Nat) :
    List Request → Position σ → Run σ
  | [], p =>
    ⟨.completed (number - 1), p, [.logged (log.record .info "run.end" [("ok", .bool true)])]⟩
  | r :: rest, p =>
    let stepLog := log.bind [("step", .int number), ("line", .int r.line)]
    let result := s.handler.handle stepLog r (enter s p) p.link
    let p : Position σ := ⟨result.context, result.link, p.taken + 1⟩
    let journal := stepJournal s stepLog number r result
    match result.outcome with
    | .unwritable => ⟨.crashed .longInteger, p, begunJournal stepLog r result⟩
    | .missing => ⟨.crashed (.noOutcome s.handler.name number), p, journal⟩
    | .failed why => ⟨.stepFailed number why, p, journal⟩
    | .passed =>
      match pause s.console stepLog r.waitMs with
      | (some crash, effects) => ⟨.crashed crash, p, journal ++ effects⟩
      | (none, effects) => (steps s log (number + 1) rest p).prepend (journal ++ effects)

end Run

/-- Give the run an identifier if it has none. The dashes of an identifier are left out. -/
def nameRun {σ : Type} (s : Setup σ) (p : Position σ) : Position σ :=
  if p.context.runId.isEmpty then
    let name := String.ofList ((s.identifier (p.taken + 1)).toList.filter (· != '-'))
    { p with context := { p.context with runId := name }, taken := p.taken + 1 }
  else p

/-- Run a script. -/
def execute {σ : Type} (s : Setup σ) (requests : List Request) (p : Position σ) : Run σ :=
  let p := nameRun s p
  let log := s.log.bind [("run_id", .text p.context.runId)]
  let started : Effect :=
    .logged (log.record .info "run.start" [("steps", .int requests.length)])
  match s.login p.link with
  | (.error why, link) =>
    ⟨.notAuthenticated why, { p with link := link },
      [started, .logged (log.record .error "auth.failed" [("error", .text why)])]⟩
  | (.ok token, link) =>
    let p := { p with context := { p.context with token := token }, link := link }
    (Run.steps s log 1 requests p).prepend
      [started, .logged (log.record .debug "auth.ok" [])]

/-- What a run that did not complete reports. -/
def RunEnd.message? : RunEnd → Option String
  | .completed _ => none
  | .notAuthenticated why => some ("authentication error: " ++ why)
  | .stepFailed _ why => some why.message
  | .crashed why => some why.message

end HttpScript
