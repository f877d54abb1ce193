import HttpScript.Run.Execute

/-!
# A run, one request at a time

What the first request of several comes to: the run ends there, or goes on with the others from the
position that is reached. The same is said once of the login before the first request.
-/
namespace HttpScript

def Effect.isLogged : Effect → Bool
  | .logged _ => true
  | _ => false

/-- What can be seen of a run besides its log. -/
def outward (journal : List Effect) : List Effect := journal.filter fun e => !e.isLogged

@[simp] theorem outward_append (a b : List Effect) : outward (a ++ b) = outward a ++ outward b :=
  List.filter_append _ _

@[simp] theorem outward_logged (r : Record) (journal : List Effect) :
    outward (.logged r :: journal) = outward journal := rfl

@[simp] theorem outward_sent (m : Outgoing) (journal : List Effect) :
    outward (.sent m :: journal) = .sent m :: outward journal := rfl

@[simp] theorem outward_printed (lines : List String) (journal : List Effect) :
    outward (.printed lines :: journal) = .printed lines :: outward journal := rfl

@[simp] theorem outward_nil : outward [] = [] := rfl

@[simp] theorem outward_records (rs : List Record) : outward (rs.map .logged) = [] := by
  induction rs with
  | nil => rfl
  | cons r rs ih => exact ih

theorem outward_pause (console : Console) (log : Logger) (ms : Int) :
    outward (pause console log ms).2 =
      if 0 < ms then .printed (console.waitLines ms) :: ((seconds? ms).map Effect.slept).toList
      else [] := by
  unfold pause
  by_cases h : ms ≤ 0
  · rw [if_pos h, if_neg (by omega)]
    rfl
  · rw [if_neg h, if_pos (by omega)]
    cases seconds? ms <;> rfl

/-- A pause crashes only when its length is no number of seconds. -/
theorem pause_crash (console : Console) (log : Logger) (ms : Int) :
    (pause console log ms).1 =
      if 0 < ms ∧ seconds? ms = none then some .endlessWait else none := by
  unfold pause
  by_cases h : ms ≤ 0
  · rw [if_pos h, if_neg (by omega)]
  · rw [if_neg h]
    cases hs : seconds? ms with
    | none => simp; omega
    | some x => simp

/-! ### The handler that sends -/

section

variable {σ : Type} {r : Request} {ctx : Context} (send : Transport σ) (evaluate : Evaluator)
  (console : Console) (log : Logger) (link : σ)

theorem Handler.handle_of_writable (h : r.isWritable ctx.vars = true) :
    (Handler.sending send evaluate console).handle log r ctx link =
      Step.run send evaluate console log r ctx link := if_pos h

theorem Handler.handle_of_unwritable (h : r.isWritable ctx.vars = false) :
    (Handler.sending send evaluate console).handle log r ctx link = ⟨.unwritable, ctx, link, []⟩ :=
  if_neg (by rw [h]; exact Bool.false_ne_true)

end

/-! ### The first of several requests -/

namespace Run

/-- The log of the request with a number. -/
def stepLog (log : Logger) (number : Nat) (r : Request) : Logger :=
  log.bind [("step", .int number), ("line", .int r.line)]

/-- The position after a request. -/
def next {σ : Type} (p : Position σ) (result : StepRun σ) : Position σ :=
  ⟨result.context, result.link, p.taken + 1⟩

section

variable {σ : Type} {s : Setup σ} {log : Logger} {number : Nat} {r : Request} {p : Position σ}
  {result : StepRun σ}
  (hresult : s.handler.handle (stepLog log number r) r (enter s p) p.link = result)
include hresult

/-- A request that breaks off ends the run without the record of its own end. -/
theorem steps_of_unwritable (h : result.outcome = .unwritable) (rest : List Request) :
    steps s log number (r :: rest) p = ⟨.crashed .longInteger, next p result,
      begunJournal (stepLog log number r) r result⟩ := by
  rw [stepLog] at hresult
  rw [steps]
  simp only [hresult, h]
  rfl

theorem steps_of_missing (h : result.outcome = .missing) (rest : List Request) :
    steps s log number (r :: rest) p = ⟨.crashed (.noOutcome s.handler.name number), next p result,
      stepJournal s (stepLog log number r) number r result⟩ := by
  rw [stepLog] at hresult
  rw [steps]
  simp only [hresult, h]
  rfl

theorem steps_of_failed {why : StepFailure} (h : result.outcome = .failed why)
    (rest : List Request) :
    steps s log number (r :: rest) p = ⟨.stepFailed number why, next p result,
      stepJournal s (stepLog log number r) number r result⟩ := by
  rw [stepLog] at hresult
  rw [steps]
  simp only [hresult, h]
  rfl

/-- A request that passed, but whose pause has no length, ends the run. -/
theorem steps_of_endless (h : result.outcome = .passed)
    (hwait : 0 < r.waitMs ∧ seconds? r.waitMs = none) (rest : List Request) :
    steps s log number (r :: rest) p = ⟨.crashed .endlessWait, next p result,
      stepJournal s (stepLog log number r) number r result ++
        (pause s.console (stepLog log number r) r.waitMs).2⟩ := by
  have hcrash := pause_crash s.console (stepLog log number r) r.waitMs
  rw [if_pos hwait] at hcrash
  rw [stepLog] at hresult hcrash ⊢
  rw [steps]
  generalize pause s.console _ r.waitMs = paused at hcrash ⊢
  obtain ⟨crash, effects⟩ := paused
  obtain rfl : crash = _ := hcrash
  simp only [hresult, h]
  rfl

/-- A request that passed is followed by the others. -/
theorem steps_of_passed (h : result.outcome = .passed)
    (hwait : ¬ (0 < r.waitMs ∧ seconds? r.waitMs = none)) (rest : List Request) :
    steps s log number (r :: rest) p = (steps s log (number + 1) rest (next p result)).prepend
      (stepJournal s (stepLog log number r) number r result ++
        (pause s.console (stepLog log number r) r.waitMs).2) := by
  have hcrash := pause_crash s.console (stepLog log number r) r.waitMs
  rw [if_neg hwait] at hcrash
  rw [stepLog] at hresult hcrash ⊢
  rw [steps]
  generalize pause s.console _ r.waitMs = paused at hcrash ⊢
  obtain ⟨crash, effects⟩ := paused
  obtain rfl : crash = _ := hcrash
  simp only [hresult, h]
  rfl

end

theorem outward_begunJournal {σ : Type} (log : Logger) (r : Request) (result : StepRun σ) :
    outward (begunJournal log r result) = outward result.journal := rfl

theorem outward_stepJournal {σ : Type} (s : Setup σ) (log : Logger) (number : Nat) (r : Request)
    (result : StepRun σ) : outward (stepJournal s log number r result) = outward result.journal := by
  simp [stepJournal, outward_begunJournal]

end Run

/-! ### Before the first request -/

section

variable {σ : Type} {s : Setup σ} {p : Position σ} {link : σ}

/-- The log of a run is bound to the name of the run. -/
def runLog (s : Setup σ) (p : Position σ) : Logger :=
  s.log.bind [("run_id", .text (nameRun s p).context.runId)]

/-- The position of a run that has got its token. -/
def loggedIn (s : Setup σ) (p : Position σ) (token : String) (link : σ) : Position σ :=
  { nameRun s p with context := { (nameRun s p).context with token := token }, link := link }

theorem execute_of_no_token {why : String} (h : s.login (nameRun s p).link = (.error why, link))
    (requests : List Request) :
    execute s requests p = ⟨.notAuthenticated why, { nameRun s p with link := link },
      [.logged ((runLog s p).record .info "run.start" [("steps", .int requests.length)]),
        .logged ((runLog s p).record .error "auth.failed" [("error", .text why)])]⟩ := by
  rw [execute]
  simp only [h]
  rfl

/-- A run that gets a token is its steps, after two records. -/
theorem execute_of_token {token : String} (h : s.login (nameRun s p).link = (.ok token, link))
    (requests : List Request) :
    execute s requests p =
      (Run.steps s (runLog s p) 1 requests (loggedIn s p token link)).prepend
        [.logged ((runLog s p).record .info "run.start" [("steps", .int requests.length)]),
          .logged ((runLog s p).record .debug "auth.ok" [])] := by
  rw [execute]
  simp only [h]
  rfl

end

end HttpScript
