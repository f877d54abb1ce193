import HttpScript.Proofs.Run.Order
import Mathlib

/-!
# A run is made up of its steps

What a handler does, but for its records, does not depend on its log, and nothing but the position
is carried from one request to the next. So a run of two lists of requests one after the other is a
run of the first, gone on with from where it stopped by a run of the second; and when the first does
not complete, it is all that happens.
-/
namespace HttpScript

variable {σ : Type}

/-! ### What the log makes no difference to -/

/-- Two requests handled with the same result, and with nothing to tell them apart but records. -/
structure StepRun.SameButLog (x y : StepRun σ) : Prop where
  outcome : x.outcome = y.outcome
  context : x.context = y.context
  link : x.link = y.link
  seen : outward x.journal = outward y.journal

/-- Two runs with the same end, and with nothing to tell them apart but records. -/
structure Run.SameButLog (x y : Run σ) : Prop where
  ending : x.ending = y.ending
  position : x.position = y.position
  seen : outward x.journal = outward y.journal

/-- A handler that does the same whatever its log is bound to. -/
def Handler.IgnoresLog (h : Handler σ) : Prop :=
  ∀ log log' r ctx link, (h.handle log r ctx link).SameButLog (h.handle log' r ctx link)

theorem Handler.sending_ignoresLog (send : Transport σ) (evaluate : Evaluator)
    (console : Console) : (Handler.sending send evaluate console).IgnoresLog := by
  intro log log' r ctx link
  by_cases hwritable : r.isWritable ctx.vars = true
  swap
  · rw [handle_of_unwritable _ _ _ _ _ (by simpa using hwritable),
      handle_of_unwritable _ _ _ _ _ (by simpa using hwritable)]
    exact ⟨rfl, rfl, rfl, rfl⟩
  rw [handle_of_writable _ _ _ _ _ hwritable, handle_of_writable _ _ _ _ _ hwritable]
  cases Step.exit send r ctx link with
  | template fails =>
    rw [Step.run_of_template _ _ _ fails, Step.run_of_template _ _ _ fails]
    exact ⟨rfl, rfl, rfl, rfl⟩
  | transport prepared sent =>
    rw [Step.run_of_transport _ _ _ prepared sent, Step.run_of_transport _ _ _ prepared sent]
    exact ⟨rfl, rfl, rfl, rfl⟩
  | status prepared sent fails =>
    rw [Step.run_of_status _ _ _ prepared sent fails, Step.run_of_status _ _ _ prepared sent fails]
    exact ⟨rfl, rfl, rfl, rfl⟩
  | passed prepared sent passes =>
    rw [Step.run_of_passed _ _ _ prepared sent passes,
      Step.run_of_passed _ _ _ prepared sent passes]
    refine ⟨rfl, ?_, rfl, ?_⟩
    · simp only [vars_capture]
    · simp

/-! ### Numbering on -/

/-- The end of a run whose steps are numbered on from `n`. -/
def RunEnd.after (n : Nat) : RunEnd → RunEnd
  | .completed steps => .completed (n + steps)
  | .stepFailed step why => .stepFailed (n + step) why
  | .crashed (.noOutcome handler step) => .crashed (.noOutcome handler (n + step))
  | e => e

theorem RunEnd.after_zero (e : RunEnd) : e.after 0 = e := by
  cases e with
  | completed | stepFailed => simp [RunEnd.after]
  | notAuthenticated => rfl
  | crashed why => cases why <;> simp [RunEnd.after]

/-- The report on a run that goes on after `n` steps. -/
def Report.after (n : Nat) (r : Report) : Report :=
  { r with failedStep := r.failedStep.map (n + ·), stepsRun := n + r.stepsRun }

/-- A run that has begun reports its steps, so its report can be numbered on. -/
theorem RunEnd.report?_after (n : Nat) {e : RunEnd} (h : ∀ why, e ≠ .notAuthenticated why) :
    (e.after n).report? = e.report?.map (Report.after n) := by
  cases e with
  | completed | stepFailed => rfl
  | notAuthenticated why => exact absurd rfl (h why)
  | crashed why => cases why <;> rfl

namespace Run

/-- A run whose steps are numbered on from `n`. -/
def after (n : Nat) (b : Run σ) : Run σ := { b with ending := b.ending.after n }

theorem after_zero (b : Run σ) : b.after 0 = b := by rw [after, RunEnd.after_zero]

/-- Two runs whose first requests are handled with the same result, and are waited for alike, are the
same but for the log if what follows is. -/
theorem steps_cons_sameButLog {s : Setup σ} {log log' : Logger} {k n m : Nat} (hk : k = n + m)
    {r r' : Request} {rest rest' : List Request} {p : Position σ} {x y : StepRun σ}
    (hx : s.handler.handle (stepLog log k r) r (enter s p) p.link = x)
    (hy : s.handler.handle (stepLog log' m r') r' (enter s p) p.link = y)
    (hstep : x.SameButLog y) (hwaitMs : r.waitMs = r'.waitMs)
    (hrest : y.outcome = .passed → (steps s log (k + 1) rest (next p y)).SameButLog
      ((steps s log' (m + 1) rest' (next p y)).after n)) :
    (steps s log k (r :: rest) p).SameButLog ((steps s log' m (r' :: rest') p).after n) := by
  subst hk
  -- The journals differ in records only, and only these tell the logs and the numbers apart.
  have hnext : next p x = next p y := by rw [next, next, hstep.context, hstep.link]
  have hjournal : outward (stepJournal s (stepLog log (n + m) r) (n + m) r x) =
      outward (stepJournal s (stepLog log' m r') m r' y) := by
    rw [outward_stepJournal, outward_stepJournal, hstep.seen]
  have hpause : outward (pause s.console (stepLog log (n + m) r) r.waitMs).2 =
      outward (pause s.console (stepLog log' m r') r'.waitMs).2 := by
    rw [outward_pause, outward_pause, hwaitMs]
  cases houtcome : y.outcome with
  | unwritable =>
    rw [steps_of_unwritable hx (hstep.outcome.trans houtcome), steps_of_unwritable hy houtcome,
      hnext]
    exact ⟨rfl, rfl, hstep.seen⟩
  | missing =>
    rw [steps_of_missing hx (hstep.outcome.trans houtcome), steps_of_missing hy houtcome, hnext]
    exact ⟨rfl, rfl, hjournal⟩
  | failed why =>
    rw [steps_of_failed hx (hstep.outcome.trans houtcome), steps_of_failed hy houtcome, hnext]
    exact ⟨rfl, rfl, hjournal⟩
  | passed =>
    by_cases hwait : 0 < r'.waitMs ∧ seconds? r'.waitMs = none
    · rw [steps_of_endless hx (hstep.outcome.trans houtcome) (hwaitMs ▸ hwait),
        steps_of_endless hy houtcome hwait, hnext]
      refine ⟨rfl, rfl, ?_⟩
      simp only [after, outward_append, hjournal, hpause]
    · rw [steps_of_passed hx (hstep.outcome.trans houtcome) (hwaitMs ▸ hwait),
        steps_of_passed hy houtcome hwait, hnext]
      obtain ⟨hending, hposition, hseen⟩ := hrest houtcome
      refine ⟨hending, hposition, ?_⟩
      simp only [prepend, after, outward_append, hjournal, hpause]
      exact congrArg _ hseen

/-- The number of the first step shows in the end of a run and nowhere else besides the log. -/
theorem steps_numbered_on {s : Setup σ} (hs : s.handler.IgnoresLog) (log log' : Logger)
    (n m : Nat) (rest : List Request) (p : Position σ) :
    (steps s log (n + (m + 1)) rest p).SameButLog ((steps s log' (m + 1) rest p).after n) := by
  induction rest generalizing m p with
  | nil => exact ⟨rfl, rfl, rfl⟩
  | cons r rest ih =>
    exact steps_cons_sameButLog rfl rfl rfl (hs _ _ r (enter s p) p.link) rfl fun _ =>
      ih (m + 1) _

/-- The first request of a list either stops the run, whatever comes after it, or has its effects
and leaves the rest to be run from where it stands. -/
theorem steps_cons (s : Setup σ) (log : Logger) (number : Nat) (r : Request) (p : Position σ) :
    let result := s.handler.handle (stepLog log number r) r (enter s p) p.link
    (∃ ending effects, (∀ k, ending ≠ .completed k) ∧ (∀ why, ending ≠ .notAuthenticated why) ∧
        ∀ rest, steps s log number (r :: rest) p = ⟨ending, next p result, effects⟩) ∨
      ∃ effects, ∀ rest, steps s log number (r :: rest) p =
        (steps s log (number + 1) rest (next p result)).prepend effects := by
  intro result
  have hresult : s.handler.handle (stepLog log number r) r (enter s p) p.link = result := rfl
  cases houtcome : result.outcome with
  | unwritable =>
    exact .inl ⟨_, _, fun _ => (by simp), fun _ => (by simp),
      steps_of_unwritable hresult houtcome⟩
  | missing =>
    exact .inl ⟨_, _, fun _ => (by simp), fun _ => (by simp), steps_of_missing hresult houtcome⟩
  | failed why =>
    exact .inl ⟨_, _, fun _ => (by simp), fun _ => (by simp), steps_of_failed hresult houtcome⟩
  | passed =>
    by_cases hwait : 0 < r.waitMs ∧ seconds? r.waitMs = none
    · exact .inl ⟨_, _, fun _ => (by simp), fun _ => (by simp),
        steps_of_endless hresult houtcome hwait⟩
    · exact .inr ⟨_, steps_of_passed hresult houtcome hwait⟩

theorem steps_ne_notAuthenticated (s : Setup σ) (log : Logger) (rest : List Request)
    (number : Nat) (p : Position σ) (why : String) :
    (steps s log number rest p).ending ≠ .notAuthenticated why := by
  induction rest generalizing number p with
  | nil => simp [steps]
  | cons r rest ih =>
    obtain ⟨ending, effects, -, hne, hrun⟩ | ⟨effects, hrun⟩ := steps_cons s log number r p
    · rw [hrun]
      exact hne why
    · rw [hrun]
      exact ih _ _

/-- Requests that complete are followed by the others, numbered on from them; requests that do not
are all that is run. -/
theorem steps_append {s : Setup σ} (hs : s.handler.IgnoresLog) (log : Logger)
    (A B : List Request) (n : Nat) (p : Position σ) :
    let a := steps s log (n + 1) A p
    let whole := steps s log (n + 1) (A ++ B) p
    (∀ k, a.ending = .completed k → ∀ log',
      let b := steps s log' 1 B a.position
      whole.ending = b.ending.after (n + A.length) ∧ whole.position = b.position ∧
        outward whole.journal = outward a.journal ++ outward b.journal) ∧
      ((∀ k, a.ending ≠ .completed k) → whole = a) := by
  induction A generalizing n p with
  | nil =>
    refine ⟨fun k _ log' => ?_, fun hne => absurd rfl (hne n)⟩
    have h := steps_numbered_on hs log log' n 0 B p
    exact ⟨h.ending, h.position, h.seen⟩
  | cons r A ih =>
    obtain ⟨ending, effects, hne, -, hrun⟩ | ⟨effects, hrun⟩ := steps_cons s log (n + 1) r p
    · intro a whole
      have ha : a = _ := hrun A
      have hwhole : whole = _ := hrun (A ++ B)
      refine ⟨fun k hk => ?_, fun _ => ?_⟩
      · rw [ha] at hk
        exact absurd hk (hne k)
      · rw [ha, hwhole]
    · intro a whole
      have ha : a = _ := hrun A
      have hwhole : whole = _ := hrun (A ++ B)
      obtain ⟨hcompleted, hstopped⟩ := ih (n + 1) _
      rw [ha, hwhole]
      refine ⟨fun k hk log' => ?_, fun hne => ?_⟩
      · obtain ⟨hending, hposition, hseen⟩ := hcompleted k hk log'
        refine ⟨hending.trans ?_, hposition, ?_⟩
        · rw [List.length_cons, Nat.add_assoc, Nat.add_comm 1]
          rfl
        · simp only [prepend, outward_append, List.append_assoc]
          exact congrArg _ hseen
      · rw [hstopped hne]

end Run

/-! ### What every request keeps -/

/-- A handler that changes neither the name of the run nor its token. -/
def Handler.KeepsRun (h : Handler σ) : Prop := ∀ log r ctx link,
  (h.handle log r ctx link).context.runId = ctx.runId ∧
    (h.handle log r ctx link).context.token = ctx.token

theorem Handler.sending_keepsRun (send : Transport σ) (evaluate : Evaluator) (console : Console) :
    (Handler.sending send evaluate console).KeepsRun := by
  intro log r ctx link
  by_cases hwritable : r.isWritable ctx.vars = true
  swap
  · rw [handle_of_unwritable _ _ _ _ _ (by simpa using hwritable)]
    exact ⟨rfl, rfl⟩
  rw [handle_of_writable _ _ _ _ _ hwritable]
  cases Step.exit send r ctx link with
  | template fails =>
    rw [Step.run_of_template _ _ _ fails]
    exact ⟨rfl, rfl⟩
  | transport prepared sent =>
    rw [Step.run_of_transport _ _ _ prepared sent]
    exact ⟨rfl, rfl⟩
  | status prepared sent fails =>
    rw [Step.run_of_status _ _ _ prepared sent fails]
    exact ⟨rfl, rfl⟩
  | passed prepared sent passes =>
    rw [Step.run_of_passed _ _ _ prepared sent passes]
    exact ⟨rfl, rfl⟩

theorem Run.steps_keepsRun {s : Setup σ} (hs : s.handler.KeepsRun) (log : Logger)
    (rest : List Request) (number : Nat) (p : Position σ) :
    (steps s log number rest p).position.context.runId = p.context.runId ∧
      (steps s log number rest p).position.context.token = p.context.token := by
  induction rest generalizing number p with
  | nil => exact ⟨rfl, rfl⟩
  | cons r rest ih =>
    have hkept := hs (log.bind [("step", .int number), ("line", .int r.line)]) r (enter s p) p.link
    obtain ⟨ending, effects, -, -, hrun⟩ | ⟨effects, hrun⟩ := steps_cons s log number r p
    · rw [hrun]
      exact hkept
    · rw [hrun]
      obtain ⟨hid, htoken⟩ := ih (number + 1) _
      exact ⟨hid.trans hkept.1, htoken.trans hkept.2⟩

/-! ### The whole run -/

/-- The parties of a run that is gone on with: the token is there already. -/
def Setup.resuming (s : Setup σ) (token : String) : Setup σ :=
  { s with login := fun link => (.ok token, link) }

theorem Run.steps_resuming (s : Setup σ) (token : String) (log : Logger) (rest : List Request)
    (number : Nat) (p : Position σ) :
    steps (s.resuming token) log number rest p = steps s log number rest p := by
  induction rest generalizing number p with
  | nil => rfl
  | cons r rest ih =>
    rw [steps, steps]
    simp only [ih]
    rfl

/-- To run further requests with the same token is to go on with the steps. -/
theorem execute_resuming {s : Setup σ} (hs : s.handler.IgnoresLog) (B : List Request)
    (p : Position σ) (log : Logger) (hname : p.context.runId.isEmpty = false) :
    (execute (s.resuming p.context.token) B p).SameButLog (Run.steps s log 1 B p) := by
  have hnamed : nameRun (s.resuming p.context.token) p = p := by
    rw [nameRun, hname]
    rfl
  have hlogin : (s.resuming p.context.token).login
      (nameRun (s.resuming p.context.token) p).link = (.ok p.context.token, p.link) := by
    rw [hnamed]
    rfl
  have hposition : loggedIn (s.resuming p.context.token) p p.context.token p.link = p := by
    rw [loggedIn, hnamed]
  rw [execute_of_token hlogin B, hposition, Run.steps_resuming]
  have h := Run.steps_numbered_on hs (runLog (s.resuming p.context.token) p) log 0 0 B p
  exact ⟨h.ending.trans (RunEnd.after_zero _), h.position, h.seen⟩

/-- A run of two lists of requests is a run of the first, and, if all of these pass, of the steps of
the second from where the first has left the context, the link and the identifiers. -/
theorem execute_append (send : Transport σ) (evaluate : Evaluator) (s : Setup σ)
    (A B : List Request) (p : Position σ) :
    let s := { s with handler := .sending send evaluate s.console }
    let a := execute s A p
    let whole := execute s (A ++ B) p
    (∀ steps, a.ending = .completed steps →
      (s.login (nameRun s p).link).1 = .ok a.position.context.token ∧
      ∀ log,
        let b := Run.steps s log 1 B a.position
        whole.ending.report? = b.ending.report?.map (Report.after A.length) ∧
        whole.position = b.position ∧
        outward whole.journal = outward a.journal ++ outward b.journal ∧
        (a.position.context.runId.isEmpty = false →
          (execute (s.resuming a.position.context.token) B a.position).SameButLog b)) ∧
    ((∀ steps, a.ending ≠ .completed steps) → whole.SameButLog a) := by
  intro s
  have hignores : s.handler.IgnoresLog := Handler.sending_ignoresLog send evaluate s.console
  have hkeeps : s.handler.KeepsRun := Handler.sending_keepsRun send evaluate s.console
  obtain ⟨answer, link, hlogin⟩ : ∃ answer link, s.login (nameRun s p).link = (answer, link) :=
    ⟨_, _, rfl⟩
  cases answer with
  | error why =>
    rw [execute_of_no_token hlogin A, execute_of_no_token hlogin (A ++ B)]
    intro a whole
    exact ⟨fun steps hsteps => (by cases hsteps), fun _ => ⟨rfl, rfl, rfl⟩⟩
  | ok token =>
    rw [execute_of_token hlogin A, execute_of_token hlogin (A ++ B), hlogin]
    set log := runLog s p
    set start := loggedIn s p token link
    have happend := Run.steps_append hignores log A B 0 start
    simp only [Nat.zero_add] at happend
    obtain ⟨hcompleted, hstopped⟩ := happend
    obtain ⟨-, htoken⟩ := Run.steps_keepsRun hkeeps log A 1 start
    refine ⟨fun steps hsteps => ⟨congrArg Except.ok htoken.symm, fun log' => ?_⟩, fun hne => ?_⟩
    · obtain ⟨hending, hposition, hseen⟩ := hcompleted steps hsteps log'
      refine ⟨?_, hposition, hseen, execute_resuming hignores B _ log'⟩
      exact (congrArg RunEnd.report? hending).trans
        (RunEnd.report?_after _ (Run.steps_ne_notAuthenticated s log' B 1 _))
    · rw [hstopped hne]
      exact ⟨rfl, rfl, rfl⟩

namespace Scenario

/-- The second request is refused as the first one of its own list, and as the second one of both. -/
theorem execute_append_refusal :
    let start : Position (List Call) := ⟨refusal.context, [], refusal.taken⟩
    let first := execute refusal.setup (refusal.requests.take 1) start
    let second := Run.steps refusal.setup {} 1 (refusal.requests.drop 1) first.position
    let refused (step : Nat) : Report := {
      ok := false
      failedStep := some step
      errorMessage := some "expected 200 but got 404"
      expectedStatus := some 200
      actualStatus := some 404
      stepsRun := step }
    first.ending = .completed 1 ∧ second.ending.report? = some (refused 1) ∧
      refusal.run.ending.report? = some (refused 2) ∧
      outward refusal.run.journal = outward first.journal ++ outward second.journal := by
  intro start first second refused
  have hfirst : first.ending = .completed 1 := by decide +kernel
  have hsecond : second.ending.report? = some (refused 1) := by decide +kernel
  have hrun : refusal.run =
      execute refusal.setup (refusal.requests.take 1 ++ refusal.requests.drop 1) start := by
    rw [List.take_append_drop]
    rfl
  obtain ⟨-, h⟩ := (execute_append refusal.send refusal.evaluate refusal.setup
    (refusal.requests.take 1) (refusal.requests.drop 1) start).1 1 hfirst
  obtain ⟨hreport, -, hseen, -⟩ := h {}
  rw [hrun]
  exact ⟨hfirst, hsecond, hreport.trans (congrArg (Option.map (Report.after 1)) hsecond), hseen⟩

end Scenario

end HttpScript
