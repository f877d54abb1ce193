import HttpScript.Proofs.Decimal
import HttpScript.Proofs.Decimal.Nearest
import HttpScript.Proofs.Run.Body
import HttpScript.Proofs.Run.Flow
import Mathlib

/-!
# Order and end of a run

A run asks for its token first and sends the requests in order. The first request that fails is the
last one sent, and the report names it. Pauses stand between a reply and the next message, and only
after requests that passed.
-/
namespace HttpScript

/-- What the caller of a run is told. -/
structure Report where
  ok : Bool
  failedStep : Option Nat := none
  errorMessage : Option String := none
  expectedStatus : Option Int := none
  actualStatus : Option Int := none
  stepsRun : Nat := 0
  deriving Repr, DecidableEq

/-- The expected and the actual status of a mismatch. -/
def StepFailure.statuses? : StepFailure → Option (Int × Int)
  | .status expected actual => some (expected, actual)
  | _ => none

/-- The request was rendered before it failed. -/
def StepFailure.isRendered : StepFailure → Bool
  | .template _ => false
  | _ => true

/-- The report of a run, unless it crashed. -/
def RunEnd.report? (e : RunEnd) : Option Report :=
  match e with
  | .completed steps => some { ok := true, stepsRun := steps }
  | .notAuthenticated _ => some { ok := false, errorMessage := e.message? }
  | .stepFailed step why => some {
      ok := false
      failedStep := some step
      errorMessage := e.message?
      expectedStatus := why.statuses?.map (·.1)
      actualStatus := why.statuses?.map (·.2)
      stepsRun := step }
  | .crashed _ => none

/-- The lengths of the pauses in a journal, in seconds. -/
def pauses (journal : List Effect) : List Float :=
  journal.filterMap fun
    | .slept seconds => some seconds
    | _ => none

/-! ### Pauses -/

/-- Milliseconds have a length in seconds up to the largest finite number. -/
theorem seconds?_eq_none_iff {ms : Int} (h : 0 < ms) :
    seconds? ms = none ↔ Decimal.overflowBound ≤ (ms : ℚ) / 1000 := by
  have hvalue : (ms.natAbs : ℚ) * 10 ^ (-3 : ℤ) = (ms : ℚ) / 1000 := by
    rw [Nat.cast_natAbs, abs_of_pos h, zpow_neg, div_eq_mul_inv]
    rfl
  rw [seconds?, decide_eq_false (Int.not_lt.2 h.le), ite_eq_right_iff, ← hvalue, ← not_lt,
    ← Decimal.isFinite_nearest_iff false]
  simp

/-- The length of a pause is the quotient by a thousand, rounded once. -/
theorem isNearest_of_seconds? {ms : Int} (h : 0 < ms) {x : Float} (hx : seconds? ms = some x) :
    Decimal.IsNearest (ms / 1000) x := by
  have hcast : (ms.natAbs : ℚ) = ms := by rw [Nat.cast_natAbs, abs_of_pos h]
  rw [seconds?, decide_eq_false (Int.not_lt.2 h.le)] at hx
  split at hx
  · obtain rfl := Option.some.inj hx
    rw [← hcast]
    exact Decimal.isNearest_nearest (by omega) ‹_›
  · cases hx

/-- The pauses of requests that have passed: one for each that asks for one, of the nearest length
in seconds. -/
def PausesFor (requests : List Request) (lengths : List Float) : Prop :=
  List.Forall₂ (fun r x => Decimal.IsNearest (r.waitMs / 1000) x)
    (requests.filter fun r => decide (0 < r.waitMs)) lengths

/-- The pause after a request that has passed, if any. -/
def Request.pause? (r : Request) : Option Float := if 0 < r.waitMs then seconds? r.waitMs else none

theorem pausesFor_pause? (requests : List Request)
    (h : ∀ r ∈ requests, 0 < r.waitMs → (r.waitMs : ℚ) / 1000 < Decimal.overflowBound) :
    PausesFor requests (requests.filterMap Request.pause?) := by
  induction requests with
  | nil => exact .nil
  | cons r rest ih =>
    have hrest := ih fun q hq => h q (List.mem_cons_of_mem _ hq)
    by_cases hwait : 0 < r.waitMs
    · obtain ⟨x, hx⟩ := Option.ne_none_iff_exists'.1
        (mt (seconds?_eq_none_iff hwait).1 (not_le.2 (h r List.mem_cons_self hwait)))
      rw [PausesFor, List.filter_cons_of_pos (by simpa using hwait),
        List.filterMap_cons_some (by rw [Request.pause?, if_pos hwait, hx])]
      exact .cons (isNearest_of_seconds? hwait hx) hrest
    · rw [PausesFor, List.filter_cons_of_neg (by simpa using hwait),
        List.filterMap_cons_none (by rw [Request.pause?, if_neg hwait])]
      exact hrest

theorem pauses_append (a b : List Effect) : pauses (a ++ b) = pauses a ++ pauses b :=
  List.filterMap_append

theorem pauses_outward (journal : List Effect) : pauses (outward journal) = pauses journal := by
  induction journal with
  | nil => rfl
  | cons e journal ih => cases e <;> simp [pauses, outward, Effect.isLogged] <;> exact ih

namespace Scenario

variable {S : Scenario}

theorem pauses_map_sent (ms : List Outgoing) : pauses (ms.map .sent) = [] := by
  induction ms with
  | nil => rfl
  | cons m ms ih => exact ih

/-- A request pauses the run only if it has passed. -/
theorem pauses_effects {n : Nat} {r : Request} (hr : S.requests[n]? = some r)
    (hwritable : r.isWritable (S.entered n) = true) :
    pauses (S.effects n) = if S.failure n = none then r.pause?.toList else [] := by
  have hpause : pauses (S.pauseEffects r.waitMs) = r.pause?.toList := by
    rw [pauseEffects, Request.pause?]
    split
    · cases seconds? r.waitMs <;> rfl
    · rfl
  rw [effects_eq hr, effectsOf, pauses_append, pauses_map_sent, List.nil_append, failure_eq hr]
  cases hm : S.prepared n r with
  | error e => rw [failureOf_of_template hm, sentBy_of_template hm]; rfl
  | ok m =>
    rw [sentBy_of_prepared hwritable hm]
    cases hreply : S.reply n with
    | error why => rw [failureOf_of_transport hm hreply]; rfl
    | ok reply =>
      by_cases hf : S.failureOf n r = none
      · simp only [if_pos hf]
        exact hpause
      · simp only [if_neg hf]
        rfl

theorem pauses_effectsBefore {n : Nat} (hpassed : ∀ i < n, S.failure i = none)
    (hwrite : ∀ i < n, S.CanWrite i) (hinside : n ≤ S.requests.length) :
    pauses (S.effectsBefore n) = (S.requests.take n).filterMap Request.pause? := by
  induction n with
  | zero => rfl
  | succ n ih =>
    have hr : S.requests[n]? = some S.requests[n] := List.getElem?_eq_getElem (by omega)
    rw [effectsBefore_succ, pauses_append,
      ih (fun i hi => hpassed i (by omega)) (fun i hi => hwrite i (by omega)) (by omega),
      pauses_effects hr (hwrite n (by omega) _ hr), if_pos (hpassed n (by omega)),
      List.take_add_one, hr, Option.toList_some, List.filterMap_append]
    cases h : S.requests[n].pause? <;> simp [h]

theorem isRendered_of_failure {n : Nat} {r : Request} {why : StepFailure}
    (hr : S.requests[n]? = some r) (h : S.failure n = some why) :
    why.isRendered = true ↔ ∃ m, S.prepared n r = .ok m := by
  rw [failure_eq hr] at h
  cases hm : S.prepared n r with
  | error e =>
    rw [failureOf_of_template hm] at h
    obtain rfl := Option.some.inj h
    simp [StepFailure.isRendered]
  | ok m =>
    simp only [Except.ok.injEq, exists_eq', iff_true]
    cases hreply : S.reply n with
    | error message =>
      rw [failureOf_of_transport hm hreply] at h
      rw [← Option.some.inj h]
      rfl
    | ok reply =>
      rw [failureOf_of_reply hm hreply] at h
      split at h
      · rw [← Option.some.inj h]; rfl
      · cases h

/-- The request that fails is sent as well if it was rendered. -/
theorem map_ok_sentBefore_failed {n : Nat} {why : StepFailure}
    (hpassed : ∀ i < n, S.failure i = none) (hwrite : ∀ i < n + 1, S.CanWrite i)
    (h : S.failure n = some why) :
    (S.sentBefore (n + 1)).map .ok =
      (S.requests.take (if why.isRendered then n + 1 else n)).mapIdx S.prepared := by
  have hinside := lt_of_failure h
  have hr : S.requests[n]? = some S.requests[n] := List.getElem?_eq_getElem hinside
  have hrender : ∀ i < n, ∀ r, S.requests[i]? = some r → ∃ m, S.prepared i r = .ok m :=
    fun i hi _ hr => prepared_of_failure hr (hpassed i hi)
  by_cases hrendered : why.isRendered = true
  · rw [if_pos hrendered]
    exact map_ok_sentBefore hinside hwrite
      (Nat.forall_lt_succ_right.2 ⟨hrender, fun r hr => (isRendered_of_failure hr h).1 hrendered⟩)
  · have hnot : ¬ ∃ m, S.prepared n S.requests[n] = .ok m :=
      fun hm => hrendered ((isRendered_of_failure hr h).2 hm)
    have hsent : S.sent n = [] := by
      rw [sent_eq hr]
      cases hm : S.prepared n S.requests[n] with
      | error e => exact sentBy_of_template hm
      | ok m => exact absurd ⟨m, hm⟩ hnot
    rw [if_neg hrendered, sentBefore_succ, hsent, List.append_nil,
      map_ok_sentBefore hinside.le (fun i hi => hwrite i (by omega)) hrender]

/-- The second request refers to what the first has captured, and expects another status than the
one it gets. -/
def refusal : Scenario where
  requests := [
    { method := "POST", url := "http://host/a", captures := [⟨"id", "."⟩, ⟨"uuid", "."⟩],
      waitMs := 500 },
    { method := "GET", url := "http://host/\x7b\x7b.id\x7d\x7d/\x7b\x7b.uuid\x7d\x7d",
      expectedStatus := 200 }]
  context := { runId := "run" }
  token := .ok "token"
  reply := fun n => .ok ⟨if n = 0 then 201 else 404, "", "7", [], ""⟩
  evaluate := fun _ document => ⟨[document], .done⟩
  console := {}
  log := {}
  identifier := fun n => "id" ++ toString n
  elapsedMs := fun _ => 0
  taken := 0

/-- One request whose body is an integer. -/
def posted (n : Int) : Scenario :=
  { refusal with requests := [{ method := "POST", url := "http://host/a", body := some (.int n) }] }

theorem failure_posted (n : Int) (i : Nat) : (posted n).failure i = none := by
  cases i with
  | zero => cbv
  | succ i => rfl

theorem not_isShort_pow {e : ℕ} (h : Json.integerDigitLimit ≤ e) : ¬ Json.IsShort (10 ^ e) := by
  have hlength := Decimal.lt_length_toDigits (Nat.lt_of_lt_of_le (by decide) h) (le_refl (10 ^ e))
  rw [Json.IsShort, not_le, Int.natAbs_pow]
  exact lt_of_le_of_lt h hlength

theorem not_canWrite_posted {n : Int} (h : ¬ Json.IsShort n) : ¬ (posted n).CanWrite 0 := by
  intro hwritable
  have hurl : expand ((posted n).entered 0) "http://host/a" = .ok "http://host/a" := by cbv
  have hlong : Request.isWritable
      { method := "POST", url := "http://host/a", body := some (.int n) } ((posted n).entered 0) =
        false := Request.isWritable_of_long rfl h hurl
  rw [hwritable _ rfl] at hlong
  cases hlong

end Scenario

end HttpScript
