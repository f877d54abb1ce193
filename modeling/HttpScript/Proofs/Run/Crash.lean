import HttpScript.Proofs.Run.Order
import HttpScript.Proofs.Script.Problems

/-!
# When a run gives no report

Whatever goes wrong with the login, a template, the transport, a status or a capture, a run ends with
a report. Only two things can take the report away: a body that has no text, which the check of a
script finds, and a pause. A checked script has no negative pauses, but how long they are is not
checked, and a pause of too many milliseconds is no number of seconds.
-/
namespace HttpScript

/-- Beyond 403 digits no pause is a number of seconds. -/
theorem seconds?_of_pow_le {ms : Int} {e : Nat} (he : 403 ≤ e) (h : 10 ^ e ≤ ms) :
    seconds? ms = none := by
  have hpow : 10 ^ e ≤ ms.natAbs := by
    have hcast : ((10 ^ e : Nat) : Int) ≤ ms := by simpa using h
    omega
  have hlength := Decimal.lt_length_toDigits (by omega) hpow
  have hne : ms.natAbs ≠ 0 := (Nat.lt_of_lt_of_le (Nat.pow_pos (by decide)) hpow).ne'
  have hinfinite := Decimal.isFinite_nearest (ms < 0) hne
    (show ((Nat.toDigits 10 ms.natAbs).length : Int) + -3 > 400 by omega)
  rw [seconds?, hinfinite]
  rfl

/-- Of a pause only the sign is checked. -/
theorem flaws_of_wait {r : Request} {ms : Int} (h : r.flaws = []) (hms : 0 ≤ ms) :
    Request.flaws { r with waitMs := ms } = [] := by
  have hwait : ¬ ms < 0 := Int.not_lt.2 hms
  simp only [Request.flaws, List.append_eq_nil_iff, if_neg hwait] at h ⊢
  obtain ⟨⟨⟨⟨⟨hmethod, hurl⟩, hbody⟩, hstatus⟩, -⟩, hcaptures⟩ := h
  exact ⟨⟨⟨⟨⟨hmethod, hurl⟩, hbody⟩, hstatus⟩, trivial⟩, hcaptures⟩

/-- Once a request has no flaws, its integers are short. -/
theorem hasShortIntegers_of_flaws {r : Request} (h : r.flaws = []) :
    ∀ v ∈ r.body, v.HasShortIntegers := by
  intro v hv
  have hproblem : bodyProblem? v = none := by
    simp only [Request.flaws, List.append_eq_nil_iff] at h
    obtain ⟨⟨⟨⟨-, hbody⟩, -⟩, -⟩, -⟩ := h
    rw [hv] at hbody
    simpa using hbody
  have hfault : v.numberFault? true = none := by
    cases hfault : v.numberFault? true with
    | none => rfl
    | some fault =>
      rw [bodyProblem?, hfault] at hproblem
      cases fault <;> cases hproblem
  exact (Json.numberFault?_eq_none_iff.1 hfault).mono (fun _ => id) fun _ _ => trivial

namespace Scenario

variable {S : Scenario}

theorem not_canWait_iff {n : Nat} :
    ¬ S.CanWait n ↔ ∃ r, S.requests[n]? = some r ∧ 0 < r.waitMs ∧ seconds? r.waitMs = none := by
  simp only [CanWait, not_forall, not_not, exists_prop]

theorem not_canWrite_iff {n : Nat} :
    ¬ S.CanWrite n ↔ ∃ r, S.requests[n]? = some r ∧ r.isWritable (S.entered n) = false := by
  simp only [CanWrite, not_forall, exists_prop, Bool.not_eq_true]

/-- The request with an index cannot be written, or it passes and cannot be waited for. -/
def Breaks (S : Scenario) (n : Nat) : Prop :=
  ¬ S.CanWrite n ∨ S.failure n = none ∧ ¬ S.CanWait n

theorem lt_of_breaks {n : Nat} (h : S.Breaks n) : n < S.requests.length := by
  have hget : ∃ r, S.requests[n]? = some r := by
    rcases h with hwrite | ⟨-, hwait⟩
    · obtain ⟨r, hr, -⟩ := not_canWrite_iff.1 hwrite
      exact ⟨r, hr⟩
    · obtain ⟨r, hr, -⟩ := not_canWait_iff.1 hwait
      exact ⟨r, hr⟩
  obtain ⟨r, hr⟩ := hget
  exact (List.getElem?_eq_some_iff.1 hr).1

/-- A run whose first requests pass, up to one that breaks it, ends there or before. -/
theorem Reaches.passed_le {run : Run (List Call)} {passed begun n : Nat}
    (h : S.Reaches 0 run passed begun) (hbreaks : S.Breaks n) : passed ≤ n := by
  by_contra hlt
  rcases hbreaks with hwrite | ⟨-, hwait⟩
  · exact hwrite (h.writes n (Nat.lt_of_not_le hlt))
  · exact hwait (h.waits n (Nat.lt_of_not_le hlt))

/-- A run crashes in two ways only: all requests have passed up to one that has no text, or up to one
that passes as well and whose pause is too long. -/
theorem exists_crashed_iff (S : Scenario) :
    (∃ why, S.run.ending = .crashed why) ↔
      (∃ token, S.token = .ok token) ∧ ∃ n, (∀ i < n, S.failure i = none) ∧ S.Breaks n := by
  cases htoken : S.token with
  | error reason =>
    rw [(run_of_no_token htoken).1]
    simp
  | ok token =>
    obtain ⟨passed, begun, h⟩ := run_reaches htoken
    have hends := h.ends
    generalize S.run.position.context.vars = vars at hends
    constructor
    · rintro ⟨why, hcrash⟩
      rw [hcrash] at hends
      refine ⟨⟨token, rfl⟩, passed, h.passes, ?_⟩
      cases hends with
      | unwritable begun fails => exact .inl (not_canWrite_iff.2 ⟨_, begun, fails⟩)
      | crashed begun writable passes waits endless =>
        exact .inr ⟨passes, not_canWait_iff.2 ⟨_, begun, waits, endless⟩⟩
    · rintro ⟨-, n, hpasses, hbreaks⟩
      have hle : passed ≤ n := h.passed_le hbreaks
      have hinside := lt_of_breaks hbreaks
      generalize S.run.ending = ending at hends ⊢
      cases hends with
      | completed all => omega
      | failed writable fails =>
        rcases Nat.lt_or_eq_of_le hle with hlt | rfl
        · rw [hpasses passed hlt] at fails
          cases fails
        · rcases hbreaks with hwrite | ⟨hnone, -⟩
          · exact absurd writable hwrite
          · rw [hnone] at fails
            cases fails
      | unwritable => exact ⟨_, rfl⟩
      | crashed => exact ⟨_, rfl⟩

theorem report?_eq_none_iff_crashed {ending : RunEnd} :
    ending.report? = none ↔ ∃ why, ending = .crashed why := by
  cases ending <;> simp [RunEnd.report?]

/-- The bodies of a script without problems hold short integers. -/
theorem canWrite_of_problems (h : problems S.requests = []) (n : Nat) : S.CanWrite n := by
  intro r hr
  obtain ⟨-, hflaws⟩ := problems_eq_nil_iff.1 h
  refine Request.isWritable_of_short (fun v hv => ?_) _
  exact hasShortIntegers_of_flaws (hflaws r (List.mem_of_getElem? hr)) v hv

/-- A run of a script without problems gives a report unless it comes to the end of a request that
passes and whose pause, in milliseconds, is no number of seconds. Without the check of the script, a
body without a text takes the report away as well. -/
theorem report?_eq_none_iff (S : Scenario) :
    (problems S.requests = [] →
      (S.run.ending.report? = none ↔
        (∃ token, S.token = .ok token) ∧
          ∃ n r, S.requests[n]? = some r ∧ 0 < r.waitMs ∧ seconds? r.waitMs = none ∧
            ∀ i ≤ n, S.failure i = none)) ∧
    (S.run.ending.report? = none ↔
      (∃ token, S.token = .ok token) ∧
        ∃ n r, S.requests[n]? = some r ∧ (∀ i < n, S.failure i = none) ∧
          (r.isWritable (S.entered n) = false ∨
            S.failure n = none ∧ 0 < r.waitMs ∧ seconds? r.waitMs = none)) := by
  rw [report?_eq_none_iff_crashed, exists_crashed_iff]
  refine ⟨fun hproblems => and_congr_right fun _ => ?_, and_congr_right fun _ => ?_⟩
  · constructor
    · rintro ⟨n, hpasses, hwrite | ⟨hpassed, hwait⟩⟩
      · exact absurd (canWrite_of_problems hproblems n) hwrite
      · obtain ⟨r, hr, hpositive, hendless⟩ := not_canWait_iff.1 hwait
        have hall := Nat.forall_lt_succ_right.2 ⟨hpasses, hpassed⟩
        exact ⟨n, r, hr, hpositive, hendless, fun i hi => hall i (Nat.lt_succ_of_le hi)⟩
    · rintro ⟨n, r, hr, hpositive, hendless, hpasses⟩
      exact ⟨n, fun i hi => hpasses i hi.le,
        .inr ⟨hpasses n le_rfl, not_canWait_iff.2 ⟨r, hr, hpositive, hendless⟩⟩⟩
  · constructor
    · rintro ⟨n, hpasses, hwrite | ⟨hpassed, hwait⟩⟩
      · obtain ⟨r, hr, hwritable⟩ := not_canWrite_iff.1 hwrite
        exact ⟨n, r, hr, hpasses, .inl hwritable⟩
      · obtain ⟨r, hr, hpositive, hendless⟩ := not_canWait_iff.1 hwait
        exact ⟨n, r, hr, hpasses, .inr ⟨hpassed, hpositive, hendless⟩⟩
    · rintro ⟨n, r, hr, hpasses, hwritable | ⟨hpassed, hpositive, hendless⟩⟩
      · exact ⟨n, hpasses, .inl (not_canWrite_iff.2 ⟨r, hr, hwritable⟩)⟩
      · exact ⟨n, hpasses, .inr ⟨hpassed, not_canWait_iff.2 ⟨r, hr, hpositive, hendless⟩⟩⟩

/-- A request that passes. -/
def plainRequest : Request := { method := "GET", url := "http://host/a" }

/-- One request that passes, and a pause after it. -/
def paused (ms : Int) : Scenario :=
  { refusal with requests := [{ plainRequest with waitMs := ms }] }

theorem problems_paused {ms : Int} (h : 0 ≤ ms) : problems (paused ms).requests = [] := by
  have hflaws : plainRequest.flaws = [] := by decide +kernel
  have hpaused : Request.flaws { plainRequest with waitMs := ms } = [] := flaws_of_wait hflaws h
  show problemsFrom 1 [{ plainRequest with waitMs := ms }] = []
  rw [problemsFrom, hpaused, problemsFrom]
  rfl

theorem failure_paused (ms : Int) : ∀ i ≤ 0, (paused ms).failure i = none := by
  intro i hi
  obtain rfl : i = 0 := by omega
  cbv

theorem not_canWait_paused : ¬ (paused (10 ^ 403)).CanWait 0 :=
  not_canWait_iff.2
    ⟨_, rfl, pow_pos (by decide) 403, seconds?_of_pow_le (le_refl 403) (le_refl (10 ^ 403))⟩

/-- A script whose check finds nothing, and whose run gives no report for its pause. -/
theorem report?_eq_none_iff_paused :
    problems (paused (10 ^ 403)).requests = [] ∧ (paused (10 ^ 403)).run.ending.report? = none := by
  have hproblems := problems_paused (show (0 : Int) ≤ 10 ^ 403 by positivity)
  obtain ⟨r, hr, hpositive, hendless⟩ := not_canWait_iff.1 not_canWait_paused
  exact ⟨hproblems, ((report?_eq_none_iff _).1 hproblems).2
    ⟨⟨"token", rfl⟩, 0, r, hr, hpositive, hendless, failure_paused _⟩⟩

/-- A script without problems may still have no report. -/
theorem not_forall_report :
    ¬ ∀ S : Scenario, problems S.requests = [] → ∃ report, S.run.ending.report? = some report := by
  intro h
  have hnone : (paused (10 ^ 403)).run.ending.report? = none :=
    report?_eq_none_iff_crashed.2 ((exists_crashed_iff _).2
      ⟨⟨"token", rfl⟩, 0, fun i hi => absurd hi (Nat.not_lt_zero i),
        .inr ⟨failure_paused _ 0 le_rfl, not_canWait_paused⟩⟩)
  obtain ⟨report, hreport⟩ := h (paused (10 ^ 403)) (problems_paused (by positivity))
  rw [hnone] at hreport
  cases hreport

end Scenario

end HttpScript
