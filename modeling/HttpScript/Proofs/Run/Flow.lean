import HttpScript.Proofs.Run.Steps

/-!
# How variables flow through a run

Every message of a run is its request rendered in the environment that the scenario tells: the
captures of all requests before it have been written, one over the other, and its own identifier is
fresh. Nothing but identifiers and captures ever changes a variable.
-/
namespace HttpScript.Scenario

variable {S : Scenario}

theorem Ends.begun_eq {k begun : Nat} {ending : RunEnd} {vars : Variables}
    (h : S.Ends k ending begun vars) : begun = k ∨ begun = k + 1 := by
  cases h with
  | completed => exact .inl rfl
  | failed | unwritable | crashed => exact .inr rfl

theorem lt_of_failure {n : Nat} {why : StepFailure} (h : S.failure n = some why) :
    n < S.requests.length := by
  rw [failure] at h
  obtain ⟨r, hr, -⟩ := Option.bind_eq_some_iff.1 h
  exact (List.getElem?_eq_some_iff.1 hr).1

theorem Ends.begun_le {k begun : Nat} {ending : RunEnd} {vars : Variables}
    (h : S.Ends k ending begun vars) : begun ≤ S.requests.length := by
  cases h with
  | completed all => exact all.le
  | failed _ fails => exact lt_of_failure fails
  | unwritable begun | crashed begun => exact (List.getElem?_eq_some_iff.1 begun).1

/-- The message with a number is the one of the request with this number. -/
theorem Reaches.prepared_of_sent {run : Run (List Call)} {passed begun : Nat}
    (h : S.Reaches 0 run passed begun) {n : Nat} {m : Outgoing}
    (hm : (S.sentBefore begun)[n]? = some m) :
    ∃ r, S.requests[n]? = some r ∧ S.prepared n r = .ok m := by
  have key : ∀ k ≤ S.requests.length, (∀ i < k, S.CanWrite i) →
      (∀ i < k, ∀ r, S.requests[i]? = some r → ∃ m, S.prepared i r = .ok m) →
      (S.sentBefore k)[n]? = some m → ∃ r, S.requests[n]? = some r ∧ S.prepared n r = .ok m := by
    intro k hk hwrite hrender hsent
    have hmap : ((S.requests.take k).mapIdx S.prepared)[n]? = some (.ok m) := by
      rw [← map_ok_sentBefore hk hwrite hrender, List.getElem?_map, hsent]
      rfl
    rw [List.getElem?_mapIdx] at hmap
    obtain ⟨r, hr, hprepared⟩ := Option.map_eq_some_iff.1 hmap
    rw [List.getElem?_take] at hr
    split at hr
    · exact ⟨r, hr, hprepared⟩
    · cases hr
  have hpassed : ∀ i < passed, ∀ r, S.requests[i]? = some r → ∃ m, S.prepared i r = .ok m :=
    fun i hi _ hr => prepared_of_failure hr (h.passes i hi)
  rcases h.ends.begun_eq with rfl | rfl
  · exact key _ h.ends.begun_le h.writes hpassed hm
  · obtain ⟨r, hr⟩ : ∃ r, S.requests[passed]? = some r :=
      ⟨_, List.getElem?_eq_getElem h.ends.begun_le⟩
    -- the last request that was begun is sent only if it renders and its body has a text
    have hunsent : S.sentBy passed r = [] → ∃ r, S.requests[n]? = some r ∧ S.prepared n r = .ok m := by
      intro hnone
      rw [sentBefore_succ, sent_eq hr, hnone, List.append_nil] at hm
      exact key _ (Nat.le_of_succ_le h.ends.begun_le) h.writes hpassed hm
    cases hlast : S.prepared passed r with
    | error e => exact hunsent (sentBy_of_template hlast)
    | ok m' =>
      by_cases hwritable : r.isWritable (S.entered passed) = true
      · refine key _ h.ends.begun_le
          (Nat.forall_lt_succ_right.2 ⟨h.writes, canWrite_of_get hr hwritable⟩)
          (Nat.forall_lt_succ_right.2 ⟨hpassed, fun q hq => ?_⟩) hm
        obtain rfl : r = q := Option.some.inj (hr.symm.trans hq)
        exact ⟨m', hlast⟩
      · exact hunsent (sentBy_of_unwritable (by simpa using hwritable))

/-- The number of requests that passed in a run, told from how it ended. -/
def passedCount (S : Scenario) : Nat :=
  match S.run.ending with
  | .stepFailed number _ => number - 1
  | .crashed .longInteger => S.run.position.taken - S.base - 1
  | _ => S.run.position.taken - S.base

/-- Variables that are set as an environment tells. -/
def Holds (environment : String → Option String) (vars : Variables) : Prop :=
  ∀ name, Entries.get? name vars = environment name

theorem sent_in_environment (S : Scenario) :
    (∀ n m, (messages S.run.position.link)[n]? = some m →
      ∃ r token, S.requests[n]? = some r ∧ S.token = .ok token ∧
        (∃ vars, Holds (S.environment n) vars) ∧
        ∀ vars, Holds (S.environment n) vars →
          prepare r { vars := vars, token := token } = .ok m) ∧
    ∀ name, name ≠ identifierVariable →
      Entries.get? name S.run.position.context.vars = S.environment S.passedCount name := by
  cases htoken : S.token with
  | error why =>
    obtain ⟨hending, hlink, hvars, htaken, -⟩ := run_of_no_token htoken
    refine ⟨fun n m hm => ?_, fun name hname => ?_⟩
    · rw [hlink] at hm
      cases hm
    · rw [passedCount, hending, hvars, htaken, Nat.sub_self, ← S.get?_stored 0 hname]
      rfl
  | ok token =>
    obtain ⟨passed, begun, h⟩ := run_reaches htoken
    refine ⟨fun n m hm => ?_, fun name hname => ?_⟩
    · rw [h.link, messages_calls] at hm
      obtain ⟨r, hr, hprepared⟩ := h.prepared_of_sent hm
      refine ⟨r, token, hr, rfl, ⟨S.entered n, S.get?_entered n⟩, fun vars hvars => ?_⟩
      rw [← hprepared, prepared]
      exact prepare_congr (fun x => (hvars x).trans (S.get?_entered n x).symm)
        (by rw [bearer, htoken]) r
    · have htaken := h.taken
      have hends := h.ends
      rw [passedCount, htaken, Nat.add_sub_cancel_left]
      generalize S.run.ending = ending, S.run.position.context.vars = vars at hends
      cases hends with
      | completed | crashed => exact S.get?_stored _ hname
      | failed | unwritable => exact S.get?_entered passed name

end HttpScript.Scenario
