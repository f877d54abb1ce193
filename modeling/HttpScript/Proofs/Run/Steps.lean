import HttpScript.Proofs.Run.Exits
import HttpScript.Proofs.Run.Scenario

/-!
# A run does what it should do

The position before each request is the one the scenario tells: every earlier request has passed and
was sent, and the variables are those that are due. Handling a request keeps this so, or ends the
run with the failure that is due.
-/
namespace HttpScript

theorem messages_map (ms : List Outgoing) : messages (ms.map .message) = ms := by
  induction ms with
  | nil => rfl
  | cons m ms ih => exact congrArg (m :: ·) ih

namespace Scenario

variable {S : Scenario}

/-- The calls when the requests with an index below `n` have been handled. -/
def calls (S : Scenario) (n : Nat) : List Call := .login :: (S.sentBefore n).map .message

theorem calls_succ (n : Nat) : S.calls (n + 1) = S.calls n ++ (S.sent n).map .message := by
  rw [calls, sentBefore_succ, List.map_append]
  rfl

theorem messages_calls (n : Nat) : messages (S.calls n) = S.sentBefore n := messages_map _

/-- The pause after the request with an index, if there is one, has a length in seconds. -/
def CanWait (S : Scenario) (n : Nat) : Prop :=
  ∀ r, S.requests[n]? = some r → ¬ (0 < r.waitMs ∧ seconds? r.waitMs = none)

theorem canWait_of_get {n : Nat} {r : Request} (hr : S.requests[n]? = some r)
    (h : ¬ (0 < r.waitMs ∧ seconds? r.waitMs = none)) : S.CanWait n := fun r' hr' => by
  obtain rfl := Option.some.inj (hr.symm.trans hr')
  exact h

/-- The body of the request with an index, if there is one, has a text. -/
def CanWrite (S : Scenario) (n : Nat) : Prop :=
  ∀ r, S.requests[n]? = some r → r.isWritable (S.entered n) = true

theorem canWrite_of_get {n : Nat} {r : Request} (hr : S.requests[n]? = some r)
    (h : r.isWritable (S.entered n) = true) : S.CanWrite n := fun r' hr' => by
  obtain rfl := Option.some.inj (hr.symm.trans hr')
  exact h

/-- The request with an index and those after it, when the list is followed from there. -/
theorem get_of_drop {n : Nat} {r : Request} {rest : List Request}
    (h : S.requests.drop n = r :: rest) :
    S.requests[n]? = some r ∧ S.requests.drop (n + 1) = rest := by
  rw [← List.head?_drop, ← List.tail_drop, h]
  exact ⟨rfl, rfl⟩

/-- The position before the request with an index. -/
structure At (S : Scenario) (n : Nat) (p : Position (List Call)) : Prop where
  vars : p.context.vars = S.stored n
  token : p.context.token = S.bearer
  link : p.link = S.calls n
  taken : p.taken = S.base + n
  passed : ∀ i < n, S.failure i = none
  waited : ∀ i < n, S.CanWait i
  written : ∀ i < n, S.CanWrite i
  inside : n ≤ S.requests.length

/-- Of requests that render and have a text each is sent once, in order. -/
theorem map_ok_sentBefore {n : Nat} (hinside : n ≤ S.requests.length)
    (hwrite : ∀ i < n, S.CanWrite i)
    (hrender : ∀ i < n, ∀ r, S.requests[i]? = some r → ∃ m, S.prepared i r = .ok m) :
    (S.sentBefore n).map .ok = (S.requests.take n).mapIdx S.prepared := by
  induction n with
  | zero => rfl
  | succ n ih =>
    have hr : S.requests[n]? = some S.requests[n] := List.getElem?_eq_getElem (by omega)
    obtain ⟨m, hm⟩ := hrender n (by omega) _ hr
    have hlength : (S.requests.take n).length = n := by
      rw [List.length_take]
      omega
    rw [sentBefore_succ, List.map_append,
      ih (by omega) (fun i hi => hwrite i (by omega)) fun i hi => hrender i (by omega),
      List.take_add_one, hr, List.mapIdx_append, hlength, sent_eq hr,
      sentBy_of_prepared (hwrite n (by omega) _ hr) hm]
    simp [hm]

theorem length_sentBefore {n : Nat} (hpassed : ∀ i < n, S.failure i = none)
    (hwrite : ∀ i < n, S.CanWrite i) (hinside : n ≤ S.requests.length) :
    (S.sentBefore n).length = n := by
  have h := congrArg List.length (map_ok_sentBefore hinside hwrite fun i hi _ hr =>
    prepared_of_failure hr (hpassed i hi))
  rw [List.length_map, List.length_mapIdx, List.length_take] at h
  omega

/-! ### One request -/

theorem At.vars_enter {n : Nat} {p : Position (List Call)} (hp : S.At n p) :
    (Run.enter S.setup p).vars = S.entered n := by
  simp only [Run.enter, setup, hp.vars, hp.taken]
  rfl

/-- A request whose body has no text breaks off before anything is sent. -/
theorem handle_of_unwritable {n : Nat} {p : Position (List Call)} (hp : S.At n p) {r : Request}
    (hwritable : r.isWritable (S.entered n) = false) (log : Logger) :
    S.setup.handler.handle log r (Run.enter S.setup p) p.link =
      ⟨.unwritable, Run.enter S.setup p, p.link, []⟩ :=
  Handler.handle_of_unwritable _ _ _ _ _ (by rwa [hp.vars_enter])

theorem handle_of_writable {n : Nat} {p : Position (List Call)} (hp : S.At n p) {r : Request}
    (hwritable : r.isWritable (S.entered n) = true) (log : Logger) :
    S.setup.handler.handle log r (Run.enter S.setup p) p.link =
      Step.run S.send S.evaluate S.console log r (Run.enter S.setup p) p.link :=
  Handler.handle_of_writable _ _ _ _ _ (by rwa [hp.vars_enter])

/-- How a request ends whose body has a text, and what is left and seen then. -/
theorem handle_spec {n : Nat} {p : Position (List Call)} (hp : S.At n p) {r : Request}
    (hr : S.requests[n]? = some r) (hwritable : r.isWritable (S.entered n) = true) (log : Logger) :
    let result := S.setup.handler.handle log r (Run.enter S.setup p) p.link
    result.outcome = (match S.failure n with | none => .passed | some why => .failed why) ∧
      result.context.token = S.bearer ∧ result.link = S.calls (n + 1) ∧
      result.context.vars = (if S.failure n = none then S.stored (n + 1) else S.entered n) ∧
      S.effects n = outward result.journal ++
        if S.failure n = none then S.pauseEffects r.waitMs else [] := by
  have hvars := hp.vars_enter
  have htoken : (Run.enter S.setup p).token = S.bearer := hp.token
  have hprepare : prepare r (Run.enter S.setup p) = S.prepared n r :=
    prepare_congr (fun name => by rw [hvars]) htoken r
  have hsend : ∀ m, S.send m p.link = (S.reply n, S.calls n ++ [.message m]) := by
    intro m
    rw [send, hp.link, messages_calls, length_sentBefore hp.passed hp.written hp.inside]
  rw [handle_of_writable hp hwritable, calls_succ, sent_eq hr, effects_eq hr, effectsOf,
    failure_eq hr]
  cases hm : S.prepared n r with
  | error e =>
    rw [sentBy_of_template hm]
    rw [Step.run_of_template _ _ _ (hprepare.trans hm)]
    simp only [failureOf_of_template hm, htoken, hp.link, hvars, reduceCtorEq, if_false]
    simp
  | ok m =>
    have hrendered := hprepare.trans hm
    have hsent := hsend m
    rw [sentBy_of_prepared hwritable hm]
    cases hreply : S.reply n with
    | error why =>
      rw [hreply] at hsent
      rw [Step.run_of_transport _ _ _ hrendered hsent]
      simp only [failureOf_of_transport hm hreply, htoken, hvars, reduceCtorEq, if_false]
      simp
    | ok reply =>
      rw [hreply] at hsent
      by_cases hstatus : r.expectedStatus ≠ 0 ∧ reply.status ≠ r.expectedStatus
      · have hf : S.failureOf n r = some (.status r.expectedStatus reply.status) := by
          rw [failureOf_of_reply hm hreply, if_pos hstatus]
        rw [Step.run_of_status _ _ _ hrendered hsent hstatus]
        simp only [hf, htoken, hvars, reduceCtorEq, if_false]
        simp
      · have hf : S.failureOf n r = none := by
          rw [failureOf_of_reply hm hreply, if_neg hstatus]
        have hyielded : S.yielded n = yields S.evaluate r.captures reply.text := by
          rw [yielded, hr, hreply]
        rw [Step.run_of_passed _ _ _ hrendered hsent hstatus]
        simp only [hf, htoken, vars_capture, hvars, stored_succ, hyielded, if_true]
        simp

/-- After a request that passes the position is the one before the next. -/
theorem At.succ {n : Nat} {p : Position (List Call)} (hp : S.At n p) {r : Request}
    (hr : S.requests[n]? = some r) (hwritable : r.isWritable (S.entered n) = true) (log : Logger)
    (hf : S.failure n = none) (hwait : S.CanWait n) :
    let result := S.setup.handler.handle log r (Run.enter S.setup p) p.link
    S.At (n + 1) (Run.next p result) := by
  obtain ⟨-, htoken, hlink, hvars, -⟩ := handle_spec hp hr hwritable log
  rw [if_pos hf] at hvars
  exact ⟨hvars, htoken, hlink, congrArg (· + 1) hp.taken,
    Nat.forall_lt_succ_right.2 ⟨hp.passed, hf⟩, Nat.forall_lt_succ_right.2 ⟨hp.waited, hwait⟩,
    Nat.forall_lt_succ_right.2 ⟨hp.written, canWrite_of_get hr hwritable⟩,
    (List.getElem?_eq_some_iff.1 hr).1⟩

/-! ### The whole run -/

/-- How a run ends when all requests with an index below `k` have passed: how many requests were
begun, and what the variables are then. -/
inductive Ends (S : Scenario) (k : Nat) : RunEnd → Nat → Variables → Prop
  | completed (all : k = S.requests.length) : Ends S k (.completed k) k (S.stored k)
  | failed {why : StepFailure} (writable : S.CanWrite k) (fails : S.failure k = some why) :
      Ends S k (.stepFailed (k + 1) why) (k + 1) (S.entered k)
  | unwritable {r : Request} (begun : S.requests[k]? = some r)
      (fails : r.isWritable (S.entered k) = false) :
      Ends S k (.crashed .longInteger) (k + 1) (S.entered k)
  | crashed {r : Request} (begun : S.requests[k]? = some r)
      (writable : r.isWritable (S.entered k) = true) (passes : S.failure k = none)
      (waits : 0 < r.waitMs) (endless : seconds? r.waitMs = none) :
      Ends S k (.crashed .endlessWait) (k + 1) (S.stored (k + 1))

/-- A run from the request with index `n` on that begins the requests with an index below `begun`,
of which all with an index below `passed` pass and are waited for. -/
structure Reaches (S : Scenario) (n : Nat) (run : Run (List Call)) (passed begun : Nat) : Prop where
  passes : ∀ i < passed, S.failure i = none
  waits : ∀ i < passed, S.CanWait i
  writes : ∀ i < passed, S.CanWrite i
  ends : S.Ends passed run.ending begun run.position.context.vars
  link : run.position.link = S.calls begun
  taken : run.position.taken = S.base + begun
  seen : S.effectsBefore n ++ outward run.journal = S.effectsBefore begun

/-- A request whose body has no text is begun, and that is all. -/
theorem reaches_of_unwritable {n : Nat} {p : Position (List Call)} (hp : S.At n p) {r : Request}
    (hr : S.requests[n]? = some r) (hwritable : r.isWritable (S.entered n) = false) (log : Logger)
    (rest : List Request) : S.Reaches n (Run.steps S.setup log (n + 1) (r :: rest) p) n (n + 1) := by
  have hsent : S.sent n = [] := by rw [sent_eq hr, sentBy_of_unwritable hwritable]
  have heffects : S.effects n = [] := by
    rw [effects_eq hr, effectsOf, sentBy_of_unwritable hwritable]
    rfl
  rw [Run.steps_of_unwritable (handle_of_unwritable hp hwritable _) rfl]
  refine ⟨hp.passed, hp.waited, hp.written, ?_, ?_, congrArg (· + 1) hp.taken, ?_⟩
  · simp only [Run.next, hp.vars_enter]
    exact .unwritable hr hwritable
  · rw [calls_succ, hsent, ← hp.link]
    exact (List.append_nil _).symm
  · rw [Run.outward_begunJournal, effectsBefore_succ, heffects]
    rfl

theorem steps_reaches (log : Logger) (rest : List Request) {n : Nat} {p : Position (List Call)}
    (hp : S.At n p) (hrest : S.requests.drop n = rest) :
    ∃ passed begun, S.Reaches n (Run.steps S.setup log (n + 1) rest p) passed begun := by
  induction rest generalizing n p with
  | nil =>
    have hlength : n = S.requests.length :=
      Nat.le_antisymm hp.inside (List.drop_eq_nil_iff.1 hrest)
    refine ⟨n, n, hp.passed, hp.waited, hp.written, ?_, hp.link, hp.taken, by simp [Run.steps]⟩
    simp only [Run.steps, hp.vars]
    exact .completed hlength
  | cons r rest ih =>
    obtain ⟨hr, hdrop⟩ := get_of_drop hrest
    have htaken : p.taken + 1 = S.base + (n + 1) := by rw [hp.taken]; omega
    by_cases hwritable : r.isWritable (S.entered n) = true
    swap
    · exact ⟨n, n + 1, reaches_of_unwritable hp hr (by simpa using hwritable) log rest⟩
    obtain ⟨houtcome, htoken, hlink, hvars, hseen⟩ :=
      handle_spec hp hr hwritable (Run.stepLog log (n + 1) r)
    have hnext := hp.succ hr hwritable (Run.stepLog log (n + 1) r)
    obtain ⟨result, hresult⟩ : ∃ result, S.setup.handler.handle (Run.stepLog log (n + 1) r) r
      (Run.enter S.setup p) p.link = result := ⟨_, rfl⟩
    rw [hresult] at houtcome htoken hlink hvars hseen hnext
    cases hf : S.failure n with
    | some why =>
      rw [hf] at houtcome hvars hseen
      rw [Run.steps_of_failed hresult houtcome]
      refine ⟨n, n + 1, hp.passed, hp.waited, hp.written, ?_, hlink, htaken, ?_⟩
      · rw [show (Run.next p result).context.vars = S.entered n from hvars]
        exact .failed (canWrite_of_get hr hwritable) hf
      · rw [Run.outward_stepJournal, effectsBefore_succ, hseen]
        simp
    | none =>
      rw [hf] at houtcome hvars hseen
      rw [if_pos rfl] at hvars hseen
      have heffects : S.effectsBefore n ++
          outward (Run.stepJournal S.setup (Run.stepLog log (n + 1) r) (n + 1) r result ++
            (pause S.setup.console (Run.stepLog log (n + 1) r) r.waitMs).2) =
          S.effectsBefore (n + 1) := by
        rw [effectsBefore_succ, hseen, outward_append, Run.outward_stepJournal, outward_pause]
        rfl
      by_cases hendless : 0 < r.waitMs ∧ seconds? r.waitMs = none
      · rw [Run.steps_of_endless hresult houtcome hendless]
        refine ⟨n, n + 1, hp.passed, hp.waited, hp.written, ?_, hlink, htaken, heffects⟩
        rw [show (Run.next p result).context.vars = S.stored (n + 1) from hvars]
        exact .crashed hr hwritable hf hendless.1 hendless.2
      · rw [Run.steps_of_passed hresult houtcome hendless]
        obtain ⟨passed, begun, h⟩ := ih (hnext hf (canWait_of_get hr hendless)) hdrop
        refine ⟨passed, begun, h.passes, h.waits, h.writes, h.ends, h.link, h.taken, ?_⟩
        rw [← h.seen, ← heffects]
        simp [Run.prepend]

/-- Where a run begins. -/
def start (S : Scenario) : Position (List Call) := ⟨S.context, [], S.taken⟩

theorem nameRun_start :
    (nameRun S.setup S.start).context.vars = S.context.vars ∧
      (nameRun S.setup S.start).link = [] ∧ (nameRun S.setup S.start).taken = S.base := by
  rw [nameRun, base, start]
  dsimp only
  split <;> exact ⟨rfl, rfl, rfl⟩

theorem login_start : S.setup.login (nameRun S.setup S.start).link = (S.token, [.login]) := by
  rw [nameRun_start.2.1]
  rfl

/-- A run without a token asks for one and does nothing more. -/
theorem run_of_no_token {why : String} (h : S.token = .error why) :
    S.run.ending = .notAuthenticated why ∧ S.run.position.link = [.login] ∧
      S.run.position.context.vars = S.context.vars ∧ S.run.position.taken = S.base ∧
      outward S.run.journal = [] := by
  obtain ⟨hvars, -, htaken⟩ := nameRun_start (S := S)
  have hrun : S.run = _ := execute_of_no_token (login_start.trans (by rw [h])) S.requests
  rw [hrun]
  exact ⟨rfl, rfl, hvars, htaken, rfl⟩

theorem at_start {token : String} (h : S.token = .ok token) :
    S.At 0 (loggedIn S.setup S.start token [.login]) := by
  obtain ⟨hvars, -, htaken⟩ := nameRun_start (S := S)
  have hbearer : token = S.bearer := by rw [bearer, h]
  exact ⟨hvars, hbearer, rfl, htaken, fun i hi => absurd hi (Nat.not_lt_zero i),
    fun i hi => absurd hi (Nat.not_lt_zero i), fun i hi => absurd hi (Nat.not_lt_zero i),
    Nat.zero_le _⟩

theorem run_of_token {token : String} (h : S.token = .ok token) :
    S.run = (Run.steps S.setup (runLog S.setup S.start) 1 S.requests
      (loggedIn S.setup S.start token [.login])).prepend
        [.logged ((runLog S.setup S.start).record .info "run.start"
          [("steps", .int S.requests.length)]),
          .logged ((runLog S.setup S.start).record .debug "auth.ok" [])] :=
  execute_of_token (login_start.trans (by rw [h])) S.requests

theorem run_reaches {token : String} (h : S.token = .ok token) :
    ∃ passed begun, S.Reaches 0 S.run passed begun := by
  obtain ⟨passed, begun, hreach⟩ :=
    steps_reaches (runLog S.setup S.start) S.requests (at_start h) rfl
  rw [run_of_token h]
  refine ⟨passed, begun, hreach.passes, hreach.waits, hreach.writes, hreach.ends, hreach.link,
    hreach.taken, ?_⟩
  rw [← hreach.seen]
  simp [Run.prepend]

end Scenario

end HttpScript
