import HttpScript.Proofs.Run.Exits
import HttpScript.Proofs.Run.Scenario

/-!
# The token stays in one header

Two runs that are given different tokens are followed side by side. They write the same records,
show and wait the same, and end alike with the same variables. Only their messages differ, each in
the value of the one header that carries the token, and records hold this header masked.
-/
namespace HttpScript

variable {t t' : String}

/-- Two messages with the tokens `t` and `t'` that agree in everything else. -/
structure SameButToken (t t' : String) (m m' : Outgoing) : Prop where
  method : m.method = m'.method
  url : m.url = m'.url
  body : m.body = m'.body
  headers : ∃ own,
    m.headers = ("Content-Type", "application/json") :: ("Authorization", "Bearer " ++ t) :: own ∧
    m'.headers = ("Content-Type", "application/json") :: ("Authorization", "Bearer " ++ t') :: own

/-- Two effects that can be told apart by the token of a message only. -/
inductive Effect.Alike (t t' : String) : Effect → Effect → Prop
  | logged (r : Record) : Alike t t' (.logged r) (.logged r)
  | sent {m m' : Outgoing} (same : SameButToken t t' m m') : Alike t t' (.sent m) (.sent m')
  | printed (lines : List String) : Alike t t' (.printed lines) (.printed lines)
  | slept (seconds : Float) : Alike t t' (.slept seconds) (.slept seconds)

inductive Call.Alike (t t' : String) : Call → Call → Prop
  | login : Alike t t' .login .login
  | message {m m' : Outgoing} (same : SameButToken t t' m m') :
      Alike t t' (.message m) (.message m')

abbrev JournalAlike (t t' : String) : List Effect → List Effect → Prop :=
  List.Forall₂ (Effect.Alike t t')

abbrev CallsAlike (t t' : String) : List Call → List Call → Prop :=
  List.Forall₂ (Call.Alike t t')

structure Context.Alike (t t' : String) (c c' : Context) : Prop where
  runId : c.runId = c'.runId
  vars : c.vars = c'.vars
  last : c.last = c'.last
  token : c.token = t
  token' : c'.token = t'

structure Position.Alike (t t' : String) (p p' : Position (List Call)) : Prop where
  context : p.context.Alike t t' p'.context
  link : CallsAlike t t' p.link p'.link
  taken : p.taken = p'.taken

structure StepRun.Alike (t t' : String) (x x' : StepRun (List Call)) : Prop where
  outcome : x.outcome = x'.outcome
  context : x.context.Alike t t' x'.context
  link : CallsAlike t t' x.link x'.link
  journal : JournalAlike t t' x.journal x'.journal

structure Run.Alike (t t' : String) (x x' : Run (List Call)) : Prop where
  ending : x.ending = x'.ending
  position : x.position.Alike t t' x'.position
  journal : JournalAlike t t' x.journal x'.journal

/-! ### Journals and calls -/

def Effect.isSent : Effect → Bool
  | .sent _ => true
  | _ => false

/-- Journals are alike with themselves when nothing is sent. -/
theorem journalAlike_refl {journal : List Effect} (h : ∀ e ∈ journal, e.isSent = false) :
    JournalAlike t t' journal journal := by
  refine List.forall₂_same.2 fun e he => ?_
  cases e with
  | logged r => exact .logged r
  | sent m => exact absurd (h _ he) (by simp [Effect.isSent])
  | printed lines => exact .printed lines
  | slept seconds => exact .slept seconds

theorem journalAlike_records (records : List Record) :
    JournalAlike t t' (records.map .logged) (records.map .logged) := by
  refine journalAlike_refl fun e he => ?_
  obtain ⟨r, -, rfl⟩ := List.mem_map.1 he
  rfl

/-- Journals that are alike differ in their messages only. -/
theorem JournalAlike.unsent {a b : List Effect} (h : JournalAlike t t' a b) :
    a.filter (!·.isSent) = b.filter (!·.isSent) := by
  induction h with
  | nil => rfl
  | cons he _ ih =>
    cases he with
    | sent => simpa [List.filter_cons, Effect.isSent] using ih
    | logged | printed | slept => simpa [List.filter_cons, Effect.isSent] using ih

theorem CallsAlike.messages {a b : List Call} (h : CallsAlike t t' a b) :
    List.Forall₂ (SameButToken t t') (messages a) (messages b) := by
  induction h with
  | nil => exact .nil
  | cons hc _ ih =>
    cases hc with
    | login => exact ih
    | message same => exact .cons same ih

/-! ### One request -/

theorem prepare_alike {c c' : Context} (h : c.Alike t t' c') (r : Request) :
    (∃ e, prepare r c = .error e ∧ prepare r c' = .error e) ∨
      ∃ m m', prepare r c = .ok m ∧ prepare r c' = .ok m' ∧ SameButToken t t' m m' := by
  rw [prepare, prepare, h.vars, h.token, h.token']
  cases expand c'.vars r.url with
  | error e => exact .inl ⟨e, rfl, rfl⟩
  | ok url =>
    cases expandBody c'.vars r.body with
    | error e => exact .inl ⟨e, rfl, rfl⟩
    | ok body =>
      cases expandHeaders c'.vars r.headers with
      | error e => exact .inl ⟨e, rfl, rfl⟩
      | ok own => exact .inr ⟨_, _, rfl, rfl, rfl, rfl, rfl, own, rfl, rfl⟩

theorem mask_authorization (value : String) :
    mask "Authorization" (.text value) = .text "********" := by
  have hsecret : isSecret "Authorization" = true := by decide +kernel
  simp [mask, hsecret]

/-- The record of a message holds its token masked. -/
theorem requestRecord_alike {m m' : Outgoing} (h : SameButToken t t' m m') (log : Logger) :
    Step.requestRecord log m = Step.requestRecord log m' := by
  obtain ⟨own, hm, hm'⟩ := h.headers
  have hmasked : maskHeaders m.headers = maskHeaders m'.headers := by
    simp only [hm, hm', maskHeaders, List.map_cons, mask_authorization]
  rw [Step.requestRecord, Step.requestRecord, h.method, h.url, h.body, hmasked]

theorem received_alike {c c' : Context} (h : c.Alike t t' c') {link link' : List Call}
    (hlink : CallsAlike t t' link link') (evaluate : Evaluator) (console : Console) (log : Logger)
    (r : Request) (reply : Reply) :
    (Step.received evaluate console log r c link reply).Alike t t'
      (Step.received evaluate console log r c' link' reply) := by
  have hshown : JournalAlike t t'
      [.logged (Step.responseRecord log reply), .printed (console.replyLines reply)]
      [.logged (Step.responseRecord log reply), .printed (console.replyLines reply)] :=
    .cons (.logged _) (.cons (.printed _) .nil)
  by_cases hstatus : r.expectedStatus ≠ 0 ∧ reply.status ≠ r.expectedStatus
  · rw [Step.received_of_status _ _ _ hstatus, Step.received_of_status _ _ _ hstatus]
    exact ⟨rfl, ⟨h.runId, h.vars, rfl, h.token, h.token'⟩, hlink, hshown⟩
  · rw [Step.received_of_passed _ _ _ hstatus, Step.received_of_passed _ _ _ hstatus, h.vars]
    exact ⟨rfl, ⟨h.runId, rfl, rfl, h.token, h.token'⟩, hlink,
      List.rel_append hshown (journalAlike_records _)⟩

theorem begunJournal_alike {x x' : StepRun (List Call)} (h : x.Alike t t' x') (log : Logger)
    (r : Request) :
    JournalAlike t t' (Run.begunJournal log r x) (Run.begunJournal log r x') :=
  .cons (.logged _) h.journal

namespace Scenario

variable (S : Scenario)

/-- The scenario in which the login gives this token. -/
def withToken (token : String) : Scenario := { S with token := .ok token }

/-- A request is sent alike in alike contexts. -/
theorem run_step_alike (log : Logger) (r : Request) {c c' : Context} (h : c.Alike t t' c')
    {link link' : List Call} (hlink : CallsAlike t t' link link') :
    (Step.run S.send S.evaluate S.console log r c link).Alike t t'
      (Step.run S.send S.evaluate S.console log r c' link') := by
  rcases prepare_alike h r with ⟨e, he, he'⟩ | ⟨m, m', hm, hm', hsame⟩
  · rw [Step.run_of_template _ _ _ he, Step.run_of_template _ _ _ he']
    exact ⟨rfl, h, hlink, .cons (.logged _) .nil⟩
  · have hlink' : CallsAlike t t' (link ++ [.message m]) (link' ++ [.message m']) :=
      List.rel_append hlink (.cons (.message hsame) .nil)
    have hbefore : JournalAlike t t' [.logged (Step.requestRecord log m), .sent m]
        [.logged (Step.requestRecord log m'), .sent m'] := by
      rw [requestRecord_alike hsame]
      exact .cons (.logged _) (.cons (.sent hsame) .nil)
    have hsend : S.send m link = (S.reply (messages link').length, link ++ [.message m]) := by
      rw [send, hlink.messages.length_eq]
    have hsend' : S.send m' link' = (S.reply (messages link').length, link' ++ [.message m']) := rfl
    cases hreply : S.reply (messages link').length with
    | error why =>
      rw [hreply] at hsend hsend'
      rw [Step.run_of_transport _ _ _ hm hsend, Step.run_of_transport _ _ _ hm' hsend', hsame.url]
      exact ⟨rfl, h, hlink', List.rel_append hbefore (.cons (.logged _) .nil)⟩
    | ok reply =>
      rw [hreply] at hsend hsend'
      rw [Step.run_of_reply _ _ _ hm hsend, Step.run_of_reply _ _ _ hm' hsend']
      have hafter := received_alike h hlink' S.evaluate S.console log r reply
      exact ⟨hafter.outcome, hafter.context, hafter.link, List.rel_append hbefore hafter.journal⟩

/-- A request is handled alike in alike contexts. -/
theorem handle_alike (log : Logger) (r : Request) {c c' : Context} (h : c.Alike t t' c')
    {link link' : List Call} (hlink : CallsAlike t t' link link') :
    ((Handler.sending S.send S.evaluate S.console).handle log r c link).Alike t t'
      ((Handler.sending S.send S.evaluate S.console).handle log r c' link') := by
  by_cases hwritable : r.isWritable c.vars = true
  · rw [Handler.handle_of_writable _ _ _ _ _ hwritable,
      Handler.handle_of_writable _ _ _ _ _ (h.vars ▸ hwritable)]
    exact S.run_step_alike log r h hlink
  · rw [Bool.not_eq_true] at hwritable
    rw [Handler.handle_of_unwritable _ _ _ _ _ hwritable,
      Handler.handle_of_unwritable _ _ _ _ _ (h.vars ▸ hwritable)]
    exact ⟨rfl, h, hlink, .nil⟩

/-! ### The whole run -/

theorem pause_unsent (console : Console) (log : Logger) (ms : Int) :
    ∀ e ∈ (pause console log ms).2, e.isSent = false := by
  rw [pause]
  split
  · simp
  · split <;> simp [Effect.isSent]

theorem enter_alike {p p' : Position (List Call)} (h : p.Alike t t' p') :
    (Run.enter (S.withToken t).setup p).Alike t t' (Run.enter (S.withToken t').setup p') := by
  refine ⟨h.context.runId, ?_, h.context.last, h.context.token, h.context.token'⟩
  simp only [Run.enter, h.taken, h.context.vars]
  rfl

theorem stepJournal_alike {x x' : StepRun (List Call)} (h : x.Alike t t' x') (log : Logger)
    (number : Nat) (r : Request) :
    JournalAlike t t' (Run.stepJournal (S.withToken t).setup log number r x)
      (Run.stepJournal (S.withToken t').setup log number r x') := by
  rw [Run.stepJournal, Run.stepJournal, h.outcome]
  exact List.rel_append (begunJournal_alike h log r) (.cons (.logged _) .nil)

theorem steps_alike (log : Logger) (rest : List Request) (number : Nat)
    {p p' : Position (List Call)} (h : p.Alike t t' p') :
    (Run.steps (S.withToken t).setup log number rest p).Alike t t'
      (Run.steps (S.withToken t').setup log number rest p') := by
  induction rest generalizing number p p' with
  | nil => exact ⟨rfl, h, .cons (.logged _) .nil⟩
  | cons r rest ih =>
    obtain ⟨x, hx⟩ : ∃ x, (S.withToken t).setup.handler.handle (Run.stepLog log number r) r
      (Run.enter (S.withToken t).setup p) p.link = x := ⟨_, rfl⟩
    obtain ⟨x', hx'⟩ : ∃ x', (S.withToken t').setup.handler.handle (Run.stepLog log number r) r
      (Run.enter (S.withToken t').setup p') p'.link = x' := ⟨_, rfl⟩
    have hstep : x.Alike t t' x' := by
      rw [← hx, ← hx']
      exact S.handle_alike (Run.stepLog log number r) r (S.enter_alike h) h.link
    have hposition : (Run.next p x).Alike t t' (Run.next p' x') :=
      ⟨hstep.context, hstep.link, congrArg (· + 1) h.taken⟩
    have hjournal := S.stepJournal_alike hstep (Run.stepLog log number r) number r
    cases houtcome : x'.outcome with
    | unwritable =>
      rw [Run.steps_of_unwritable hx (hstep.outcome.trans houtcome),
        Run.steps_of_unwritable hx' houtcome]
      exact ⟨rfl, hposition, begunJournal_alike hstep _ r⟩
    | missing =>
      rw [Run.steps_of_missing hx (hstep.outcome.trans houtcome),
        Run.steps_of_missing hx' houtcome]
      exact ⟨rfl, hposition, hjournal⟩
    | failed why =>
      rw [Run.steps_of_failed hx (hstep.outcome.trans houtcome), Run.steps_of_failed hx' houtcome]
      exact ⟨rfl, hposition, hjournal⟩
    | passed =>
      have hpause : JournalAlike t t' (pause S.console (Run.stepLog log number r) r.waitMs).2 _ :=
        journalAlike_refl (pause_unsent S.console (Run.stepLog log number r) r.waitMs)
      have heffects := List.rel_append hjournal hpause
      by_cases hwait : 0 < r.waitMs ∧ seconds? r.waitMs = none
      · rw [Run.steps_of_endless hx (hstep.outcome.trans houtcome) hwait,
          Run.steps_of_endless hx' houtcome hwait]
        exact ⟨rfl, hposition, heffects⟩
      · rw [Run.steps_of_passed hx (hstep.outcome.trans houtcome) hwait,
          Run.steps_of_passed hx' houtcome hwait]
        have hrest := ih (number + 1) hposition
        exact ⟨hrest.ending, hrest.position, List.rel_append heffects hrest.journal⟩

theorem run_alike (t t' : String) : (S.withToken t).run.Alike t t' (S.withToken t').run := by
  -- The position after the run got its name, before it logs in, is the same for both tokens.
  set named := nameRun (S.withToken t).setup ⟨S.context, [], S.taken⟩ with hnamed
  have hlogin : CallsAlike t t' (named.link ++ [.login]) (named.link ++ [.login]) := by
    have hlink : named.link = [] := by
      rw [hnamed, nameRun]
      split <;> rfl
    rw [hlink]
    exact .cons .login .nil
  set log := S.log.bind [("run_id", .text named.context.runId)] with hlog
  have hposition : Position.Alike t t'
      ⟨{ named.context with token := t }, named.link ++ [.login], named.taken⟩
      ⟨{ named.context with token := t' }, named.link ++ [.login], named.taken⟩ :=
    ⟨⟨rfl, rfl, rfl, rfl, rfl⟩, hlogin, rfl⟩
  have hsteps := S.steps_alike log S.requests 1 hposition
  exact ⟨hsteps.ending, hsteps.position,
    .cons (.logged _) (.cons (.logged _) hsteps.journal)⟩

/-- Nothing that can be seen of a run tells which token it was given, but for the header that
carries it. -/
theorem run_hides_token (S : Scenario) (t t' : String) :
    let run := (S.withToken t).run
    let run' := (S.withToken t').run
    run.ending = run'.ending ∧
      run.position.context.vars = run'.position.context.vars ∧
      run.position.context.last = run'.position.context.last ∧
      run.journal.filter (!·.isSent) = run'.journal.filter (!·.isSent) ∧
      List.Forall₂ (Effect.Alike t t') run.journal run'.journal ∧
      List.Forall₂ (SameButToken t t') (messages run.position.link)
        (messages run'.position.link) := by
  have h := S.run_alike t t'
  exact ⟨h.ending, h.position.context.vars, h.position.context.last, h.journal.unsent, h.journal,
    h.position.link.messages⟩

end Scenario

end HttpScript
