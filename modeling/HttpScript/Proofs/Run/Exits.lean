import HttpScript.Proofs.Capture
import HttpScript.Proofs.Run.Message
import HttpScript.Proofs.Run.Progress
import Mathlib

/-!
# How a request ends

There are four ways: a template does not render, the message does not get through, the reply has
another status than the expected one, or the request passes. Each comes with all that it changes and
all that is seen of it. A request that does not pass changes no variable and asks no query.
-/
namespace HttpScript.Step

variable {σ : Type} {send : Transport σ} {r : Request} {ctx : Context} {link link' : σ}
  {m : Outgoing} {reply : Reply}

/-- The ways in which a request ends. -/
inductive Exit (send : Transport σ) (r : Request) (ctx : Context) (link : σ) : Prop
  | template {e : Template.Error} (fails : prepare r ctx = .error e)
  | transport {m : Outgoing} {why : String} {link' : σ} (prepared : prepare r ctx = .ok m)
      (sent : send m link = (.error why, link'))
  | status {m : Outgoing} {reply : Reply} {link' : σ} (prepared : prepare r ctx = .ok m)
      (sent : send m link = (.ok reply, link'))
      (fails : r.expectedStatus ≠ 0 ∧ reply.status ≠ r.expectedStatus)
  | passed {m : Outgoing} {reply : Reply} {link' : σ} (prepared : prepare r ctx = .ok m)
      (sent : send m link = (.ok reply, link'))
      (passes : ¬ (r.expectedStatus ≠ 0 ∧ reply.status ≠ r.expectedStatus))

theorem exit (send : Transport σ) (r : Request) (ctx : Context) (link : σ) :
    Exit send r ctx link := by
  cases hm : prepare r ctx with
  | error e => exact .template hm
  | ok m =>
    obtain ⟨answer, link', hsend⟩ : ∃ answer link', send m link = (answer, link') := ⟨_, _, rfl⟩
    cases answer with
    | error why => exact .transport hm hsend
    | ok reply =>
      by_cases hstatus : r.expectedStatus ≠ 0 ∧ reply.status ≠ r.expectedStatus
      · exact .status hm hsend hstatus
      · exact .passed hm hsend hstatus

section

variable (evaluate : Evaluator) (console : Console) (log : Logger)

theorem run_of_template {e : Template.Error} (h : prepare r ctx = .error e) :
    run send evaluate console log r ctx link = ⟨.failed (.template e), ctx, link,
      [.logged (log.record .error "template.render_failed" [("error", .text e.message)])]⟩ := by
  rw [run, h]

theorem run_of_transport {why : String} (h : prepare r ctx = .ok m)
    (hsend : send m link = (.error why, link')) :
    run send evaluate console log r ctx link = ⟨.failed (.transport why), ctx, link',
      [.logged (requestRecord log m), .sent m, .logged (log.record .error "http.step_failed"
        [("url", .text m.url), ("error", .text why)])]⟩ := by
  rw [run, h]
  simp only [hsend]
  rfl

theorem run_of_reply (h : prepare r ctx = .ok m) (hsend : send m link = (.ok reply, link')) :
    run send evaluate console log r ctx link =
      { received evaluate console log r ctx link' reply with
        journal := .logged (requestRecord log m) :: .sent m ::
          (received evaluate console log r ctx link' reply).journal } := by
  rw [run, h]
  simp only [hsend]
  rfl

/-- A reply with another status than the expected one is kept and shown, and that is all. -/
theorem received_of_status (h : r.expectedStatus ≠ 0 ∧ reply.status ≠ r.expectedStatus) :
    received evaluate console log r ctx link reply =
      ⟨.failed (.status r.expectedStatus reply.status), { ctx with last := some reply }, link,
        [.logged (responseRecord log reply), .printed (console.replyLines reply)]⟩ := by
  have hfailure : statusFailure? r reply = some (.status r.expectedStatus reply.status) := by
    simp [statusFailure?, h]
  rw [received, hfailure]

theorem received_of_passed (h : ¬ (r.expectedStatus ≠ 0 ∧ reply.status ≠ r.expectedStatus)) :
    received evaluate console log r ctx link reply =
      ⟨.passed, { ctx with
          last := some reply
          vars := (capture evaluate log r.captures reply.text ctx.vars).vars }, link,
        .logged (responseRecord log reply) :: .printed (console.replyLines reply) ::
          (capture evaluate log r.captures reply.text ctx.vars).records.map .logged⟩ := by
  have hnone : statusFailure? r reply = none := by
    simpa [statusFailure?] using h
  rw [received, hnone]
  rfl

theorem run_of_status (h : prepare r ctx = .ok m) (hsend : send m link = (.ok reply, link'))
    (hstatus : r.expectedStatus ≠ 0 ∧ reply.status ≠ r.expectedStatus) :
    run send evaluate console log r ctx link =
      ⟨.failed (.status r.expectedStatus reply.status), { ctx with last := some reply }, link',
        [.logged (requestRecord log m), .sent m, .logged (responseRecord log reply),
          .printed (console.replyLines reply)]⟩ := by
  rw [run_of_reply evaluate console log h hsend, received_of_status evaluate console log hstatus]

theorem run_of_passed (h : prepare r ctx = .ok m) (hsend : send m link = (.ok reply, link'))
    (hstatus : ¬ (r.expectedStatus ≠ 0 ∧ reply.status ≠ r.expectedStatus)) :
    run send evaluate console log r ctx link =
      ⟨.passed, { ctx with
          last := some reply
          vars := (capture evaluate log r.captures reply.text ctx.vars).vars }, link',
        .logged (requestRecord log m) :: .sent m :: .logged (responseRecord log reply) ::
          .printed (console.replyLines reply) ::
            (capture evaluate log r.captures reply.text ctx.vars).records.map .logged⟩ := by
  rw [run_of_reply evaluate console log h hsend, received_of_passed evaluate console log hstatus]

end

/-- A request that fails leaves the variables, the token and the name of the run as they were, and
its queries are not asked: with any others the same happens. It fails for a template exactly when
one of its templates does not render, wherever it stands; then nothing is sent or shown. When the
message does not get through nothing is shown either, and in both cases the last reply stays. A
reply with another status than the expected one is shown once and becomes the last reply. A request
that passes changes no variable but those that its captures name. -/
theorem run_keeps_state (send : Transport σ) (evaluate : Evaluator) (console : Console)
    (log : Logger) (r : Request) (ctx : Context) (link : σ) :
    let result := run send evaluate console log r ctx link
    (∀ why, result.outcome = .failed why →
      result.context.vars = ctx.vars ∧ result.context.token = ctx.token ∧
        result.context.runId = ctx.runId ∧
        ∀ other, run send other console log r ctx link = result) ∧
      ((∃ e, result.outcome = .failed (.template e)) ↔
        ∃ template ∈ r.templates, ∃ e, expand ctx.vars template = .error e) ∧
      (∀ e, result.outcome = .failed (.template e) →
        result.context.last = ctx.last ∧ result.link = link ∧ outward result.journal = []) ∧
      (∀ why, result.outcome = .failed (.transport why) →
        result.context.last = ctx.last ∧
          ∃ m, prepare r ctx = .ok m ∧ (send m link).1 = .error why ∧
            outward result.journal = [.sent m]) ∧
      (∀ expected actual, result.outcome = .failed (.status expected actual) →
        ∃ m reply, prepare r ctx = .ok m ∧ (send m link).1 = .ok reply ∧
          result.context.last = some reply ∧
          outward result.journal = [.sent m, .printed (console.replyLines reply)]) ∧
      (result.outcome = .passed → ∀ name, name ∉ r.captures.map (·.name) →
        Entries.get? name result.context.vars = Entries.get? name ctx.vars) := by
  intro result
  rw [← exists_prepare_error_iff]
  cases exit send r ctx link with
  | @template e fails =>
    have hrun (asked : Evaluator) : run send asked console log r ctx link = _ :=
      run_of_template asked console log fails
    rw [show result = _ from hrun evaluate]
    exact ⟨fun _ _ => ⟨rfl, rfl, rfl, hrun⟩, ⟨fun _ => ⟨e, fails⟩, fun _ => ⟨e, rfl⟩⟩,
      fun _ _ => ⟨rfl, rfl, rfl⟩, nofun, nofun, nofun⟩
  | @transport m why link' prepared sent =>
    have hrun (asked : Evaluator) := run_of_transport asked console log prepared sent
    have hnone : ¬ ∃ e, prepare r ctx = .error e := by simp [prepared]
    rw [show result = _ from hrun evaluate]
    refine ⟨fun _ _ => ⟨rfl, rfl, rfl, hrun⟩, ⟨nofun, fun h => absurd h hnone⟩, nofun,
      fun _ h => ?_, nofun, nofun⟩
    cases h
    exact ⟨rfl, m, prepared, congrArg Prod.fst sent, rfl⟩
  | @status m reply link' prepared sent fails =>
    have hrun (asked : Evaluator) := run_of_status asked console log prepared sent fails
    have hnone : ¬ ∃ e, prepare r ctx = .error e := by simp [prepared]
    rw [show result = _ from hrun evaluate]
    exact ⟨fun _ _ => ⟨rfl, rfl, rfl, hrun⟩, ⟨nofun, fun h => absurd h hnone⟩, nofun, nofun,
      fun _ _ _ => ⟨m, reply, prepared, congrArg Prod.fst sent, rfl, rfl⟩, nofun⟩
  | @passed m reply link' prepared sent passes =>
    have hnone : ¬ ∃ e, prepare r ctx = .error e := by simp [prepared]
    rw [show result = _ from run_of_passed evaluate console log prepared sent passes]
    refine ⟨nofun, ⟨nofun, fun h => absurd h hnone⟩, nofun, nofun, nofun, fun _ name hname => ?_⟩
    exact get?_vars_capture_of_not_mem hname evaluate log reply.text ctx.vars

/-- A request whose last header does not render, after everything before it did. -/
def lateFailure : Request where
  method := "POST"
  url := "http://host/\x7b\x7b .id \x7d\x7d"
  body := some (.object [("\x7b\x7b .id \x7d\x7d", .array [.string "\x7b\x7b.id\x7d\x7d", .null])])
  headers := [⟨"X-Id", "\x7b\x7b .id \x7d\x7d"⟩, ⟨"X-Open", "\x7b\x7b .id"⟩]
  captures := [⟨"id", "."⟩]

/-- A request that expects a status and captures. -/
def created : Request where
  method := "POST"
  url := "http://host/users"
  expectedStatus := 201
  captures := [⟨"id", "."⟩]

/-- The last header is enough for nothing to be sent, and a reply with another status is shown once
and not asked for its captures. -/
theorem run_keeps_state_lateFailure :
    let ctx : Context := { vars := [("id", "7")], token := "t" }
    let reply : Reply := ⟨500, "http://host/users", "1", [], "Error"⟩
    let send : Transport Nat := fun _ n => (.ok reply, n + 1)
    let evaluate : Evaluator := fun _ document => ⟨[document], .done⟩
    let late := run send evaluate {} {} lateFailure ctx 0
    let wrong := run send evaluate {} {} created ctx 0
    ((∃ e, late.outcome = .failed (.template e)) ∧ late.context.vars = ctx.vars ∧
        late.context.last = none ∧ outward late.journal = []) ∧
      (wrong.outcome = .failed (.status 201 500) ∧ wrong.context.vars = ctx.vars ∧
        wrong.context.last = some reply ∧
        ∃ m, outward wrong.journal = [.sent m, .printed (Console.replyLines {} reply)]) := by
  intro ctx reply send evaluate late wrong
  obtain ⟨hkeeps, htemplate, hsilent, -⟩ := run_keeps_state send evaluate {} {} lateFailure ctx 0
  obtain ⟨e, he⟩ := htemplate.2 ⟨"\x7b\x7b .id", by decide, _, by cbv⟩
  obtain ⟨hlast, -, hjournal⟩ := hsilent e he
  obtain ⟨hkeeps', -, -, -, hshown, -⟩ := run_keeps_state send evaluate {} {} created ctx 0
  have hwrong : wrong.outcome = .failed (.status 201 500) := by
    have hprepare : prepare created { vars := [("id", "7")], token := "t" } = .ok
        ⟨"POST", "http://host/users",
          [("Content-Type", "application/json"), ("Authorization", "Bearer t")], none⟩ := by cbv
    have hstatus : created.expectedStatus ≠ 0 ∧ reply.status ≠ created.expectedStatus := by decide
    have hrun : wrong = _ := run_of_status evaluate {} {} hprepare rfl hstatus
    exact congrArg StepRun.outcome hrun
  obtain ⟨m, shown, -, hreply, hlast', hjournal'⟩ := hshown 201 500 hwrong
  obtain rfl : reply = shown := Except.ok.inj hreply
  exact ⟨⟨⟨e, he⟩, (hkeeps _ he).1, hlast, hjournal⟩, hwrong, (hkeeps' _ hwrong).1, hlast', m,
    hjournal'⟩

end HttpScript.Step
