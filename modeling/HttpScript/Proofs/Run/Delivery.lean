import HttpScript.Http.Session
import HttpScript.Proofs.Except
import HttpScript.Proofs.Run.Composition
import Mathlib

/-!
# What a run delivers to a server

A run through a session is told by its deliveries. Each request is delivered once, after those before
it were answered as they should be; the first that is not ends the run, and nothing is delivered
after it. Captures have a part in this only by what they write: that one of them fails changes
nothing.
-/
namespace HttpScript

/-- What a session is asked to bring to a server: the message that asks for a token, or a message of a
run. -/
inductive Dispatch where
  | login (p : Post)
  | message (d : Delivery)
  deriving Repr

/-- A server and the session in front of it: what they say may hang on all that was sent so far. -/
structure Server where
  prepare : List Dispatch → String → String → Option (List UInt8) → Except String Prepared
  route : List Dispatch → String → Except String Route
  answer : List Dispatch → Delivery → Except String Response
  login : List Dispatch → Post → Except String LoginReply

namespace Server

/-- The session in front of a server. Whatever is sent is kept. -/
def session (server : Server) : Session (List Dispatch) where
  prepare method url body sent := server.prepare sent method url body
  route url sent := server.route sent url
  send d sent := (server.answer sent d, sent ++ [.message d])
  post p sent := (server.login sent p, sent ++ [.login p])

theorem session_post (server : Server) (p : Post) (sent : List Dispatch) :
    server.session.post p sent = (server.login sent p, sent ++ [.login p]) := rfl

/-- The sender of the messages to a server. -/
def client (server : Server) (timeout : Option Float) : Client (List Dispatch) :=
  ⟨server.session, timeout⟩

end Server

/-- Deliveries among what is sent. -/
def delivered (ds : List Delivery) : List Dispatch := ds.map .message

@[simp] theorem delivered_nil : delivered [] = [] := rfl

@[simp] theorem delivered_cons (d : Delivery) (ds : List Delivery) :
    delivered (d :: ds) = .message d :: delivered ds := rfl

theorem delivered_injective : Function.Injective delivered :=
  List.map_injective_iff.2 fun _ _ h => Dispatch.message.inj h

/-- A delivery carries the message of a request, rendered with some variables. -/
def Delivery.IsFor (c : Client (List Dispatch)) (token : String) (r : Request) (sent : List Dispatch)
    (d : Delivery) : Prop :=
  ∃ vars m, prepare r { vars := vars, token := token } = .ok m ∧ c.delivery m sent = .ok d

/-- A reply has the status that a request expects, if it expects one. -/
def Response.Suits (reply : Response) (r : Request) : Prop :=
  r.expectedStatus ≠ 0 → reply.status = r.expectedStatus

section

variable (server : Server) (timeout : Option Float) (token : String)

/-- Requests are delivered one after another, each of them once, and each is answered as it expects.
The first list holds what was sent before. -/
inductive Answered : List Dispatch → List Request → List Delivery → Prop
  | nil {sent : List Dispatch} : Answered sent [] []
  | cons {sent : List Dispatch} {ds : List Delivery} {r : Request} {requests : List Request}
      {d : Delivery} {reply : Response} (isFor : d.IsFor (server.client timeout) token r sent)
      (answer : server.answer sent d = .ok reply) (suits : reply.Suits r)
      (rest : Answered (sent ++ [.message d]) requests ds) :
      Answered sent (r :: requests) (d :: ds)

/-- Why a request fails, and what of it is delivered. -/
inductive Request.Fails (sent : List Dispatch) (r : Request) : StepFailure → List Delivery → Prop
  | template {vars : Variables} {e : Template.Error}
      (unread : prepare r { vars := vars, token := token } = .error e) : Fails sent r (.template e) []
  | undelivered {vars : Variables} {m : Outgoing} {why : String}
      (rendered : prepare r { vars := vars, token := token } = .ok m)
      (refused : (server.client timeout).delivery m sent = .error why) :
      Fails sent r (.transport (Client.refusal why)) []
  | unanswered {d : Delivery} {why : String} (isFor : d.IsFor (server.client timeout) token r sent)
      (answer : server.answer sent d = .error why) : Fails sent r (.transport why) [d]
  | mismatched {d : Delivery} {reply : Response}
      (isFor : d.IsFor (server.client timeout) token r sent)
      (answer : server.answer sent d = .ok reply) (suits : ¬ reply.Suits r) :
      Fails sent r (.status r.expectedStatus reply.status) [d]

/-- How a run of requests ends, and all that was sent in the end: every request is delivered, or as
many as come before a failure. `number` counts the requests before. -/
inductive Delivers (number : Nat) (sent : List Dispatch) (requests : List Request) :
    RunEnd → List Dispatch → Prop
  | completed {ds : List Delivery} (answered : Answered server timeout token sent requests ds) :
      Delivers number sent requests (.completed (number + requests.length)) (sent ++ delivered ds)
  | failed {n : Nat} {r : Request} {why : StepFailure} {ds last : List Delivery}
      (begun : requests[n]? = some r)
      (answered : Answered server timeout token sent (requests.take n) ds)
      (fails : r.Fails server timeout token (sent ++ delivered ds) why last) :
      Delivers number sent requests (.stepFailed (number + n + 1) why)
        (sent ++ delivered (ds ++ last))
  | crashed {why : Crash} {all : List Dispatch} : Delivers number sent requests (.crashed why) all

end

variable {server : Server} {timeout : Option Float} {token : String}

namespace Answered

variable {sent : List Dispatch} {ds : List Delivery} {requests : List Request}

theorem length_eq (h : Answered server timeout token sent requests ds) :
    ds.length = requests.length := by
  induction h with
  | nil => rfl
  | cons _ _ _ _ ih => rw [List.length_cons, List.length_cons, ih]

/-- Each delivery was answered as its request expects. -/
theorem exists_reply (h : Answered server timeout token sent requests ds) {n : Nat} {r : Request}
    {d : Delivery} (hr : requests[n]? = some r) (hd : ds[n]? = some d) :
    ∃ reply, server.answer (sent ++ delivered (ds.take n)) d = .ok reply ∧ reply.Suits r := by
  induction h generalizing n with
  | nil => cases hr
  | @cons sent ds q requests e reply isFor answer suits _ ih =>
    cases n with
    | zero =>
      obtain rfl := Option.some.inj hr
      obtain rfl := Option.some.inj hd
      exact ⟨reply, by simpa using answer, suits⟩
    | succ n => simpa using ih hr hd

end Answered

theorem Request.Fails.length_le {sent : List Dispatch} {last : List Delivery} {r : Request}
    {why : StepFailure} (h : r.Fails server timeout token sent why last) : last.length ≤ 1 := by
  cases h <;> simp

/-- A request that fails was not answered as it expects, if it was delivered at all. -/
theorem Request.Fails.not_suits {sent : List Dispatch} {r : Request} {why : StepFailure}
    {d : Delivery} (h : r.Fails server timeout token sent why [d]) {reply : Response}
    (answer : server.answer sent d = .ok reply) : ¬ reply.Suits r := by
  cases h with
  | unanswered _ refused => simp [refused] at answer
  | mismatched _ answer' suits =>
    obtain rfl := Except.ok.inj (answer'.symm.trans answer)
    exact suits

/-- A request that is answered as it expects comes before what the others deliver. -/
theorem Delivers.cons {sent all : List Dispatch} {r : Request} {requests : List Request}
    {d : Delivery} {reply : Response} {number : Nat} {ending : RunEnd}
    (isFor : d.IsFor (server.client timeout) token r sent)
    (answer : server.answer sent d = .ok reply) (suits : reply.Suits r)
    (h : Delivers server timeout token (number + 1) (sent ++ [.message d]) requests ending all) :
    Delivers server timeout token number sent (r :: requests) ending all := by
  cases h with
  | completed answered =>
    rw [List.append_assoc, Nat.add_assoc, Nat.add_comm 1]
    exact .completed (.cons isFor answer suits answered)
  | @failed n q why ds last begun answered fails =>
    have hbegun : (r :: requests)[n + 1]? = some q := begun
    have hanswered : Answered server timeout token sent ((r :: requests).take (n + 1)) (d :: ds) :=
      .cons isFor answer suits answered
    have hfails : q.Fails server timeout token (sent ++ delivered (d :: ds)) why last := by
      rwa [List.append_assoc] at fails
    rw [List.append_assoc, Nat.add_assoc number, Nat.add_comm 1]
    exact .failed hbegun hanswered hfails
  | crashed => exact .crashed

/-- What was delivered up to a failure cannot be taken for all requests answered as they expect. -/
theorem Answered.not_fails {sent : List Dispatch} {ds before last : List Delivery}
    {requests : List Request} (h : Answered server timeout token sent requests ds) {n : Nat}
    {r : Request} {why : StepFailure} (begun : requests[n]? = some r)
    (answered : Answered server timeout token sent (requests.take n) before)
    (fails : r.Fails server timeout token (sent ++ delivered before) why last) :
    ds ≠ before ++ last := by
  rintro rfl
  -- Counting the deliveries: the request that failed would be the last one, and have one of its own.
  have hn : n < requests.length := (List.getElem?_eq_some_iff.1 begun).1
  have hall : before.length + last.length = requests.length := by
    rw [← List.length_append, h.length_eq]
  have hbefore : before.length = n := by
    rw [answered.length_eq, List.length_take]
    omega
  have hlast : last.length = 1 := by
    have := fails.length_le
    omega
  obtain ⟨d, rfl⟩ := List.length_eq_one_iff.1 hlast
  obtain ⟨reply, answer, suits⟩ := h.exists_reply begun (d := d) (by simp [← hbefore])
  rw [← hbefore, List.take_left] at answer
  exact fails.not_suits answer suits

/-- All requests pass if and only if each of them is delivered, and answered as it expects. -/
theorem Delivers.completed_iff {number : Nat} {sent all : List Dispatch} {requests : List Request}
    {ending : RunEnd} (h : Delivers server timeout token number sent requests ending all)
    (hcrash : ∀ why, ending ≠ .crashed why) :
    (∃ steps, ending = .completed steps) ↔
      ∃ ds, all = sent ++ delivered ds ∧ Answered server timeout token sent requests ds := by
  cases h with
  | completed answered => exact ⟨fun _ => ⟨_, rfl, answered⟩, fun _ => ⟨_, rfl⟩⟩
  | failed begun answered fails =>
    refine ⟨fun ⟨_, hsteps⟩ => (by cases hsteps), fun ⟨ds, hds, hall⟩ => ?_⟩
    have hsame := delivered_injective (List.append_cancel_left hds)
    exact absurd hsame.symm (hall.not_fails begun answered fails)
  | crashed => exact absurd rfl (hcrash _)

/-! ### One request -/

/-- What becomes of a message on its way to a server. -/
theorem transport_client (server : Server) (timeout : Option Float) (m : Outgoing)
    (sent : List Dispatch) :
    (server.client timeout).transport m sent =
      match (server.client timeout).delivery m sent with
      | .error why => (.error (Client.refusal why), sent)
      | .ok d => ((server.answer sent d).map Response.reply, sent ++ [.message d]) := rfl

theorem exists_answer_of_transport {m : Outgoing} {sent link : List Dispatch} {reply : Reply}
    (h : (server.client timeout).transport m sent = (.ok reply, link)) :
    ∃ d raw, server.answer sent d = .ok raw ∧ raw.reply = reply := by
  rw [transport_client] at h
  cases hd : (server.client timeout).delivery m sent with
  | error why => simp [hd] at h
  | ok d =>
    cases hraw : server.answer sent d with
    | error why => simp [hd, hraw, Except.map] at h
    | ok raw =>
      simp only [hd, hraw, Except.map, Prod.mk.injEq, Except.ok.injEq] at h
      exact ⟨d, raw, hraw, h.1⟩

variable (server timeout) in
/-- A request passes if it is answered as it expects, and fails otherwise, unless its body has no
text. -/
theorem Handler.sending_delivers (evaluate : Evaluator) (console : Console) (log : Logger)
    (r : Request) (ctx : Context) (sent : List Dispatch) :
    let result := (Handler.sending (server.client timeout).transport evaluate console).handle log r
      ctx sent
    (∃ d reply, result.outcome = .passed ∧ result.link = sent ++ [.message d] ∧
      d.IsFor (server.client timeout) ctx.token r sent ∧ server.answer sent d = .ok reply ∧
      reply.Suits r) ∨
    (∃ why last, result.outcome = .failed why ∧ result.link = sent ++ delivered last ∧
      r.Fails server timeout ctx.token sent why last) ∨
    result.outcome = .unwritable := by
  cases hwritable : r.isWritable ctx.vars with
  | false =>
    rw [Handler.handle_of_unwritable _ _ _ _ _ hwritable]
    exact .inr (.inr rfl)
  | true =>
    rw [Handler.handle_of_writable _ _ _ _ _ hwritable]
    have hprepare : prepare r ctx = prepare r { vars := ctx.vars, token := ctx.token } :=
      prepare_congr (fun _ => rfl) rfl r
    cases hm : prepare r ctx with
    | error e =>
      rw [Step.run_of_template _ _ _ hm]
      exact .inr (.inl ⟨_, [], rfl, (List.append_nil _).symm, .template (hprepare ▸ hm)⟩)
    | ok m =>
      have hrendered := hprepare ▸ hm
      have hsend := transport_client server timeout m sent
      cases hd : (server.client timeout).delivery m sent with
      | error why =>
        rw [hd] at hsend
        rw [Step.run_of_transport _ _ _ hm hsend]
        exact .inr (.inl ⟨_, [], rfl, (List.append_nil _).symm, .undelivered hrendered hd⟩)
      | ok d =>
        have isFor : d.IsFor (server.client timeout) ctx.token r sent := ⟨_, m, hrendered, hd⟩
        simp only [hd] at hsend
        cases hreply : server.answer sent d with
        | error why =>
          rw [hreply] at hsend
          rw [Step.run_of_transport _ _ _ hm hsend]
          exact .inr (.inl ⟨_, [d], rfl, rfl, .unanswered isFor hreply⟩)
        | ok reply =>
          rw [hreply] at hsend
          by_cases hstatus : r.expectedStatus ≠ 0 ∧ reply.reply.status ≠ r.expectedStatus
          · have hsuits : ¬ reply.Suits r := fun hsuits => hstatus.2 (hsuits hstatus.1)
            rw [Step.run_of_status _ _ _ hm hsend hstatus]
            exact .inr (.inl ⟨_, [d], rfl, rfl, .mismatched isFor hreply hsuits⟩)
          · have hsuits : reply.Suits r := fun hexpected =>
              not_not.1 fun hother => hstatus ⟨hexpected, hother⟩
            rw [Step.run_of_passed _ _ _ hm hsend hstatus]
            exact .inl ⟨d, reply, rfl, rfl, isFor, hreply, hsuits⟩

/-! ### All requests -/

/-- A run delivers its requests one after another until one fails. -/
theorem Run.steps_delivers {s : Setup (List Dispatch)} {evaluate : Evaluator} {console : Console}
    (hs : s.handler = .sending (server.client timeout).transport evaluate console) (log : Logger)
    (requests : List Request) (number : Nat) (p : Position (List Dispatch)) :
    let run := steps s log (number + 1) requests p
    Delivers server timeout p.context.token number p.link requests run.ending
      run.position.link := by
  induction requests generalizing number p with
  | nil =>
    have h : Delivers server timeout p.context.token number p.link [] _ _ := .completed .nil
    rwa [delivered_nil, List.append_nil] at h
  | cons r rest ih =>
    have hstep := Handler.sending_delivers server timeout evaluate console
      (stepLog log (number + 1) r) r (enter s p) p.link
    rw [← hs] at hstep
    obtain ⟨result, hresult⟩ : ∃ result, s.handler.handle (stepLog log (number + 1) r) r (enter s p)
      p.link = result := ⟨_, rfl⟩
    have htoken : result.context.token = p.context.token := by
      rw [← hresult, hs]
      exact (Handler.sending_keepsRun _ _ _ _ r (enter s p) p.link).2
    have henter : (enter s p).token = p.context.token := rfl
    -- A request that passes keeps the token, so the rest is delivered under the same one.
    rw [hresult, henter] at hstep
    rcases hstep with ⟨d, reply, houtcome, hlink, isFor, answer, suits⟩ |
      ⟨why, last, houtcome, hlink, fails⟩ | hunwritable
    · by_cases hwait : 0 < r.waitMs ∧ seconds? r.waitMs = none
      · rw [steps_of_endless hresult houtcome hwait]
        exact .crashed
      · rw [steps_of_passed hresult houtcome hwait]
        have hrest := ih (number + 1) (next p result)
        simp only [next, htoken, hlink] at hrest
        rw [next, hlink]
        exact .cons isFor answer suits hrest
    · rw [steps_of_failed hresult houtcome]
      have h : Delivers server timeout p.context.token number p.link (r :: rest) _ _ :=
        .failed (n := 0) rfl .nil (by simpa using fails)
      simpa [next, hlink] using h
    · rw [steps_of_unwritable hresult hunwritable]
      exact .crashed

/-! ### Captures -/

/-- The same requests, but for their captures. These write the same variables on each reply that the
server can give, whether or not a query fails; `n` messages were sent before. -/
inductive CapturesAlike (server : Server) (evaluate : Evaluator) :
    Nat → List Request → List Request → Prop
  | nil {n : Nat} : CapturesAlike server evaluate n [] []
  | cons {n : Nat} {r : Request} {captures : List Field} {requests requests' : List Request}
      (alike : ∀ sent d reply, sent.length = n → server.answer sent d = .ok reply →
        yields evaluate captures reply.text = yields evaluate r.captures reply.text)
      (rest : CapturesAlike server evaluate (n + 1) requests requests') :
      CapturesAlike server evaluate n (r :: requests) ({ r with captures := captures } :: requests')

/-- A request shows of its captures only what they write. -/
theorem Step.run_capturesAlike {evaluate : Evaluator} {sent : List Dispatch} {r : Request}
    {captures : List Field}
    (alike : ∀ d reply, server.answer sent d = .ok reply →
      yields evaluate captures reply.text = yields evaluate r.captures reply.text)
    (console : Console) (log : Logger) (ctx : Context) :
    (run (server.client timeout).transport evaluate console log { r with captures := captures } ctx
      sent).SameButLog
        (run (server.client timeout).transport evaluate console log r ctx sent) := by
  let r' : Request := { r with captures := captures }
  cases exit (server.client timeout).transport r ctx sent with
  | template fails =>
    have fails' : prepare r' ctx = _ := fails
    rw [run_of_template _ _ _ fails, run_of_template _ _ _ fails']
    exact ⟨rfl, rfl, rfl, rfl⟩
  | transport prepared answer =>
    have prepared' : prepare r' ctx = _ := prepared
    rw [run_of_transport _ _ _ prepared answer, run_of_transport _ _ _ prepared' answer]
    exact ⟨rfl, rfl, rfl, rfl⟩
  | @status m reply link prepared answer fails =>
    have prepared' : prepare r' ctx = _ := prepared
    have fails' : r'.expectedStatus ≠ 0 ∧ reply.status ≠ r'.expectedStatus := fails
    rw [run_of_status _ _ _ prepared answer fails, run_of_status _ _ _ prepared' answer fails']
    exact ⟨rfl, rfl, rfl, rfl⟩
  | @passed m reply link prepared answer passes =>
    have prepared' : prepare r' ctx = _ := prepared
    have passes' : ¬ (r'.expectedStatus ≠ 0 ∧ reply.status ≠ r'.expectedStatus) := passes
    obtain ⟨d, raw, hraw, rfl⟩ := exists_answer_of_transport answer
    have hyields : yields evaluate captures raw.text = yields evaluate r.captures raw.text :=
      alike d raw hraw
    rw [run_of_passed _ _ _ prepared answer passes, run_of_passed _ _ _ prepared' answer passes']
    refine ⟨rfl, ?_, rfl, ?_⟩
    · simp only [vars_capture]
      rw [show raw.reply.text = raw.text from rfl, hyields]
    · simp

variable (timeout) in
/-- So does the handling of a request. -/
theorem Handler.sending_capturesAlike {evaluate : Evaluator} {sent : List Dispatch} {r : Request}
    {captures : List Field}
    (alike : ∀ d reply, server.answer sent d = .ok reply →
      yields evaluate captures reply.text = yields evaluate r.captures reply.text)
    (console : Console) (log : Logger) (ctx : Context) :
    let handler := Handler.sending (server.client timeout).transport evaluate console
    (handler.handle log { r with captures := captures } ctx sent).SameButLog
      (handler.handle log r ctx sent) := by
  intro handler
  -- whether the body has a text does not hang on the captures
  cases hwritable : r.isWritable ctx.vars with
  | true =>
    rw [handle_of_writable _ _ _ _ _ hwritable, handle_of_writable _ _ _ _ _ (r := { r with
      captures := captures }) hwritable]
    exact Step.run_capturesAlike alike console log ctx
  | false =>
    rw [handle_of_unwritable _ _ _ _ _ hwritable, handle_of_unwritable _ _ _ _ _ (r := { r with
      captures := captures }) hwritable]
    exact ⟨rfl, rfl, rfl, rfl⟩

/-- A run shows of its captures only what they write. -/
theorem Run.steps_capturesAlike {s : Setup (List Dispatch)} {evaluate : Evaluator}
    {console : Console} (hs : s.handler = .sending (server.client timeout).transport evaluate console)
    (log : Logger) {number : Nat} {requests requests' : List Request}
    (h : CapturesAlike server evaluate number requests requests') (p : Position (List Dispatch))
    (hlink : p.link.length = number) :
    (steps s log number requests' p).SameButLog (steps s log number requests p) := by
  induction h generalizing p with
  | nil => exact ⟨rfl, rfl, rfl⟩
  | @cons number r captures rest rest' alike _ ih =>
    have hdelivers := Handler.sending_delivers server timeout evaluate console
      (stepLog log number r) r (enter s p) p.link
    have hstep := Handler.sending_capturesAlike timeout (fun d reply => alike p.link d reply hlink)
      console (stepLog log number r) (enter s p)
    rw [← hs] at hdelivers
    dsimp only at hstep
    rw [← hs] at hstep
    have hsame : (steps s log number ({ r with captures := captures } :: rest') p).SameButLog
        ((steps s log number (r :: rest) p).after 0) := by
      refine steps_cons_sameButLog (Nat.zero_add number).symm rfl rfl hstep rfl fun hpassed => ?_
      rcases hdelivers with ⟨d, reply, -, hnext, -⟩ | ⟨why, last, hfailed, -⟩ | hunwritable
      · rw [after_zero]
        exact ih _ (by simp [next, hnext, hlink])
      · simp [hpassed] at hfailed
      · simp [hpassed] at hunwritable
    rwa [after_zero] at hsame

end HttpScript
