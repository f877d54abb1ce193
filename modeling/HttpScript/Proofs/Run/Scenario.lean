import HttpScript.Proofs.Capture
import HttpScript.Proofs.Run.Prepare
import HttpScript.Run.Execute

/-!
# A run and what it should do

A scenario fixes everything a run depends on: the requests, the context, the token and the answers
of the server. From it follows, request by request and without running anything, in which variables
each of them is rendered, whether it fails, and what can be seen of it.
-/
namespace HttpScript

/-- What is asked of the parties outside of a run. -/
inductive Call where
  | login
  | message (m : Outgoing)

def Call.message? : Call → Option Outgoing
  | .login => none
  | .message m => some m

def messages (calls : List Call) : List Outgoing := calls.filterMap Call.message?

structure Scenario where
  requests : List Request
  context : Context
  token : Except String String
  /-- The answer to the message with a number, counted from 0. -/
  reply : Nat → Except String Reply
  evaluate : Evaluator
  console : Console
  log : Logger
  identifier : Nat → String
  elapsedMs : Nat → Int
  /-- The identifiers used before. -/
  taken : Nat

namespace Scenario

variable (S : Scenario)

/-- Messages are answered in turn; all that is asked is kept. -/
def send : Transport (List Call) := fun m calls =>
  (S.reply (messages calls).length, calls ++ [.message m])

def setup : Setup (List Call) where
  handler := .sending S.send S.evaluate S.console
  login := fun calls => (S.token, calls ++ [.login])
  console := S.console
  log := S.log
  identifier := S.identifier
  elapsedMs := S.elapsedMs

def run : Run (List Call) := execute S.setup S.requests ⟨S.context, [], S.taken⟩

/-! ### Variables -/

/-- The identifiers used before the first request: a run without a name takes one. -/
def base : Nat := if S.context.runId.isEmpty then S.taken + 1 else S.taken

/-- The identifier of the request with an index. -/
def identifierOf (n : Nat) : String := S.identifier (S.base + n + 1)

/-- The variables that the captures of a request write, in order. -/
def yielded (n : Nat) : List (String × String) :=
  match S.requests[n]?, S.reply n with
  | some r, .ok reply => yields S.evaluate r.captures reply.text
  | _, _ => []

/-- The value of a variable when the request with index `n` is rendered: the identifier is fresh,
and any other variable has the value written to it last by the requests before. -/
def environment (n : Nat) (name : String) : Option String :=
  if name = identifierVariable then some (S.identifierOf n)
  else (Entries.lastWrite? name ((List.range n).flatMap S.yielded)).or
    (Entries.get? name S.context.vars)

/-- The variables as they are stored before the request with an index. -/
def stored : Nat → Variables
  | 0 => S.context.vars
  | n + 1 =>
    Entries.putAll (Entries.put identifierVariable (S.identifierOf n) (stored n)) (S.yielded n)

/-- The variables as they are stored when the request with an index is rendered. -/
def entered (n : Nat) : Variables :=
  Entries.put identifierVariable (S.identifierOf n) (S.stored n)

theorem stored_succ (n : Nat) :
    S.stored (n + 1) = Entries.putAll (S.entered n) (S.yielded n) := rfl

theorem get?_stored (n : Nat) {name : String} (h : name ≠ identifierVariable) :
    Entries.get? name (S.stored n) = S.environment n name := by
  rw [environment, if_neg h]
  induction n with
  | zero => simp [stored]
  | succ n ih =>
    rw [stored, Entries.get?_putAll, Entries.get?_put_of_ne h, ih, List.range_succ,
      List.flatMap_append, Entries.lastWrite?_append, Option.or_assoc]
    simp

theorem get?_entered (n : Nat) (name : String) :
    Entries.get? name (S.entered n) = S.environment n name := by
  by_cases h : name = identifierVariable
  · rw [entered, h, Entries.get?_put_self, environment, if_pos rfl]
  · rw [entered, Entries.get?_put_of_ne h, S.get?_stored n h]

/-! ### Requests -/

def bearer : String :=
  match S.token with
  | .ok token => token
  | .error _ => ""

/-- The message of the request with index `n`, or the template that does not render. -/
def prepared (n : Nat) (r : Request) : Except Template.Error Outgoing :=
  prepare r { vars := S.entered n, token := S.bearer }

/-- Why a request fails, if it does: its template, its transport, or the status of its reply. -/
def failureOf (n : Nat) (r : Request) : Option StepFailure :=
  match S.prepared n r with
  | .error e => some (.template e)
  | .ok _ =>
    match S.reply n with
    | .error why => some (.transport why)
    | .ok reply =>
      if r.expectedStatus ≠ 0 ∧ reply.status ≠ r.expectedStatus then
        some (.status r.expectedStatus reply.status)
      else none

def failure (n : Nat) : Option StepFailure := S.requests[n]?.bind (S.failureOf n)

/-- The message of a request, if it renders and its body has a text. -/
def sentBy (n : Nat) (r : Request) : List Outgoing :=
  if r.isWritable (S.entered n) then
    match S.prepared n r with
    | .error _ => []
    | .ok m => [m]
  else []

/-- What is seen of a pause: it is announced, and lasts the milliseconds divided by a thousand. -/
def pauseEffects (ms : Int) : List Effect :=
  if 0 < ms then .printed (S.console.waitLines ms) :: ((seconds? ms).map Effect.slept).toList
  else []

/-- What is seen of a request, in order: its message, the reply, and the pause after it when it
has passed. -/
def effectsOf (n : Nat) (r : Request) : List Effect :=
  (S.sentBy n r).map .sent ++
    match S.sentBy n r, S.reply n with
    | _ :: _, .ok reply =>
      .printed (S.console.replyLines reply) ::
        if S.failureOf n r = none then S.pauseEffects r.waitMs else []
    | _, _ => []

def sent (n : Nat) : List Outgoing := (S.requests[n]?.map (S.sentBy n)).getD []

def effects (n : Nat) : List Effect := (S.requests[n]?.map (S.effectsOf n)).getD []

/-- The requests with an index below `n`, each rendered. -/
def sentBefore (n : Nat) : List Outgoing := (List.range n).flatMap S.sent

def effectsBefore (n : Nat) : List Effect := (List.range n).flatMap S.effects

theorem sentBefore_succ (n : Nat) : S.sentBefore (n + 1) = S.sentBefore n ++ S.sent n := by
  simp [sentBefore, List.range_succ]

theorem effectsBefore_succ (n : Nat) :
    S.effectsBefore (n + 1) = S.effectsBefore n ++ S.effects n := by
  simp [effectsBefore, List.range_succ]

variable {S} {n : Nat} {r : Request}

theorem sentBy_of_unwritable (h : r.isWritable (S.entered n) = false) : S.sentBy n r = [] := by
  rw [sentBy, h]
  exact if_neg Bool.false_ne_true

theorem sentBy_of_template {e : Template.Error} (h : S.prepared n r = .error e) :
    S.sentBy n r = [] := by
  rw [sentBy, h, ite_self]

theorem sentBy_of_prepared {m : Outgoing} (hwritable : r.isWritable (S.entered n) = true)
    (h : S.prepared n r = .ok m) : S.sentBy n r = [m] := by
  rw [sentBy, if_pos hwritable, h]

theorem failureOf_of_template {e : Template.Error} (h : S.prepared n r = .error e) :
    S.failureOf n r = some (.template e) := by
  rw [failureOf, h]

theorem failureOf_of_transport {m : Outgoing} {why : String} (h : S.prepared n r = .ok m)
    (hreply : S.reply n = .error why) : S.failureOf n r = some (.transport why) := by
  rw [failureOf, h]
  simp only [hreply]

theorem failureOf_of_reply {m : Outgoing} {reply : Reply} (h : S.prepared n r = .ok m)
    (hreply : S.reply n = .ok reply) :
    S.failureOf n r =
      if r.expectedStatus ≠ 0 ∧ reply.status ≠ r.expectedStatus then
        some (.status r.expectedStatus reply.status)
      else none := by
  rw [failureOf, h]
  simp only [hreply]

section

variable (hr : S.requests[n]? = some r)
include hr

theorem failure_eq : S.failure n = S.failureOf n r := by rw [failure, hr, Option.bind_some]

theorem sent_eq : S.sent n = S.sentBy n r := by
  rw [sent, hr]
  rfl

theorem effects_eq : S.effects n = S.effectsOf n r := by
  rw [effects, hr]
  rfl

/-- A request that does not fail renders. -/
theorem prepared_of_failure (h : S.failure n = none) : ∃ m, S.prepared n r = .ok m := by
  rw [failure_eq hr] at h
  cases hm : S.prepared n r with
  | error e => rw [failureOf_of_template hm] at h; cases h
  | ok m => exact ⟨m, rfl⟩

end

end Scenario

end HttpScript
