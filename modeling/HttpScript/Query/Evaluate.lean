import HttpScript.Query.Builtin
import HttpScript.Query.Results
import HttpScript.Query.Syntax
import HttpScript.Text.Literal

/-!
# Answering queries

Filters have no recursion of their own, so their values are defined by recursion on the filter.
Where a filter has several operands, the values of the right one are gone through first: the left
operand varies fastest.
-/
namespace HttpScript.Query

/-- The values of variables. -/
abbrev Bindings := List (String × Value)

namespace Filter

/-- The state after one more value in a reduction: the last value of the update, or null. -/
def reduceStep (update : Value → Value → Stream) (state : Value) (v : Value) :
    Except StreamEnd Value :=
  match update v state with
  | ⟨vs, .done⟩ => .ok (vs.getLast?.getD .null)
  | ⟨_, ending⟩ => .error ending

/-- The state after all values. -/
def reduceAll (update : Value → Value → Stream) (items : Stream) (start : Value) : Stream :=
  match items.values.foldlM (reduceStep update) start with
  | .error ending => ⟨[], ending⟩
  | .ok state => items.collect fun _ => .one state

/-- The extracts of all states that an update goes through. -/
def foreachAll (update extract : Value → Value → Stream) (ending : StreamEnd) :
    List Value → Value → Stream
  | [], _ => ⟨[], ending⟩
  | v :: rest, state =>
    let states := update v state
    (states.bind (extract v)).append
      (foreachAll update extract ending rest (states.values.getLast?.getD .null))

/-- The true values of a stream if there are any. -/
def alternatives (s : Stream) (otherwise : Unit → Stream) : Stream :=
  match s.values.filter Value.isTrue, s.ending with
  | vs, .halted => ⟨vs, .halted⟩
  | [], _ => otherwise ()
  | vs, _ => .ofList vs

/-- An access that gives nothing instead of an error. -/
def access (isLenient : Bool) (s : Stream) : Stream := if isLenient then s.lenient else s

/-- The values of a filter on an input. -/
def values (vars : Bindings) (input : Value) : Filter → Stream
  | .identity => .one input
  | .constant v => .one v
  | .variable name => .one ((Entries.get? name vars).getD .null)
  | .index container key isLenient =>
    (key.values vars input).bind fun k =>
      (container.values vars input).bind fun c => access isLenient (.ofExcept (c.index k))
  | .slice container low high isLenient =>
    (low.values vars input).bind fun l =>
      (high.values vars input).bind fun h =>
        (container.values vars input).bind fun c => access isLenient (.ofExcept (c.slice l h))
  | .iterate container isLenient =>
    (container.values vars input).bind fun c => access isLenient (Value.iterate c)
  | .pipe f g => (f.values vars input).bind fun v => g.values vars v
  | .comma f g => (f.values vars input).append (g.values vars input)
  | .alternative f g => alternatives (f.values vars input) fun _ => g.values vars input
  | .arithmetic op l r =>
    (r.values vars input).bind fun b =>
      (l.values vars input).bind fun a => .ofExcept (op.apply a b)
  | .comparison op l r =>
    (r.values vars input).bind fun b =>
      (l.values vars input).bind fun a => .one (.bool (op.holds a b))
  | .both l r =>
    (l.values vars input).bind fun a =>
      if a.isTrue then (r.values vars input).bind fun b => .one (.bool b.isTrue)
      else .one (.bool false)
  | .either l r =>
    (l.values vars input).bind fun a =>
      if a.isTrue then .one (.bool true)
      else (r.values vars input).bind fun b => .one (.bool b.isTrue)
  | .negate f => (f.values vars input).bind fun v => .ofExcept v.negate
  | .cond test whenTrue whenFalse =>
    (test.values vars input).bind fun b =>
      if b.isTrue then whenTrue.values vars input else whenFalse.values vars input
  | .bind source name body =>
    (source.values vars input).bind fun v => body.values ((name, v) :: vars) input
  | .reduce source name start update =>
    (start.values vars input).bind fun state =>
      reduceAll (fun v s => update.values ((name, v) :: vars) s) (source.values vars input) state
  | .foreach source name start update extract =>
    (start.values vars input).bind fun state =>
      let items := source.values vars input
      foreachAll (fun v s => update.values ((name, v) :: vars) s)
        (fun v s => extract.values ((name, v) :: vars) s) items.ending items.values state
  | .attempt body handler => (body.values vars input).recover fun e => handler.values vars e
  | .collect f => (f.values vars input).collect fun vs => .one (.array vs)
  | .insert object key value =>
    (object.values vars input).bind fun o =>
      (key.values vars input).bind fun k =>
        (value.values vars input).bind fun v => .ofExcept (o.insert k v)
  | .call f => f.run input
  | .callWith f a => f.run (fun v => a.values vars v) input
  | .callWithTwo f a b => f.run (fun v => a.values vars v) (fun v => b.values vars v) input

end Filter

/-- The message of an error: a string is its own message. -/
def errorMessage : Value → String
  | .string s => s
  | v => Json.render Json.spaced v.toJson

def StreamEnd.queryEnd : StreamEnd → QueryEnd
  | .done => .done
  | .halted => .halted
  | .failed e => .failed (errorMessage e)

/-- The message for a text that is no filter. -/
def invalidMessage (expression : String) : String :=
  "invalid expression " ++ Text.quoted expression ++ ": <jq compile error>"

/-- Answer a query. -/
def evaluate : Evaluator := fun expression document =>
  match Filter.ofText? expression with
  | none => ⟨[], .failed (invalidMessage expression)⟩
  | some f =>
    let s := f.values [] (Value.ofJson document)
    ⟨s.values.map Value.toJson, s.ending.queryEnd⟩

end HttpScript.Query
