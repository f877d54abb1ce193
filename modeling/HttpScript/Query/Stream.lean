import HttpScript.Query.Value

/-!
# Streams of values

A filter gives its values one after another. A stream ends when there are no more, when the whole
query is halted, or with an error, which is a value too.
-/
namespace HttpScript.Query

inductive StreamEnd where
  | done
  | halted
  | failed (error : Value)
  deriving Repr

structure Stream where
  values : List Value
  ending : StreamEnd
  deriving Repr

namespace Stream

def empty : Stream := ⟨[], .done⟩

def one (v : Value) : Stream := ⟨[v], .done⟩

def ofList (vs : List Value) : Stream := ⟨vs, .done⟩

def fail (error : Value) : Stream := ⟨[], .failed error⟩

/-- An error with a message. -/
def error (message : String) : Stream := fail (.string message)

def ofExcept : Except String Value → Stream
  | .ok v => one v
  | .error message => error message

/-- The values of `f` on each of `vs`, and then the ending of the whole. What follows an early end
is left out. -/
def concatMap (f : Value → Stream) (ending : StreamEnd) : List Value → Stream
  | [] => ⟨[], ending⟩
  | v :: rest =>
    match f v with
    | ⟨vs, .done⟩ =>
      let more := concatMap f ending rest
      ⟨vs ++ more.values, more.ending⟩
    | stopped => stopped

def bind (s : Stream) (f : Value → Stream) : Stream := concatMap f s.ending s.values

/-- One stream after another. -/
def append (s t : Stream) : Stream :=
  match s.ending with
  | .done => ⟨s.values ++ t.values, t.ending⟩
  | _ => s

/-- All values as one, if the stream is not cut short. -/
def collect (s : Stream) (f : List Value → Stream) : Stream :=
  match s.ending with
  | .done => f s.values
  | ending => ⟨[], ending⟩

/-- The first value; what comes after it is not asked for. -/
def first (s : Stream) : Stream :=
  match s.values with
  | v :: _ => one v
  | [] => s

/-- The first so many values. -/
def take (n : Nat) (s : Stream) : Stream :=
  if n ≤ s.values.length then ofList (s.values.take n) else s

/-- The stream with an error, if there is one, replaced by what `f` gives for it. -/
def recover (s : Stream) (f : Value → Stream) : Stream :=
  match s.ending with
  | .failed e =>
    let more := f e
    ⟨s.values ++ more.values, more.ending⟩
  | _ => s

/-- The stream without its error. -/
def lenient (s : Stream) : Stream := s.recover fun _ => empty

end Stream

end HttpScript.Query
