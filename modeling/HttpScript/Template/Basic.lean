import HttpScript.Entries
import HttpScript.Text.Blank

/-!
# Templates

A text with field references: two opening braces, a name after a dot, two closing braces. Reading a
template splits it into pieces, whatever the variables; expanding the pieces replaces each reference
by the value of its variable, or by nothing, and looks at no value again.
-/
namespace HttpScript

/-- The variables of a run, in the order in which they were first set. -/
abbrev Variables := List (String × String)

namespace Template

inductive Piece where
  | text (s : List Char)
  | reference (name : List Char)
  deriving Repr, DecidableEq

inductive Fault where
  | unclosed
  | unsupported (action : List Char)
  deriving Repr, DecidableEq

/-- A template that does not read, with the reason. -/
structure Error where
  template : String
  fault : Fault
  deriving Repr, DecidableEq

def Error.message (e : Error) : String :=
  match e.fault with
  | .unclosed => "unclosed action in template: " ++ e.template
  | .unsupported action =>
    "unsupported action \x7b\x7b" ++ .ofList action ++ "\x7d\x7d in template: " ++ e.template

def isNameStart (c : Char) : Bool := c.isAlpha || c == '_'

def isNameChar (c : Char) : Bool := c.isAlphanum || c == '_'

/-- A letter or underscore, followed by letters, digits and underscores; ASCII only. -/
def isName (s : List Char) : Bool :=
  match s with
  | [] => false
  | c :: rest => isNameStart c && rest.all isNameChar

/-- The name that an action refers to: a dot and a name, with blanks around. -/
def fieldName? (action : List Char) : Option (List Char) :=
  match Text.trim action with
  | '.' :: name => if isName name then some name else none
  | _ => none

/-- The characters before the first pair of `mark`, and those after it. -/
def splitAtPair (mark : Char) : List Char → Option (List Char × List Char)
  | [] => none
  | [_] => none
  | a :: b :: s =>
    if a == mark && b == mark then some ([], s)
    else (splitAtPair mark (b :: s)).map fun (before, rest) => (a :: before, rest)

theorem length_splitAtPair {mark : Char} {s before rest : List Char}
    (h : splitAtPair mark s = some (before, rest)) : rest.length < s.length := by
  fun_induction splitAtPair mark s generalizing before with
  | case1 => cases h
  | case2 => cases h
  | case3 a b s _ => cases h; simp only [List.length_cons]; omega
  | case4 a b s _ ih =>
    obtain ⟨⟨p, r⟩, hp, he⟩ := Option.map_eq_some_iff.1 h
    cases he
    exact Nat.lt_succ_of_lt (ih hp)

/-- The pieces of a template. -/
def pieces (s : List Char) : Except Fault (List Piece) :=
  match _hs : splitAtPair '\x7b' s with
  | none => .ok [.text s]
  | some (before, t) =>
    match _ht : splitAtPair '\x7d' t with
    | none => .error .unclosed
    | some (action, rest) =>
      match fieldName? action with
      | none => .error (.unsupported action)
      | some name =>
        (pieces rest).map fun more => .text before :: .reference name :: more
termination_by s.length
decreasing_by exact Nat.lt_trans (length_splitAtPair _ht) (length_splitAtPair _hs)

/-- The value of a variable; nothing for one that is not set. -/
def valueOf (vars : Variables) (name : List Char) : List Char :=
  ((Entries.get? (.ofList name) vars).getD "").toList

def Piece.expand (vars : Variables) : Piece → List Char
  | .text s => s
  | .reference name => valueOf vars name

end Template

/-- Replace every reference of a template by the value of its variable. -/
def expand (vars : Variables) (template : String) : Except Template.Error String :=
  match Template.pieces template.toList with
  | .error fault => .error ⟨template, fault⟩
  | .ok pieces => .ok (.ofList (pieces.flatMap (·.expand vars)))

end HttpScript
