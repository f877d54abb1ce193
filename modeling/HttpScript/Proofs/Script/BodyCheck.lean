import HttpScript.Proofs.Json.Characters

/-!
# The check of a body

A body is refused exactly when one of its numbers, at whatever depth, is undefined or infinite. All
others have a text in printable ASCII that is read again, so reading it finds nothing more: strings
cannot break the text, nor can nesting.
-/
namespace HttpScript

namespace Json

/-- The number stands somewhere in the value. -/
inductive Holds (x : Float) : Json → Prop
  | here : Holds x (.float x)
  | item {v : Json} {vs : List Json} (mem : v ∈ vs) (inside : Holds x v) : Holds x (.array vs)
  | member {m : String × Json} {ms : List (String × Json)} (mem : m ∈ ms) (inside : Holds x m.2) :
      Holds x (.object ms)

theorem not_isFinite_iff {x : Float} : ¬ IsFinite x ↔ x.isNaN = true ∨ x.isInf = true := by
  unfold IsFinite
  cases x.isNaN <;> cases x.isInf <;> simp

variable {I : Int → Prop} {F : Float → Prop}

theorem Holds.isFinite {x : Float} {v : Json} (h : Holds x v) (hv : EveryNumber I IsFinite v) :
    IsFinite x := by
  induction h with
  | here =>
    cases hv with
    | float holds => exact holds
  | item mem _ ih =>
    cases hv with
    | array items => exact ih (items _ mem)
  | member mem _ ih =>
    cases hv with
    | object members => exact ih (members _ mem)

/-- If all numbers that a value holds are finite, none is left out. -/
theorem EveryNumber.isFinite_of_holds {v : Json} (h : EveryNumber I F v)
    (hfinite : ∀ x, Holds x v → IsFinite x) : EveryNumber I IsFinite v := by
  induction h with
  | null => exact .null
  | bool b => exact .bool b
  | int holds => exact .int holds
  | float => exact .float (hfinite _ .here)
  | string s => exact .string s
  | array _ ih => exact .array fun v hv => ih v hv fun x hx => hfinite x (.item hv hx)
  | object _ ih => exact .object fun m hm => ih m hm fun x hx => hfinite x (.member hm hx)

theorem EveryNumber.isFinite_iff {v : Json} (h : EveryNumber I F v) :
    EveryNumber I IsFinite v ↔ ∀ x, Holds x v → IsFinite x :=
  ⟨fun hv _ hx => hx.isFinite hv, h.isFinite_of_holds⟩

end Json

open Json

/-- A body is refused for its numbers only. -/
theorem bodyProblem?_ne_none_iff {body : Json} (h : body.HasShortIntegers) :
    bodyProblem? body ≠ none ↔ ∃ x, Holds x body ∧ (x.isNaN = true ∨ x.isInf = true) := by
  have hnumbers : ¬ body.EveryNumber IsShort IsFinite ↔ ∃ x, Holds x body ∧ ¬ IsFinite x := by
    rw [h.isFinite_iff]
    simp
  simp only [← not_isFinite_iff, ← hnumbers]
  rcases bodyProblem?_cases h with ⟨hnone, hfinite⟩ | ⟨hsome, hfinite⟩
  · simp [hnone, hfinite]
  · simp [hsome, hfinite]

theorem bodyProblem?_ne_unreadable {body : Json} (h : body.HasShortIntegers) (near : String) :
    bodyProblem? body ≠ some (.unreadable near) := by
  rcases bodyProblem?_cases h with ⟨hnone, -⟩ | ⟨hsome, -⟩
  · simp [hnone]
  · simp [hsome]

/-- The check of a body tells exactly whether it has a text. -/
theorem bodyProblem?_exact {body : Json} (h : body.HasShortIntegers) :
    (bodyProblem? body ≠ none ↔ ∃ x, Holds x body ∧ (x.isNaN = true ∨ x.isInf = true)) ∧
    (∀ near, bodyProblem? body ≠ some (.unreadable near)) ∧
    ((∀ x, Holds x body → IsFinite x) → ∃ w, read .accept (write spaced 0 body) = .ok w) ∧
    IsPrintable (write spaced 0 body) := by
  refine ⟨bodyProblem?_ne_none_iff h, bodyProblem?_ne_unreadable h, ?_, isPrintable_write body⟩
  intro hfinite
  exact exists_read_write .accept spaced_isReadable (h.isFinite_of_holds hfinite)

/-- An undefined number inside a list inside an object, and a body that can be sent with a character
beyond the basic plane. -/
theorem bodyProblem?_exact_nested :
    bodyProblem? (.object [("a", .array [.int 1, .float (0.0 / 0.0)])]) ≠ none ∧
    ∃ w, read .accept (write spaced 0 (.array [.string "\"😀", .float 0.5])) = .ok w := by
  have hitems : HasShortIntegers (.array [.int 1, .float (0.0 / 0.0)]) :=
    .array (by simp [EveryNumber.float, EveryNumber.int (show IsShort 1 by decide)])
  have hobject : HasShortIntegers (.object [("a", .array [.int 1, .float (0.0 / 0.0)])]) :=
    .object (by simpa using hitems)
  have hnan : Holds (0.0 / 0.0) (.object [("a", .array [.int 1, .float (0.0 / 0.0)])]) :=
    .member List.mem_cons_self (.item (List.mem_cons_of_mem _ List.mem_cons_self) .here)
  have hlist : HasShortIntegers (.array [.string "\"😀", .float 0.5]) :=
    .array (by simp [EveryNumber.float, EveryNumber.string])
  have hfinite : ∀ x, Holds x (.array [.string "\"😀", .float 0.5]) → IsFinite x := by
    rintro x (_ | ⟨mem, inside⟩)
    simp only [List.mem_cons, List.not_mem_nil, or_false] at mem
    rcases mem with rfl | rfl
    · cases inside
    · cases inside
      rfl
  exact ⟨(bodyProblem?_exact hobject).1.2 ⟨0.0 / 0.0, hnan, .inl rfl⟩,
    (bodyProblem?_exact hlist).2.2.1 hfinite⟩

end HttpScript
