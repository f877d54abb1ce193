import HttpScript.Proofs.Decimal.Overflow
import HttpScript.Proofs.Json.NonFinite
import HttpScript.Proofs.Json.Numbers

/-!
# Where the numbers of a value come from

Every number that is no integer comes from a literal that stands as a value in the text, with a
fraction or an exponent. It is the number nearest to the decimal that the literal spells, and it is
infinite exactly if that decimal lies beyond the largest finite number.
-/
namespace HttpScript.Json

/-! ### The decimal of a literal -/

namespace NumberParts

/-- The digits after the point. -/
def places (p : NumberParts) : List Char := p.fraction.getD []

/-- The power of ten that the exponent stands for. -/
def power (p : NumberParts) : ℤ :=
  match p.exponent with
  | some (true, ds) => -(digitsValue ds : ℤ)
  | some (false, ds) => digitsValue ds
  | none => 0

/-- The decimal that a literal spells, without its sign. -/
def magnitude (p : NumberParts) : ℚ :=
  (digitsValue p.whole + digitsValue p.places / 10 ^ p.places.length) * 10 ^ p.power

end NumberParts

theorem digitsValue_append (cs ds : List Char) :
    digitsValue (cs ++ ds) = digitsValue cs * 10 ^ ds.length + digitsValue ds := by
  induction ds using List.reverseRecOn with
  | nil => simp [digitsValue]
  | append_singleton ds d ih =>
    rw [← List.append_assoc, digitsValue_concat, digitsValue_concat, ih, List.length_append,
      List.length_singleton, pow_succ]
    ring

/-- All digits as one number, with the point behind the last of them. -/
theorem NumberParts.magnitude_eq (p : NumberParts) :
    p.magnitude = digitsValue (p.whole ++ p.places) * 10 ^ (p.power - p.places.length) := by
  rw [magnitude, digitsValue_append, zpow_sub₀ (by norm_num), zpow_natCast]
  push_cast
  field_simp

/-- A number is read from a literal with a fraction or an exponent, as the nearest one. -/
theorem NumberParts.eq_nearest_of_value {p : NumberParts} {x : Float}
    (h : p.value = .ok (.float x)) :
    (p.fraction.isSome ∨ p.exponent.isSome) ∧
      x = Decimal.nearest p.negative (digitsValue (p.whole ++ p.places))
        (p.power - p.places.length) := by
  rw [value] at h
  split at h
  · split at h <;> cases h
  · rename_i hsome
    refine ⟨?_, ?_⟩
    · by_contra hnone
      simp only [not_or, Bool.not_eq_true, Option.isSome_eq_false_iff, Option.isNone_iff_eq_none]
        at hnone
      exact hsome hnone.1 hnone.2
    · injection h with h
      injection h with h
      exact h.symm

/-- What the reader makes of a literal with a fraction or an exponent. -/
structure NumberParts.IsReadAs (p : NumberParts) (x : Float) : Prop where
  decimal : p.fraction.isSome ∨ p.exponent.isSome
  isNaN : x.isNaN = false
  isInf_iff : x.isInf = true ↔ Decimal.overflowBound ≤ p.magnitude

theorem NumberParts.isReadAs_of_value {p : NumberParts} {x : Float}
    (h : p.value = .ok (.float x)) : p.IsReadAs x := by
  obtain ⟨hdecimal, rfl⟩ := eq_nearest_of_value h
  refine ⟨hdecimal, Decimal.isNaN_nearest _ _ _, ?_⟩
  rw [Decimal.isInf_nearest_iff, magnitude_eq]

/-! ### The literals of a value -/

/-- A number is read from a literal that stands as a value in a part of a text. -/
def ReadFromLiteral (kind : Kind) (s : List Char) (x : Float) : Prop :=
  ∃ left parts, ValueAt left kind s ∧ numberParts? left = some parts ∧ parts.value = .ok (.float x)

def Part.kind : Part → Kind
  | .value _ => .value
  | .items _ => .items
  | .members _ => .members

/-- What is a value in a part is a value in the whole. -/
theorem EveryNumber.inside {I : Int → Prop} {kind kind' : Kind} {s t : List Char} {v : Json}
    (h : EveryNumber I (ReadFromLiteral kind s) v)
    (hinside : ∀ {left}, ValueAt left kind s → ValueAt left kind' t) :
    EveryNumber I (ReadFromLiteral kind' t) v :=
  h.mono (fun _ => id) fun _ ⟨left, parts, hplace, hparts⟩ => ⟨left, parts, hinside hplace, hparts⟩

/-- Every number of a value comes from a literal of the text. -/
theorem Reads.everyNumber {part : Part} {s r : List Char} (h : Reads .refuse part s r) :
    part.Every (EveryNumber (fun _ => True) (ReadFromLiteral part.kind s)) := by
  induction h with
  | string => exact .string _
  | emptyArray => exact .array (by simp)
  | array _ ih => exact .array fun v hv => (ih v hv).inside .array
  | emptyObject => exact .object (by simp)
  | object _ ih =>
    refine .object fun m hm => (ih m ?_).inside .object
    rw [Entries.collapse_eq_merge] at hm
    exact Entries.mem_of_mem_merge hm
  | name known admitted => exact everyNumber_of_name known admitted (by simp)
  | number spelled value =>
    rcases NumberParts.value_cases value with ⟨n, rfl⟩ | ⟨x, rfl⟩
    · exact .int trivial
    · exact .float ⟨_, _, .here, spelled, value⟩
  | lastItem _ _ ih => exact List.forall_mem_singleton.2 (ih.inside .item)
  | item item comma _ ih ihs =>
    exact List.forall_mem_cons.2 ⟨ih.inside .item, fun v hv =>
      (ihs v hv).inside (.laterItem item comma)⟩
  | lastMember name colon _ _ ih =>
    exact List.forall_mem_singleton.2 (ih.inside (.member name colon))
  | member name colon value comma _ ih ihs =>
    exact List.forall_mem_cons.2 ⟨ih.inside (.member name colon), fun m hm =>
      (ihs m hm).inside (.laterMember name colon value comma)⟩

end HttpScript.Json
