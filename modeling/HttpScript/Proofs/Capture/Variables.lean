import HttpScript.Capture
import HttpScript.Proofs.Decimal.Exact
import HttpScript.Proofs.Json.Characters
import Mathlib

/-!
# Values as the texts of variables

The text of a captured value tells the value: a string is its own text, a whole number is written in
decimal, even if it came as a floating-point number, and everything else as JSON without a blank
between its tokens.
-/
namespace HttpScript.Json

theorem intText_of_nonneg {n : ℤ} (h : 0 ≤ n) : intText n = Nat.toDigits 10 n.toNat := by
  obtain ⟨k, rfl⟩ := Int.eq_ofNat_of_zero_le h
  rfl

theorem intText_of_neg {n : ℤ} (h : n < 0) : intText n = '-' :: Nat.toDigits 10 (-n).toNat := by
  obtain ⟨k, rfl⟩ := Int.eq_negSucc_of_lt_zero h
  rfl

/-- The decimal text of an integer is also its JSON text. -/
theorem toList_toString_int (n : ℤ) : (toString n).toList = intText n := by
  rw [Int.toString_eq_repr, Int.repr_eq_if]
  by_cases h : 0 ≤ n
  · rw [if_pos h, intText_of_nonneg h, Nat.toList_repr]
  · rw [if_neg h, intText_of_neg (not_le.1 h), String.toList_append, Nat.toList_repr]
    rfl

theorem isShort_of_natAbs_lt {n : ℤ} {k : ℕ} (h : n.natAbs < 2 ^ k)
    (hk : k ≤ integerDigitLimit) : IsShort n := by
  refine (Nat.length_toDigits_le_iff (by decide) (by decide)).2 ?_
  calc n.natAbs < 2 ^ k := h
    _ ≤ 10 ^ k := Nat.pow_le_pow_left (by decide) k
    _ ≤ 10 ^ integerDigitLimit := Nat.pow_le_pow_right (by decide) hk

/-- Whatever number is whole has few enough digits to be read. -/
theorem isShort_of_value? {x : Float} {n : ℤ} (h : Decimal.value? x = some (n : ℚ)) :
    IsShort n := by
  have hlt : (n.natAbs : ℚ) < (2 ^ 1025 : ℕ) := by
    rw [Nat.cast_natAbs, Int.cast_abs, Nat.cast_pow, Nat.cast_ofNat]
    exact Decimal.abs_lt_of_value? h
  rw [Nat.cast_lt] at hlt
  exact isShort_of_natAbs_lt hlt (by decide)

/-! ### The three kinds of texts -/

@[simp] theorem asVariable_string (s : String) : (string s).asVariable = s := rfl

theorem asVariable_of_isWhole {v : Json} (hv : IsWhole v) (hstring : ∀ s, v ≠ .string s) :
    v.asVariable.toList = write compact 0 v := by
  cases hv with
  | string s => exact absurd rfl (hstring s)
  | null | bool | int | array | object => exact String.toList_ofList

/-- The text of a number that is whole is that of the integer. -/
theorem asVariable_of_value? {x : Float} {n : ℤ} (h : Decimal.value? x = some (n : ℚ)) :
    (float x).asVariable = toString n := by
  rw [asVariable, Decimal.toInt?_eq_some_iff.2 h]

theorem read_toString {n : ℤ} (h : IsShort n) :
    read .accept (toString n).toList = .ok (.int n) := by
  have hread := read_write (p := .accept) compact_isReadable (.int h) (.int n)
  rwa [write, ← toList_toString_int] at hread

/-- Variables hold what was captured. -/
theorem asVariable_faithful (v : Json) :
    (∀ s, v = .string s → v.asVariable = s) ∧
    (IsWhole v → EveryObject List.Nodup v → (∀ s, v ≠ .string s) →
      read .accept v.asVariable.toList = .ok v ∧ IsTight v.asVariable.toList) ∧
    (∀ x (n : ℤ), v = .float x → Decimal.value? x = some (n : ℚ) →
      v.asVariable = toString n ∧ (∀ c ∈ v.asVariable.toList, c = '-' ∨ c.isDigit = true) ∧
        read .accept v.asVariable.toList = .ok (.int n)) := by
  refine ⟨?_, ?_, ?_⟩
  · rintro s rfl
    exact asVariable_string s
  · intro hv hnames hstring
    rw [asVariable_of_isWhole hv hstring]
    exact ⟨read_write compact_isReadable hv hnames, isTight_write v⟩
  · rintro x n rfl hx
    have htext := asVariable_of_value? hx
    refine ⟨htext, ?_, ?_⟩
    · intro c hc
      rw [htext, toList_toString_int] at hc
      exact mem_intText hc
    · rw [htext]
      exact read_toString (isShort_of_value? hx)

/-- A value with blanks inside a string, and members whose order shows. -/
def tagged : Json := .object [("tags", .array [.string "a \"b\"", .bool true]), ("id", .int (-7))]

theorem isWhole_tagged : IsWhole tagged := by
  have htags : ∀ v ∈ [string "a \"b\"", .bool true], IsWhole v := by
    simp [IsWhole.string, IsWhole.bool]
  have hid : IsWhole (.int (-7)) := .int (by decide)
  exact .object (by simp [hid, IsWhole.array htags])

theorem nodup_tagged : EveryObject List.Nodup tagged := by
  have htags : ∀ v ∈ [string "a \"b\"", .bool true], EveryObject List.Nodup v := by
    simp [EveryObject.string, EveryObject.bool]
  exact .object (by decide) (by simp [EveryObject.int, EveryObject.array htags])

theorem value?_large : Decimal.value? 1e22 = some ((10 ^ 22 : ℤ) : ℚ) := by
  change Decimal.rational? (.finite .positive 0x10F0CF064DD592 21 (by decide)) = _
  norm_num [Decimal.rational?, Float.Model.UnpackedFloat.Sign.apply]

theorem asVariable_faithful_tagged :
    (string "a \"b\"").asVariable = "a \"b\"" ∧
    (read .accept tagged.asVariable.toList = .ok tagged ∧ IsTight tagged.asVariable.toList) ∧
    (float 1e22).asVariable = "10000000000000000000000" :=
  ⟨(asVariable_faithful (.string _)).1 _ rfl,
    (asVariable_faithful tagged).2.1 isWhole_tagged nodup_tagged (by simp [tagged]),
    ((asVariable_faithful (.float 1e22)).2.2 1e22 (10 ^ 22) rfl value?_large).1⟩

end HttpScript.Json
