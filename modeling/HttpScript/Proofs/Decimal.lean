import HttpScript.Decimal.Binary
import Mathlib.Tactic

/-!
# Numbers beyond the finite ones
-/
namespace HttpScript.Decimal

/-- A number of more than 400 digits before the point is nearest to an infinity. -/
theorem isFinite_nearest (negative : Bool) {digits : Nat} {exponent : Int} (hne : digits ≠ 0)
    (h : ((Nat.toDigits 10 digits).length : Int) + exponent > 400) :
    isFinite (nearest negative digits exponent) = false := by
  have hinfinite : isFinite (1.0 / 0.0) = false := by decide +kernel
  have hnegative : isFinite (-(1.0 / 0.0)) = false := by decide +kernel
  have hzero : ¬ (digits == 0) = true := by rwa [beq_iff_eq]
  rw [nearest, if_neg hzero]
  simp only [if_pos h]
  split <;> simp [hinfinite, hnegative]

theorem lt_length_toDigits {m e : Nat} (he : 0 < e) (h : 10 ^ e ≤ m) :
    e < (Nat.toDigits 10 m).length := by
  rw [← Nat.not_le, Nat.length_toDigits_le_iff (by decide) he]
  exact Nat.not_lt.2 h

/-- Beyond 400 digits no integer is a floating-point number. -/
theorem ofInt?_of_pow_le {n : Int} {e : Nat} (he : 400 ≤ e) (h : 10 ^ e ≤ n.natAbs) :
    ofInt? n = none := by
  have hne : n.natAbs ≠ 0 := (Nat.lt_of_lt_of_le (Nat.pow_pos (by decide)) h).ne'
  have hlength := lt_length_toDigits (by omega) h
  rw [ofInt?, isFinite_nearest _ hne (by omega)]
  rfl

end HttpScript.Decimal
