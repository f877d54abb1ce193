import Mathlib

/-!
# Where rounding leaves the range of exponents

A mantissa of 53 digits is rounded to the nearest, ties to even. The rounding of a value `v` takes
an exponent above `k` exactly from `v = 2 ^ (k + 53) - 2 ^ (k - 1)` on, the middle between the
largest number with the exponent `k` and the next power of two.
-/
namespace HttpScript.Decimal

open Float.Model Float.Model.UnpackedFloat

/-! ### Extended mantissas -/

/-- The mantissa in halves, with the first digit that it leaves out. -/
def halves (em : ExtendedMantissa) : ℕ := 2 * em.mantissa + em.roundBit.toNat

theorem cast_halves (em : ExtendedMantissa) :
    (halves em : ℚ) = 2 * em.mantissa + em.roundBit.toNat := by simp [halves]

/-- An extended mantissa tells a value up to a half, and whether anything is left of it. -/
structure Tells (em : ExtendedMantissa) (x : ℚ) : Prop where
  halves_le : (halves em : ℚ) ≤ 2 * x
  lt_halves : 2 * x < halves em + 1
  sticky : em.stickyBit = true ↔ (halves em : ℚ) < 2 * x

theorem tells_exact (m : ℕ) : Tells (.ofMantissaAndAccuracy m .exact) m := by
  have hhalves : halves ⟨m, false, false⟩ = 2 * m := rfl
  constructor <;> simp [hhalves, ExtendedMantissa.ofMantissaAndAccuracy]

/-- The quotient of two naturals is told by the integer quotient and the accuracy of the rest. -/
theorem tells_div (n : ℕ) {d : ℕ} (hd : 0 < d) :
    Tells (.ofMantissaAndAccuracy (n / d) (accuracyOfFraction (n % d) d)) ((n : ℚ) / d) := by
  have hpos : (0 : ℚ) < d := by exact_mod_cast hd
  have hmod := Nat.mod_lt n hd
  have hvalue : 2 * ((n : ℚ) / d) = 2 * (n / d : ℕ) + (2 * (n % d) : ℕ) / d := by
    have hn : (n : ℚ) = (n / d : ℕ) * d + (n % d : ℕ) := by
      exact_mod_cast (Nat.div_add_mod' n d).symm
    rw [hn, add_div, mul_div_cancel_right₀ _ hpos.ne']
    push_cast
    ring
  have key : ∀ round sticky : Bool, round.toNat * d ≤ 2 * (n % d) →
      2 * (n % d) < (round.toNat + 1) * d →
      (sticky = true ↔ round.toNat * d < 2 * (n % d)) →
      Tells ⟨n / d, round, sticky⟩ ((n : ℚ) / d) := by
    intro round sticky hle hlt hsticky
    refine ⟨?_, ?_, ?_⟩
    · rw [hvalue, cast_halves, add_le_add_iff_left, le_div_iff₀ hpos]
      exact_mod_cast hle
    · rw [hvalue, cast_halves, add_assoc, add_lt_add_iff_left, div_lt_iff₀ hpos]
      exact_mod_cast hlt
    · rw [hvalue, cast_halves, add_lt_add_iff_left, lt_div_iff₀ hpos]
      exact hsticky.trans (by exact_mod_cast Iff.rfl)
  unfold accuracyOfFraction
  split
  · exact key false false (by simp) (by simp; omega) (by simp; omega)
  · cases hcompare : compare (2 * (n % d)) d with
    | lt =>
      rw [Nat.compare_eq_lt] at hcompare
      exact key false true (by simp) (by simpa using hcompare) (by simp; omega)
    | eq =>
      rw [Nat.compare_eq_eq] at hcompare
      exact key true false (by simp; omega) (by simp; omega) (by simp; omega)
    | gt =>
      rw [Nat.compare_eq_gt] at hcompare
      exact key true true (by simp; omega) (by simp; omega) (by simp; omega)

section

variable {em : ExtendedMantissa} {x : ℚ}

theorem Tells.mantissa_le (h : Tells em x) : (em.mantissa : ℚ) ≤ x := by
  have hle := h.halves_le
  have hround : (0 : ℚ) ≤ em.roundBit.toNat := Nat.cast_nonneg _
  rw [cast_halves] at hle
  linarith

theorem Tells.lt_mantissa (h : Tells em x) : x < em.mantissa + 1 := by
  have hlt := h.lt_halves
  have hround : (em.roundBit.toNat : ℚ) ≤ 1 := by exact_mod_cast Bool.toNat_le _
  rw [cast_halves] at hlt
  linarith

theorem Tells.shiftRightOne (h : Tells em x) : Tells em.shiftRightOne (x / 2) := by
  have hhalves : halves em.shiftRightOne = em.mantissa := by
    rcases Nat.mod_two_eq_zero_or_one em.mantissa with hm | hm <;>
      simp [halves, ExtendedMantissa.shiftRightOne, hm] <;> omega
  have hsticky : em.shiftRightOne.stickyBit = true ↔ (em.mantissa : ℚ) < x := by
    have hle := h.halves_le
    rw [ExtendedMantissa.shiftRightOne, Bool.or_eq_true, h.sticky]
    rw [cast_halves] at hle ⊢
    cases hround : em.roundBit with
    | false => simp
    | true =>
      rw [hround, Bool.toNat_true, Nat.cast_one] at hle
      exact iff_of_true (.inl rfl) (by linarith)
  refine ⟨?_, ?_, ?_⟩ <;> rw [hhalves, mul_div_cancel₀ x two_ne_zero]
  · exact h.mantissa_le
  · exact h.lt_mantissa
  · exact hsticky

theorem Tells.shiftRight (h : Tells em x) (n : ℕ) : Tells (em >>> n) (x / 2 ^ n) := by
  induction n with
  | zero => rwa [pow_zero, div_one]
  | succ n ih =>
    rw [pow_succ, ← div_div]
    exact ih.shiftRightOne

/-- What the bits after the mantissa say of the number that it is rounded to. -/
theorem Tells.rounded_cases (h : Tells em x) :
    em.roundedMantissa = em.mantissa ∧ x < em.mantissa + 1 / 2 ∨
      em.roundedMantissa = em.mantissa + em.mantissa % 2 ∧ x = em.mantissa + 1 / 2 ∨
      em.roundedMantissa = em.mantissa + 1 ∧ (em.mantissa : ℚ) + 1 / 2 < x := by
  have hle := h.halves_le
  have hlt := h.lt_halves
  have hsticky := h.sticky
  obtain ⟨m, round, sticky⟩ := em
  rw [cast_halves] at hle hlt hsticky
  cases round with
  | false =>
    rw [Bool.toNat_false, Nat.cast_zero, add_zero] at hlt
    exact .inl ⟨by cases sticky <;> rfl, by linarith⟩
  | true =>
    rw [Bool.toNat_true, Nat.cast_one] at hle hlt hsticky
    cases sticky with
    | false =>
      have hge := not_lt.1 (mt hsticky.2 (by simp))
      exact .inr (.inl ⟨rfl, by linarith⟩)
    | true => exact .inr (.inr ⟨rfl, by linarith [hsticky.1 rfl]⟩)

/-- The rounded mantissa is at most half a step above the value. -/
theorem Tells.rounded_le (h : Tells em x) : (em.roundedMantissa : ℚ) ≤ x + 1 / 2 := by
  rcases h.rounded_cases with ⟨hround, -⟩ | ⟨hround, hx⟩ | ⟨hround, hx⟩
  · rw [hround]
    linarith [h.mantissa_le]
  · have hmod : ((em.mantissa % 2 : ℕ) : ℚ) ≤ 1 := by
      exact_mod_cast Nat.le_of_lt_succ (Nat.mod_lt _ two_pos)
    rw [hround, Nat.cast_add]
    linarith
  · rw [hround, Nat.cast_add, Nat.cast_one]
    linarith

/-- From half a step below an even number on, a value is rounded to that number or further up. -/
theorem Tells.le_rounded (h : Tells em x) {n : ℕ} (hn : Even n) (hx : (n : ℚ) - 1 / 2 ≤ x) :
    n ≤ em.roundedMantissa := by
  have hle : n ≤ em.mantissa + 1 := by
    have : (n : ℚ) < em.mantissa + 2 := by linarith [h.lt_mantissa]
    exact Nat.le_of_lt_succ (by exact_mod_cast this)
  rcases h.rounded_cases with ⟨hround, hbelow⟩ | ⟨hround, -⟩ | ⟨hround, -⟩
  · have : (n : ℚ) < em.mantissa + 1 := by linarith
    rw [hround]
    exact Nat.le_of_lt_succ (by exact_mod_cast this)
  · obtain ⟨k, rfl⟩ := hn
    omega
  · omega

end

/-! ### Rounding to 53 digits -/

theorem targetExponent_eq (n : ℤ) : Format.binary64.targetExponent n = max (n - 53) (-1074) := rfl

theorem mantissa_ofMantissaAndAccuracy (m : ℕ) (a : Accuracy) :
    (ExtendedMantissa.ofMantissaAndAccuracy m a).mantissa = m := by
  cases a with
  | exact => rfl
  | inexact order => cases order <;> rfl

/-- A shift keeps the value. It leaves at most 53 digits before the point, and exactly 53 unless
there is nothing to shift or the exponent is the least one. -/
theorem exists_shift {m : ℕ} (e : ℤ) {a : Accuracy} {x : ℚ}
    (h : Tells (.ofMantissaAndAccuracy m a) x) :
    ∃ em e' y, shiftToTargetExponent .binary64 m e a = (em, e') ∧ Tells em y ∧
      y * 2 ^ e' = x * 2 ^ e ∧ y < 2 ^ 53 ∧ (e' = e ∨ e' = -1074 ∨ 2 ^ 52 ≤ y) := by
  have hle := h.mantissa_le
  have hlt := h.lt_mantissa
  rw [mantissa_ofMantissaAndAccuracy] at hle hlt
  obtain ⟨n, hn⟩ : ∃ n, n = (Format.binary64.targetExponent (totalExponent m e) - e).toNat :=
    ⟨_, rfl⟩
  refine ⟨ExtendedMantissa.ofMantissaAndAccuracy m a >>> n, e + n, x / 2 ^ n, ?_,
    h.shiftRight n, ?_, ?_, ?_⟩
  · rw [shiftToTargetExponent, shiftToExponent, hn]
  · rw [zpow_add₀ two_ne_zero, zpow_natCast]
    field_simp
  · have hdigits : m.log2 + 1 ≤ 53 + n := by
      rw [targetExponent_eq, totalExponent] at hn
      omega
    have hm : (m : ℚ) + 1 ≤ 2 ^ (53 + n) := by
      exact_mod_cast Nat.lt_log2_self.trans_le (Nat.pow_le_pow_right two_pos hdigits)
    rw [div_lt_iff₀ (by positivity), ← pow_add]
    exact hlt.trans_le hm
  · rw [targetExponent_eq, totalExponent] at hn
    rcases Nat.eq_zero_or_pos n with rfl | hpos
    · exact .inl (by simp)
    · by_cases hleast : e + n = -1074
      · exact .inr (.inl hleast)
      · have hdigits : m.log2 = 52 + n := by omega
        have hm : (2 ^ (52 + n) : ℚ) ≤ m := by
          rw [← hdigits]
          have hm : m ≠ 0 := by
            rintro rfl
            rw [Nat.log2_zero] at hdigits
            omega
          exact_mod_cast Nat.log2_self_le hm
        refine .inr (.inr ?_)
        rw [le_div_iff₀ (by positivity), ← pow_add]
        exact hm.trans hle

/-- A number takes an exponent above `k`. -/
def Exceeds (k : ℤ) : UnpackedFloat → Prop
  | .finite _ _ e _ => k < e
  | .infinity _ => True
  | .zero _ | .notANumber => False

section

variable {k e : ℤ} {y : ℚ}

theorem le_cast_rounded {em : ExtendedMantissa} (h : Tells em y) (hy : 2 ^ 52 ≤ y) :
    (2 ^ 52 : ℚ) ≤ em.roundedMantissa := by
  exact_mod_cast h.le_rounded (n := 2 ^ 52) (by decide) (by push_cast; linarith)

/-- From which value on the rounded mantissa has more than 53 digits, or the exponent is above. -/
theorem le_rounded_iff {em : ExtendedMantissa} (h : Tells em y) (hlt : y < 2 ^ 53)
    (habove : k < e → 2 ^ 52 ≤ y) :
    (2 ^ (k + 53) : ℚ) ≤ em.roundedMantissa * 2 ^ e ↔
      (2 ^ (k + 53) - 2 ^ (k - 1) : ℚ) ≤ y * 2 ^ e := by
  have hu : (0 : ℚ) < 2 ^ (k - 1) := zpow_pos two_pos _
  have hscale : ∀ n : ℕ, (2 ^ (k - 1 + n) : ℚ) = 2 ^ n * 2 ^ (k - 1) := fun n => by
    rw [zpow_add₀ two_ne_zero, zpow_natCast, mul_comm]
  rw [show k + 53 = k - 1 + (54 : ℕ) by push_cast; ring, hscale]
  rcases lt_trichotomy k e with hke | rfl | hke
  · -- all digits before the point are in use
    have hpower : (2 ^ 2 * 2 ^ (k - 1) : ℚ) ≤ 2 ^ e := by
      rw [← hscale]
      exact zpow_le_zpow_right₀ one_le_two (by push_cast; omega)
    have hreach : ∀ z : ℚ, 2 ^ 52 ≤ z → 2 ^ 54 * 2 ^ (k - 1) ≤ z * 2 ^ e := fun z hz => by
      have := mul_le_mul hz hpower (by positivity) (le_trans (by positivity) hz)
      linarith
    have hy := habove hke
    exact iff_of_true (hreach _ (le_cast_rounded h hy)) (by linarith [hreach y hy])
  · -- the value is compared with half a step below the next power of two
    have hpower : (2 ^ k : ℚ) = 2 * 2 ^ (k - 1) := by simpa using hscale 1
    rw [hpower, show ((2 : ℚ) ^ 54 * 2 ^ (k - 1)) = 2 ^ 53 * (2 * 2 ^ (k - 1)) by ring,
      show ((2 : ℚ) ^ 53 * (2 * 2 ^ (k - 1)) - 2 ^ (k - 1)) =
        (2 ^ 53 - 1 / 2) * (2 * 2 ^ (k - 1)) by ring,
      mul_le_mul_iff_left₀ (by positivity), mul_le_mul_iff_left₀ (by positivity)]
    constructor
    · intro hround
      linarith [h.rounded_le]
    · intro hy
      exact_mod_cast h.le_rounded (n := 2 ^ 53) (by decide) (by exact_mod_cast hy)
  · -- the value is too small for both
    have hpower : (2 ^ e : ℚ) ≤ 2 ^ (k - 1) := zpow_le_zpow_right₀ one_le_two (by omega)
    have hsmall : ∀ z : ℚ, 0 ≤ z → z < 2 ^ 53 + 1 →
        z * 2 ^ e < 2 ^ 54 * 2 ^ (k - 1) - 2 ^ (k - 1) := fun z hz hlt => by
      have := mul_le_mul_of_nonneg_left hpower hz
      nlinarith
    have hround := hsmall em.roundedMantissa (Nat.cast_nonneg _) (by linarith [h.rounded_le])
    have hy := hsmall y ((Nat.cast_nonneg _).trans h.mantissa_le) (by linarith)
    exact iff_of_false (by linarith) (by linarith)

/-- A value is rounded to an exponent above `k` from the middle between the largest number with the
exponent `k` and the next power of two on. -/
theorem exceeds_roundWithAccuracy {m : ℕ} {a : Accuracy} {x : ℚ} (sign : Sign)
    (hk : -1074 ≤ k) (he : e ≤ k) (h : Tells (.ofMantissaAndAccuracy m a) x) :
    Exceeds k (roundWithAccuracy .binary64 sign m e a) ↔
      (2 ^ (k + 53) - 2 ^ (k - 1) : ℚ) ≤ x * 2 ^ e := by
  obtain ⟨em, e₁, y, hshift, hy, hvalue, hlt, hplace⟩ := exists_shift e h
  obtain ⟨em', e₂, y', hshift', hy', hvalue', hlt', hplace'⟩ :=
    exists_shift e₁ (tells_exact em.roundedMantissa)
  have habove : k < e₁ → 2 ^ 52 ≤ y := fun hke =>
    (hplace.resolve_left (by omega)).resolve_left (by omega)
  have habove' : k < e₂ → 2 ^ 52 ≤ y' := by
    intro hke
    rcases hplace' with rfl | hleast | hfull
    · rw [mul_right_cancel₀ (zpow_ne_zero _ two_ne_zero) hvalue']
      exact le_cast_rounded hy (habove hke)
    · omega
    · exact hfull
  have hexponent : (2 ^ (k + 53) : ℚ) ≤ y' * 2 ^ e₂ ↔ k < e₂ := by
    constructor
    · intro hle
      have hpower : (2 ^ (k + 53) : ℚ) < 2 ^ (e₂ + 53) := by
        rw [zpow_add₀ two_ne_zero e₂, mul_comm]
        exact hle.trans_lt (mul_lt_mul_of_pos_right (by exact_mod_cast hlt') (zpow_pos two_pos _))
      have := (zpow_lt_zpow_iff_right₀ one_lt_two).1 hpower
      omega
    · intro hke
      calc (2 ^ (k + 53) : ℚ) ≤ 2 ^ (52 + e₂) := zpow_le_zpow_right₀ one_le_two (by omega)
        _ = 2 ^ 52 * 2 ^ e₂ := by rw [zpow_add₀ two_ne_zero]; rfl
        _ ≤ y' * 2 ^ e₂ := mul_le_mul_of_nonneg_right (habove' hke) (zpow_pos two_pos _).le
  rw [← hvalue, ← le_rounded_iff hy hlt habove, ← hvalue', hexponent, roundWithAccuracy, hshift]
  dsimp only
  rw [hshift']
  dsimp only
  split
  · rename_i hzero
    have hsmall := hy'.lt_mantissa
    rw [hzero, Nat.cast_zero, zero_add] at hsmall
    exact iff_of_false id fun hke => absurd (habove' hke) (by linarith)
  · exact Iff.rfl

/-- What a mantissa gains by a shift, the exponent loses. -/
theorem shiftLeft_mul_zpow (m n : ℕ) (e : ℤ) :
    ((m <<< n : ℕ) : ℚ) * 2 ^ (e - n) = m * 2 ^ e := by
  rw [Nat.shiftLeft_eq, Nat.cast_mul, Nat.cast_pow, Nat.cast_ofNat, zpow_sub₀ two_ne_zero,
    zpow_natCast]
  field_simp

theorem exceeds_round (sign : Sign) (m : ℕ) (hk : -1074 ≤ k) (he : e ≤ k) :
    Exceeds k (UnpackedFloat.round .binary64 sign m e) ↔
      (2 ^ (k + 53) - 2 ^ (k - 1) : ℚ) ≤ m * 2 ^ e := by
  rw [← shiftLeft_mul_zpow m (e - Format.binary64.targetExponent (totalExponent m e)).toNat]
  exact exceeds_roundWithAccuracy sign hk (by omega) (tells_exact _)

end

end HttpScript.Decimal
