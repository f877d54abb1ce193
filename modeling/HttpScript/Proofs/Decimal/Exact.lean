import HttpScript.Decimal.Binary
import Mathlib

/-!
# The exact value of a number

A finite number is a rational: its mantissa times a power of two, with its sign. The bits of a
number are taken apart here as the format says, so the whole numbers that the bits give are exactly
those that are whole as rationals.
-/
namespace HttpScript.Decimal

open Float.Model

/-- The rational that an unpacked number is, unless it is infinite or undefined. -/
def rational? : UnpackedFloat → Option ℚ
  | .finite sign m e _ => some (sign.apply m * 2 ^ e)
  | .zero _ => some 0
  | .infinity _ => none
  | .notANumber => none

/-- The rational that a number is, unless it is infinite or undefined. -/
def value? (x : Float) : Option ℚ := rational? x.toModel.unpack

/-- The rational that a magnitude is. -/
def Binary.value (b : Binary) : ℚ := b.m * 2 ^ b.q

/-- The rational that a sign and a magnitude are. -/
def Real64.value? : Real64 → Option ℚ
  | .finite negative b => some (if negative then -b.value else b.value)
  | .infinite _ => none
  | .notANumber => none

/-! ### The parts of a word -/

section Word

variable (bits : UInt64)

theorem toNat_exponentBits : ((bits >>> 52) &&& 0x7FF).toNat =
    (@UnpackedFloat.unpackExponent .binary64 bits.toBitVec).toNat := by
  simp only [UInt64.toNat_and, UInt64.toNat_shiftRight]
  simpa [UnpackedFloat.unpackExponent] using Nat.and_two_pow_sub_one_eq_mod (bits.toNat >>> 52) 11

theorem toNat_mantissaBits : (bits &&& 0xFFFFFFFFFFFFF).toNat =
    (@UnpackedFloat.unpackMantissa .binary64 bits.toBitVec).toNat := by
  simp only [UInt64.toNat_and]
  simpa [UnpackedFloat.unpackMantissa] using Nat.and_two_pow_sub_one_eq_mod bits.toNat 52

theorem toNat_signBit : (bits >>> 63).toNat =
    (@UnpackedFloat.unpackSign .binary64 bits.toBitVec).toNat := by
  have hword : bits.toNat < 2 ^ 64 := bits.toNat_lt
  change bits.toNat >>> 63 = (bits.toNat >>> 63) % 2
  rw [Nat.shiftRight_eq_div_pow]
  omega

theorem sign_eq : UnpackedFloat.Sign.ofBitVec (@UnpackedFloat.unpackSign .binary64 bits.toBitVec) =
    if bits >>> 63 == 1 then .negative else .positive := by
  have hsign := toNat_signBit bits
  have hbit : (@UnpackedFloat.unpackSign .binary64 bits.toBitVec).toNat < 2 := BitVec.isLt _
  have hzero : @UnpackedFloat.unpackSign .binary64 bits.toBitVec = 0#1 ↔ ¬ bits >>> 63 = 1 := by
    rw [← BitVec.toNat_inj, ← UInt64.toNat_inj, hsign]
    change _ = 0 ↔ ¬ _ = 1
    omega
  unfold UnpackedFloat.Sign.ofBitVec
  by_cases h : bits >>> 63 = 1
  · simp [hzero, h]
  · simp [hzero, h]

/-- All bits of the exponent are set only in the numbers that are not finite. -/
theorem exponentBits_eq_iff : (bits >>> 52) &&& 0x7FF = 0x7FF ↔
    @UnpackedFloat.unpackExponent .binary64 bits.toBitVec = -1#11 := by
  rw [← UInt64.toNat_inj, ← BitVec.toNat_inj, toNat_exponentBits]
  rfl

/-- The leading bit of a mantissa is not stored. -/
theorem toNat_leadingBit :
    (1#1 ++ @UnpackedFloat.unpackMantissa .binary64 bits.toBitVec).toNat =
      0x10000000000000 + (bits &&& 0xFFFFFFFFFFFFF).toNat := by
  rw [toNat_mantissaBits]
  have hmantissa : (@UnpackedFloat.unpackMantissa .binary64 bits.toBitVec).toNat < 2 ^ 52 :=
    BitVec.isLt _
  rw [BitVec.toNat_append, ← Nat.shiftLeft_add_eq_or_of_lt hmantissa]
  rfl

end Word

theorem rational?_finite (negative : Bool) {m : ℕ} (e : ℤ) (pos : 0 < m) :
    rational? (.finite (if negative then .negative else .positive) m e pos) =
      some (if negative then -(m * 2 ^ e : ℚ) else m * 2 ^ e) := by
  cases negative <;> simp [rational?, UnpackedFloat.Sign.apply]

/-- Without a leading bit the least exponent holds. -/
theorem value_ofBits_of_eq_zero {bits : UInt64} (h : ((bits >>> 52) &&& 0x7FF).toNat = 0) :
    (Binary.ofBits bits).value = (bits &&& 0xFFFFFFFFFFFFF).toNat * 2 ^ (-1074 : ℤ) := by
  simp [Binary.value, Binary.ofBits, h]

theorem value_ofBits_of_ne_zero {bits : UInt64} (h : ((bits >>> 52) &&& 0x7FF).toNat ≠ 0) :
    (Binary.ofBits bits).value = (0x10000000000000 + (bits &&& 0xFFFFFFFFFFFFF).toNat : ℕ) *
      (2 : ℚ) ^ ((((bits >>> 52) &&& 0x7FF).toNat : ℤ) - 1075) := by
  rw [Binary.value, Binary.ofBits, if_neg (by rwa [beq_iff_eq])]

/-- A word whose exponent does not have all bits set stands for its sign and magnitude. -/
theorem rational?_unpack {bits : UInt64}
    (h : @UnpackedFloat.unpackExponent .binary64 bits.toBitVec ≠ -1#11) :
    rational? (UnpackedFloat.unpack .binary64 bits.toBitVec) =
      (Real64.finite (bits >>> 63 == 1) (.ofBits bits)).value? := by
  have hexponent := toNat_exponentBits bits
  have hmantissa := toNat_mantissaBits bits
  have hbias : (Format.binary64.exponentBias + Format.binary64.mantissaBitsWithoutImplicit : ℤ) =
    1075 := rfl
  unfold UnpackedFloat.unpack
  dsimp only
  rw [if_neg h, sign_eq, hbias, ← hexponent, Real64.value?]
  by_cases hzero : @UnpackedFloat.unpackExponent .binary64 bits.toBitVec = 0#11
  · have he : ((bits >>> 52) &&& 0x7FF).toNat = 0 := by rw [hexponent, hzero]; rfl
    rw [if_pos hzero, he, value_ofBits_of_eq_zero he]
    -- the mantissa is zero only for zero itself
    split
    · rename_i hm
      have hf : (bits &&& 0xFFFFFFFFFFFFF).toNat = 0 := by rw [hmantissa, hm]; rfl
      simp [rational?, hf]
    · rw [rational?_finite, hmantissa]
      norm_num
  · have he : ((bits >>> 52) &&& 0x7FF).toNat ≠ 0 := by
      rw [hexponent]
      exact fun hnat => hzero (BitVec.eq_of_toNat_eq hnat)
    rw [if_neg hzero, rational?_finite, toNat_leadingBit, value_ofBits_of_ne_zero he]

/-- The sign and magnitude that the bits of a number give are its value. -/
theorem value?_eq (x : Float) : value? x = (Real64.ofFloat x).value? := by
  change rational? (UnpackedFloat.unpack .binary64 x.toBits.toBitVec) = _
  rw [Real64.ofFloat]
  by_cases hall : (x.toBits >>> 52) &&& 0x7FF = 0x7FF
  · rw [if_pos (beq_iff_eq.2 hall), UnpackedFloat.unpack]
    dsimp only
    rw [if_pos ((exponentBits_eq_iff _).1 hall)]
    split <;> split <;> rfl
  · rw [if_neg (mt beq_iff_eq.1 hall)]
    exact rational?_unpack (mt (exponentBits_eq_iff _).2 hall)

/-! ### Whole numbers -/

namespace Binary

variable {b : Binary}

theorem value_nonneg (b : Binary) : 0 ≤ b.value :=
  mul_nonneg (Nat.cast_nonneg b.m) (zpow_nonneg (by norm_num) b.q)

/-- Without a negative power of two, a magnitude is whole. -/
theorem value_of_nonneg (h : 0 ≤ b.q) : b.value = (b.m * 2 ^ b.q.toNat : ℕ) := by
  obtain ⟨k, hk⟩ := Int.eq_ofNat_of_zero_le h
  rw [value, hk]
  simp

theorem value_of_neg (h : ¬ 0 ≤ b.q) : b.value = b.m / (2 ^ (-b.q).toNat : ℕ) := by
  obtain ⟨k, hk⟩ := Int.eq_ofNat_of_zero_le (a := -b.q) (by omega)
  have hq : b.q = -(k : ℤ) := by omega
  rw [value, hq]
  simp [div_eq_mul_inv]

/-- The whole number that a magnitude is, is its value. -/
theorem toNat?_eq_some_iff {n : ℕ} : b.toNat? = some n ↔ b.value = n := by
  rw [toNat?]
  by_cases hq : 0 ≤ b.q
  · rw [if_pos hq, value_of_nonneg hq, Option.some_inj, Nat.cast_inj]
    rfl
  · have hpow : 0 < 2 ^ (-b.q).toNat := Nat.two_pow_pos _
    rw [if_neg hq, value_of_neg hq, div_eq_iff (by positivity), ← Nat.cast_mul, Nat.cast_inj]
    change (if b.m % 2 ^ (-b.q).toNat == 0 then some (b.m / 2 ^ (-b.q).toNat) else none) = _ ↔ _
    constructor
    · intro h
      split at h
      · rename_i hmod
        obtain rfl := Option.some.inj h
        exact (Nat.div_mul_cancel (Nat.dvd_of_mod_eq_zero (by simpa using hmod))).symm
      · cases h
    · intro h
      rw [h, Nat.mul_mod_left, Nat.mul_div_cancel _ hpow]
      rfl

theorem exists_toNat?_of_value_eq {n : ℤ} (h : b.value = n) : ∃ k, b.toNat? = some k ∧ n = k := by
  have hn : 0 ≤ n := by exact_mod_cast h ▸ b.value_nonneg
  obtain ⟨k, rfl⟩ := Int.eq_ofNat_of_zero_le hn
  exact ⟨k, toNat?_eq_some_iff.2 h, rfl⟩

end Binary

theorem toInt?_of_ofFloat {x : Float} {negative : Bool} {b : Binary}
    (h : Real64.ofFloat x = .finite negative b) :
    toInt? x = Option.map (fun k : ℕ => if negative then -(k : ℤ) else (k : ℤ)) b.toNat? := by
  rw [toInt?, h]
  dsimp only
  cases b.toNat? <;> rfl

/-- The integer that a number is, is its value. -/
theorem toInt?_eq_some_iff {x : Float} {n : ℤ} : toInt? x = some n ↔ value? x = some (n : ℚ) := by
  rw [value?_eq]
  cases hx : Real64.ofFloat x with
  | notANumber => simp [toInt?, hx, Real64.value?]
  | infinite negative => simp [toInt?, hx, Real64.value?]
  | finite negative b =>
    rw [toInt?_of_ofFloat hx, Real64.value?, Option.map_eq_some_iff, Option.some_inj]
    constructor
    · rintro ⟨k, hk, rfl⟩
      rw [Binary.toNat?_eq_some_iff.1 hk]
      cases negative <;> simp
    · intro h
      cases negative with
      | true =>
        have hvalue : b.value = ((-n : ℤ) : ℚ) := by
          rw [Int.cast_neg, ← h, if_pos rfl, neg_neg]
        obtain ⟨k, hk, hn⟩ := b.exists_toNat?_of_value_eq hvalue
        exact ⟨k, hk, by rw [if_pos rfl]; omega⟩
      | false =>
        have hvalue : b.value = (n : ℚ) := by rw [← h, if_neg Bool.false_ne_true]
        obtain ⟨k, hk, hn⟩ := b.exists_toNat?_of_value_eq hvalue
        exact ⟨k, hk, by rw [if_neg Bool.false_ne_true, hn]⟩

/-! ### Bounds -/

section Bounds

variable (bits : UInt64)

theorem m_ofBits_lt : (Binary.ofBits bits).m < 2 ^ 53 := by
  have hmantissa : (bits &&& 0xFFFFFFFFFFFFF).toNat < 2 ^ 52 := by
    rw [toNat_mantissaBits]
    exact BitVec.isLt _
  unfold Binary.ofBits
  dsimp only
  split <;> dsimp only <;> omega

theorem q_ofBits_le : (Binary.ofBits bits).q ≤ 972 := by
  have hexponent : ((bits >>> 52) &&& 0x7FF).toNat < 2 ^ 11 := by
    rw [toNat_exponentBits]
    exact BitVec.isLt _
  unfold Binary.ofBits
  dsimp only
  split <;> dsimp only <;> omega

theorem value_ofBits_lt : (Binary.ofBits bits).value < 2 ^ 1025 := by
  have hm : ((Binary.ofBits bits).m : ℚ) < 2 ^ 53 := by exact_mod_cast m_ofBits_lt bits
  calc (Binary.ofBits bits).value
      ≤ (Binary.ofBits bits).m * 2 ^ (972 : ℤ) :=
        mul_le_mul_of_nonneg_left (zpow_le_zpow_right₀ (by norm_num) (q_ofBits_le bits))
          (Nat.cast_nonneg _)
    _ < 2 ^ 53 * 2 ^ (972 : ℤ) := mul_lt_mul_of_pos_right hm (by positivity)
    _ = 2 ^ 1025 := by rw [zpow_ofNat, ← pow_add]

end Bounds

/-- Numbers lie below a power of two that has far fewer digits than integers may have. -/
theorem abs_lt_of_value? {x : Float} {r : ℚ} (h : value? x = some r) : |r| < 2 ^ 1025 := by
  rw [value?_eq, Real64.ofFloat] at h
  split at h
  · split at h <;> cases h
  · obtain rfl := Option.some.inj h
    split
    · rw [abs_neg, abs_of_nonneg (Binary.value_nonneg _)]
      exact value_ofBits_lt _
    · rw [abs_of_nonneg (Binary.value_nonneg _)]
      exact value_ofBits_lt _

end HttpScript.Decimal
