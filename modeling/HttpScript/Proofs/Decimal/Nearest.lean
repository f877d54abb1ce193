import HttpScript.Proofs.Decimal.Exact
import HttpScript.Proofs.Decimal.Overflow

/-!
# Quotients are rounded to the nearest number

A quotient is cut off after 53 digits or more, with a note of what is left of it. What it is rounded
to from there is the number that no other is nearer to, and of two equally near numbers the one
whose last bit is zero.
-/
namespace HttpScript.Decimal

open Float.Model Float.Model.UnpackedFloat

/-- No number is nearer to `q` than `x`, and the last bit of `x` is zero where another number is
equally near. -/
def IsNearest (q : ℚ) (x : Float) : Prop :=
  ∃ r, value? x = some r ∧ ∀ y s, value? y = some s → s ≠ r →
    |q - r| < |q - s| ∨ |q - r| = |q - s| ∧ Even x.toBits.toNat

/-! ### Steps of one size -/

/-- A rounded mantissa is the integer nearest to the value, and even where another is equally
near. -/
theorem Tells.nearest {em : ExtendedMantissa} {y : ℚ} (h : Tells em y) {j : ℤ}
    (hj : j ≠ em.roundedMantissa) :
    |y - em.roundedMantissa| < |y - j| ∨
      |y - em.roundedMantissa| = |y - j| ∧ Even em.roundedMantissa := by
  have hle := h.mantissa_le
  have hlt := h.lt_mantissa
  have hsides : (j : ℚ) ≤ em.mantissa - 1 ∨ (j : ℚ) = em.mantissa ∨ (j : ℚ) = em.mantissa + 1 ∨
      (em.mantissa : ℚ) + 2 ≤ j := by
    have hcases : j ≤ em.mantissa - 1 ∨ j = em.mantissa ∨ j = em.mantissa + 1 ∨
        (em.mantissa : ℤ) + 2 ≤ j := by omega
    exact_mod_cast hcases
  rcases h.rounded_cases with ⟨hround, hy⟩ | ⟨hround, hy⟩ | ⟨hround, hy⟩
  · left
    rw [hround] at hj ⊢
    have hne : (j : ℚ) ≠ em.mantissa := by exact_mod_cast hj
    rw [abs_of_nonneg (by linarith), lt_abs]
    rcases hsides with hlow | hm | hnext | hhigh
    · left; linarith
    · exact absurd hm hne
    · right; linarith
    · right; linarith
  · have heven : Even em.roundedMantissa := by
      rw [hround, Nat.even_iff]
      omega
    have hhalf : |y - em.roundedMantissa| = 1 / 2 := by
      rw [hround, hy]
      rcases Nat.mod_two_eq_zero_or_one em.mantissa with hm | hm <;> rw [hm] <;> norm_num
    rw [hhalf]
    rcases hsides with hlow | hm | hnext | hhigh
    · left; rw [lt_abs]; left; linarith
    · right; exact ⟨by rw [hm, hy]; norm_num, heven⟩
    · right; exact ⟨by rw [hnext, hy]; norm_num, heven⟩
    · left; rw [lt_abs]; right; linarith
  · left
    rw [hround] at hj ⊢
    have hne : (j : ℚ) ≠ em.mantissa + 1 := by exact_mod_cast hj
    rw [Nat.cast_add, Nat.cast_one, abs_of_nonpos (by linarith), lt_abs]
    rcases hsides with hlow | hm | hnext | hhigh
    · left; linarith
    · left; linarith
    · exact absurd hnext hne
    · right; linarith

/-! ### Numbers between the steps -/

/-- A number has at most 53 digits before its power of two. -/
theorem exists_of_value? {x : Float} {s : ℚ} (h : value? x = some s) :
    ∃ (m : ℤ) (e : ℤ), s = m * 2 ^ e ∧ m < 2 ^ 53 := by
  rw [value?_eq, Real64.ofFloat] at h
  split at h
  · split at h <;> cases h
  · have hm := m_ofBits_lt x.toBits
    obtain rfl := Option.some.inj h
    by_cases hsign : (x.toBits >>> 63 == 1) = true
    · refine ⟨-(Binary.ofBits x.toBits).m, (Binary.ofBits x.toBits).q, ?_, by omega⟩
      rw [if_pos hsign, Binary.value, Int.cast_neg, neg_mul, Int.cast_natCast]
    · refine ⟨(Binary.ofBits x.toBits).m, (Binary.ofBits x.toBits).q, ?_, by omega⟩
      rw [if_neg hsign, Binary.value, Int.cast_natCast]

/-- A number is a multiple of a step, or lies below the values that take that step. -/
theorem multiple_or_below {x : Float} {s : ℚ} (h : value? x = some s) (e : ℤ) :
    (∃ j : ℤ, s = j * 2 ^ e) ∨ s < 2 ^ 52 * 2 ^ e := by
  obtain ⟨m, d, rfl, hm⟩ := exists_of_value? h
  by_cases hde : e ≤ d
  · left
    obtain ⟨k, hk⟩ := Int.eq_ofNat_of_zero_le (sub_nonneg.2 hde)
    refine ⟨m * 2 ^ k, ?_⟩
    rw [show d = e + k by omega, zpow_add₀ two_ne_zero, zpow_natCast]
    push_cast
    ring
  · right
    have hm : (m : ℚ) < 2 ^ 53 := by exact_mod_cast hm
    calc (m : ℚ) * 2 ^ d < 2 ^ 53 * 2 ^ d := mul_lt_mul_of_pos_right hm (zpow_pos two_pos _)
      _ = 2 ^ 52 * 2 ^ (d + 1) := by rw [zpow_add₀ two_ne_zero]; ring
      _ ≤ 2 ^ 52 * 2 ^ e :=
        mul_le_mul_of_nonneg_left (zpow_le_zpow_right₀ one_le_two (by omega)) (by positivity)

/-- With all 53 digits before the point in use, a rounded value is nearest among all numbers. -/
theorem Tells.nearest_of_value? {em : ExtendedMantissa} {y : ℚ} (h : Tells em y)
    (hy : 2 ^ 52 ≤ y) (e : ℤ) {x : Float} {s : ℚ} (hs : value? x = some s)
    (hne : s ≠ em.roundedMantissa * 2 ^ e) :
    |y * 2 ^ e - em.roundedMantissa * 2 ^ e| < |y * 2 ^ e - s| ∨
      |y * 2 ^ e - em.roundedMantissa * 2 ^ e| = |y * 2 ^ e - s| ∧ Even em.roundedMantissa := by
  have hpos : (0 : ℚ) < 2 ^ e := zpow_pos two_pos e
  have hscale : ∀ z : ℚ, |y * 2 ^ e - z * 2 ^ e| = |y - z| * 2 ^ e := fun z => by
    rw [← sub_mul, abs_mul, abs_of_pos hpos]
  rcases multiple_or_below hs e with ⟨j, rfl⟩ | hbelow
  · have hj : j ≠ em.roundedMantissa := by
      rintro rfl
      exact hne (by rw [Int.cast_natCast])
    rw [hscale, hscale, mul_lt_mul_iff_left₀ hpos, mul_left_inj' hpos.ne']
    exact h.nearest hj
  · -- the least value with this step lies between, and is no nearer than the rounded one
    left
    have hleast : |y - em.roundedMantissa| ≤ y - 2 ^ 52 := by
      by_cases hround : ((2 ^ 52 : ℕ) : ℤ) = em.roundedMantissa
      · have hround : (em.roundedMantissa : ℚ) = 2 ^ 52 := by exact_mod_cast hround.symm
        rw [hround, abs_of_nonneg (by linarith)]
      · have hnear := h.nearest hround
        rw [show (((2 ^ 52 : ℕ) : ℤ) : ℚ) = 2 ^ 52 by norm_num, abs_of_nonneg (sub_nonneg.2 hy)]
          at hnear
        exact hnear.elim le_of_lt fun hsame => hsame.1.le
    calc |y * 2 ^ e - em.roundedMantissa * 2 ^ e| ≤ (y - 2 ^ 52) * 2 ^ e := by
          rw [hscale]
          exact mul_le_mul_of_nonneg_right hleast hpos.le
      _ < y * 2 ^ e - s := by rw [sub_mul]; linarith
      _ ≤ |y * 2 ^ e - s| := le_abs_self _

/-! ### Normal numbers -/

/-- A mantissa of 53 digits, at an exponent that the format has. -/
structure IsNormal (m : ℕ) (e : ℤ) : Prop where
  low : 2 ^ 52 ≤ m
  high : m < 2 ^ 53
  exponent : -1074 ≤ e

namespace IsNormal

variable {m : ℕ} {e : ℤ}

theorem pos (h : IsNormal m e) : 0 < m := Nat.lt_of_lt_of_le (by decide) h.low

theorem log2 (h : IsNormal m e) : m.log2 = 52 :=
  (Nat.log2_eq_iff h.pos.ne').2 ⟨h.low, h.high⟩

theorem targetExponent (h : IsNormal m e) :
    Format.binary64.targetExponent (totalExponent m e) = e := by
  have hexponent := h.exponent
  rw [targetExponent_eq, totalExponent, h.log2]
  omega

theorem shiftToTargetExponent (h : IsNormal m e) :
    shiftToTargetExponent .binary64 m e .exact = (.ofMantissaAndAccuracy m .exact, e) := by
  have hamount : (e - e).toNat = 0 := by rw [sub_self]; rfl
  rw [UnpackedFloat.shiftToTargetExponent, h.targetExponent, shiftToExponent, hamount,
    Nat.cast_zero, add_zero]
  rfl

theorem roundWithAccuracy (h : IsNormal m e) (sign : Sign) :
    roundWithAccuracy .binary64 sign m e .exact = .finite sign m e h.pos := by
  have hrounded : (ExtendedMantissa.ofMantissaAndAccuracy m .exact).roundedMantissa = m := rfl
  rw [UnpackedFloat.roundWithAccuracy, h.shiftToTargetExponent]
  dsimp only
  rw [hrounded, h.shiftToTargetExponent]
  exact dif_neg h.pos.ne'

section Pack

variable (h : IsNormal m e) (he : e ≤ 971) (hpos : 0 < m)

include h he

/-- The leading digit of a mantissa is not stored. -/
theorem pack_eq :
    UnpackedFloat.pack .binary64 (.finite .positive m e hpos) =
      packComponents .binary64 .positive (.ofNat 11 (e + 1075).toNat) (.ofNat 52 m) := by
  have hexponent := h.exponent
  have hbiased : (e + Format.binary64.exponentBias +
      Format.binary64.mantissaBitsWithoutImplicit).toNat = (e + 1075).toNat := by
    change (e + 1023 + 52).toNat = _
    omega
  rw [UnpackedFloat.pack]
  dsimp only
  rw [hbiased, if_neg (by change ¬ 2048 ≤ (e + 1075).toNat + 1; omega), h.log2]
  exact if_pos rfl

theorem toNat_exponent_pack :
    (@unpackExponent .binary64
      (UnpackedFloat.pack .binary64 (.finite .positive m e hpos))).toNat = (e + 1075).toNat := by
  have hexponent := h.exponent
  rw [h.pack_eq he, unpackExponent_packComponents]
  change (e + 1075).toNat % 2 ^ 11 = _
  omega

theorem toNat_mantissa_pack :
    (@unpackMantissa .binary64
      (UnpackedFloat.pack .binary64 (.finite .positive m e hpos))).toNat = m - 2 ^ 52 := by
  have hlow := h.low
  have hhigh := h.high
  rw [h.pack_eq he, unpackMantissa_packComponents]
  change m % 2 ^ 52 = _
  omega

theorem sign_pack :
    @unpackSign .binary64 (UnpackedFloat.pack .binary64 (.finite .positive m e hpos)) = 0#1 := by
  rw [h.pack_eq he]
  change (Sign.positive.toBitVec ++ BitVec.ofNat 11 (e + 1075).toNat ++
    BitVec.ofNat 52 m).extractLsb' 63 1 = _
  rw [BitVec.extractLsb'_append_eq_of_le (by decide), BitVec.extractLsb'_append_eq_of_le (by decide)]
  rfl

/-- Nothing is lost by packing. -/
theorem unpack_pack :
    UnpackedFloat.unpack .binary64 (UnpackedFloat.pack .binary64 (.finite .positive m e hpos)) =
      .finite .positive m e hpos := by
  obtain ⟨word, hword⟩ : ∃ word,
      word = UnpackedFloat.pack .binary64 (.finite .positive m e hpos) := ⟨_, rfl⟩
  have hexponent := h.toNat_exponent_pack he hpos
  have hmantissa := h.toNat_mantissa_pack he hpos
  have hsign := h.sign_pack he hpos
  rw [← hword] at hexponent hmantissa hsign ⊢
  have hlow := h.low
  have hleast := h.exponent
  have hbias : (Format.binary64.exponentBias + Format.binary64.mantissaBitsWithoutImplicit : ℤ) =
    1075 := rfl
  have hfinite : @unpackExponent .binary64 word ≠ -1#11 := by
    intro hall
    rw [hall] at hexponent
    change 2047 = (e + 1075).toNat at hexponent
    omega
  have hleading : @unpackExponent .binary64 word ≠ 0#11 := by
    intro hzero
    rw [hzero] at hexponent
    change 0 = (e + 1075).toNat at hexponent
    omega
  have hdigits : (1#1 ++ @unpackMantissa .binary64 word).toNat = m := by
    have hbits := toNat_leadingBit ⟨word⟩
    rw [toNat_mantissaBits] at hbits
    change _ = 0x10000000000000 + (@unpackMantissa .binary64 word).toNat at hbits
    rw [hbits, hmantissa]
    omega
  unfold UnpackedFloat.unpack
  dsimp only
  rw [if_neg hfinite, if_neg hleading, hsign, hbias, UnpackedFloat.finite.injEq]
  exact ⟨rfl, hdigits, by omega⟩

theorem value?_pack :
    value? (.ofModel (.pack (.finite .positive m e hpos))) = some (m * 2 ^ e : ℚ) := by
  change rational? (UnpackedFloat.unpack .binary64 (UnpackedFloat.pack .binary64 _)) = _
  rw [h.unpack_pack he]
  rfl

/-- The last bit of a number is that of its mantissa. -/
theorem even_toBits_pack (heven : Even m) :
    Even (Float.ofModel (.pack (.finite .positive m e hpos))).toBits.toNat := by
  obtain ⟨bits, hbits⟩ : ∃ bits : UInt64,
      bits.toBitVec = UnpackedFloat.pack .binary64 (.finite .positive m e hpos) := ⟨⟨_⟩, rfl⟩
  have hmantissa := h.toNat_mantissa_pack he hpos
  rw [← hbits] at hmantissa
  change bits.toNat % 2 ^ 52 = _ at hmantissa
  have hword : (Float.ofModel (.pack (.finite .positive m e hpos))).toBits.toNat = bits.toNat :=
    congrArg BitVec.toNat hbits.symm
  have hlow := h.low
  rw [hword, Nat.even_iff]
  rw [Nat.even_iff] at heven
  omega

end Pack

end IsNormal

/-- What a mantissa with all 53 digits in use is rounded to: one more digit moves the point. -/
theorem roundWithAccuracy_normal {m : ℕ} {e : ℤ} {a : Accuracy} {x : ℚ} (sign : Sign)
    (h : Tells (.ofMantissaAndAccuracy m a) x) (hx : 2 ^ 52 ≤ x) (he : -1074 ≤ e) :
    ∃ (em : ExtendedMantissa) (y : ℚ) (e' : ℤ) (k : ℕ) (f : ℤ) (hk : 0 < k),
      roundWithAccuracy .binary64 sign m e a = .finite sign k f hk ∧ IsNormal k f ∧
        Tells em y ∧ 2 ^ 52 ≤ y ∧ y * 2 ^ e' = x * 2 ^ e ∧
        (k * 2 ^ f : ℚ) = em.roundedMantissa * 2 ^ e' ∧ (Even em.roundedMantissa → Even k) := by
  obtain ⟨em, e', y, hshift, hy, hvalue, hlt, hplace⟩ := exists_shift e h
  have hpower : ∀ z : ℤ, (0 : ℚ) < 2 ^ z := fun z => zpow_pos two_pos z
  have hee' : e ≤ e' := by
    have : (2 : ℚ) ^ (52 + e) < 2 ^ (53 + e') := by
      rw [zpow_add₀ two_ne_zero, zpow_add₀ two_ne_zero]
      calc (2 ^ (52 : ℤ) * 2 ^ e : ℚ) ≤ x * 2 ^ e :=
            mul_le_mul_of_nonneg_right (by exact_mod_cast hx) (hpower e).le
        _ = y * 2 ^ e' := hvalue.symm
        _ < 2 ^ (53 : ℤ) * 2 ^ e' :=
            mul_lt_mul_of_pos_right (by exact_mod_cast hlt) (hpower e')
    have := (zpow_lt_zpow_iff_right₀ one_lt_two).1 this
    omega
  have hfull : 2 ^ 52 ≤ y := by
    have hsame : e' = e → 2 ^ 52 ≤ y := by
      rintro rfl
      rwa [mul_right_cancel₀ (hpower e').ne' hvalue]
    rcases hplace with hplace | hplace | hplace
    · exact hsame hplace
    · exact hsame (by omega)
    · exact hplace
  have hlow : 2 ^ 52 ≤ em.roundedMantissa := by exact_mod_cast le_cast_rounded hy hfull
  have hhigh : em.roundedMantissa ≤ 2 ^ 53 := by
    have : (em.roundedMantissa : ℚ) < (2 ^ 53 + 1 : ℕ) := by
      push_cast
      linarith [hy.rounded_le]
    exact Nat.le_of_lt_succ (by exact_mod_cast this)
  rw [roundWithAccuracy, hshift]
  dsimp only
  by_cases hcarry : em.roundedMantissa = 2 ^ 53
  · refine ⟨em, y, e', 2 ^ 52, e' + 1, by decide, ?_, ⟨le_rfl, by decide, by omega⟩, hy, hfull,
      hvalue, ?_, fun _ => by decide⟩
    · have htarget : Format.binary64.targetExponent (totalExponent (2 ^ 53) e') = e' + 1 := by
        have hlog : Nat.log2 (2 ^ 53) = 53 := Nat.log2_two_pow
        rw [targetExponent_eq, totalExponent, hlog]
        omega
      have hamount : (e' + 1 - e').toNat = 1 := by omega
      rw [hcarry, shiftToTargetExponent, htarget, shiftToExponent, hamount]
      rfl
    · rw [hcarry, zpow_add₀ two_ne_zero]
      push_cast
      ring
  · have hnormal : IsNormal em.roundedMantissa e' := ⟨hlow, by omega, by omega⟩
    refine ⟨em, y, e', em.roundedMantissa, e', hnormal.pos, ?_, hnormal, hy, hfull, hvalue, rfl,
      id⟩
    rw [hnormal.shiftToTargetExponent]
    exact dif_neg hnormal.pos.ne'

/-- What rounding gives is nearest, if it is finite. -/
theorem isNearest_roundWithAccuracy {m : ℕ} {e : ℤ} {a : Accuracy} {x : ℚ}
    (h : Tells (.ofMantissaAndAccuracy m a) x) (hx : 2 ^ 52 ≤ x) (he : -1074 ≤ e)
    (hfinite : ¬ Exceeds 971 (roundWithAccuracy .binary64 .positive m e a)) :
    IsNearest (x * 2 ^ e)
      (.ofModel (.pack (roundWithAccuracy .binary64 .positive m e a))) := by
  obtain ⟨em, y, e', k, f, hk, hround, hnormal, hy, hfull, hvalue, hkf, heven⟩ :=
    roundWithAccuracy_normal .positive h hx he
  rw [hround] at hfinite ⊢
  have hf : f ≤ 971 := not_lt.1 hfinite
  refine ⟨_, hnormal.value?_pack hf hk, fun z s hs hne => ?_⟩
  rw [hkf] at hne ⊢
  rw [← hvalue]
  exact (hy.nearest_of_value? hfull e' hs hne).imp_right fun hsame =>
    ⟨hsame.1, hnormal.even_toBits_pack hf hk (heven hsame.2)⟩

/-! ### Quotients -/

/-- A finite quotient of numbers is nearest to their exact quotient, if that is not too small for a
mantissa with all its digits. -/
theorem isNearest_div {m n : ℕ} {d e : ℤ} (hm : 0 < m) (hn : 0 < n) (hde : -1074 ≤ d - e)
    (hdigits : -1021 ≤ m.log2 + d - (n.log2 + e))
    (hfinite : ¬ Exceeds 971 (UnpackedFloat.div .binary64 (.finite .positive m d hm)
      (.finite .positive n e hn))) :
    IsNearest ((m / n : ℚ) * 2 ^ (d - e)) (.ofModel (.pack
      (UnpackedFloat.div .binary64 (.finite .positive m d hm) (.finite .positive n e hn)))) := by
  obtain ⟨k, least, a, x, hdiv, htells, hvalue, hleast⟩ :=
    exists_div (d := d) (e := e) .positive .positive hm hn
  rw [targetExponent_eq, totalExponent, totalExponent] at hleast
  have hpower : (0 : ℚ) < 2 ^ least := zpow_pos two_pos least
  have hmlow : (2 : ℚ) ^ (m.log2 : ℤ) ≤ m := by exact_mod_cast Nat.log2_self_le hm.ne'
  have hnhigh : (n : ℚ) ≤ 2 ^ (n.log2 + 1 : ℤ) := by exact_mod_cast Nat.lt_log2_self.le
  have hnpos : (0 : ℚ) < n := by exact_mod_cast hn
  have hquotient : (2 : ℚ) ^ (m.log2 - (n.log2 + 1) : ℤ) ≤ m / n := by
    rw [zpow_sub₀ two_ne_zero]
    exact div_le_div₀ (Nat.cast_nonneg m) hmlow hnpos hnhigh
  have hx : 2 ^ 52 ≤ x := by
    refine le_of_mul_le_mul_right ?_ hpower
    calc (2 ^ 52 * 2 ^ least : ℚ) = 2 ^ (52 + least) := by rw [zpow_add₀ two_ne_zero]; rfl
      _ ≤ 2 ^ ((m.log2 - (n.log2 + 1) : ℤ) + (d - e)) :=
        zpow_le_zpow_right₀ one_le_two (by omega)
      _ = 2 ^ (m.log2 - (n.log2 + 1) : ℤ) * 2 ^ (d - e) := zpow_add₀ two_ne_zero _ _
      _ ≤ (m / n) * 2 ^ (d - e) :=
        mul_le_mul_of_nonneg_right hquotient (zpow_pos two_pos _).le
      _ = x * 2 ^ least := hvalue.symm
  rw [hdiv] at hfinite ⊢
  rw [← hvalue]
  exact isNearest_roundWithAccuracy htells hx (by omega) hfinite

/-! ### Thousandths -/

/-- A natural number of at most 53 digits fills a mantissa when it is moved to the left. -/
theorem isNormal_shiftLeft {n : ℕ} (hpos : 0 < n) (hn : n < 2 ^ 53) :
    IsNormal (n <<< (52 - n.log2)) (n.log2 - 52) := by
  have hlog : n.log2 < 53 := (Nat.log2_lt hpos.ne').2 hn
  have hlow := Nat.log2_self_le hpos.ne'
  have hhigh : n < 2 ^ (n.log2 + 1) := Nat.lt_log2_self
  rw [Nat.shiftLeft_eq]
  refine ⟨?_, ?_, by omega⟩
  · calc 2 ^ 52 = 2 ^ n.log2 * 2 ^ (52 - n.log2) := by rw [← pow_add]; congr 1; omega
      _ ≤ n * 2 ^ (52 - n.log2) := Nat.mul_le_mul_right _ hlow
  · calc n * 2 ^ (52 - n.log2) < 2 ^ (n.log2 + 1) * 2 ^ (52 - n.log2) :=
          Nat.mul_lt_mul_of_pos_right hhigh (Nat.two_pow_pos _)
      _ = 2 ^ 53 := by rw [← pow_add]; congr 1; omega

/-- So it is a number as it is. -/
theorem unpack_toFloat {n : ℕ} (hpos : 0 < n) (hn : n < 2 ^ 53) :
    (n.toUInt64.toFloat).toModel.unpack =
      .finite .positive (n <<< (52 - n.log2)) (n.log2 - 52) (isNormal_shiftLeft hpos hn).pos := by
  have hlog : n.log2 < 53 := (Nat.log2_lt hpos.ne').2 hn
  have hword : n.toUInt64.toNat = n := by
    change n % 2 ^ 64 = n
    omega
  have hround : UnpackedFloat.round .binary64 .positive n 0 =
      .finite .positive (n <<< (52 - n.log2)) (n.log2 - 52) (isNormal_shiftLeft hpos hn).pos := by
    have htarget : Format.binary64.targetExponent (totalExponent n 0) = (n.log2 : ℤ) - 52 := by
      rw [targetExponent_eq, totalExponent]
      omega
    have hamount : (0 - ((n.log2 : ℤ) - 52)).toNat = 52 - n.log2 := by omega
    have hexponent : (0 : ℤ) - (52 - n.log2 : ℕ) = n.log2 - 52 := by omega
    rw [UnpackedFloat.round, htarget, decreaseExponent, hamount]
    dsimp only
    rw [hexponent, (isNormal_shiftLeft hpos hn).roundWithAccuracy]
  change UnpackedFloat.unpack .binary64 (UnpackedFloat.pack .binary64
    (UnpackedFloat.normalize .binary64 n.toUInt64.toNat 0 .positive)) = _
  rw [hword, UnpackedFloat.normalize, Int.compare_eq_gt.2 (by exact_mod_cast hpos)]
  dsimp only
  rw [Int.toNat_natCast, hround, (isNormal_shiftLeft hpos hn).unpack_pack (by omega)]

theorem unpack_thousand : (Float.exactlyRepresentablePowersOfTen[3]).toModel.unpack =
    .finite .positive (1000 <<< 43) (-43) (by decide) := rfl

/-- A conversion to thousandths is one quotient, of numbers that are exact. -/
theorem ofScientific_thousandths {n : ℕ} (hpos : 0 < n) :
    ∃ (k l : ℕ) (d e : ℤ) (hk : 0 < k) (hl : 0 < l),
      Float.ofScientific n true 3 = .ofModel (.pack
          (UnpackedFloat.div .binary64 (.finite .positive k d hk) (.finite .positive l e hl))) ∧
        (k / l : ℚ) * 2 ^ (d - e) = n / 1000 ∧ -1074 ≤ d - e ∧
        -1021 ≤ k.log2 + d - (l.log2 + e) := by
  by_cases hshort : n < 2 ^ 53 ∧ 3 ≤ 22
  · have hnormal := isNormal_shiftLeft hpos hshort.1
    have hlog : n.log2 < 53 := (Nat.log2_lt hpos.ne').2 hshort.1
    refine ⟨n <<< (52 - n.log2), 1000 <<< 43, n.log2 - 52, -43, hnormal.pos, by decide, ?_, ?_,
      by omega, ?_⟩
    · rw [Float.ofScientific, dif_pos hshort, if_pos rfl, ← unpack_toFloat hpos hshort.1,
        ← unpack_thousand]
      rfl
    · have hdigits := shiftLeft_mul_zpow n (52 - n.log2) 0
      have hthousand := shiftLeft_mul_zpow 1000 43 0
      rw [zpow_zero, mul_one, show (0 : ℤ) - (52 - n.log2 : ℕ) = n.log2 - 52 by omega] at hdigits
      rw [zpow_zero, mul_one] at hthousand
      rw [zpow_sub₀ two_ne_zero, div_mul_div_comm, hdigits]
      exact congrArg (_ / ·) (by exact_mod_cast hthousand)
    · have hten : (1000 <<< 43).log2 = 52 := rfl
      rw [hnormal.log2, hten]
      omega
  · refine ⟨n, 10 ^ 3, 0, 0, hpos, by decide, ?_, ?_, by decide, ?_⟩
    · have hbits : (2 : ℤ) ^ Format.binary64.exponentBits = 2048 := rfl
      rw [ofScientific_of_long hshort]
      change Float.ofModel (.pack (UnpackedFloat.ofScientific .binary64 n (-3))) = _
      rw [UnpackedFloat.ofScientific, dif_neg hpos.ne', hbits, if_neg (by omega),
        if_neg (by omega)]
      rfl
    · norm_num
    · have hten : (10 ^ 3).log2 = 9 := rfl
      rw [hten]
      omega

/-- A number of thousandths is read as their exact quotient, rounded once. -/
theorem isNearest_thousandths {n : ℕ} (hpos : 0 < n)
    (hfinite : (Float.ofScientific n true 3).isInf = false) :
    IsNearest (n / 1000) (Float.ofScientific n true 3) := by
  obtain ⟨k, l, d, e, hk, hl, hmodel, hvalue, hde, hdigits⟩ := ofScientific_thousandths hpos
  rw [hmodel] at hfinite ⊢
  rw [← hvalue]
  exact isNearest_div hk hl hde hdigits (mt (isInf_pack _).2 (Bool.eq_false_iff.1 hfinite))

theorem isFinite_iff {x : Float} : isFinite x = true ↔ x.isInf = false ∧ x.isNaN = false := by
  have hvalue : isFinite x = (value? x).isSome := by
    rw [value?_eq, isFinite]
    cases Real64.ofFloat x <;> rfl
  rw [hvalue]
  change (rational? x.toModel.unpack).isSome = true ↔
    x.toModel.unpack.isInf = false ∧ x.toModel.unpack.isNaN = false
  cases x.toModel.unpack <;> simp [rational?, UnpackedFloat.isInf, UnpackedFloat.isNaN]

theorem isFinite_nearest_iff (negative : Bool) (digits : ℕ) (exponent : ℤ) :
    isFinite (nearest negative digits exponent) = true ↔
      (digits : ℚ) * 10 ^ exponent < overflowBound := by
  rw [isFinite_iff, Bool.eq_false_iff, Ne, isInf_nearest_iff, not_le]
  exact and_iff_left (isNaN_nearest negative digits exponent)

/-- A finite result for thousandths is the number nearest to them. -/
theorem isNearest_nearest {n : ℕ} (hpos : 0 < n)
    (hfinite : isFinite (nearest false n (-3)) = true) :
    IsNearest (n / 1000) (nearest false n (-3)) := by
  have hleading : 0 < (Nat.toDigits 10 n).length := Nat.length_toDigits_pos
  have hunbounded : isFinite (1.0 / 0.0) = false := by decide +kernel
  have hread : nearest false n (-3) = Float.ofScientific n true 3 := by
    revert hfinite
    rw [nearest, if_neg Bool.false_ne_true, if_neg (by rw [beq_iff_eq]; exact hpos.ne')]
    dsimp only
    split
    · rw [hunbounded]
      exact fun h => absurd h Bool.false_ne_true
    · rw [if_neg (by omega)]
      exact fun _ => rfl
  rw [hread] at hfinite ⊢
  exact isNearest_thousandths hpos (isFinite_iff.1 hfinite).1

end HttpScript.Decimal
