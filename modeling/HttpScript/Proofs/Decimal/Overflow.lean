import HttpScript.Decimal.Binary
import HttpScript.Proofs.Decimal.Rounding

/-!
# Which decimals are infinite

The number nearest to `digits * 10 ^ exponent` is infinite exactly from `2 ^ 1024 - 2 ^ 970` on, the
middle between the largest finite number and the next power of two. It is never undefined.
-/
namespace HttpScript.Decimal

open Float.Model Float.Model.UnpackedFloat

/-! ### Packed numbers -/

/-- A zero, or a number whose exponent is at most `k`. -/
inductive Within (k : ℤ) : UnpackedFloat → Prop
  | zero (sign : Sign) : Within k (.zero sign)
  | finite (sign : Sign) {m : ℕ} {e : ℤ} (pos : 0 < m) (digits : m < 2 ^ 53) (exponent : e ≤ k) :
      Within k (.finite sign m e pos)

/-- A word whose exponent does not have all bits set stands for a finite number. -/
theorem within_unpack {word : BitVec 64} (h : @unpackExponent .binary64 word ≠ -1#11) :
    Within (max ((@unpackExponent .binary64 word).toNat - 1075) (-1074))
      (UnpackedFloat.unpack .binary64 word) := by
  have hmantissa : (@unpackMantissa .binary64 word).toNat < 2 ^ 52 := BitVec.isLt _
  unfold UnpackedFloat.unpack
  dsimp only
  rw [if_neg h]
  split
  · rename_i hzero
    split
    · exact .zero _
    · refine .finite _ _ (by omega) ?_
      rw [hzero]
      decide
  · refine .finite _ _ ?_ (le_max_left _ _)
    rw [BitVec.toNat_append, ← Nat.shiftLeft_add_eq_or_of_lt hmantissa]
    simp only [BitVec.toNat_ofNat, Nat.shiftLeft_eq]
    omega

theorem Within.mono {k l : ℤ} {x : UnpackedFloat} (h : Within k x) (hle : k ≤ l) : Within l x := by
  cases h with
  | zero sign => exact .zero sign
  | finite sign pos digits exponent => exact .finite sign pos digits (exponent.trans hle)

theorem Within.isInf {k : ℤ} {x : UnpackedFloat} (h : Within k x) : x.isInf = false := by
  cases h <;> rfl

theorem Within.isNaN {k : ℤ} {x : UnpackedFloat} (h : Within k x) : x.isNaN = false := by
  cases h <;> rfl

theorem Within.not_exceeds {k : ℤ} {x : UnpackedFloat} (h : Within k x) : ¬ Exceeds k x := by
  cases h with
  | zero => exact id
  | finite sign pos digits exponent => exact not_lt.2 exponent

theorem toNat_unpackExponent_pack {k : ℤ} (hk : k ≤ 971) {x : UnpackedFloat}
    (hdefined : x.isNaN = false) (h : ¬ Exceeds k x) :
    ((@unpackExponent .binary64 (UnpackedFloat.pack .binary64 x)).toNat : ℤ) ≤
      max (k + 1075) 0 := by
  cases x with
  | notANumber => cases hdefined
  | infinity sign => exact absurd trivial h
  | zero sign =>
    rw [UnpackedFloat.pack, packedZero, unpackExponent_packComponents]
    exact le_max_right _ _
  | finite sign m e pos =>
    have he : e ≤ k := not_lt.1 h
    rw [UnpackedFloat.pack]
    dsimp only
    rw [if_neg (by change ¬ 2048 ≤ (e + 1023 + 52).toNat + 1; omega)]
    split
    · rw [unpackExponent_packComponents, BitVec.toNat_ofNat]
      have := Nat.mod_le (e + 1023 + 52).toNat (2 ^ 11)
      change (((e + 1023 + 52).toNat % 2 ^ 11 : ℕ) : ℤ) ≤ _
      omega
    · rw [unpackExponent_packComponents]
      exact le_max_right _ _

/-- What is unpacked again, of a number that does not exceed the exponents of the format. -/
theorem within_unpack_pack {k : ℤ} (hleast : -1074 ≤ k) (hk : k ≤ 971) {x : UnpackedFloat}
    (hdefined : x.isNaN = false) (h : ¬ Exceeds k x) :
    Within k (UnpackedFloat.unpack .binary64 (UnpackedFloat.pack .binary64 x)) := by
  have hexponent := toNat_unpackExponent_pack hk hdefined h
  refine (within_unpack fun hall => ?_).mono (by omega)
  rw [hall] at hexponent
  have hword : ((-1#11 : BitVec 11).toNat : ℤ) = 2047 := rfl
  omega

theorem unpack_pack_of_exceeds {x : UnpackedFloat} (h : Exceeds 971 x) :
    ∃ sign, UnpackedFloat.unpack .binary64 (UnpackedFloat.pack .binary64 x) = .infinity sign := by
  have hinfinity : ∀ sign, UnpackedFloat.unpack .binary64 (packedInfinity .binary64 sign) =
      .infinity sign := by
    intro sign
    cases sign <;> rfl
  cases x with
  | notANumber => cases h
  | zero sign => cases h
  | infinity sign => exact ⟨sign, hinfinity sign⟩
  | finite sign m e pos =>
    have he : 971 < e := h
    refine ⟨sign, ?_⟩
    rw [UnpackedFloat.pack]
    dsimp only
    rw [if_pos (by change 2048 ≤ (e + 1023 + 52).toNat + 1; omega)]
    exact hinfinity sign

theorem isInf_pack (x : UnpackedFloat) : (Float.Model.pack x).isInf = true ↔ Exceeds 971 x := by
  change (UnpackedFloat.unpack .binary64 (UnpackedFloat.pack .binary64 x)).isInf = true ↔ _
  constructor
  · intro hinf
    by_contra h
    cases hdefined : x.isNaN with
    | true =>
      cases x <;> cases hdefined
      cases hinf
    | false =>
      rw [(within_unpack_pack (by decide) le_rfl hdefined h).isInf] at hinf
      cases hinf
  · intro h
    obtain ⟨sign, hsign⟩ := unpack_pack_of_exceeds h
    rw [hsign]
    rfl

theorem isNaN_pack (x : UnpackedFloat) : (Float.Model.pack x).isNaN = x.isNaN := by
  change (UnpackedFloat.unpack .binary64 (UnpackedFloat.pack .binary64 x)).isNaN = _
  cases hdefined : x.isNaN with
  | true =>
    cases x <;> cases hdefined
    rfl
  | false =>
    by_cases h : Exceeds 971 x
    · obtain ⟨sign, hsign⟩ := unpack_pack_of_exceeds h
      rw [hsign]
      rfl
    · exact (within_unpack_pack (by decide) le_rfl hdefined h).isNaN

theorem exceeds_unpack {word : BitVec 64} (h : Exceeds 971 (UnpackedFloat.unpack .binary64 word)) :
    (UnpackedFloat.unpack .binary64 word).isInf = true := by
  by_cases hword : @unpackExponent .binary64 word = -1#11
  · revert h
    unfold UnpackedFloat.unpack
    dsimp only
    rw [if_pos hword]
    split
    · exact fun _ => rfl
    · exact fun h => h.elim
  · have hlt : (@unpackExponent .binary64 word).toNat < 2047 := by
      have hlt : (@unpackExponent .binary64 word).toNat < 2 ^ 11 := BitVec.isLt _
      have hne : (@unpackExponent .binary64 word).toNat ≠ 2047 := fun hall =>
        hword (BitVec.eq_of_toNat_eq hall)
      omega
    exact absurd h ((within_unpack hword).mono (by omega)).not_exceeds

theorem isInf_neg (x : Float) : (-x).isInf = x.isInf := by
  have hpack : (-x).isInf = true ↔ Exceeds 971 x.toModel.unpack.neg := isInf_pack _
  have hsign : Exceeds 971 x.toModel.unpack.neg ↔ Exceeds 971 x.toModel.unpack := by
    cases x.toModel.unpack <;> exact Iff.rfl
  have hinf : Exceeds 971 x.toModel.unpack ↔ x.isInf = true := by
    refine ⟨exceeds_unpack, fun h => ?_⟩
    change x.toModel.unpack.isInf = true at h
    cases hx : x.toModel.unpack <;> rw [hx] at h <;> first | exact trivial | cases h
  rw [Bool.eq_iff_iff, hpack, hsign, hinf]

theorem isNaN_neg (x : Float) : (-x).isNaN = x.isNaN := by
  have hpack : (-x).isNaN = x.toModel.unpack.neg.isNaN := isNaN_pack _
  rw [hpack]
  change _ = x.toModel.unpack.isNaN
  cases x.toModel.unpack <;> rfl

/-! ### Products and quotients -/

/-- The middle between the largest finite number and the next power of two. -/
def overflowBound : ℚ := 2 ^ 1024 - 2 ^ 970

theorem overflowBound_eq : overflowBound = 2 ^ ((971 : ℤ) + 53) - 2 ^ ((971 : ℤ) - 1) := rfl

theorem isNaN_roundWithAccuracy (sign : Sign) (m : ℕ) (e : ℤ) (a : Accuracy) :
    (roundWithAccuracy .binary64 sign m e a).isNaN = false := by
  unfold roundWithAccuracy
  dsimp only
  split <;> rfl

section

variable {m n : ℕ} {d e : ℤ} (s t : Sign) (hm : 0 < m) (hn : 0 < n)

theorem exceeds_mul (he : d + e ≤ 971) :
    Exceeds 971 (UnpackedFloat.mul .binary64 (.finite s m d hm) (.finite t n e hn)) ↔
      overflowBound ≤ (m * n : ℚ) * 2 ^ (d + e) := by
  rw [overflowBound_eq, ← Nat.cast_mul]
  exact exceeds_roundWithAccuracy _ (by decide) he (tells_exact _)

/-- A quotient is cut off at an exponent that leaves enough digits, and rounded from there. -/
theorem exists_div : ∃ k least a x,
    UnpackedFloat.div .binary64 (.finite s m d hm) (.finite t n e hn) =
        roundWithAccuracy .binary64 (s / t) k least a ∧
      Tells (.ofMantissaAndAccuracy k a) x ∧ x * 2 ^ least = (m / n : ℚ) * 2 ^ (d - e) ∧
      least = min (d - e)
        (Format.binary64.targetExponent (totalExponent m d - totalExponent n e)) := by
  obtain ⟨least, hleast⟩ : ∃ least, least = min (d - e)
      (Format.binary64.targetExponent (totalExponent m d - totalExponent n e)) := ⟨_, rfl⟩
  have hvalue : (((m <<< (d - e - least).toNat : ℕ) : ℚ) / n) * 2 ^ least =
      (m / n : ℚ) * 2 ^ (d - e) := by
    have hshift := shiftLeft_mul_zpow m (d - e - least).toNat (d - e)
    rw [Int.toNat_of_nonneg (by omega), sub_sub_cancel] at hshift
    rw [div_mul_eq_mul_div, hshift, div_mul_eq_mul_div]
  refine ⟨_, least, _, _, ?_, tells_div _ hn, hvalue, hleast⟩
  rw [UnpackedFloat.div, divCore, ← hleast]

theorem exceeds_div (he : d - e ≤ 971) :
    Exceeds 971 (UnpackedFloat.div .binary64 (.finite s m d hm) (.finite t n e hn)) ↔
      overflowBound ≤ (m / n : ℚ) * 2 ^ (d - e) := by
  obtain ⟨k, least, a, x, hdiv, htells, hvalue, hleast⟩ := exists_div (d := d) (e := e) s t hm hn
  rw [overflowBound_eq, ← hvalue, hdiv]
  exact exceeds_roundWithAccuracy _ (by decide) (by omega) htells

end

theorem two_pow_lt_overflowBound : (2 : ℚ) ^ (1023 : ℤ) < overflowBound := by
  have hpower : (2 : ℚ) ^ 970 < 2 ^ 1023 := pow_lt_pow_right₀ one_lt_two (by decide)
  rw [overflowBound, pow_succ 2 1023, mul_two, lt_sub_iff_add_lt]
  exact (add_lt_add_iff_left (2 ^ 1023)).2 hpower

theorem not_exceeds_mul {k l : ℤ} (hkl : k + l ≤ 917) {x y : UnpackedFloat} (hx : Within k x)
    (hy : Within l y) : ¬ Exceeds 971 (UnpackedFloat.mul .binary64 x y) := by
  cases hx with
  | zero => cases hy <;> exact id
  | @finite s m d hm hdigits hd =>
    cases hy with
    | zero => exact id
    | @finite t n e hn hdigits' he =>
      rw [exceeds_mul _ _ _ _ (by omega), not_le]
      have hmantissa : (m * n : ℚ) < 2 ^ 106 := by
        exact_mod_cast (Nat.mul_lt_mul'' hdigits hdigits').trans_eq (by norm_num)
      calc (m * n : ℚ) * 2 ^ (d + e) < 2 ^ 106 * 2 ^ (d + e) :=
            mul_lt_mul_of_pos_right hmantissa (zpow_pos two_pos _)
        _ = 2 ^ (106 + (d + e)) := by rw [zpow_add₀ two_ne_zero 106]; rfl
        _ ≤ 2 ^ (1023 : ℤ) := zpow_le_zpow_right₀ one_le_two (by omega)
        _ < overflowBound := two_pow_lt_overflowBound

theorem not_exceeds_div {k : ℤ} {x : UnpackedFloat} (hx : Within k x) (t : Sign) {n : ℕ} {e : ℤ}
    (hn : 0 < n) (he : k - e ≤ 970) :
    ¬ Exceeds 971 (UnpackedFloat.div .binary64 x (.finite t n e hn)) := by
  cases hx with
  | zero => exact id
  | @finite s m d hm hdigits hd =>
    rw [exceeds_div _ _ _ _ (by omega), not_le]
    have hquotient : (m / n : ℚ) < 2 ^ 53 :=
      calc (m / n : ℚ) ≤ m := div_le_self (Nat.cast_nonneg m) (by exact_mod_cast hn)
        _ < 2 ^ 53 := by exact_mod_cast hdigits
    calc (m / n : ℚ) * 2 ^ (d - e) < 2 ^ 53 * 2 ^ (d - e) :=
          mul_lt_mul_of_pos_right hquotient (zpow_pos two_pos _)
      _ = 2 ^ (53 + (d - e)) := by rw [zpow_add₀ two_ne_zero 53]; rfl
      _ ≤ 2 ^ (1023 : ℤ) := zpow_le_zpow_right₀ one_le_two (by omega)
      _ < overflowBound := two_pow_lt_overflowBound

theorem isNaN_mul {k l : ℤ} {x y : UnpackedFloat} (hx : Within k x) (hy : Within l y) :
    (UnpackedFloat.mul .binary64 x y).isNaN = false := by
  cases hx <;> cases hy <;> first | rfl | exact isNaN_roundWithAccuracy _ _ _ _

theorem isNaN_div {k : ℤ} {x : UnpackedFloat} (hx : Within k x) (t : Sign) {n : ℕ} {e : ℤ}
    (hn : 0 < n) : (UnpackedFloat.div .binary64 x (.finite t n e hn)).isNaN = false := by
  cases hx with
  | zero => rfl
  | finite => exact isNaN_roundWithAccuracy _ _ _ _

/-! ### Decimals with few digits -/

/-- A natural number of at most 53 digits takes no exponent above zero. -/
theorem within_ofUInt64 {n : UInt64} (h : n.toNat < 2 ^ 53) :
    Within 0 (Float.Model.ofUInt64 n).unpack := by
  obtain ⟨m, hm⟩ : ∃ m, m = n.toNat := ⟨_, rfl⟩
  rw [← hm] at h
  have hmodel : (Float.Model.ofUInt64 n).unpack = UnpackedFloat.unpack .binary64
      (UnpackedFloat.pack .binary64 (UnpackedFloat.normalize .binary64 m 0 .positive)) := by
    rw [hm]
    rfl
  rw [hmodel, UnpackedFloat.normalize]
  rcases Nat.eq_zero_or_pos m with rfl | hpos
  · exact within_unpack_pack (by decide) (by decide) rfl id
  · rw [Int.compare_eq_gt.2 (by exact_mod_cast hpos)]
    refine within_unpack_pack (by decide) (by decide) (isNaN_roundWithAccuracy _ _ _ _) ?_
    have hsmall : (m : ℚ) + 1 ≤ 2 ^ 53 := by exact_mod_cast h
    dsimp only
    rw [Int.toNat_natCast, exceeds_round _ _ (by decide) le_rfl, not_le, zpow_zero, mul_one]
    norm_num
    linarith

/-- A number with exponents that those of the exact powers of ten take. -/
def isScale : UnpackedFloat → Bool
  | .finite _ m e _ => m < 2 ^ 53 && -52 ≤ e && e ≤ 21
  | _ => false

theorem isScale_powersOfTen :
    ∀ i : Fin 23, isScale (Float.exactlyRepresentablePowersOfTen[i]).toModel.unpack = true := by
  decide +kernel

theorem exists_of_isScale {x : UnpackedFloat} (h : isScale x = true) :
    ∃ s m e hm, x = .finite s m e hm ∧ Within 21 x ∧ -52 ≤ e := by
  cases x with
  | finite s m e hm =>
    simp only [isScale, Bool.and_eq_true, decide_eq_true_eq] at h
    exact ⟨s, m, e, hm, rfl, .finite s hm h.1.1 h.2, h.1.2⟩
  | notANumber => cases h
  | infinity => cases h
  | zero => cases h

/-- The result of an operation is finite. -/
theorem isInf_pack_eq_false {x : UnpackedFloat} (h : ¬ Exceeds 971 x) :
    (Float.Model.pack x).isInf = false :=
  Bool.eq_false_iff.2 (mt (isInf_pack x).1 h)

/-- With few digits and a small exponent, the digits are multiplied or divided by an exact power. -/
theorem ofScientific_of_short {m e : ℕ} (hm : m < 2 ^ 53) (he : e ≤ 22) (s : Bool) :
    (Float.ofScientific m s e).isInf = false ∧ (Float.ofScientific m s e).isNaN = false := by
  rw [Float.ofScientific, dif_pos ⟨hm, he⟩]
  have hdigits : Within 0 (m.toUInt64.toFloat).toModel.unpack := by
    refine within_ofUInt64 ?_
    have hmod : m.toUInt64.toNat = m % 2 ^ 64 := rfl
    omega
  obtain ⟨t, n, d, hn, hpower, hwithin, hd⟩ :=
    exists_of_isScale (isScale_powersOfTen ⟨e, Nat.lt_succ_of_le he⟩)
  cases s with
  | true =>
    have hnan := isNaN_div hdigits t hn (e := d)
    have hinf := not_exceeds_div hdigits t hn (e := d) (by omega)
    rw [← hpower] at hnan hinf
    exact ⟨isInf_pack_eq_false hinf, (isNaN_pack _).trans hnan⟩
  | false =>
    have hinf := not_exceeds_mul (by decide) hdigits hwithin
    exact ⟨isInf_pack_eq_false hinf, (isNaN_pack _).trans (isNaN_mul hdigits hwithin)⟩

/-! ### All decimals -/

theorem overflowBound_le_ten_zpow {e : ℤ} (he : 342 ≤ e) : overflowBound ≤ 10 ^ e := by
  have hpos : (0 : ℚ) ≤ 2 ^ 970 := by positivity
  calc overflowBound ≤ 2 ^ 1024 := sub_le_self _ hpos
    _ ≤ 2 ^ (3 * 342) := pow_le_pow_right₀ one_le_two (by decide)
    _ = (2 ^ 3) ^ 342 := pow_mul 2 3 342
    _ ≤ 10 ^ 342 := pow_le_pow_left₀ (by norm_num) (by norm_num) 342
    _ = 10 ^ (342 : ℤ) := rfl
    _ ≤ 10 ^ e := zpow_le_zpow_right₀ (by norm_num) he

theorem one_lt_overflowBound : 1 < overflowBound :=
  lt_of_le_of_lt (one_le_zpow₀ one_le_two (by decide)) two_pow_lt_overflowBound

/-- A decimal whose point stands before all of its digits is less than one. -/
theorem mul_ten_zpow_lt_one {m k : ℕ} {e : ℤ} (hm : m < 10 ^ k) (h : k + e ≤ 0) :
    (m : ℚ) * 10 ^ e < 1 := by
  have hpower : (m : ℚ) < 10 ^ (k : ℤ) := by exact_mod_cast hm
  calc (m : ℚ) * 10 ^ e < 10 ^ (k : ℤ) * 10 ^ e :=
        mul_lt_mul_of_pos_right hpower (zpow_pos (by norm_num) e)
    _ = 10 ^ ((k : ℤ) + e) := (zpow_add₀ (by norm_num) _ _).symm
    _ ≤ 1 := zpow_le_one_of_nonpos₀ (by norm_num) h

/-- The slow conversion is an exact product or quotient, rounded once. -/
theorem exceeds_ofScientific (m : ℕ) (e : ℤ) :
    Exceeds 971 (UnpackedFloat.ofScientific .binary64 m e) ↔ overflowBound ≤ (m : ℚ) * 10 ^ e := by
  unfold UnpackedFloat.ofScientific
  split
  · rename_i hm
    rw [hm, Nat.cast_zero, zero_mul]
    exact iff_of_false id (not_le.2 (one_pos.trans one_lt_overflowBound))
  · rename_i hm
    have hone : (1 : ℚ) ≤ m := by exact_mod_cast Nat.one_le_iff_ne_zero.2 hm
    have hbits : (2 : ℤ) ^ Format.binary64.exponentBits = 2048 := rfl
    rw [hbits]
    split
    · have hpower : overflowBound ≤ 10 ^ e := overflowBound_le_ten_zpow (by omega)
      refine iff_of_true trivial (hpower.trans ?_)
      exact le_mul_of_one_le_left (zpow_nonneg (by norm_num) _) hone
    · split
      · have hdigits : m < 10 ^ (m.log2 + 1) :=
          Nat.lt_log2_self.trans_le (Nat.pow_le_pow_left (by decide) _)
        have hless : (m : ℚ) * 10 ^ e < 1 := mul_ten_zpow_lt_one hdigits (by omega)
        exact iff_of_false id (not_le.2 (hless.trans one_lt_overflowBound))
      · split
        · have hpower : ((10 ^ e.toNat : ℕ) : ℚ) = 10 ^ e := by
            rw [Nat.cast_pow, Nat.cast_ofNat, ← zpow_natCast, Int.toNat_of_nonneg ‹_›]
          have hshift := shiftLeft_mul_zpow m Format.binary64.mantissaBits 0
          rw [zpow_zero, mul_one, zero_sub] at hshift
          rw [exceeds_mul _ _ _ _ (by decide), hpower, add_zero, mul_right_comm, hshift]
        · have hpower : ((10 ^ (-e).toNat : ℕ) : ℚ) = 10 ^ (-e) := by
            rw [Nat.cast_pow, Nat.cast_ofNat, ← zpow_natCast, Int.toNat_of_nonneg (by omega)]
          rw [exceeds_div _ _ _ _ (by decide), hpower, sub_zero, zpow_zero, mul_one, zpow_neg,
            div_inv_eq_mul]

theorem isNaN_ofScientific_model (m : ℕ) (e : ℤ) :
    (UnpackedFloat.ofScientific .binary64 m e).isNaN = false := by
  unfold UnpackedFloat.ofScientific
  split
  · rfl
  · split
    · rfl
    · split
      · rfl
      · split <;> exact isNaN_roundWithAccuracy _ _ _ _

/-- The exponent that a conversion is told by its sign and its magnitude. -/
def signedExponent (s : Bool) (e : ℕ) : ℤ := if s then -e else e

theorem signedExponent_eq (exponent : ℤ) :
    signedExponent (decide (exponent < 0)) exponent.natAbs = exponent := by
  unfold signedExponent
  split <;> rename_i hsign <;> rw [decide_eq_true_eq] at hsign <;> omega

theorem ofScientific_of_long {m e : ℕ} (h : ¬ (m < 2 ^ 53 ∧ e ≤ 22)) (s : Bool) :
    Float.ofScientific m s e = .ofModel (Float.Model.ofScientific m (signedExponent s e)) := by
  rw [Float.ofScientific, dif_neg h]
  cases s <;> rfl

theorem isNaN_ofScientific (m : ℕ) (s : Bool) (e : ℕ) :
    (Float.ofScientific m s e).isNaN = false := by
  by_cases h : m < 2 ^ 53 ∧ e ≤ 22
  · exact (ofScientific_of_short h.1 h.2 s).2
  · rw [ofScientific_of_long h]
    exact (isNaN_pack _).trans (isNaN_ofScientific_model _ _)

theorem isInf_ofScientific_iff (m : ℕ) (s : Bool) (e : ℕ) :
    (Float.ofScientific m s e).isInf = true ↔
      overflowBound ≤ (m : ℚ) * 10 ^ signedExponent s e := by
  by_cases h : m < 2 ^ 53 ∧ e ≤ 22
  · have hexponent : signedExponent s e ≤ 22 := by
      have := h.2
      unfold signedExponent
      split <;> omega
    have hm : (m : ℚ) < 2 ^ 53 := by exact_mod_cast h.1
    have hpos : (0 : ℚ) < 10 ^ signedExponent s e := zpow_pos (by norm_num) _
    rw [(ofScientific_of_short h.1 h.2 s).1]
    refine iff_of_false (by decide) (not_le.2 ?_)
    calc (m : ℚ) * 10 ^ signedExponent s e
        < 2 ^ 53 * 10 ^ signedExponent s e := mul_lt_mul_of_pos_right hm hpos
      _ ≤ 2 ^ 53 * 10 ^ (22 : ℤ) :=
        mul_le_mul_of_nonneg_left (zpow_le_zpow_right₀ (by norm_num) hexponent) (by positivity)
      _ ≤ 2 ^ 200 := by norm_num
      _ ≤ 2 ^ 1023 := pow_le_pow_right₀ one_le_two (by decide)
      _ < overflowBound := two_pow_lt_overflowBound
  · rw [ofScientific_of_long h]
    exact (isInf_pack _).trans (exceeds_ofScientific m _)

theorem lt_pow_length_toDigits (n : ℕ) : n < 10 ^ (Nat.toDigits 10 n).length :=
  (Nat.length_toDigits_le_iff (by decide) Nat.length_toDigits_pos).1 le_rfl

theorem pow_le_of_lt_length_toDigits {n k : ℕ} (hn : n ≠ 0) (h : k < (Nat.toDigits 10 n).length) :
    10 ^ k ≤ n := by
  rcases Nat.eq_zero_or_pos k with rfl | hk
  · exact Nat.one_le_iff_ne_zero.2 hn
  · exact not_lt.1 (mt (Nat.length_toDigits_le_iff (by decide) hk).2 (not_le.2 h))

section

variable (negative : Bool) (digits : ℕ) (exponent : ℤ)

theorem isNaN_nearest : (nearest negative digits exponent).isNaN = false := by
  have hpositive : (nearest false digits exponent).isNaN = false := by
    rw [nearest, if_neg Bool.false_ne_true]
    split
    · exact isNaN_ofScientific _ _ _
    · dsimp only
      split
      · decide +kernel
      · split <;> exact isNaN_ofScientific _ _ _
  cases negative with
  | false => exact hpositive
  | true => exact (isNaN_neg _).trans hpositive

/-- The number nearest to a decimal is infinite from half a step above the largest finite number
on. -/
theorem isInf_nearest_iff :
    (nearest negative digits exponent).isInf = true ↔
      overflowBound ≤ (digits : ℚ) * 10 ^ exponent := by
  have hpositive : (nearest false digits exponent).isInf = true ↔
      overflowBound ≤ (digits : ℚ) * 10 ^ exponent := by
    rw [nearest, if_neg Bool.false_ne_true]
    split
    · rename_i hzero
      rw [beq_iff_eq.1 hzero, Nat.cast_zero, zero_mul]
      exact iff_of_false (by decide +kernel) (not_le.2 (one_pos.trans one_lt_overflowBound))
    · rename_i hzero
      have hne : digits ≠ 0 := mt beq_iff_eq.2 hzero
      dsimp only
      split
      · -- the first digit alone lies beyond the bound
        obtain ⟨k, hk⟩ : ∃ k, (Nat.toDigits 10 digits).length = k + 1 :=
          Nat.exists_eq_succ_of_ne_zero Nat.length_toDigits_pos.ne'
        have hpower : ((10 ^ k : ℕ) : ℚ) ≤ digits :=
          Nat.cast_le.2 (pow_le_of_lt_length_toDigits hne (by omega))
        refine iff_of_true (by decide +kernel) ?_
        calc overflowBound ≤ 10 ^ ((k : ℤ) + exponent) := overflowBound_le_ten_zpow (by omega)
          _ = ((10 ^ k : ℕ) : ℚ) * 10 ^ exponent := by
            rw [zpow_add₀ (by norm_num), Nat.cast_pow, Nat.cast_ofNat, zpow_natCast]
          _ ≤ (digits : ℚ) * 10 ^ exponent :=
            mul_le_mul_of_nonneg_right hpower (zpow_nonneg (by norm_num) _)
      · split
        · have hless : (digits : ℚ) * 10 ^ exponent < 1 :=
            mul_ten_zpow_lt_one (lt_pow_length_toDigits digits) (by omega)
          exact iff_of_false (by decide +kernel) (not_le.2 (hless.trans one_lt_overflowBound))
        · rw [isInf_ofScientific_iff, signedExponent_eq]
  cases negative with
  | false => exact hpositive
  | true => rwa [← isInf_neg] at hpositive

end

end HttpScript.Decimal
