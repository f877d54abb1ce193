import HttpScript.Proofs.Decimal.Exact
import HttpScript.Proofs.Json.Strings
import HttpScript.Script.Problem
import Mathlib

/-!
# The texts of numbers

A finite number is written with a fraction or an exponent, so its text is read as a number again.
With integers that the reader takes this gives a text for every value that holds no other numbers:
it can be read, even by a reader that knows no name for a number that is not finite.
-/
namespace HttpScript

namespace Decimal

section Bits

open Float.Model

/-- A number that is neither undefined nor infinite is a sign and a magnitude. -/
theorem ofFloat_of_isFinite {x : Float} (h : (!x.isNaN && !x.isInf) = true) :
    ∃ negative b, Real64.ofFloat x = .finite negative b := by
  by_cases hexponent : (x.toBits >>> 52) &&& 0x7FF = 0x7FF
  · have hunpack := (exponentBits_eq_iff _).1 hexponent
    have hspecial : x.isNaN = true ∨ x.isInf = true := by
      change (UnpackedFloat.unpack .binary64 x.toBits.toBitVec).isNaN = true ∨
        (UnpackedFloat.unpack .binary64 x.toBits.toBitVec).isInf = true
      simp only [UnpackedFloat.unpack]
      rw [if_pos hunpack]
      split
      · exact .inr rfl
      · exact .inl rfl
    simp only [Bool.and_eq_true, Bool.not_eq_true'] at h
    rcases hspecial with hspecial | hspecial
    · exact absurd hspecial (by rw [h.1]; decide)
    · exact absurd hspecial (by rw [h.2]; decide)
  · refine ⟨x.toBits >>> 63 == 1, .ofBits x.toBits, ?_⟩
    rw [Real64.ofFloat, beq_eq_false_iff_ne.2 hexponent]
    rfl

end Bits

/-! ### Digits -/

/-- Zero lies below all decimals that read back as a number other than zero. -/
theorem digits_ne_zero_of_readsBack {x : Binary} {d : Digits} (hx : x.m ≠ 0)
    (h : x.readsBack d = true) : d.digits ≠ 0 := by
  intro hd
  have hlow : 0 < if x.narrowBelow then 4 * x.m - 1 else 4 * x.m - 2 := by
    split <;> omega
  have hbelow : ∀ i j, compareScaled 0 i (if x.narrowBelow then 4 * x.m - 1 else 4 * x.m - 2) j =
      .lt := by
    intro i j
    rw [compareScaled, Nat.compare_eq_lt, Nat.zero_mul, Nat.zero_mul]
    exact Nat.mul_pos (Nat.mul_pos hlow (Nat.pow_pos (by decide))) (Nat.pow_pos (by decide))
  simp [Binary.readsBack, hd, hbelow] at h

theorem digits_ne_zero_of_onGrid? {x : Binary} {e : Int} {d : Digits} (hx : x.m ≠ 0)
    (h : x.onGrid? e = some d) : d.digits ≠ 0 := by
  have hread : x.readsBack d = true := by
    unfold Binary.onGrid? at h
    dsimp only at h
    split at h
    · rename_i hlower hupper
      split at h
      · obtain rfl := Option.some.inj h; exact hupper
      · obtain rfl := Option.some.inj h; exact hlower
      · obtain rfl := Option.some.inj h
        split
        · exact hlower
        · exact hupper
    · rename_i hlower _
      obtain rfl := Option.some.inj h
      exact hlower
    · rename_i _ hupper
      obtain rfl := Option.some.inj h
      exact hupper
    · cases h
  exact digits_ne_zero_of_readsBack hx hread

theorem digits_strip_ne_zero (fuel : Nat) {d : Digits} (h : d.digits ≠ 0) :
    (d.strip fuel).digits ≠ 0 := by
  induction fuel generalizing d with
  | zero => exact h
  | succ fuel ih =>
    rw [Digits.strip]
    split
    · rename_i hten
      simp only [Bool.and_eq_true, beq_iff_eq] at hten
      exact ih (by simp only; omega)
    · exact h

/-- Only zero is written with the digit zero alone, and without an exponent. -/
theorem exponent_of_shortest {x : Binary} (h : x.shortest.digits = 0) :
    x.shortest.exponent = 0 := by
  unfold Binary.shortest at h ⊢
  split
  · rfl
  · rename_i hx
    have hx : x.m ≠ 0 := by simpa using hx
    rw [if_neg (by simpa using hx)] at h
    refine absurd h (digits_strip_ne_zero 400 ?_)
    cases hfound : (List.range 17).findSome? fun (n : Nat) => x.onGrid? (x.scale - (n + 1)) with
    | some d =>
      obtain ⟨n, -, hn⟩ := List.exists_of_findSome?_eq_some hfound
      exact digits_ne_zero_of_onGrid? hx hn
    | none =>
      rw [Option.getD_none, Binary.exact]
      have hfive : x.m * Nat.pow 5 (-x.q).toNat ≠ 0 :=
        Nat.mul_ne_zero hx (Nat.pow_pos (by decide)).ne'
      have htwo : x.m * Nat.pow 2 x.q.toNat ≠ 0 :=
        Nat.mul_ne_zero hx (Nat.pow_pos (by decide)).ne'
      split
      · exact htwo
      · exact hfive

end Decimal

namespace Json

/-! ### Layout -/

/-- A text without sign that is read as these parts wherever no number goes on. -/
def Splits (text whole : List Char) (fraction : Option (List Char))
    (exponent : Option (Bool × List Char)) : Prop :=
  ∀ r, EndsNumber r → ∃ u v, wholePart? (text ++ r) = some (whole, u) ∧
    fractionPart u = (fraction, v) ∧ exponentPart v = (exponent, r)

theorem fractionPart_of_digits {ds r : List Char} (hne : ds ≠ [])
    (hds : ∀ c ∈ ds, c.isDigit = true) (hr : EndsDigits r) :
    fractionPart ('.' :: (ds ++ r)) = (some ds, r) := by
  obtain ⟨htake, hdrop⟩ := takeWhile_digits hds hr
  rw [fractionPart, htake, hdrop, if_neg (by simpa using hne)]

theorem isDigit_of_mem_zeros {n : Nat} {c : Char} (h : c ∈ Decimal.zeros n) : c.isDigit = true := by
  rw [List.eq_of_mem_replicate h]
  rfl

/-- The digits of an exponent: at least two, with a zero before a single one. -/
theorem exponentText_eq (e : Int) : ∃ sign ds, Decimal.exponentText e = sign :: ds ∧
    (sign = '-' ∨ sign = '+') ∧ ds ≠ [] ∧ ∀ c ∈ ds, c.isDigit = true := by
  refine ⟨_, _, rfl, by split <;> simp, ?_, fun c hc => ?_⟩
  · simp [Nat.toDigits_ne_nil]
  · rcases List.mem_append.1 hc with hc | hc
    · exact isDigit_of_mem_zeros hc
    · exact isDigit_of_mem_toDigits hc

theorem exponentPart_exponentText (e : Int) : ∃ exponent : Bool × List Char, ∀ r, EndsNumber r →
    exponentPart ('e' :: (Decimal.exponentText e ++ r)) = (some exponent, r) := by
  obtain ⟨sign, ds, htext, hsign, hne, hds⟩ := exponentText_eq e
  have hparts : ∀ r, EndsNumber r → ∀ negative,
      exponentSign (sign :: (ds ++ r)) = (negative, ds ++ r) →
      exponentPart ('e' :: (Decimal.exponentText e ++ r)) = (some (negative, ds), r) := by
    intro r hr negative hn
    obtain ⟨htake, hdrop⟩ := takeWhile_digits hds hr.endsDigits
    rw [htext, List.cons_append, exponentPart_cons, if_pos (by decide), hn]
    simp only [htake, hdrop]
    rw [if_neg (by simpa using hne)]
  rcases hsign with rfl | rfl
  · exact ⟨(true, ds), fun r hr => hparts r hr true rfl⟩
  · exact ⟨(false, ds), fun r hr => hparts r hr false rfl⟩

section Places

variable {c : Char} {ds fs : List Char} (hds : ∀ d ∈ c :: ds, d.isDigit = true)
  (hzero : c = '0' → ds = []) (hne : fs ≠ []) (hfs : ∀ d ∈ fs, d.isDigit = true)
include hds

include hzero hne hfs in
theorem splits_fraction : Splits (c :: ds ++ '.' :: fs) (c :: ds) (some fs) none := by
  intro r hr
  refine ⟨'.' :: (fs ++ r), r, ?_, fractionPart_of_digits hne hfs hr.endsDigits,
    exponentPart_of_endsNumber hr⟩
  rw [List.append_assoc, List.cons_append]
  exact wholePart?_of_digits hds hzero (by simp [EndsDigits])

include hzero in
theorem splits_exponent (e : Int) :
    ∃ exponent, Splits (c :: ds ++ 'e' :: Decimal.exponentText e) (c :: ds) none
      (some exponent) := by
  obtain ⟨exponent, hexponent⟩ := exponentPart_exponentText e
  refine ⟨exponent, fun r hr => ⟨'e' :: (Decimal.exponentText e ++ r), _, ?_, rfl, hexponent r hr⟩⟩
  rw [List.append_assoc, List.cons_append]
  exact wholePart?_of_digits hds hzero (by simp [EndsDigits])

include hzero hne hfs in
theorem splits_fraction_exponent (e : Int) : ∃ exponent,
    Splits (c :: ds ++ '.' :: (fs ++ 'e' :: Decimal.exponentText e)) (c :: ds) (some fs)
      (some exponent) := by
  obtain ⟨exponent, hexponent⟩ := exponentPart_exponentText e
  refine ⟨exponent, fun r hr => ⟨'.' :: (fs ++ 'e' :: (Decimal.exponentText e ++ r)),
    'e' :: (Decimal.exponentText e ++ r), ?_, ?_, hexponent r hr⟩⟩
  · simp only [List.append_assoc, List.cons_append]
    exact wholePart?_of_digits hds hzero (by simp [EndsDigits])
  · exact fractionPart_of_digits hne hfs (by simp [EndsDigits])

include hzero in

/-- A magnitude is laid out with a fraction, an exponent or both. -/
theorem splits_place (point : Int) (hpoint : c = '0' → point = 1) :
    ∃ whole fraction exponent, Splits (numbers.place (c :: ds) point) whole fraction exponent ∧
      (fraction.isSome ∨ exponent.isSome) := by
  have hc : ∀ d ∈ [c], d.isDigit = true := by simpa using hds c List.mem_cons_self
  unfold Decimal.Layout.place
  split
  · split
    · -- a zero before the point, and zeros after it
      have hfs : ∀ d ∈ Decimal.zeros (-point).toNat ++ c :: ds, d.isDigit = true := fun d hd =>
        (List.mem_append.1 hd).elim isDigit_of_mem_zeros (hds d)
      exact ⟨['0'], some _, none, @splits_fraction '0' [] _ (by simp) (fun _ => rfl) (by simp) hfs,
        .inl rfl⟩
    · rename_i hpositive
      obtain ⟨k, hk⟩ : ∃ k, point.toNat = k + 1 := ⟨point.toNat - 1, by omega⟩
      rw [hk]
      split
      · -- the point among the digits
        rename_i hinside
        have htake : ∀ d ∈ c :: ds.take k, d.isDigit = true := fun d hd =>
          hds d (List.take_subset (k + 1) (c :: ds) hd)
        have hdrop : ∀ d ∈ ds.drop k, d.isDigit = true := fun d hd =>
          hds d (List.mem_cons_of_mem c (List.mem_of_mem_drop hd))
        have hlength : k < ds.length := by simpa using hinside
        refine ⟨_, _, _, splits_fraction htake (fun h => ?_) ?_ hdrop, .inl rfl⟩
        · rw [hzero h, List.take_nil]
        · exact List.ne_nil_of_length_pos (by rw [List.length_drop]; omega)
      · -- zeros between the digits and the point
        have hwhole : ∀ d ∈ c :: (ds ++ Decimal.zeros (k + 1 - (c :: ds).length)),
            d.isDigit = true := fun d hd => by
          rw [← List.cons_append] at hd
          exact (List.mem_append.1 hd).elim (hds d) isDigit_of_mem_zeros
        refine ⟨_, some ['0'], none, splits_fraction hwhole (fun h => ?_) (by simp) (by simp),
          .inl rfl⟩
        have := hpoint h
        obtain rfl : k = 0 := by omega
        rw [hzero h]
        rfl
  · cases ds with
    | nil =>
      obtain ⟨exponent, hsplits⟩ := splits_exponent hc (fun _ => rfl) (point - 1)
      exact ⟨[c], none, some exponent, hsplits, .inr rfl⟩
    | cons d ds =>
      have hfs : ∀ x ∈ d :: ds, x.isDigit = true := fun x hx => hds x (List.mem_cons_of_mem c hx)
      obtain ⟨exponent, hsplits⟩ :=
        splits_fraction_exponent hc (fun _ => rfl) (by simp) hfs (point - 1)
      exact ⟨[c], some (d :: ds), some exponent, hsplits, .inl rfl⟩

end Places

/-- The sign before a text is read as the sign of its number. -/
theorem Splits.numberParts? {text whole : List Char} {fraction : Option (List Char)}
    {exponent : Option (Bool × List Char)} (h : Splits text whole fraction exponent)
    (negative : Bool) {r : List Char} (hr : EndsNumber r) :
    Json.numberParts? ((if negative then '-' :: text else text) ++ r) =
      some ⟨negative, whole, fraction, exponent, r⟩ := by
  obtain ⟨u, v, hwhole, hfraction, hexponent⟩ := h r hr
  have hsign : numberSign ((if negative then '-' :: text else text) ++ r) =
      (negative, text ++ r) := by
    cases negative with
    | true => rfl
    | false =>
      refine numberSign.eq_2 _ fun t ht => ?_
      obtain ⟨c, w, hc, hdigit⟩ := wholePart?_head hwhole
      rw [if_neg (by simp), hc] at ht
      obtain rfl := (List.cons.inj ht).1
      exact absurd hdigit (by decide)
  rw [numberParts?_eq, hsign]
  simp only [hwhole, Option.map_some, hfraction, hexponent]

/-- A number with a fraction or an exponent is no integer. -/
theorem NumberParts.value_of_fraction_or_exponent {parts : NumberParts}
    (h : parts.fraction.isSome ∨ parts.exponent.isSome) :
    ∃ y, parts.value = .ok (.float y) := by
  rw [NumberParts.value]
  split
  · rename_i hfraction hexponent
    simp [hfraction, hexponent] at h
  · exact ⟨_, rfl⟩

/-- The text of a finite number is read as a number. -/
theorem spelledAs_float (p : NonFinitePolicy) (style : Style) {x : Float}
    (h : (!x.isNaN && !x.isInf) = true) : ∃ y, SpelledAs p style (.float x) (.float y) := by
  obtain ⟨negative, b, hb⟩ := Decimal.ofFloat_of_isFinite h
  obtain ⟨c, ds, hdigits, hzero⟩ := toDigits_head b.shortest.digits
  have hds : ∀ d ∈ c :: ds, d.isDigit = true := fun d hd => isDigit_of_mem_toDigits (hdigits ▸ hd)
  have hpoint : c = '0' → ((c :: ds).length : Int) + b.shortest.exponent = 1 := by
    intro hc
    obtain ⟨hdigit, rfl⟩ := hzero hc
    rw [Decimal.exponent_of_shortest hdigit]
    rfl
  obtain ⟨whole, fraction, exponent, hsplits, hsome⟩ :=
    splits_place hds (fun hc => (hzero hc).2) _ hpoint
  have htext : (numbers.write x).toList =
      if negative then '-' :: numbers.place (c :: ds) ((c :: ds).length + b.shortest.exponent)
      else numbers.place (c :: ds) ((c :: ds).length + b.shortest.exponent) := by
    rw [Decimal.Layout.write, hb]
    simp only [String.toList_ofList, hdigits]
  -- the rest of the text does not matter for the number
  obtain ⟨y, hy⟩ := @NumberParts.value_of_fraction_or_exponent
    ⟨negative, whole, fraction, exponent, []⟩ hsome
  refine ⟨y, fun level r hr => ?_⟩
  rw [write, htext]
  exact .number (hsplits.numberParts? negative hr) hy

/-! ### Integers that were read -/

theorem digitsValue_concat (cs : List Char) (c : Char) :
    digitsValue (cs ++ [c]) = 10 * digitsValue cs + (c.toNat - '0'.toNat) := by
  simp [digitsValue]

theorem digitsValue_lt {cs : List Char} (h : ∀ c ∈ cs, c.isDigit = true) :
    digitsValue cs < 10 ^ cs.length := by
  induction cs using List.reverseRecOn with
  | nil => exact Nat.one_pos
  | append_singleton cs c ih =>
    have hcs := ih fun d hd => h d (List.mem_append_left _ hd)
    have hc : c.toNat ≤ '9'.toNat := by
      have hdigit := h c (by simp)
      simp only [Char.isDigit, Bool.and_eq_true, decide_eq_true_eq] at hdigit
      exact hdigit.2
    have hdigit : c.toNat - '0'.toNat ≤ 9 := Nat.sub_le_sub_right hc _
    rw [digitsValue_concat, List.length_append, List.length_singleton, Nat.pow_succ]
    omega

theorem isDigit_of_wholePart? {s d t : List Char} (h : wholePart? s = some (d, t)) :
    ∀ c ∈ d, c.isDigit = true := by
  unfold wholePart? at h
  split at h
  · cases h
    simp
  · rename_i c u _
    split at h
    · rename_i hc
      cases h
      intro x hx
      rcases List.mem_cons.1 hx with rfl | hx
      · exact hc
      · exact List.mem_takeWhile_imp hx
    · cases h
  · cases h

theorem isDigit_of_numberParts? {s : List Char} {parts : NumberParts}
    (h : numberParts? s = some parts) : ∀ c ∈ parts.whole, c.isDigit = true := by
  rw [numberParts?_eq] at h
  obtain ⟨⟨d, t⟩, hwhole, rfl⟩ := Option.map_eq_some_iff.1 h
  exact isDigit_of_wholePart? hwhole

/-- An integer that was read has no more digits than the reader takes. -/
theorem isShort_of_value {s : List Char} {parts : NumberParts} {n : Int}
    (hparts : numberParts? s = some parts) (h : parts.value = .ok (.int n)) : IsShort n := by
  have hdigits := isDigit_of_numberParts? hparts
  rw [NumberParts.value] at h
  split at h
  · split at h
    · cases h
    · rename_i hlimit
      have hn : n.natAbs = digitsValue parts.whole := by
        have := Except.ok.inj h
        injection this with hn
        rw [← hn]
        split <;> simp
      refine (Nat.length_toDigits_le_iff (by decide) (by decide)).2 ?_
      calc n.natAbs = digitsValue parts.whole := hn
        _ < 10 ^ parts.whole.length := digitsValue_lt hdigits
        _ ≤ 10 ^ integerDigitLimit := Nat.pow_le_pow_right (by decide) (Nat.not_lt.1 hlimit)
  · cases h

/-! ### The numbers in a value -/

/-- The integers at all depths satisfy `I`, and the other numbers `F`. -/
inductive EveryNumber (I : Int → Prop) (F : Float → Prop) : Json → Prop
  | null : EveryNumber I F .null
  | bool (b : Bool) : EveryNumber I F (.bool b)
  | int {n : Int} (holds : I n) : EveryNumber I F (.int n)
  | float {x : Float} (holds : F x) : EveryNumber I F (.float x)
  | string (s : String) : EveryNumber I F (.string s)
  | array {vs : List Json} (items : ∀ v ∈ vs, EveryNumber I F v) : EveryNumber I F (.array vs)
  | object {ms : List (String × Json)} (members : ∀ m ∈ ms, EveryNumber I F m.2) :
      EveryNumber I F (.object ms)

/-- A number that is neither undefined nor infinite. -/
def IsFinite (x : Float) : Prop := (!x.isNaN && !x.isInf) = true

/-- The numbers that the reader of bodies takes. -/
abbrev HasShortIntegers : Json → Prop := EveryNumber IsShort fun _ => True

variable {I : Int → Prop} {F : Float → Prop}

theorem EveryNumber.mono {J : Int → Prop} {G : Float → Prop} (hI : ∀ n, I n → J n)
    (hF : ∀ x, F x → G x) {v : Json} (h : EveryNumber I F v) : EveryNumber J G v := by
  induction h with
  | null => exact .null
  | bool b => exact .bool b
  | int holds => exact .int (hI _ holds)
  | float holds => exact .float (hF _ holds)
  | string s => exact .string s
  | array _ ih => exact .array ih
  | object _ ih => exact .object ih

theorem EveryNumber.mapStrings (f : String → String) {v : Json} (h : EveryNumber I F v) :
    EveryNumber I F (mapStrings f v) := by
  induction h with
  | null => exact .null
  | bool b => exact .bool b
  | int holds => exact .int holds
  | float holds => exact .float holds
  | string s => rw [Json.mapStrings]; exact .string _
  | array _ ih =>
    rw [Json.mapStrings, mapItems_eq]
    refine .array fun w hw => ?_
    obtain ⟨v, hv, rfl⟩ := List.mem_map.1 hw
    exact ih v hv
  | object _ ih =>
    rw [Json.mapStrings]
    refine .object fun m hm => ?_
    obtain ⟨m', hm', hvalue⟩ := exists_of_mem_merge f hm
    rw [hvalue]
    exact ih m' hm'

/-! ### Numbers without a text -/

section Fault

variable {strict : Bool}

theorem itemFault?_eq_none_iff {vs : List Json} :
    itemFault? strict vs = none ↔ ∀ v ∈ vs, v.numberFault? strict = none := by
  induction vs with
  | nil => simp [itemFault?]
  | cons v vs ih => simp [itemFault?, Option.or_eq_none_iff, ih]

theorem memberFault?_eq_none_iff {ms : List (String × Json)} :
    memberFault? strict ms = none ↔ ∀ m ∈ ms, m.2.numberFault? strict = none := by
  induction ms with
  | nil => simp [memberFault?]
  | cons m ms ih => simp [memberFault?, Option.or_eq_none_iff, ih]

theorem exists_of_itemFault? {fault : NumberFault} {vs : List Json}
    (h : itemFault? strict vs = some fault) : ∃ v ∈ vs, v.numberFault? strict = some fault := by
  induction vs with
  | nil => cases h
  | cons v vs ih =>
    rw [itemFault?, Option.or_eq_some_iff] at h
    rcases h with h | ⟨-, h⟩
    · exact ⟨v, List.mem_cons_self, h⟩
    · obtain ⟨w, hw, hfault⟩ := ih h
      exact ⟨w, List.mem_cons_of_mem _ hw, hfault⟩

theorem exists_of_memberFault? {fault : NumberFault} {ms : List (String × Json)}
    (h : memberFault? strict ms = some fault) :
    ∃ m ∈ ms, m.2.numberFault? strict = some fault := by
  induction ms with
  | nil => cases h
  | cons m ms ih =>
    rw [memberFault?, Option.or_eq_some_iff] at h
    rcases h with h | ⟨-, h⟩
    · exact ⟨m, List.mem_cons_self, h⟩
    · obtain ⟨n, hn, hfault⟩ := ih h
      exact ⟨n, List.mem_cons_of_mem _ hn, hfault⟩

theorem numberFault?_int_eq_none_iff {n : Int} :
    (Json.int n).numberFault? strict = none ↔ IsShort n := by
  rw [numberFault?, ite_eq_right_iff, IsShort, ← Nat.not_lt]
  simp

theorem numberFault?_float_eq_none_iff {x : Float} :
    (Json.float x).numberFault? strict = none ↔ (strict = true → IsFinite x) := by
  rw [numberFault?, IsFinite]
  cases strict <;> cases x.isNaN <;> cases x.isInf <;> simp

theorem EveryNumber.numberFault? {v : Json}
    (h : EveryNumber IsShort (fun x => strict = true → IsFinite x) v) :
    v.numberFault? strict = none := by
  induction h with
  | null | bool | string => rw [Json.numberFault?] <;> simp
  | int holds => exact numberFault?_int_eq_none_iff.2 holds
  | float holds => exact numberFault?_float_eq_none_iff.2 holds
  | array _ ih => rwa [Json.numberFault?, itemFault?_eq_none_iff]
  | object _ ih => rwa [Json.numberFault?, memberFault?_eq_none_iff]

/-- Nothing else can be wrong with the numbers of a value with short integers. -/
theorem EveryNumber.numberFault?_ne_longInteger {v : Json} (h : EveryNumber IsShort F v) :
    v.numberFault? strict ≠ some .longInteger := by
  induction h with
  | null | bool | string => rw [Json.numberFault?] <;> simp
  | int holds =>
    rw [numberFault?_int_eq_none_iff.2 holds]
    simp
  | float =>
    rw [Json.numberFault?]
    split <;> simp
  | array _ ih =>
    rw [Json.numberFault?]
    intro hfault
    obtain ⟨v, hv, hfault⟩ := exists_of_itemFault? hfault
    exact ih v hv hfault
  | object _ ih =>
    rw [Json.numberFault?]
    intro hfault
    obtain ⟨m, hm, hfault⟩ := exists_of_memberFault? hfault
    exact ih m hm hfault

mutual

theorem everyNumber_of_numberFault? : (v : Json) → v.numberFault? strict = none →
    EveryNumber IsShort (fun x => strict = true → IsFinite x) v
  | .null, _ => .null
  | .bool b, _ => .bool b
  | .int _, h => .int (numberFault?_int_eq_none_iff.1 h)
  | .float _, h => .float (numberFault?_float_eq_none_iff.1 h)
  | .string s, _ => .string s
  | .array vs, h => .array (everyItem_of_itemFault? vs (by rwa [Json.numberFault?] at h))
  | .object ms, h => .object (everyMember_of_memberFault? ms (by rwa [Json.numberFault?] at h))

theorem everyItem_of_itemFault? : (vs : List Json) → itemFault? strict vs = none →
    ∀ v ∈ vs, EveryNumber IsShort (fun x => strict = true → IsFinite x) v
  | [], _ => by simp
  | v :: vs, h => by
    rw [itemFault?, Option.or_eq_none_iff] at h
    exact List.forall_mem_cons.2
      ⟨everyNumber_of_numberFault? v h.1, everyItem_of_itemFault? vs h.2⟩

theorem everyMember_of_memberFault? : (ms : List (String × Json)) →
    memberFault? strict ms = none →
    ∀ m ∈ ms, EveryNumber IsShort (fun x => strict = true → IsFinite x) m.2
  | [], _ => by simp
  | (_, v) :: ms, h => by
    rw [memberFault?, Option.or_eq_none_iff] at h
    exact List.forall_mem_cons.2
      ⟨everyNumber_of_numberFault? v h.1, everyMember_of_memberFault? ms h.2⟩

end

/-- All numbers of a value have a text exactly if its integers are short and, where it matters, the
others are finite. -/
theorem numberFault?_eq_none_iff {v : Json} :
    v.numberFault? strict = none ↔
      v.EveryNumber IsShort fun x => strict = true → IsFinite x :=
  ⟨everyNumber_of_numberFault? v, EveryNumber.numberFault?⟩

end Fault

/-- What holds of the values that a part of a text spells. -/
def Part.Every (P : Json → Prop) : Part → Prop
  | .value v => P v
  | .items vs => ∀ v ∈ vs, P v
  | .members ms => ∀ m ∈ ms, P m.2

/-- A name is read as a number only where the literals of non-finite numbers are accepted. -/
theorem value_of_name {p : NonFinitePolicy} {text : List Char} {name : Name} {v : Json}
    (known : (text, name) ∈ names) (admitted : name.read? p = some v) :
    v = .null ∨ (∃ b, v = .bool b) ∨ ∃ which : NonFinite, p = .accept ∧ v = .float which.value := by
  have hplain : ∀ w, name = .plain w → w = .null ∨ ∃ b, w = .bool b := by
    rintro w rfl
    simp only [names_eq, List.mem_cons, List.not_mem_nil, or_false, Prod.mk.injEq, Name.plain.injEq,
      reduceCtorEq, and_false] at known
    rcases known with ⟨-, rfl⟩ | ⟨-, rfl⟩ | ⟨-, rfl⟩
    · exact .inl rfl
    · exact .inr ⟨true, rfl⟩
    · exact .inr ⟨false, rfl⟩
  cases name with
  | plain w =>
    obtain rfl := Option.some.inj admitted
    exact (hplain w rfl).imp_right .inl
  | nonFinite which =>
    cases p with
    | accept => exact .inr (.inr ⟨which, rfl, (Option.some.inj admitted).symm⟩)
    | refuse => cases admitted

theorem everyNumber_of_name {p : NonFinitePolicy} {text : List Char} {name : Name} {v : Json}
    (known : (text, name) ∈ names) (admitted : name.read? p = some v)
    (accepted : p = .accept → ∀ which : NonFinite, F which.value) : EveryNumber I F v := by
  rcases value_of_name known admitted with rfl | ⟨b, rfl⟩ | ⟨which, hp, rfl⟩
  · exact .null
  · exact .bool b
  · exact .float (accepted hp which)

/-- A literal is read as an integer or as another number. -/
theorem NumberParts.value_cases {parts : NumberParts} {v : Json} (value : parts.value = .ok v) :
    (∃ n, v = .int n) ∨ ∃ x, v = .float x := by
  rw [NumberParts.value] at value
  split at value
  · split at value
    · cases value
    · exact .inl ⟨_, (Except.ok.inj value).symm⟩
  · exact .inr ⟨_, (Except.ok.inj value).symm⟩

theorem hasShortIntegers_of_number {s : List Char} {parts : NumberParts} {v : Json}
    (spelled : numberParts? s = some parts) (value : parts.value = .ok v) :
    HasShortIntegers v := by
  rcases parts.value_cases value with ⟨n, rfl⟩ | ⟨x, rfl⟩
  · exact .int (isShort_of_value spelled value)
  · exact .float trivial

/-- The reader gives no integer that it would not take itself. -/
theorem Reads.hasShortIntegers {p : NonFinitePolicy} {part : Part} {s r : List Char}
    (h : Reads p part s r) : part.Every HasShortIntegers := by
  induction h with
  | string => exact .string _
  | emptyArray => exact .array (by simp)
  | array _ ih => exact .array ih
  | emptyObject => exact .object (by simp)
  | object _ ih =>
    refine .object fun m hm => ih m ?_
    rw [Entries.collapse_eq_merge] at hm
    exact Entries.mem_of_mem_merge hm
  | name known admitted => exact everyNumber_of_name known admitted fun _ _ => trivial
  | number spelled value => exact hasShortIntegers_of_number spelled value
  | lastItem _ _ ih => simpa [Part.Every] using ih
  | item _ _ _ ih ihs => exact List.forall_mem_cons.2 ⟨ih, ihs⟩
  | lastMember _ _ _ _ ih => simpa [Part.Every] using ih
  | member _ _ _ _ _ ih ihs => exact List.forall_mem_cons.2 ⟨ih, ihs⟩

/-- A value of finite numbers and short integers spells some value. -/
theorem exists_spelledAs {p : NonFinitePolicy} {style : Style} (hstyle : style.IsReadable)
    {v : Json} (h : EveryNumber IsShort IsFinite v) : ∃ w, SpelledAs p style v w := by
  have : Nonempty Json := ⟨.null⟩
  induction h with
  | null => exact ⟨_, spelled_null p style⟩
  | bool b => exact ⟨_, spelled_bool p style b⟩
  | int holds => exact ⟨_, spelled_int p style holds⟩
  | float holds =>
    obtain ⟨y, hy⟩ := spelledAs_float p style holds
    exact ⟨_, hy⟩
  | string s => exact ⟨_, spelled_string p style s⟩
  | array _ ih =>
    choose! f hf using ih
    exact ⟨_, spelledAs_array hstyle (List.forall₂_map_right_iff.2 (List.forall₂_same.2 hf))⟩
  | @object ms _ ih =>
    choose! f hf using ih
    have hmembers : List.Forall₂ (fun m n => m.1 = n.1 ∧ SpelledAs p style m.2 n.2) ms
        (ms.map fun m => (m.1, f m)) :=
      List.forall₂_map_right_iff.2 (List.forall₂_same.2 fun m hm => ⟨rfl, hf m hm⟩)
    exact ⟨_, spelledAs_object hstyle hmembers⟩

/-- The text of a value of finite numbers and short integers is a JSON text. -/
theorem exists_read_write (p : NonFinitePolicy) {style : Style} (hstyle : style.IsReadable)
    {v : Json} (h : EveryNumber IsShort IsFinite v) : ∃ w, read p (write style 0 v) = .ok w := by
  obtain ⟨w, hw⟩ := exists_spelledAs (p := p) hstyle h
  have hread := hw 0 [] endsNumber_nil
  rw [List.append_nil] at hread
  exact ⟨w, read_eq_ok_iff.2 ⟨[], by rw [hread.skipSpace_eq]; exact hread, rfl⟩⟩

theorem spaced_isReadable : spaced.IsReadable :=
  ⟨⟨[' '], rfl, by simp [isSpace]⟩, ⟨[' '], rfl, by simp [isSpace]⟩⟩

end Json

/-- A body that was read has no text only where one of its numbers is not finite. -/
theorem bodyProblem?_cases {body : Json} (h : body.HasShortIntegers) :
    bodyProblem? body = none ∧ body.EveryNumber Json.IsShort Json.IsFinite ∨
      bodyProblem? body = some .outOfRange ∧ ¬ body.EveryNumber Json.IsShort Json.IsFinite := by
  cases hfault : body.numberFault? true with
  | none =>
    have hfinite := (Json.numberFault?_eq_none_iff.1 hfault).mono (fun _ => id) fun _ hx => hx rfl
    obtain ⟨w, hw⟩ := Json.exists_read_write .accept Json.spaced_isReadable hfinite
    refine .inl ⟨?_, hfinite⟩
    simp only [bodyProblem?, hfault, hw]
  | some fault =>
    cases fault with
    | longInteger => exact absurd hfault h.numberFault?_ne_longInteger
    | outOfRange =>
      refine .inr ⟨by simp only [bodyProblem?, hfault], fun hfinite => ?_⟩
      rw [(hfinite.mono (fun _ => id) fun _ hx _ => hx).numberFault?] at hfault
      cases hfault

end HttpScript
