import HttpScript.Proofs.Script.Keywords

/-!
# Lower case and the case of ASCII letters

The lower case of a text does not depend on the case of its ASCII letters, not even through the
capital sigma, which looks at the letters around it: ASCII letters are cased in both cases.
-/
namespace HttpScript.Text

theorem toNat_of_isLower {c : Char} (h : c.isLower = true) : 0x61 ≤ c.toNat ∧ c.toNat < 0x7B := by
  simp only [Char.isLower, Bool.and_eq_true, decide_eq_true_eq, ge_iff_le,
    UInt32.le_iff_toNat_le] at h
  exact ⟨h.1, Nat.lt_succ_of_le h.2⟩

/-- What is the same for every small ASCII letter and its capital does not change in upper case. -/
theorem congr_toUpper {α : Type} (f : Char → α)
    (h : ∀ n < 0x7B, 0x61 ≤ n → f (Char.ofNat n).toUpper = f (Char.ofNat n)) (c : Char) :
    f c.toUpper = f c := by
  by_cases hc : c.isLower = true
  · obtain ⟨hlow, hhigh⟩ := toNat_of_isLower hc
    have hletter := h c.toNat hhigh hlow
    rwa [Char.ofNat_toNat] at hletter
  · rw [toUpper_of_not_isLower hc]

@[simp] theorem isCased_toUpper (c : Char) : isCased c.toUpper = isCased c :=
  congr_toUpper isCased (by decide +kernel) c

theorem isCaseIgnorable_of_isAlpha {c : Char} (h : c.isAlpha = true) :
    isCaseIgnorable c = false := by
  have hranges : ∀ r ∈ caseIgnorableRanges,
      r.2 < 0x41 ∨ (0x5A < r.1 ∧ r.2 < 0x61) ∨ 0x7A < r.1 := by decide +kernel
  have hletter : (0x41 ≤ c.toNat ∧ c.toNat ≤ 0x5A) ∨ (0x61 ≤ c.toNat ∧ c.toNat ≤ 0x7A) := by
    simpa [Char.isAlpha, Char.isUpper, Char.isLower, UInt32.le_iff_toNat_le] using h
  rw [isCaseIgnorable, inRanges, List.any_eq_false]
  intro r hr
  have hapart := hranges r hr
  simp only [Bool.and_eq_true, decide_eq_true_eq]
  omega

@[simp] theorem isCaseIgnorable_toUpper (c : Char) :
    isCaseIgnorable c.toUpper = isCaseIgnorable c := by
  by_cases hc : c.isLower = true
  · have hsame := congr_toUpper Char.isAlpha (by decide +kernel) c
    have halpha : c.isAlpha = true := by simp [Char.isAlpha, hc]
    rw [isCaseIgnorable_of_isAlpha halpha, isCaseIgnorable_of_isAlpha (hsame.trans halpha)]
  · rw [toUpper_of_not_isLower hc]

@[simp] theorem lowerChar_toUpper (c : Char) : lowerChar c.toUpper = lowerChar c :=
  congr_toUpper lowerChar (by decide +kernel) c

@[simp] theorem isSigma_toUpper (c : Char) : (c.toUpper.toNat == 0x3A3) = (c.toNat == 0x3A3) :=
  congr_toUpper (fun c => c.toNat == 0x3A3) (by decide +kernel) c

theorem startsCased_cons (c : Char) (s : List Char) :
    startsCased (c :: s) = if isCaseIgnorable c then startsCased s else isCased c := by
  by_cases hc : isCaseIgnorable c = true
  · rw [startsCased, List.dropWhile_cons_of_pos hc, if_pos hc, startsCased]
  · rw [startsCased, List.dropWhile_cons_of_neg hc, if_neg hc]

@[simp] theorem startsCased_map_toUpper (s : List Char) :
    startsCased (s.map Char.toUpper) = startsCased s := by
  induction s with
  | nil => rfl
  | cons c s ih =>
    simp only [List.map_cons, startsCased_cons, isCaseIgnorable_toUpper, isCased_toUpper, ih]

theorem lowerAfter_map_toUpper (seen s : List Char) :
    lowerAfter (seen.map Char.toUpper) (s.map Char.toUpper) = lowerAfter seen s := by
  induction s generalizing seen with
  | nil => rfl
  | cons c s ih =>
    have hrest := ih (c :: seen)
    rw [List.map_cons] at hrest
    simp only [List.map_cons, lowerAfter, hrest, isSigma_toUpper, startsCased_map_toUpper,
      lowerChar_toUpper]

theorem lower_map_toUpper (s : List Char) : lower (s.map Char.toUpper) = lower s :=
  lowerAfter_map_toUpper [] s

/-- Texts that differ in the case of ASCII letters only have the same lower case. -/
theorem lower_congr {s t : List Char} (h : s.map Char.toUpper = t.map Char.toUpper) :
    lower s = lower t := by
  rw [← lower_map_toUpper s, h, lower_map_toUpper]

end HttpScript.Text
