import HttpScript.Proofs.Text.Case

/-!
# Searching a text in lower case

A part of a text is found at or before the place where it stands. In lower case this holds for a
part with blanks or nothing on both sides: no blank is cased or skipped between cased letters, so a
capital sigma in the part has the same small form with and without the rest of the text.
-/
namespace HttpScript.Text

/-! ### The first occurrence -/

/-- A part that stands in a text is found, and no later than there. -/
theorem exists_find?_le (part after : List Char) (before : List Char) :
    ∃ k ≤ before.length, find? part (before ++ (part ++ after)) = some k := by
  induction before with
  | nil =>
    refine ⟨0, le_rfl, ?_⟩
    have hprefix : part.isPrefixOf (part ++ after) = true :=
      List.isPrefixOf_iff_prefix.2 (List.prefix_append _ _)
    rw [List.nil_append]
    cases h : part ++ after with
    | nil =>
      obtain ⟨rfl, -⟩ := List.append_eq_nil_iff.1 h
      rfl
    | cons c s =>
      rw [h] at hprefix
      rw [find?, if_pos hprefix]
  | cons c before ih =>
    obtain ⟨k, hk, hfind⟩ := ih
    rw [List.cons_append, find?, hfind]
    split
    · exact ⟨0, Nat.zero_le _, rfl⟩
    · exact ⟨k + 1, Nat.succ_le_succ hk, rfl⟩

/-- What is found is the first occurrence. -/
theorem find?_eq_some_iff {part s : List Char} {k : Nat} :
    find? part s = some k ↔ part <+: s.drop k ∧ ∀ j < k, ¬ part <+: s.drop j := by
  induction s generalizing k with
  | nil =>
    simp only [find?, List.drop_nil, List.prefix_nil, List.isEmpty_iff]
    by_cases h : part = []
    · cases k with
      | zero => simp [h]
      | succ k => simpa [h] using ⟨0, Nat.zero_le k⟩
    · simp [h]
  | cons c s ih =>
    rw [find?]
    by_cases h : part <+: c :: s
    · rw [if_pos (List.isPrefixOf_iff_prefix.2 h)]
      constructor
      · rintro ⟨⟩
        exact ⟨h, fun j hj => absurd hj (Nat.not_lt_zero j)⟩
      · rintro ⟨-, hfirst⟩
        cases k with
        | zero => rfl
        | succ k => exact absurd h (hfirst 0 (Nat.succ_pos k))
    · rw [if_neg (mt List.isPrefixOf_iff_prefix.1 h)]
      cases k with
      | zero => simp [h]
      | succ k =>
        rw [Option.map_eq_some_iff]
        simp only [Nat.add_right_cancel_iff, exists_eq_right, ih, List.drop_succ_cons,
          Nat.forall_lt_succ_left', List.drop_zero, h, not_false_eq_true, true_and]

theorem prefix_drop_of_find? {part s : List Char} {k : Nat} (h : find? part s = some k) :
    part <+: s.drop k := (find?_eq_some_iff.1 h).1

/-- What is found ends within the text. -/
theorem add_length_le_of_find? {part s : List Char} {k : Nat} (hne : part ≠ [])
    (h : find? part s = some k) : k + part.length ≤ s.length := by
  have hlength := (prefix_drop_of_find? h).length_le
  have hpos := List.length_pos_iff.2 hne
  rw [List.length_drop] at hlength
  omega

/-! ### Lower case between blanks -/

/-- The character is neither a cased letter nor skipped between cased letters. -/
structure Separates (c : Char) : Prop where
  uncased : isCased c = false
  solid : isCaseIgnorable c = false

theorem Separates.ne_sigma {c : Char} (h : Separates c) : (c.toNat == 0x3A3) = false := by
  rw [beq_eq_false_iff_ne]
  intro hc
  have hsigma : isCased c = true := by
    rw [isCased, hc]
    decide +kernel
  rw [h.uncased] at hsigma
  cases hsigma

theorem startsCased_append {c : Char} (h : Separates c) (u v : List Char) :
    startsCased (u ++ c :: v) = startsCased u := by
  induction u with
  | nil =>
    rw [List.nil_append, startsCased_cons, h.solid, if_neg Bool.false_ne_true, h.uncased]
    rfl
  | cons d u ih => rw [List.cons_append, startsCased_cons, startsCased_cons, ih]

/-- What stands before a separator does not matter behind it. -/
theorem lowerAfter_of_separates {c : Char} (h : Separates c) (u v s : List Char) :
    lowerAfter (u ++ c :: v) s = lowerAfter u s := by
  induction s generalizing u with
  | nil => rfl
  | cons d s ih =>
    have hrest := ih (d :: u)
    rw [List.cons_append] at hrest
    simp only [lowerAfter, hrest, startsCased_append h]

/-- What stands behind a separator does not matter before it. -/
theorem lowerAfter_append_cons {c : Char} (h : Separates c) (seen s t : List Char) :
    lowerAfter seen (s ++ c :: t) = lowerAfter seen s ++ (lowerChar c ++ lower t) := by
  induction s generalizing seen with
  | nil =>
    have hrest := lowerAfter_of_separates h [] seen t
    rw [List.nil_append] at hrest
    simp only [List.nil_append, lowerAfter, h.ne_sigma, hrest]
    rfl
  | cons d s ih =>
    simp only [List.cons_append, lowerAfter, ih, startsCased_append h, List.append_assoc]

theorem lower_cons {c : Char} (h : Separates c) (t : List Char) :
    lower (c :: t) = lowerChar c ++ lower t := lowerAfter_append_cons h [] [] t

/-- Lower case before and behind a separator. -/
theorem lower_append_of_head {s t : List Char} (h : ∀ c ∈ t.head?, Separates c) :
    lower (s ++ t) = lower s ++ lower t := by
  cases t with
  | nil => rw [List.append_nil, lower, lower, lowerAfter, List.append_nil]
  | cons c t =>
    rw [lower_cons (h c rfl)]
    exact lowerAfter_append_cons (h c rfl) [] s t

theorem lower_append_of_last {s t : List Char} (h : ∀ c ∈ s.getLast?, Separates c) :
    lower (s ++ t) = lower s ++ lower t := by
  induction s using List.reverseRecOn with
  | nil => rfl
  | append_singleton s c =>
    have hc : Separates c := h c (by simp)
    rw [List.append_assoc, List.singleton_append, lower_append_of_head (by simpa using hc),
      lower_cons hc, lower_append_of_head (t := [c]) (by simpa using hc), lower_cons hc,
      List.append_assoc, List.append_assoc]
    rfl

/-- Only the capital I with a dot becomes longer in lower case. -/
theorem length_lower {s : List Char} (h : ∀ c ∈ s, c.toNat ≠ 0x130) :
    (lower s).length = s.length := by
  have key : ∀ seen, (lowerAfter seen s).length = s.length := by
    induction s with
    | nil => exact fun _ => rfl
    | cons c s ih =>
      intro seen
      have hrest := ih (fun d hd => h d (List.mem_cons_of_mem c hd)) (c :: seen)
      have hc : (c.toNat == 0x130) = false := by simpa using h c List.mem_cons_self
      rw [lowerAfter, List.length_append, hrest, List.length_cons, Nat.add_comm]
      congr 1
      split
      · rfl
      · rw [lowerChar, hc]
        split <;> rfl
  exact key []

theorem lower_ne_nil {s : List Char} (h : s ≠ []) : lower s ≠ [] := by
  obtain ⟨c, s, rfl⟩ := List.exists_cons_of_ne_nil h
  have hc : lowerChar c ≠ [] := by
    unfold lowerChar
    split_ifs <;> simp
  rw [lower, lowerAfter]
  split <;> simp [hc]

/-! ### Blanks -/

/-- The ranges of the characters that count as blanks. -/
def blankRanges : List (Nat × Nat) :=
  [(0x09, 0x0D), (0x1C, 0x20), (0x85, 0x85), (0xA0, 0xA0), (0x1680, 0x1680), (0x2000, 0x200A),
    (0x2028, 0x2029), (0x202F, 0x202F), (0x205F, 0x205F), (0x3000, 0x3000)]

theorem exists_blankRange {c : Char} (h : isBlank c = true) :
    ∃ r ∈ blankRanges, r.1 ≤ c.toNat ∧ c.toNat ≤ r.2 := by
  simp only [isBlank, Bool.or_eq_true, Bool.and_eq_true, decide_eq_true_eq, beq_iff_eq] at h
  simp only [blankRanges, List.mem_cons, List.not_mem_nil, or_false, exists_eq_or_imp,
    exists_eq_left]
  omega

theorem inRanges_of_isBlank {ranges : List (Nat × Nat)}
    (hapart : ∀ r ∈ ranges, ∀ b ∈ blankRanges, r.2 < b.1 ∨ b.2 < r.1) {c : Char}
    (h : isBlank c = true) : inRanges ranges c.toNat = false := by
  obtain ⟨b, hb, hlow, hhigh⟩ := exists_blankRange h
  rw [inRanges, List.any_eq_false]
  intro r hr
  have := hapart r hr b hb
  simp only [Bool.and_eq_true, decide_eq_true_eq]
  omega

theorem separates_of_isBlank {c : Char} (h : isBlank c = true) : Separates c :=
  ⟨inRanges_of_isBlank (by decide +kernel) h, inRanges_of_isBlank (by decide +kernel) h⟩

theorem toNat_ne_of_isBlank {c : Char} (h : isBlank c = true) : c.toNat ≠ 0x130 := by
  obtain ⟨b, hb, hlow, hhigh⟩ := exists_blankRange h
  have hall : ∀ b ∈ blankRanges, 0x130 < b.1 ∨ b.2 < 0x130 := by decide
  have := hall b hb
  omega

theorem find?_lowerRuns_of_isBlank {c : Char} (h : isBlank c = true) :
    lowerRuns.find? (·.contains c.toNat) = none := by
  obtain ⟨b, hb, hlow, hhigh⟩ := exists_blankRange h
  have hapart : ∀ r ∈ lowerRuns, ∀ b ∈ blankRanges, r.last < b.1 ∨ b.2 < r.first := by
    decide +kernel
  rw [List.find?_eq_none]
  intro r hr
  have := hapart r hr b hb
  simp only [CaseRun.contains, Bool.and_eq_true, decide_eq_true_eq]
  omega

/-- A blank has no other lower case. -/
theorem lowerChar_of_isBlank {c : Char} (h : isBlank c = true) : lowerChar c = [c] := by
  have hascii : ∀ n < 0x80, isBlank (Char.ofNat n) = true →
      (Char.ofNat n).toLower = Char.ofNat n := by decide +kernel
  unfold lowerChar
  split
  · rename_i hc
    have := hascii c.toNat hc
    rw [Char.ofNat_toNat] at this
    rw [this h]
  · rw [if_neg (by simpa using toNat_ne_of_isBlank h), applyRuns, find?_lowerRuns_of_isBlank h]

/-- No other character has a blank as its lower case. -/
theorem isBlank_applyRuns {c : Char} (h : isBlank c = false) :
    isBlank (applyRuns lowerRuns c) = false := by
  unfold applyRuns
  split
  · rename_i r hr
    have hrun := List.mem_of_find?_eq_some hr
    have hc := List.find?_some hr
    simp only [CaseRun.contains, Bool.and_eq_true, decide_eq_true_eq] at hc
    have hapart : ∀ r ∈ lowerRuns, ∀ b ∈ blankRanges,
        r.last + r.delta < b.1 ∨ b.2 < r.first + r.delta := by decide +kernel
    have hpos : ∀ b ∈ blankRanges, 0 < b.1 := by decide
    rw [← Bool.not_eq_true]
    intro hblank
    obtain ⟨b, hb, hlow, hhigh⟩ := exists_blankRange hblank
    have := hapart r hrun b hb
    have := hpos b hb
    rw [Char.toNat_ofNat] at hlow hhigh
    split at hlow
    · rename_i hvalid
      rw [if_pos hvalid] at hhigh
      omega
    · omega
  · exact h

theorem isBlank_head_lowerChar {c d : Char} {s : List Char} (h : isBlank c = false)
    (hd : d ∈ (lowerChar c ++ s).head?) : isBlank d = false := by
  have hascii : ∀ n < 0x80, isBlank (Char.ofNat n) = false →
      isBlank (Char.ofNat n).toLower = false := by decide +kernel
  unfold lowerChar at hd
  split at hd
  · rename_i hc
    have := hascii c.toNat hc
    rw [Char.ofNat_toNat] at this
    obtain rfl := Option.some.inj hd
    exact this h
  · split at hd
    · obtain rfl := Option.some.inj hd
      decide
    · obtain rfl := Option.some.inj hd
      exact isBlank_applyRuns h

/-- A text that does not begin with a blank does not in lower case either. -/
theorem isBlank_head_lower {s : List Char} (h : ∀ c ∈ s.head?, isBlank c = false) :
    ∀ d ∈ (lower s).head?, isBlank d = false := by
  intro d hd
  cases s with
  | nil => simp [lower, lowerAfter] at hd
  | cons c s =>
    rw [lower, lowerAfter] at hd
    split at hd
    · obtain rfl := Option.some.inj hd
      split <;> decide
    · exact isBlank_head_lowerChar (h c rfl) hd

/-- Blanks stay as they are in lower case. -/
theorem lower_append_of_blanks {s : List Char} (h : ∀ c ∈ s, isBlank c = true) (t : List Char) :
    lower (s ++ t) = s ++ lower t := by
  induction s with
  | nil => rfl
  | cons c s ih =>
    have hc := h c List.mem_cons_self
    rw [List.cons_append, lower_cons (separates_of_isBlank hc), lowerChar_of_isBlank hc,
      ih fun d hd => h d (List.mem_cons_of_mem c hd)]
    rfl

/-- A part of a text with blanks or nothing on both sides is found in lower case, and no later than
where it stands. -/
theorem exists_find?_lower {before part after : List Char}
    (hbefore : ∀ c ∈ before.getLast?, isBlank c = true)
    (hafter : ∀ c ∈ after.head?, isBlank c = true) :
    ∃ k ≤ (lower before).length,
      find? (lower part) (lower (before ++ (part ++ after))) = some k := by
  rw [lower_append_of_last fun c hc => separates_of_isBlank (hbefore c hc),
    lower_append_of_head fun c hc => separates_of_isBlank (hafter c hc)]
  exact exists_find?_le _ _ _

end HttpScript.Text
