import HttpScript.Script.Line
import Mathlib

/-!
# Which words are keywords

A word is a keyword exactly when it is one of the ten spellings up to the case of ASCII letters. The
first token of such a word is the word itself, and no other word passes both the tokeniser and the
upper-case comparison.
-/
namespace HttpScript

/-- A word that spells a keyword in some case of its letters. -/
def Keyword.Spells (k : Keyword) (word : List Char) : Prop :=
  word.map Char.toUpper = k.spelling.toList

instance {k : Keyword} {word : List Char} : Decidable (k.Spells word) :=
  inferInstanceAs (Decidable (word.map Char.toUpper = k.spelling.toList))

theorem toNat_lt_of_isWordChar {c : Char} (h : isWordChar c = true) : c.toNat < 0x80 := by
  rw [isWordChar, Bool.or_eq_true] at h
  rcases h with h | h
  · simp only [Char.isAlphanum, Char.isAlpha, Char.isUpper, Char.isLower, Char.isDigit,
      Bool.or_eq_true, Bool.and_eq_true, decide_eq_true_eq, ge_iff_le, UInt32.le_iff_toNat_le,
      Char.toNat_val] at h
    simp at h
    omega
  · have hmarks : ∀ d ∈ ";/?:@&=+$,#-_.!~*'()[]\"".toList, d.toNat < 0x80 := by simp
    exact hmarks c (by simpa using h)

/-- Only the lower-case letters have another upper case. -/
theorem toUpper_of_not_isLower {c : Char} (h : ¬c.isLower = true) : c.toUpper = c := by
  rw [Char.toUpper, dif_neg]
  simpa [Char.isLower] using h

theorem not_isLower_of_isDigit {c : Char} (h : c.isDigit = true) : ¬c.isLower = true := by
  simp only [Char.isDigit, Char.isLower, Bool.and_eq_true, decide_eq_true_eq, ge_iff_le,
    UInt32.le_iff_toNat_le] at h ⊢
  rintro ⟨hl, -⟩
  exact absurd (hl.trans h.2) (by decide)

/-- What holds for the characters of ASCII holds for those of words. -/
theorem of_isWordChar (p : Char → Prop) (hall : ∀ n < 0x80, p (Char.ofNat n)) {c : Char}
    (hc : isWordChar c = true) : p c := by
  have hascii := hall c.toNat (toNat_lt_of_isWordChar hc)
  rwa [Char.ofNat_toNat] at hascii

theorem isBlank_of_isWordChar {c : Char} (h : isWordChar c = true) : Text.isBlank c = false := by
  have hsolid := of_isWordChar (fun d => isWordChar d = true → Text.isBlank d = false)
    (by decide +kernel) h
  exact hsolid h

theorem isSeparator_of_isWordChar {c : Char} (h : isWordChar c = true) : isSeparator c = false := by
  have hsolid := of_isWordChar (fun d => isWordChar d = true → isSeparator d = false)
    (by decide +kernel) h
  exact hsolid h

theorem upper_of_isWordChar {word : List Char} (h : ∀ c ∈ word, isWordChar c = true) :
    Text.upper word = word.map Char.toUpper := by
  induction word with
  | nil => rfl
  | cons c s ih =>
    have hc := toNat_lt_of_isWordChar (h c List.mem_cons_self)
    have hs := ih fun d hd => h d (List.mem_cons_of_mem c hd)
    rw [Text.upper, List.flatMap_cons, Text.upperChar, if_pos hc]
    rw [Text.upper] at hs
    rw [hs]
    rfl

namespace Keyword

theorem mem_all (k : Keyword) : k ∈ all := by
  cases k with
  | method m => cases m <;> decide
  | _ => decide

theorem spelling_injective {j k : Keyword} (h : j.spelling = k.spelling) : j = k := by
  have : ∀ j ∈ all, ∀ k ∈ all, j.spelling = k.spelling → j = k := by decide
  exact this j (mem_all j) k (mem_all k) h

theorem ofWord?_eq_some_iff {word : List Char} {k : Keyword} :
    ofWord? word = some k ↔ Text.upper word = k.spelling.toList := by
  constructor
  · intro h
    have := List.find?_some h
    exact (eq_of_beq this).symm
  · intro h
    have hsome : (ofWord? word).isSome := by
      rw [ofWord?, List.find?_isSome]
      exact ⟨k, mem_all k, by simp [h]⟩
    obtain ⟨j, hj⟩ := Option.isSome_iff_exists.1 hsome
    have hspell := List.find?_some hj
    rw [hj, spelling_injective (String.toList_injective ((eq_of_beq hspell).trans h))]

theorem isWordChar_of_mem_spelling {k : Keyword} {c : Char} (h : c ∈ k.spelling.toList) :
    isWordChar c = true := by
  have hall : ∀ k ∈ all, k.spelling.toList.all HttpScript.isWordChar = true := by decide
  exact List.all_eq_true.1 (hall k (mem_all k)) c h

theorem Spells.isWordChar {k : Keyword} {word : List Char} (h : k.Spells word) {c : Char}
    (hc : c ∈ word) : isWordChar c = true := by
  have hmem : c.toUpper ∈ k.spelling.toList := h ▸ List.mem_map_of_mem hc
  by_cases hl : c.isLower = true
  · simp [HttpScript.isWordChar, Char.isAlphanum, Char.isAlpha, hl]
  · rw [toUpper_of_not_isLower hl] at hmem
    exact isWordChar_of_mem_spelling hmem

/-- A spelling begins with a letter, or with the bracket of the last keyword. -/
theorem Spells.head {k : Keyword} {word : List Char} (h : k.Spells word) :
    ∃ c s, word = c :: s ∧ c.toUpper ∈ "GPDHWS[".toList := by
  cases word with
  | nil =>
    have : ∀ k ∈ all, k.spelling.toList ≠ [] := by decide
    exact absurd h.symm (this k (mem_all k))
  | cons c s =>
    have hall : ∀ k ∈ all, k.spelling.toList.head?.all (· ∈ "GPDHWS[".toList) = true := by decide
    have hk := hall k (mem_all k)
    rw [← h] at hk
    exact ⟨c, s, rfl, by simpa using hk⟩

end Keyword

theorem not_isDigit_of_mem_initials {c : Char} (h : c ∈ "GPDHWS[".toList) : c.isDigit = false := by
  have hall : ∀ d ∈ "GPDHWS[".toList, d.isDigit = false := by simp
  exact hall c h

theorem isNumber_of_head {c : Char} {s : List Char} (h : c.toUpper ∈ "GPDHWS[".toList) :
    isNumber (c :: s) = false := by
  have hdigit : c.isDigit = false := by
    by_contra hd
    have hd : c.isDigit = true := by simpa using hd
    rw [toUpper_of_not_isLower (not_isLower_of_isDigit hd)] at h
    exact absurd hd (by simp [not_isDigit_of_mem_initials h])
  have hminus : c ≠ '-' := by rintro rfl; exact absurd h (by decide)
  unfold isNumber
  split
  · rename_i ht; cases ht; exact absurd rfl hminus
  · simp only [List.span_eq_takeWhile_dropWhile]
    rw [List.takeWhile_cons_of_neg (by simp [hdigit]),
      List.dropWhile_cons_of_neg (by simp [hdigit])]
    split
    · rename_i hp; cases hp
    · rename_i hp; cases hp; rfl
    · rfl

/-- A word is a number, a keyword, or only a word. -/
theorem wordKind_cases (w : List Char) :
    wordKind w = .number ∨ (∃ k, wordKind w = .keyword k ∧ Keyword.ofWord? w = some k) ∨
      wordKind w = .word := by
  unfold wordKind
  split
  · exact .inl rfl
  · split
    · rename_i k hk
      exact .inr (.inl ⟨k, rfl, hk⟩)
    · exact .inr (.inr rfl)

theorem ofWord?_of_wordKind {w : List Char} {k : Keyword} (h : wordKind w = .keyword k) :
    Keyword.ofWord? w = some k := by
  obtain hkind | ⟨j, hkind, hj⟩ | hkind := wordKind_cases w
  · cases hkind.symm.trans h
  · cases hkind.symm.trans h
    exact hj
  · cases hkind.symm.trans h

theorem wordKind_ne_endOfInput (w : List Char) : wordKind w ≠ .endOfInput := by
  obtain h | ⟨k, h, -⟩ | h := wordKind_cases w <;> rw [h] <;> exact TokenKind.noConfusion

theorem wordKind_ne_braces (w : List Char) : wordKind w ≠ .braces := by
  obtain h | ⟨k, h, -⟩ | h := wordKind_cases w <;> rw [h] <;> exact TokenKind.noConfusion

namespace Cursor

/-- A text of word characters is one token, and nothing follows it. -/
theorem next_of_isWordChar {word : List Char} (hne : word ≠ [])
    (h : ∀ c ∈ word, isWordChar c = true) :
    (ofText word).next.1 = .ok ⟨wordKind word, word, 1, 0, word.length⟩ ∧
      (ofText word).next.2.rest = [] := by
  obtain ⟨c, s, rfl⟩ := List.exists_cons_of_ne_nil hne
  have hc := h c List.mem_cons_self
  have hsep := isSeparator_of_isWordChar hc
  have hskip : (ofText (c :: s)).skip = ofText (c :: s) := by
    simp [skip, ofText, advance, hsep]
  rw [next, hskip, tokenHere]
  split
  · rename_i hr; cases hr
  · rename_i hr; cases hr; exact absurd hc (by decide)
  · rename_i hr
    cases hr
    rw [if_pos hc]
    simp [token, List.takeWhile_eq_self_iff.2 h, List.dropWhile_eq_nil_iff.2 h, ofText, advance]

theorem next_of_rest_eq_nil {c : Cursor} (h : c.rest = []) :
    c.next.1 = .ok ⟨.endOfInput, [], c.line, c.offset, c.offset⟩ := by
  obtain ⟨rest, line, offset⟩ := c
  obtain rfl : rest = [] := h
  rfl

/-- A keyword token is a word made of word characters. -/
theorem keyword_of_tokenHere {c : Cursor} {t : Token} {k : Keyword} (h : c.tokenHere.1 = .ok t)
    (hk : t.kind = .keyword k) :
    (∀ a ∈ t.literal, isWordChar a = true) ∧ Keyword.ofWord? t.literal = some k := by
  unfold tokenHere at h
  split at h
  · cases h; cases hk
  · split at h
    · cases h; cases hk
    · cases h
  · split at h
    · rename_i a s _ _ ha
      cases h
      refine ⟨fun b hb => List.mem_takeWhile_imp hb, ?_⟩
      exact ofWord?_of_wordKind hk
    · cases h; cases hk

end Cursor

theorem keywordOf?_eq_some_iff {word : List Char} {k : Keyword} :
    keywordOf? word = some k ↔ k.Spells word := by
  constructor
  · intro h
    unfold keywordOf? at h
    split at h
    · cases h
    · cases h
    · split at h
      · rename_i literal _ _ _ ht
        split at h
        · rename_i hl
          cases h
          obtain ⟨hw, hk⟩ := Cursor.keyword_of_tokenHere ht rfl
          obtain rfl : literal = word := by simpa using hl
          rw [Keyword.Spells, ← upper_of_isWordChar hw, Keyword.ofWord?_eq_some_iff.1 hk]
        · cases h
      · cases h
  · intro h
    obtain ⟨c, s, rfl, hc⟩ := h.head
    have hw := fun d (hd : d ∈ c :: s) => h.isWordChar hd
    have hk : Keyword.ofWord? (c :: s) = some k := by
      rw [Keyword.ofWord?_eq_some_iff, upper_of_isWordChar hw, h]
    have hkind : wordKind (c :: s) = .keyword k := by
      rw [wordKind, isNumber_of_head hc, if_neg (by simp), hk]
    unfold keywordOf?
    split
    · rename_i hs; cases hs
    · rename_i hs; cases hs; exact absurd hc (by decide)
    · rw [(Cursor.next_of_isWordChar (by simp) hw).1, hkind]
      simp

end HttpScript
