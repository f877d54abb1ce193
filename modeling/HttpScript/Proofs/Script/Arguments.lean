import HttpScript.Proofs.Script.Keywords
import HttpScript.Proofs.Text.Lines

/-!
# Words and arguments of a line

The first word and the argument of a line are cut from it and have no blank at either end. So the
tokeniser finds a token where they begin, and an argument is read as a number exactly when all of it
is digits.
-/
namespace HttpScript

theorem isWordChar_of_isDigit {c : Char} (h : c.isDigit = true) : isWordChar c = true := by
  simp [isWordChar, Char.isAlphanum, h]

theorem isBlank_of_isSeparator {c : Char} (h : isSeparator c = true) : Text.isBlank c = true := by
  simp only [isSeparator, Bool.or_eq_true, beq_iff_eq] at h
  rcases h with ((rfl | rfl) | rfl) | rfl <;> decide

theorem isNumber_of_digits {word : List Char} (hne : word ≠ [])
    (h : ∀ c ∈ word, c.isDigit = true) : isNumber word = true := by
  have hminus : ∀ t, word ≠ '-' :: t := fun t ht =>
    absurd (h '-' (ht ▸ List.mem_cons_self)) (by decide)
  unfold isNumber
  split
  · rename_i t; exact absurd rfl (hminus t)
  · simp only [List.span_eq_takeWhile_dropWhile, List.takeWhile_eq_self_iff.2 h,
      List.dropWhile_eq_nil_iff.2 h]
    simpa using hne

theorem trim_of_digits {digits : List Char} (h : ∀ c ∈ digits, c.isDigit = true) :
    Text.trim digits = digits := by
  have hsolid : ∀ c ∈ digits, Text.isBlank c = false :=
    fun c hc => isBlank_of_isWordChar (isWordChar_of_isDigit (h c hc))
  exact Text.trim_eq_self_iff.2 ⟨fun c hc => hsolid c (List.mem_of_mem_head? hc),
    fun c hc => hsolid c (List.mem_of_mem_getLast? hc)⟩

/-! ### Tokens -/

namespace Cursor

theorem skip_ofText {s : List Char} (h : ∀ c ∈ s.head?, Text.isBlank c = false) :
    (ofText s).skip = ofText s := by
  cases s with
  | nil => rfl
  | cons c s =>
    have hc : isSeparator c = false := by
      by_contra hs
      have hblank := isBlank_of_isSeparator (by simpa using hs)
      rw [h c rfl] at hblank
      cases hblank
    simp [skip, ofText, advance, hc]

/-- Only an opening brace has no token. -/
theorem exists_token_of_head {c : Char} {s : List Char} (hblank : Text.isBlank c = false)
    (hbrace : c ≠ '\x7b') : ∃ t, (ofText (c :: s)).next.1 = .ok t := by
  rw [next, skip_ofText (by simpa using hblank), tokenHere]
  split
  · exact ⟨_, rfl⟩
  · rename_i hrest
    exact absurd (List.cons.inj hrest).1 hbrace
  · split
    · exact ⟨_, rfl⟩
    · exact ⟨_, rfl⟩

theorem number_of_tokenHere {c : Cursor} {t : Token} (h : c.tokenHere.1 = .ok t)
    (hk : t.kind = .number) : c.rest = t.literal ++ c.tokenHere.2.rest := by
  unfold tokenHere at h ⊢
  split at h
  · cases h; cases hk
  · split at h
    · cases h; cases hk
    · cases h
  · rename_i a s hbrace hrest
    rw [hrest]
    split at h
    · rename_i ha
      cases h
      simp only [if_pos ha, token, advance]
      exact (List.takeWhile_append_dropWhile).symm
    · cases h; cases hk

/-- Where the text ends for the tokeniser, nothing but separators is left. -/
theorem isSeparator_of_endOfInput {c : Cursor} {t : Token} (h : c.next.1 = .ok t)
    (hk : t.kind = .endOfInput) : ∀ a ∈ c.rest, isSeparator a = true := by
  suffices hskip : c.skip.rest = [] from List.dropWhile_eq_nil_iff.1 hskip
  unfold next tokenHere at h
  split at h
  · assumption
  · split at h
    · cases h; cases hk
    · cases h
  · split at h
    · cases h
      exact absurd hk (wordKind_ne_endOfInput _)
    · cases h; cases hk

end Cursor

theorem wholeNumber?_of_digits {digits : List Char} (hne : digits ≠ [])
    (h : ∀ c ∈ digits, c.isDigit = true) : wholeNumber? digits = some digits := by
  obtain ⟨hnext, hrest⟩ := Cursor.next_of_isWordChar hne fun c hc => isWordChar_of_isDigit (h c hc)
  have hend := Cursor.next_of_rest_eq_nil hrest
  rw [wordKind, isNumber_of_digits hne h, if_pos rfl] at hnext
  rw [wholeNumber?]
  simp only [hnext, hend]
  rw [if_pos (List.all_eq_true.2 h)]

theorem wholeNumber?_eq_some_iff {argument digits : List Char}
    (htrim : Text.trim argument = argument) :
    wholeNumber? argument = some digits ↔
      digits = argument ∧ argument ≠ [] ∧ ∀ c ∈ argument, c.isDigit = true := by
  obtain ⟨hhead, hlast⟩ := Text.trim_eq_self_iff.1 htrim
  constructor
  · intro h
    unfold wholeNumber? at h
    dsimp only at h
    split at h
    · rename_i literal _ _ _ _ _ _ _ hnumber hend
      split at h
      · rename_i hdigits
        obtain rfl := Option.some.inj h
        have hrest := Cursor.isSeparator_of_endOfInput hend rfl
        rw [Cursor.next, Cursor.skip_ofText hhead] at hnumber hrest
        have happend := Cursor.number_of_tokenHere hnumber rfl
        change argument = literal ++ _ at happend
        generalize (Cursor.ofText argument).tokenHere.2.rest = rest at happend hrest
        have hnil : rest = [] := by
          by_contra hne
          have hblank := isBlank_of_isSeparator (hrest _ (List.getLast_mem hne))
          rw [hlast _ ?_] at hblank
          · cases hblank
          · rw [happend, List.getLast?_append_of_ne_nil _ hne, List.getLast?_eq_some_getLast hne]
            rfl
        rw [hnil, List.append_nil] at happend
        subst happend
        refine ⟨rfl, ?_, List.all_eq_true.1 hdigits⟩
        rintro rfl
        cases hnumber
      · cases h
    · cases h
  · rintro ⟨rfl, hne, hdigits⟩
    exact wholeNumber?_of_digits hne hdigits

/-! ### Lines -/

namespace Line

variable {l : Line} {first argument : List Char}

theorem shape_of_trim_eq_nil {s : List Char} (h : Text.trim s = [])
    (hl : l.source = Text.dropRightWhile (· == '\r') s) : l.shape = .blank := by
  have htrim : Text.trim l.source = [] := by
    rw [hl, Text.trim_dropRightWhile (by simp; decide), h]
  rw [shape, htrim]

/-- The first word of a line begins with a character that is no blank. -/
theorem first_of_shape (h : l.shape = .words first argument) :
    ∃ c s, first = c :: s ∧ Text.isBlank c = false := by
  unfold shape at h
  split at h
  · cases h
  · cases h
  · rename_i hne _
    cases h
    obtain ⟨c, t, htrim⟩ := List.exists_cons_of_ne_nil hne
    have hc : Text.isBlank c = false := Text.head_trim (s := l.source) (by rw [htrim]; rfl)
    have hspace : (c != ' ') = true := by
      rw [bne_iff_ne]
      rintro rfl
      exact absurd hc (by decide)
    refine ⟨c, t.takeWhile (· != ' '), ?_, hc⟩
    change (Text.splitAtSpace (Text.trim l.source)).1 = _
    rw [htrim, Text.splitAtSpace_eq, List.takeWhile_cons_of_pos (p := (· != ' ')) hspace]

/-- The argument of a line is trimmed and stands in the line. -/
theorem argument_of_shape (h : l.shape = .words first argument) :
    ∃ rest, argument = Text.trim rest ∧ rest <:+: l.source := by
  unfold shape at h
  split at h
  · cases h
  · cases h
  · cases h
    exact ⟨_, rfl, (Text.infix_splitAtSpace _).2.trans (Text.infix_trim _)⟩

theorem infix_of_shape (h : l.shape = .words first argument) : argument <:+: l.source := by
  obtain ⟨rest, rfl, hrest⟩ := argument_of_shape h
  exact (Text.infix_trim rest).trans hrest

theorem trim_of_shape (h : l.shape = .words first argument) : Text.trim argument = argument := by
  obtain ⟨rest, rfl, -⟩ := argument_of_shape h
  exact Text.trim_trim rest

/-- The name in an argument stands in it. -/
theorem infix_name {f : Field} (h : l.field? first argument = .ok f) :
    f.name.toList <:+: argument := by
  unfold field? at h
  split at h
  · cases h
  · dsimp only at h
    split at h
    · cases h
    · obtain rfl := Except.ok.inj h
      rw [String.toList_ofList]
      exact (Text.infix_splitAtSpace argument).1

/-- A number is refused for its length exactly when it is one and has more digits than the reader
takes. -/
theorem number?_eq_longInteger_iff (l : Line) (first : List Char) {n : Nat}
    (htrim : Text.trim argument = argument) :
    l.number? first argument = .error (.longInteger n) ↔
      (∀ c ∈ argument, c.isDigit = true) ∧ argument.length = n ∧ Json.integerDigitLimit < n := by
  constructor
  · intro h
    unfold number? at h
    split at h
    · cases h
    · split at h
      · cases h
      · rename_i digits hdigits
        obtain ⟨rfl, -, hall⟩ := (wholeNumber?_eq_some_iff htrim).1 hdigits
        split at h
        · rename_i hlimit
          cases h
          exact ⟨hall, rfl, hlimit⟩
        · cases h
  · rintro ⟨hall, rfl, hlimit⟩
    have hne : argument ≠ [] := List.ne_nil_of_length_pos (Nat.zero_lt_of_lt hlimit)
    rw [number?, if_neg (by simpa using hne), wholeNumber?_of_digits hne hall]
    exact if_pos hlimit

end Line

end HttpScript
