import HttpScript.Proofs.Script.ArgumentErrors

/-!
# How words and numbers are told

The first word of a line always has a first token, and it is a keyword exactly when all of it spells
one. An argument is a number exactly when it is made of digits, not more than the reader takes; all
others are refused with an error of the script, whatever the tokeniser finds in them.
-/
namespace HttpScript

/-! ### Keywords -/

theorem Keyword.Spells.length {k : Keyword} {word : List Char} (h : k.Spells word) :
    word.length = k.spelling.toList.length := by
  rw [← List.length_map (f := Char.toUpper), h]

/-- The characters of a keyword: letters of ASCII, and the brackets around one of the ten. -/
theorem Keyword.Spells.isAlpha {k : Keyword} {word : List Char} (h : k.Spells word) {c : Char}
    (hc : c ∈ word) : c.isAlpha = true ∨ c = '[' ∨ c = ']' := by
  have hspelling : ∀ k ∈ all,
      k.spelling.toList.all (fun d => d.isUpper || d == '[' || d == ']') = true := by decide
  have hmem : c.toUpper ∈ k.spelling.toList := h ▸ List.mem_map_of_mem hc
  by_cases hlower : c.isLower = true
  · simp [Char.isAlpha, hlower]
  · rw [toUpper_of_not_isLower hlower] at hmem
    have hc := List.all_eq_true.1 (hspelling k (mem_all k)) c hmem
    simp only [Bool.or_eq_true, beq_iff_eq] at hc
    rcases hc with (hupper | rfl) | rfl
    · simp [Char.isAlpha, hupper]
    · exact .inr (.inl rfl)
    · exact .inr (.inr rfl)

namespace Line

variable {l : Line} {first argument : List Char}

/-- The tokeniser finds a token where a first word begins, unless that is an opening brace. -/
theorem exists_token_of_shape (h : l.shape = .words first argument) :
    first.head? = some '\x7b' ∨ ∃ t, (Cursor.ofText first).next.1 = .ok t := by
  obtain ⟨c, s, rfl, hblank⟩ := first_of_shape h
  by_cases hbrace : c = '\x7b'
  · exact .inl (by rw [hbrace]; rfl)
  · exact .inr (Cursor.exists_token_of_head hblank hbrace)

/-! ### Numbers -/

theorem number?_eq_ok_iff (htrim : Text.trim argument = argument) {n : ℕ} :
    l.number? first argument = .ok n ↔
      argument ≠ [] ∧ (∀ c ∈ argument, c.isDigit = true) ∧
        argument.length ≤ Json.integerDigitLimit ∧ n = Nat.ofDigitChars 10 argument 0 := by
  constructor
  · intro h
    unfold number? at h
    split at h
    · cases h
    · split at h
      · cases h
      · rename_i digits hdigits
        obtain ⟨rfl, hne, hall⟩ := (wholeNumber?_eq_some_iff htrim).1 hdigits
        split at h
        · cases h
        · rename_i hlimit
          exact ⟨hne, hall, not_lt.1 hlimit, (Except.ok.inj h).symm⟩
  · rintro ⟨hne, hall, hlimit, rfl⟩
    rw [number?, if_neg (by simpa using hne), wholeNumber?_of_digits hne hall]
    exact if_neg (not_lt.2 hlimit)

/-- How an argument that should be a number is refused. -/
inductive RefusesNumber (l : Line) (first argument : List Char) : ScriptFault → Prop
  | missing (empty : argument = []) :
      RefusesNumber l first argument (.syntaxError (l.errorAtEnd first .expectedNumber))
  | other {c : Char} (mem : c ∈ argument) (other : c.isDigit = false) :
      RefusesNumber l first argument (.syntaxError (l.errorAt argument .expectedNumber))
  | long (digits : ∀ c ∈ argument, c.isDigit = true)
      (many : Json.integerDigitLimit < argument.length) :
      RefusesNumber l first argument (.longInteger argument.length)

theorem number?_eq_error_iff (htrim : Text.trim argument = argument) {fault : ScriptFault} :
    l.number? first argument = .error fault ↔ RefusesNumber l first argument fault := by
  constructor
  · intro h
    cases fault with
    | syntaxError e =>
      rcases (number?_eq_syntaxError_iff htrim).1 h with ⟨hnil, rfl⟩ | ⟨-, ⟨c, hc, hother⟩, rfl⟩
      · exact .missing hnil
      · exact .other hc hother
    | longInteger n =>
      obtain ⟨hall, rfl, hlimit⟩ := (number?_eq_longInteger_iff l first htrim).1 h
      exact .long hall hlimit
  · rintro (hnil | ⟨hc, hother⟩ | ⟨hall, hlimit⟩)
    · exact (number?_eq_syntaxError_iff htrim).2 (.inl ⟨hnil, rfl⟩)
    · exact (number?_eq_syntaxError_iff htrim).2
        (.inr ⟨List.ne_nil_of_mem hc, ⟨_, hc, hother⟩, rfl⟩)
    · exact (number?_eq_longInteger_iff l first htrim).2 ⟨hall, rfl, hlimit⟩

/-- A brace that is never closed, in the argument or after its first token. -/
def IsUnclosed (argument : List Char) : Prop :=
  ∃ e, (Cursor.ofText argument).next.1 = .error e ∨
    (Cursor.ofText argument).next.2.next.1 = .error e

theorem wholeNumber?_of_isUnclosed (h : IsUnclosed argument) : wholeNumber? argument = none := by
  obtain ⟨e, h⟩ := h
  unfold wholeNumber?
  dsimp only
  split
  · rename_i hnumber hend
    rcases h with h | h
    · cases hnumber.symm.trans h
    · cases hend.symm.trans h
  · rfl

/-- What stops the tokeniser is reported as an error of the script. -/
theorem number?_of_isUnclosed (h : IsUnclosed argument) :
    l.number? first argument = .error (.syntaxError (l.errorAt argument .expectedNumber)) := by
  have hne : argument ≠ [] := by
    rintro rfl
    obtain ⟨e, h | h⟩ := h <;> cases h
  rw [number?, if_neg (by simpa using hne), wholeNumber?_of_isUnclosed h]

/-- A line tells exactly whether its first word is a keyword and its argument a number. -/
theorem words_exact (h : l.shape = .words first argument) :
    (first.head? = some '\x7b' ∨ ∃ t, (Cursor.ofText first).next.1 = .ok t) ∧
    (∀ k, keywordOf? first = some k ↔ k.Spells first) ∧
    (∀ k, keywordOf? first = some k → first.length = k.spelling.toList.length ∧
      ∀ c ∈ first, c.isAlpha = true ∨ c = '[' ∨ c = ']') ∧
    (∀ n, l.number? first argument = .ok n ↔
      argument ≠ [] ∧ (∀ c ∈ argument, c.isDigit = true) ∧
        argument.length ≤ Json.integerDigitLimit ∧ n = Nat.ofDigitChars 10 argument 0) ∧
    (∀ fault, l.number? first argument = .error fault ↔ RefusesNumber l first argument fault) ∧
    (IsUnclosed argument → l.number? first argument =
      .error (.syntaxError (l.errorAt argument .expectedNumber))) := by
  have htrim := trim_of_shape h
  refine ⟨exists_token_of_shape h, fun _ => keywordOf?_eq_some_iff, ?_,
    fun _ => number?_eq_ok_iff htrim, fun _ => number?_eq_error_iff htrim, number?_of_isUnclosed⟩
  intro k hk
  have hspells := keywordOf?_eq_some_iff.1 hk
  exact ⟨hspells.length, fun _ => hspells.isAlpha⟩

/-- Digits after a keyword in mixed case, a word that is no keyword although its upper case is one,
and a brace that is never closed. -/
theorem words_exact_samples :
    (keywordOf? "hTTp".toList = some .http ∧
      (⟨1, "hTTp 0200 ".toList⟩ : Line).number? "hTTp".toList "0200".toList = .ok 200) ∧
    keywordOf? "ſave".toList ≠ some .save ∧
    (⟨1, "wait \x7b1".toList⟩ : Line).number? "wait".toList "\x7b1".toList =
      .error (.syntaxError ⟨.expectedNumber, 1, 6, "wait \x7b1".toList⟩) := by
  have hnumber := @words_exact ⟨1, "hTTp 0200 ".toList⟩ "hTTp".toList "0200".toList (by decide)
  have hlong := @words_exact ⟨1, "ſave x y".toList⟩ "ſave".toList "x y".toList (by decide)
  have hbrace := @words_exact ⟨1, "wait \x7b1".toList⟩ "wait".toList "\x7b1".toList (by decide)
  obtain ⟨-, hhttp, -, hok, -⟩ := hnumber
  obtain ⟨-, hsave, -⟩ := hlong
  obtain ⟨-, -, -, -, -, hunclosed⟩ := hbrace
  exact ⟨⟨(hhttp .http).2 (by decide), (hok 200).2 ⟨by decide, by simp, by decide, by decide⟩⟩,
    (hsave .save).not.2 (by decide), hunclosed ⟨_, .inl rfl⟩⟩

end Line

end HttpScript
