import HttpScript.Proofs.Script.Braces

/-!
# Tokens of joined texts

A line break is a clean cut: no token goes on over it, unless a brace is open. So the tokens of two
texts that a line break joins are those of the first, without its end, and then those of the second,
moved behind the first.
-/
namespace HttpScript

/-! ### Moved tokens -/

/-- A token that stands so many lines and characters further on. -/
def Token.moved (lines chars : Nat) (t : Token) : Token :=
  { t with line := t.line + lines, start := t.start + chars, stop := t.stop + chars }

def UnclosedBrace.moved (lines : Nat) (e : UnclosedBrace) : UnclosedBrace :=
  ⟨e.opened + lines, e.line + lines⟩

/-- What is found in a text, when `before` is put in front of it. -/
def movedBehind (before : List Char) (found : List Token × Option UnclosedBrace) :
    List Token × Option UnclosedBrace :=
  (found.1.map (.moved (before.count '\n') before.length),
    found.2.map (.moved (before.count '\n')))

theorem lineAfter_append (a b : List Char) : lineAfter (a ++ b) = lineAfter b + a.count '\n' := by
  simp only [lineAfter, List.count_append]
  omega

section

variable (a before : List Char)

theorem Token.moved_behind (kind : TokenKind) (literal : List Char) :
    (Token.behind before kind literal).moved (a.count '\n') a.length =
      .behind (a ++ before) kind literal := by
  simp only [moved, behind, lineAfter_append, List.length_append, Token.mk.injEq, true_and]
  omega

theorem Token.moved_atEnd :
    (Token.atEnd before).moved (a.count '\n') a.length = .atEnd (a ++ before) := by
  simp only [moved, atEnd, lineAfter_append, List.length_append, Token.mk.injEq, true_and]
  omega

theorem UnclosedBrace.moved_behind (text : List Char) :
    (UnclosedBrace.behind before text).moved (a.count '\n') = .behind (a ++ before) (a ++ text) := by
  simp only [moved, behind, lineAfter_append]

end

namespace Cursor

/-- The tokens behind a text do not hang on it, but for their places. -/
theorem Tokenizes.moved {before rest : List Char} {found : List Token × Option UnclosedBrace}
    (h : Tokenizes before rest found) (a : List Char) :
    Tokenizes (a ++ before) rest (movedBehind a found) := by
  induction h with
  | atEnd blank =>
    rw [movedBehind, List.map_singleton, Token.moved_atEnd, ← List.append_assoc]
    exact .atEnd blank
  | token blank lexeme _ ih =>
    rw [movedBehind, List.map_cons, Token.moved_behind, ← List.append_assoc a]
    rw [← List.append_assoc a, ← List.append_assoc a] at ih
    exact .token blank lexeme ih
  | unclosed blank opens =>
    rw [movedBehind, Option.map_some, UnclosedBrace.moved_behind, ← List.append_assoc a,
      ← List.append_assoc a]
    exact .unclosed blank opens

/-- Separators before the first token do not count. -/
theorem Tokenizes.skip {before gap rest : List Char} {found : List Token × Option UnclosedBrace}
    (blank : ∀ c ∈ gap, isSeparator c = true) (h : Tokenizes (before ++ gap) rest found) :
    Tokenizes before (gap ++ rest) found := by
  have hgaps : ∀ gap' : List Char, (∀ c ∈ gap', isSeparator c = true) →
      ∀ c ∈ gap ++ gap', isSeparator c = true := fun gap' blank' =>
    List.forall_mem_append.2 ⟨blank, blank'⟩
  cases h with
  | atEnd blank' =>
    rw [List.append_assoc]
    exact .atEnd (hgaps rest blank')
  | @token _ gap' literal rest kind ts e blank' lexeme more =>
    rw [List.append_assoc before gap] at more ⊢
    rw [← List.append_assoc gap]
    exact .token (hgaps gap' blank') lexeme more
  | @unclosed _ gap' s blank' opens =>
    rw [List.append_assoc before gap, List.append_assoc before gap, ← List.append_assoc gap]
    exact .unclosed (hgaps gap' blank') opens

end Cursor

/-! ### Joining -/

theorem Closes.append {depth : Nat} {s blob rest : List Char} (h : Closes depth s blob rest)
    (t : List Char) : Closes depth (s ++ t) blob (rest ++ t) := by
  induction h with
  | last => exact .last
  | closing _ ih => exact .closing ih
  | opening _ ih => exact .opening ih
  | other hclose hopen _ ih => exact .other hclose hopen ih

theorem closeBraces_append {s blob rest : List Char} (h : closeBraces 0 s = some (blob, rest))
    (t : List Char) : closeBraces 0 (s ++ t) = some (blob, rest ++ t) :=
  closeBraces_eq_some_iff.2 ((closes_of_closeBraces h).append t)

/-- A token is the same one when a line break and more text follow. -/
theorem Lexeme.append_line {kind : TokenKind} {literal rest : List Char}
    (h : Lexeme kind literal rest) (b : List Char) : Lexeme kind literal (rest ++ '\n' :: b) := by
  cases h with
  | braces closes => exact .braces (closeBraces_append closes _)
  | word nonempty chars ends =>
    refine .word nonempty chars ?_
    cases rest with
    | nil => exact fun c hc => Option.some.inj hc ▸ rfl
    | cons => exact ends
  | illegal brace word separator => exact .illegal brace word separator

theorem Cursor.Tokenizes.append_line {before a b : List Char} {ts : List Token}
    {found : List Token × Option UnclosedBrace} (h : Tokenizes before a (ts, none))
    (hb : Tokenizes (before ++ a ++ ['\n']) b found) :
    ∃ cut, ts = cut ++ [.atEnd (before ++ a)] ∧
      Tokenizes before (a ++ '\n' :: b) (cut ++ found.1, found.2) := by
  generalize hall : (ts, (none : Option UnclosedBrace)) = all at h
  induction h generalizing ts with
  | @atEnd before gap blank =>
    cases hall
    refine ⟨[], rfl, ?_⟩
    rw [← List.singleton_append, ← List.append_assoc]
    refine .skip (List.forall_mem_append.2 ⟨blank, by simp [isSeparator]⟩) ?_
    rwa [← List.append_assoc]
  | @token before gap literal rest kind ts' e blank lexeme more ih =>
    cases hall
    obtain ⟨cut, rfl, hmore⟩ := ih (by simpa only [List.append_assoc] using hb) rfl
    refine ⟨.behind (before ++ gap) kind literal :: cut, by simp, ?_⟩
    rw [List.append_assoc, List.append_assoc]
    exact .token blank (lexeme.append_line b) hmore
  | unclosed => cases hall

/-! ### The tokens of a text -/

namespace Cursor

theorem skip_gap (before : List Char) {gap rest : List Char}
    (blank : ∀ c ∈ gap, isSeparator c = true) (hhead : ∀ c ∈ rest.head?, isSeparator c = false) :
    (behind before (gap ++ rest)).skip = behind (before ++ gap) rest := by
  have htext : (behind before (gap ++ rest)).rest = gap ++ rest := rfl
  rw [skip, htext, Text.takeWhile_append blank hhead, Text.dropWhile_append blank hhead,
    advance_behind]

theorem tokenHere_of_lexeme {c : Cursor} {literal rest : List Char} {kind : TokenKind}
    (hrest : c.rest = literal ++ rest) (lexeme : Lexeme kind literal rest) :
    c.tokenHere = (.ok (c.token kind literal rest).1, (c.token kind literal rest).2) := by
  unfold tokenHere
  rw [hrest]
  cases lexeme with
  | @braces s blob rest closes =>
    rw [List.cons_append, ← append_of_closeBraces closes]
    simp only [closes]
  | @word w rest nonempty chars ends =>
    have htake := Text.takeWhile_append chars ends
    have hdrop := Text.dropWhile_append chars ends
    obtain ⟨a, w, rfl⟩ := List.exists_cons_of_ne_nil nonempty
    have ha := chars a List.mem_cons_self
    split
    · rename_i hnil
      cases hnil
    · rename_i s hbrace
      obtain rfl : a = '\x7b' := (List.cons.inj hbrace).1
      exact absurd ha (by decide)
    · rename_i b s _ hcons
      rw [← hcons, if_pos ((List.cons.inj hcons).1 ▸ ha), htake, hdrop]
  | @illegal b rest brace word separator =>
    simp only [List.singleton_append, word, Bool.false_eq_true, if_false]

theorem tokenHere_unclosed {c : Cursor} {s : List Char} (hrest : c.rest = '\x7b' :: s)
    (opens : closeBraces 0 s = none) :
    c.tokenHere = (.error ⟨c.line, (c.advance ('\x7b' :: s) []).line⟩,
      c.advance ('\x7b' :: s) []) := by
  unfold tokenHere
  rw [hrest]
  simp only [opens]

/-- What is found at a place is told by the text that is left there. -/
theorem Next.next_eq {before rest : List Char} {found : Except UnclosedBrace Token × Cursor}
    (h : Next before rest found) : (behind before rest).next = found := by
  cases h with
  | atEnd blank =>
    have hend : ∀ c ∈ ([] : List Char).head?, isSeparator c = false := by simp
    have hskip := skip_gap before blank hend
    rw [List.append_nil] at hskip
    rw [next, hskip]
    rfl
  | token blank lexeme =>
    rw [next, skip_gap before blank lexeme.head_not_separator, tokenHere_of_lexeme rfl lexeme,
      token_behind]
  | @unclosed gap s blank opens =>
    have hhead : ∀ c ∈ ('\x7b' :: s).head?, isSeparator c = false := fun c hc =>
      Option.some.inj hc ▸ rfl
    rw [next, skip_gap before blank hhead, tokenHere_unclosed rfl opens, advance_behind,
      ← List.append_assoc]
    rfl

theorem Tokenizes.tokens_eq {before rest : List Char} {found : List Token × Option UnclosedBrace}
    (h : Tokenizes before rest found) : (behind before rest).tokens = found := by
  induction h with
  | atEnd blank => exact tokens_of_end (Next.atEnd blank).next_eq rfl
  | token blank lexeme _ ih =>
    rw [tokens_of_token (Next.token blank lexeme).next_eq lexeme.ne_endOfInput, ih]
  | unclosed blank opens => exact tokens_of_error (Next.unclosed blank opens).next_eq

end Cursor

/-- Where the tokens of a text come to its end, a line break and another text may follow: then the
tokens are those of the first text without the end, and those of the second moved behind it. -/
theorem tokenize_append_line {a : List Char} (b : List Char) (h : (tokenize a).2 = none) :
    ∃ ts, tokenize a = (ts ++ [.atEnd a], none) ∧
      tokenize (a ++ '\n' :: b) =
        (ts ++ (tokenize b).1.map (.moved (a.count '\n' + 1) (a.length + 1)),
          (tokenize b).2.map (.moved (a.count '\n' + 1))) := by
  have ha : Cursor.Tokenizes [] a ((tokenize a).1, none) := h ▸ Cursor.tokens_behind [] a
  have hb : Cursor.Tokenizes [] b (tokenize b) := Cursor.tokens_behind [] b
  have hmoved := hb.moved (a ++ ['\n'])
  rw [List.append_nil] at hmoved
  obtain ⟨ts, hts, hjoined⟩ := ha.append_line hmoved
  refine ⟨ts, Prod.ext hts h, ?_⟩
  have hlines : (a ++ ['\n']).count '\n' = a.count '\n' + 1 := by simp
  have hchars : (a ++ ['\n']).length = a.length + 1 := by simp
  have htokens := hjoined.tokens_eq
  rw [movedBehind, hlines, hchars] at htokens
  exact htokens

/-- A blob goes over a line break of the first text, and a brace of the second is never closed. -/
theorem tokenize_append_line_blob :
    let a := "save \x7b\n\x7d".toList
    let b := "\nx \x7b".toList
    (tokenize a).2 = none ∧ (tokenize b).2 = some ⟨2, 2⟩ ∧
      ∃ ts, tokenize a = (ts ++ [.atEnd a], none) ∧
        tokenize (a ++ '\n' :: b) =
          (ts ++ (tokenize b).1.map (.moved 2 9), (tokenize b).2.map (.moved 2)) := by
  have h : (tokenize "save \x7b\n\x7d".toList).2 = none := by decide +kernel
  exact ⟨h, by decide +kernel, tokenize_append_line "\nx \x7b".toList h⟩

end HttpScript
