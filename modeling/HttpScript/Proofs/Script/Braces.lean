import HttpScript.Proofs.Script.Tokens

/-!
# Brace blobs

Where a token starts at an opening brace, it is the shortest part of the text that closes as many
braces as it opens. If there is no such part, the brace is never closed: this is reported with its
line and the last line of the text, and after that the end of the text comes again and again. Nothing
else is reported, and no other token has an opening brace in it.
-/
namespace HttpScript

/-- A part at the beginning of a text that closes as many braces as it opens. -/
structure Balances (part s : List Char) : Prop where
  nonempty : part ≠ []
  begins : part <+: s
  balanced : part.count '\x7d' = part.count '\x7b'

/-- The shortest of these parts. -/
structure IsBlob (blob s : List Char) : Prop extends Balances blob s where
  shortest : ∀ part, Balances part s → blob.length ≤ part.length

theorem forall_proper_prefix_cons {c : Char} {s : List Char} {P : List Char → Prop} :
    (∀ p, p <+: c :: s → p ≠ c :: s → P p) ↔ P [] ∧ ∀ p, p <+: s → p ≠ s → P (c :: p) := by
  rw [forall_prefix_cons]
  refine and_congr ⟨fun h => h (List.cons_ne_nil c s).symm, fun h _ => h⟩ ?_
  simp only [ne_eq, List.cons.injEq, true_and]

/-- The braces of a blob are closed at its end, and not before. -/
theorem Closes.count {depth : Nat} {s blob rest : List Char} (h : Closes depth s blob rest) :
    blob.count '\x7d' = blob.count '\x7b' + depth + 1 ∧
      ∀ p, p <+: blob → p ≠ blob → p.count '\x7d' ≤ p.count '\x7b' + depth := by
  induction h with
  | last => simp [forall_proper_prefix_cons]
  | closing _ ih =>
    obtain ⟨hcount, hbefore⟩ := ih
    have hopen : ∀ p : List Char, ('\x7d' :: p).count '\x7b' = p.count '\x7b' := fun p =>
      List.count_cons_of_ne (by decide)
    simp only [forall_proper_prefix_cons, List.count_cons_self, hopen, List.count_nil]
    refine ⟨by omega, by omega, fun p hp hne => ?_⟩
    have hle := hbefore p hp hne
    omega
  | opening _ ih =>
    obtain ⟨hcount, hbefore⟩ := ih
    have hclose : ∀ p : List Char, ('\x7b' :: p).count '\x7d' = p.count '\x7d' := fun p =>
      List.count_cons_of_ne (by decide)
    simp only [forall_proper_prefix_cons, List.count_cons_self, hclose, List.count_nil]
    refine ⟨by omega, by omega, fun p hp hne => ?_⟩
    have hle := hbefore p hp hne
    omega
  | other hclose hopen _ ih =>
    simp only [forall_proper_prefix_cons, List.count_cons_of_ne hclose,
      List.count_cons_of_ne hopen, List.count_nil, Nat.zero_le, true_and]
    exact ih

/-- Behind an opening brace the blob goes on to where all braces are closed. -/
theorem isBlob_of_closeBraces {s blob rest : List Char} (h : closeBraces 0 s = some (blob, rest)) :
    IsBlob ('\x7b' :: blob) ('\x7b' :: s) := by
  obtain ⟨hcount, hbefore⟩ := (closes_of_closeBraces h).count
  have hsplit := append_of_closeBraces h
  have hclose : ∀ p : List Char, ('\x7b' :: p).count '\x7d' = p.count '\x7d' := fun p =>
    List.count_cons_of_ne (by decide)
  refine ⟨⟨List.cons_ne_nil _ _, ⟨rest, by rw [hsplit, List.cons_append]⟩, ?_⟩, ?_⟩
  · rw [hclose, List.count_cons_self, hcount]
  · rintro part ⟨hne, hpart, hbalanced⟩
    obtain rfl | ⟨q, rfl, hq⟩ := List.prefix_cons_iff.1 hpart
    · exact absurd rfl hne
    · rw [hclose, List.count_cons_self] at hbalanced
      -- a shorter part would leave a brace open
      by_contra hshort
      have hlength : q.length < blob.length := by simpa using hshort
      have hq : q <+: blob := List.prefix_of_prefix_length_le hq ⟨rest, hsplit.symm⟩ hlength.le
      have hle := hbefore q hq fun heq => (heq ▸ hlength).false
      omega

/-- A brace that is never closed has no part behind it that would close it. -/
theorem not_balances_of_closeBraces {s : List Char} (h : closeBraces 0 s = none) (part : List Char) :
    ¬ Balances part ('\x7b' :: s) := by
  rintro ⟨hne, hpart, hbalanced⟩
  obtain rfl | ⟨q, rfl, hq⟩ := List.prefix_cons_iff.1 hpart
  · exact hne rfl
  · have hle := closeBraces_eq_none_iff.1 h q hq
    rw [List.count_cons_of_ne (by decide), List.count_cons_self] at hbalanced
    omega

/-! ### Tokens and braces -/

section

variable {kind : TokenKind} {literal rest : List Char}

theorem Lexeme.head_not_separator (h : Lexeme kind literal rest) :
    ∀ c ∈ (literal ++ rest).head?, isSeparator c = false := by
  cases h with
  | braces => exact fun c hc => Option.some.inj hc ▸ rfl
  | @word w rest nonempty chars =>
    obtain ⟨a, w, rfl⟩ := List.exists_cons_of_ne_nil nonempty
    rintro c ⟨⟩
    exact isSeparator_of_isWordChar (chars a List.mem_cons_self)
  | illegal _ _ separator => exact fun c hc => Option.some.inj hc ▸ separator

theorem Lexeme.mem_of_head (h : Lexeme kind literal rest) {c : Char}
    (hhead : (literal ++ rest).head? = some c) : c ∈ literal := by
  rw [List.head?_append_of_ne_nil _ h.ne_nil] at hhead
  exact List.mem_of_head? hhead

/-- A blob, or else a word or a single character, none of which holds an opening brace. -/
theorem Lexeme.blob_or_not_mem (h : Lexeme kind literal rest) :
    kind = .braces ∧ (literal ++ rest).head? = some '\x7b' ∧ IsBlob literal (literal ++ rest) ∨
      kind ≠ .braces ∧ '\x7b' ∉ literal := by
  cases h with
  | @braces s blob rest closes =>
    refine .inl ⟨rfl, rfl, ?_⟩
    rw [List.cons_append, ← append_of_closeBraces closes]
    exact isBlob_of_closeBraces closes
  | word _ chars =>
    exact .inr ⟨wordKind_ne_braces _, fun hmem => absurd (chars _ hmem) (by decide)⟩
  | illegal brace =>
    exact .inr ⟨TokenKind.noConfusion, fun hmem => brace (List.mem_singleton.1 hmem).symm⟩

end

namespace Cursor

/-- The place after `n` tokens were asked for, whatever came. -/
def afterMany (c : Cursor) : Nat → Cursor
  | 0 => c
  | n + 1 => c.next.2.afterMany n

theorem Next.after {before rest : List Char} {found : Except UnclosedBrace Token × Cursor}
    (h : Next before rest found) :
    ∃ taken left, before ++ rest = taken ++ left ∧ found.2 = behind taken left := by
  cases h with
  | atEnd => exact ⟨_, [], by simp, rfl⟩
  | @token gap literal left => exact ⟨before ++ gap ++ literal, left, by simp, rfl⟩
  | unclosed => exact ⟨_, [], by simp, rfl⟩

/-- All places that are reached lie in the text, on the line that is counted for them. -/
theorem afterMany_behind (before rest : List Char) (n : Nat) :
    ∃ taken left, before ++ rest = taken ++ left ∧
      (behind before rest).afterMany n = behind taken left := by
  induction n generalizing before rest with
  | zero => exact ⟨before, rest, rfl, rfl⟩
  | succ n ih =>
    obtain ⟨taken, left, htext, hafter⟩ := (next_behind before rest).after
    obtain ⟨taken', left', htext', hmany⟩ := ih taken left
    exact ⟨taken', left', htext.trans htext', by rw [afterMany, hafter, hmany]⟩

/-- Wherever a token is asked for: if it starts at an opening brace, it is the blob that begins there,
and if there is none, the brace is reported and then the end of the text comes for ever. If it
starts elsewhere, it is a token without opening braces, or the end. -/
theorem next_braces (text : List Char) (n : Nat) :
    ∃ before gap rest, text = before ++ (gap ++ rest) ∧ (∀ c ∈ gap, isSeparator c = true) ∧
      (∀ c ∈ rest.head?, isSeparator c = false) ∧
      let place := (ofText text).afterMany n
      place = behind before (gap ++ rest) ∧
      (rest.head? = some '\x7b' →
        (∃ blob, IsBlob blob rest ∧ place.next =
          (.ok (.behind (before ++ gap) .braces blob),
            behind (before ++ gap ++ blob) (rest.drop blob.length))) ∨
        (∀ part, ¬ Balances part rest) ∧ ∃ e after, place.next = (.error e, after) ∧
          e.line = 1 + text.count '\n' ∧
          e.message = "expected \x60\x7d\x60 before end of input (opened on line " ++
            toString (1 + (before ++ gap).count '\n') ++ ")" ∧
          ∀ k, after.nextMany k = List.replicate k (.ok (.atEnd text))) ∧
      (rest.head? ≠ some '\x7b' → ∃ t, place.next.1 = .ok t ∧ t.kind ≠ .braces ∧
        '\x7b' ∉ t.literal) := by
  obtain ⟨before, rest, htext, hplace⟩ := afterMany_behind [] text n
  obtain rfl : text = before ++ rest := htext
  have hplace : (ofText (before ++ rest)).afterMany n = behind before rest := hplace
  have hnext := next_behind before rest
  rw [hplace]
  generalize hfound : (behind before rest).next = found at hnext
  cases hnext with
  | atEnd blank =>
    refine ⟨before, rest, [], by simp, blank, by simp, by simp, by simp, fun _ => ?_⟩
    rw [hfound]
    exact ⟨_, rfl, TokenKind.noConfusion, List.not_mem_nil⟩
  | @token gap literal rest kind blank lexeme =>
    refine ⟨before, gap, literal ++ rest, rfl, blank, lexeme.head_not_separator, rfl, ?_⟩
    rcases lexeme.blob_or_not_mem with ⟨rfl, hhead, hblob⟩ | ⟨hkind, hmem⟩
    · refine ⟨fun _ => .inl ⟨literal, hblob, ?_⟩, fun hother => absurd hhead hother⟩
      rw [hfound, List.drop_left]
    · refine ⟨fun hhead => absurd (lexeme.mem_of_head hhead) hmem, fun _ => ?_⟩
      rw [hfound]
      exact ⟨_, rfl, hkind, hmem⟩
  | @unclosed gap s blank opens =>
    refine ⟨before, gap, '\x7b' :: s, rfl, blank, fun c hc => Option.some.inj hc ▸ rfl, rfl,
      fun _ => .inr ⟨not_balances_of_closeBraces opens, _, _, hfound, rfl, rfl, ?_⟩, ?_⟩
    · exact nextMany_end _
    · exact fun h => absurd rfl h

end Cursor

end HttpScript
