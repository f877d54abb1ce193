import HttpScript.Proofs.Script.Arguments

/-!
# Tokens and where they stand

The tokens of a text stand in it one after another, with nothing but separators between them. Each
is the text between its offsets, and its line is found by counting line breaks. They go on to the
end of the text, which is a token that comes again whenever another is asked for, or to a brace that
is never closed.
-/
namespace HttpScript

/-! ### Braces -/

/-- The braces that are open are closed in a text, the last of them at the end of `blob`, which
`rest` follows. -/
inductive Closes : Nat → List Char → List Char → List Char → Prop
  | last {s : List Char} : Closes 0 ('\x7d' :: s) ['\x7d'] s
  | closing {depth : Nat} {s blob rest : List Char} (more : Closes depth s blob rest) :
      Closes (depth + 1) ('\x7d' :: s) ('\x7d' :: blob) rest
  | opening {depth : Nat} {s blob rest : List Char} (more : Closes (depth + 1) s blob rest) :
      Closes depth ('\x7b' :: s) ('\x7b' :: blob) rest
  | other {depth : Nat} {c : Char} {s blob rest : List Char} (notClosing : c ≠ '\x7d')
      (notOpening : c ≠ '\x7b') (more : Closes depth s blob rest) :
      Closes depth (c :: s) (c :: blob) rest

theorem closes_of_closeBraces {depth : Nat} {s blob rest : List Char}
    (h : closeBraces depth s = some (blob, rest)) : Closes depth s blob rest := by
  induction s generalizing depth blob rest with
  | nil => cases h
  | cons c s ih =>
    unfold closeBraces at h
    split at h
    · rename_i hclose
      obtain rfl := beq_iff_eq.1 hclose
      split at h
      · cases h
        exact .last
      · obtain ⟨⟨b, r⟩, hb, he⟩ := Option.map_eq_some_iff.1 h
        cases he
        exact .closing (ih hb)
    · rename_i hclose
      obtain ⟨⟨b, r⟩, hb, he⟩ := Option.map_eq_some_iff.1 h
      cases he
      split at hb
      · rename_i hopen
        obtain rfl := beq_iff_eq.1 hopen
        exact .opening (ih hb)
      · rename_i hopen
        exact .other (mt beq_iff_eq.2 hclose) (mt beq_iff_eq.2 hopen) (ih hb)

theorem closeBraces_eq_some_iff {depth : Nat} {s blob rest : List Char} :
    closeBraces depth s = some (blob, rest) ↔ Closes depth s blob rest := by
  refine ⟨closes_of_closeBraces, fun h => ?_⟩
  induction h with
  | last => rfl
  | closing _ ih | opening _ ih => simp [closeBraces, ih]
  | other hclose hopen _ ih => simp [closeBraces, hclose, hopen, ih]

theorem Closes.append_eq {depth : Nat} {s blob rest : List Char} (h : Closes depth s blob rest) :
    s = blob ++ rest := by
  induction h with
  | last => rfl
  | closing _ ih | opening _ ih | other _ _ _ ih => rw [ih, List.cons_append]

theorem append_of_closeBraces {depth : Nat} {s blob rest : List Char}
    (h : closeBraces depth s = some (blob, rest)) : s = blob ++ rest :=
  (closes_of_closeBraces h).append_eq

theorem forall_prefix_cons {c : Char} {s : List Char} {P : List Char → Prop} :
    (∀ p, p <+: c :: s → P p) ↔ P [] ∧ ∀ p, p <+: s → P (c :: p) := by
  constructor
  · exact fun h => ⟨h [] List.nil_prefix, fun p hp => h _ (List.cons_prefix_cons.2 ⟨rfl, hp⟩)⟩
  · intro h p hp
    obtain rfl | ⟨q, rfl, hq⟩ := List.prefix_cons_iff.1 hp
    · exact h.1
    · exact h.2 q hq

/-- Open braces stay open when no part that follows them closes more than it opens. -/
theorem closeBraces_eq_none_iff {depth : Nat} {s : List Char} :
    closeBraces depth s = none ↔ ∀ p, p <+: s → p.count '\x7d' ≤ p.count '\x7b' + depth := by
  induction s generalizing depth with
  | nil => simp [closeBraces]
  | cons c s ih =>
    rw [forall_prefix_cons]
    unfold closeBraces
    by_cases hclose : c = '\x7d'
    · subst hclose
      cases depth with
      | zero => simpa using ⟨[], List.nil_prefix, by simp⟩
      | succ d =>
        simp only [beq_self_eq_true, ↓reduceIte, Option.map_eq_none_iff, ih, List.count_nil,
          Nat.zero_le, true_and, List.count_cons_self]
        refine forall₂_congr fun p _ => ?_
        rw [List.count_cons_of_ne (by decide)]
        omega
    · have hcount : ∀ p : List Char, (c :: p).count '\x7b' + depth =
          p.count '\x7b' + if (c == '\x7b') = true then depth + 1 else depth := by
        intro p
        rw [List.count_cons]
        split <;> omega
      rw [if_neg (by simpa using hclose), Option.map_eq_none_iff, ih]
      simp only [List.count_nil, Nat.zero_le, true_and, hcount, List.count_cons_of_ne hclose]

/-! ### One token -/

/-- What a token is made of, and that what comes after does not belong to it. -/
inductive Lexeme : TokenKind → List Char → List Char → Prop
  | braces {s blob rest : List Char} (closes : closeBraces 0 s = some (blob, rest)) :
      Lexeme .braces ('\x7b' :: blob) rest
  | word {w rest : List Char} (nonempty : w ≠ []) (chars : ∀ c ∈ w, isWordChar c = true)
      (ends : ∀ c ∈ rest.head?, isWordChar c = false) : Lexeme (wordKind w) w rest
  | illegal {c : Char} {rest : List Char} (brace : c ≠ '\x7b') (word : isWordChar c = false)
      (separator : isSeparator c = false) : Lexeme .illegal [c] rest

theorem Lexeme.ne_nil {kind : TokenKind} {literal rest : List Char}
    (h : Lexeme kind literal rest) : literal ≠ [] := by
  cases h with
  | braces | illegal => exact List.cons_ne_nil _ _
  | word nonempty => exact nonempty

theorem Lexeme.ne_endOfInput {kind : TokenKind} {literal rest : List Char}
    (h : Lexeme kind literal rest) : kind ≠ .endOfInput := by
  cases h with
  | braces | illegal => exact fun h => nomatch h
  | word => exact wordKind_ne_endOfInput _

/-- The line on which a text goes on after `before`. -/
def lineAfter (before : List Char) : Nat := 1 + before.count '\n'

/-- The token made of `literal` that stands behind `before`. -/
def Token.behind (before : List Char) (kind : TokenKind) (literal : List Char) : Token :=
  ⟨kind, literal, lineAfter before, before.length, before.length + literal.length⟩

theorem Token.stop_behind (before : List Char) (kind : TokenKind) (literal : List Char) :
    (behind before kind literal).stop = (before ++ literal).length :=
  List.length_append.symm

/-- The token that ends a text. -/
def Token.atEnd (text : List Char) : Token :=
  ⟨.endOfInput, [], lineAfter text, text.length, text.length⟩

/-- The brace that is never closed in `text` and stands behind `before`. -/
def UnclosedBrace.behind (before text : List Char) : UnclosedBrace :=
  ⟨lineAfter before, lineAfter text⟩

namespace Cursor

/-- The place behind `before` in a text that goes on with `rest`. -/
def behind (before rest : List Char) : Cursor := ⟨rest, lineAfter before, before.length⟩

theorem advance_behind (before taken rest rest' : List Char) :
    (behind before rest').advance taken rest = behind (before ++ taken) rest := by
  simp [behind, advance, lineAfter, Nat.add_assoc]

theorem token_behind (before literal rest rest' : List Char) (kind : TokenKind) :
    (behind before rest').token kind literal rest =
      (Token.behind before kind literal, behind (before ++ literal) rest) := by
  rw [token, advance_behind]
  rfl

/-- What is found at a place in a text: the end, a token, or a brace that is never closed. -/
inductive Next (before : List Char) : List Char → Except UnclosedBrace Token × Cursor → Prop
  | atEnd {gap : List Char} (blank : ∀ c ∈ gap, isSeparator c = true) :
      Next before gap (.ok (.atEnd (before ++ gap)), behind (before ++ gap) [])
  | token {gap literal rest : List Char} {kind : TokenKind}
      (blank : ∀ c ∈ gap, isSeparator c = true) (lexeme : Lexeme kind literal rest) :
      Next before (gap ++ (literal ++ rest))
        (.ok (.behind (before ++ gap) kind literal), behind (before ++ gap ++ literal) rest)
  | unclosed {gap s : List Char} (blank : ∀ c ∈ gap, isSeparator c = true)
      (opens : closeBraces 0 s = none) :
      Next before (gap ++ '\x7b' :: s)
        (.error (.behind (before ++ gap) (before ++ (gap ++ '\x7b' :: s))),
          behind (before ++ (gap ++ '\x7b' :: s)) [])

theorem skip_behind (before rest : List Char) :
    ∃ gap tail, rest = gap ++ tail ∧ (∀ c ∈ gap, isSeparator c = true) ∧
      (∀ c ∈ tail.head?, isSeparator c = false) ∧
      (behind before rest).skip = behind (before ++ gap) tail := by
  refine ⟨rest.takeWhile isSeparator, rest.dropWhile isSeparator,
    List.takeWhile_append_dropWhile.symm, fun c hc => List.mem_takeWhile_imp hc,
    fun c hc => Text.head_dropWhile hc, ?_⟩
  rw [skip, advance_behind]
  rfl

theorem next_behind (before rest : List Char) : Next before rest (behind before rest).next := by
  obtain ⟨gap, tail, rfl, hblank, hhead, hskip⟩ := skip_behind before rest
  rw [next, hskip, tokenHere]
  split
  · rename_i hnil
    obtain rfl : tail = [] := hnil
    rw [List.append_nil]
    exact .atEnd hblank
  · rename_i s hs
    obtain rfl : tail = '\x7b' :: s := hs
    split
    · rename_i blob rest hclose
      rw [append_of_closeBraces hclose, ← List.cons_append, token_behind]
      exact .token hblank (.braces hclose)
    · rename_i hclose
      rw [advance_behind, List.append_assoc]
      exact .unclosed hblank hclose
  · rename_i a s hbrace hs
    obtain rfl : tail = a :: s := hs
    split
    · rename_i hword
      have hword : Lexeme _ _ ((a :: s).dropWhile isWordChar) :=
        .word (w := (a :: s).takeWhile isWordChar) (by simp [hword])
          (fun c hc => List.mem_takeWhile_imp hc) fun c hc => Text.head_dropWhile hc
      have htoken : Next before _ _ := .token hblank hword
      rw [List.takeWhile_append_dropWhile] at htoken
      dsimp only
      rwa [token_behind]
    · rename_i hword
      have hillegal : Lexeme .illegal [a] s :=
        .illegal hbrace (by simpa using hword) (hhead a rfl)
      rw [token_behind]
      exact .token hblank hillegal

/-! ### All tokens -/

/-- The tokens of what a text goes on with behind `before`, and the brace that stops them. -/
inductive Tokenizes : List Char → List Char → List Token × Option UnclosedBrace → Prop
  | atEnd {before gap : List Char} (blank : ∀ c ∈ gap, isSeparator c = true) :
      Tokenizes before gap ([.atEnd (before ++ gap)], none)
  | token {before gap literal rest : List Char} {kind : TokenKind} {ts : List Token}
      {e : Option UnclosedBrace} (blank : ∀ c ∈ gap, isSeparator c = true)
      (lexeme : Lexeme kind literal rest)
      (more : Tokenizes (before ++ gap ++ literal) rest (ts, e)) :
      Tokenizes before (gap ++ (literal ++ rest)) (.behind (before ++ gap) kind literal :: ts, e)
  | unclosed {before gap s : List Char} (blank : ∀ c ∈ gap, isSeparator c = true)
      (opens : closeBraces 0 s = none) :
      Tokenizes before (gap ++ '\x7b' :: s)
        ([], some (.behind (before ++ gap) (before ++ (gap ++ '\x7b' :: s))))

section

variable {c after : Cursor} {t : Token}

theorem tokens_of_error {e : UnclosedBrace} (h : c.next = (.error e, after)) :
    c.tokens = ([], some e) := by
  rw [tokens]
  split <;> simp_all

theorem tokens_of_end (h : c.next = (.ok t, after)) (hk : t.kind = .endOfInput) :
    c.tokens = ([t], none) := by
  rw [tokens]
  split <;> simp_all

theorem tokens_of_token (h : c.next = (.ok t, after)) (hk : t.kind ≠ .endOfInput) :
    c.tokens = (t :: after.tokens.1, after.tokens.2) := by
  rw [tokens]
  split <;> simp_all

end

theorem tokens_behind (before rest : List Char) :
    Tokenizes before rest (behind before rest).tokens := by
  induction hn : rest.length using Nat.strong_induction_on generalizing before rest with
  | _ n ih =>
    have hnext := next_behind before rest
    generalize hfound : (behind before rest).next = found at hnext
    cases hnext with
    | atEnd blank =>
      rw [tokens_of_end hfound rfl]
      exact .atEnd blank
    | unclosed blank opens =>
      rw [tokens_of_error hfound]
      exact .unclosed blank opens
    | @token gap literal rest kind blank lexeme =>
      rw [tokens_of_token hfound lexeme.ne_endOfInput]
      have hlength := List.length_pos_of_ne_nil lexeme.ne_nil
      exact .token blank lexeme (ih rest.length (by simp at hn; omega) _ _ rfl)

/-- At the end of a text, its end is found again and again. -/
theorem nextMany_end (text : List Char) (k : Nat) :
    (behind text []).nextMany k = List.replicate k (.ok (.atEnd text)) := by
  induction k with
  | zero => rfl
  | succ k ih => rw [nextMany, List.replicate_succ, ← ih]; rfl

theorem nextMany_of_next {c after : Cursor} {found : Except UnclosedBrace Token}
    (h : c.next = (found, after)) (k : Nat) : c.nextMany (k + 1) = found :: after.nextMany k := by
  rw [nextMany, h]

/-- Asked for one by one, the tokens come in order, then what stops them, and then the end of the
text again and again. -/
theorem nextMany_behind (before rest : List Char) (k : Nat) :
    let found := (behind before rest).tokens
    (behind before rest).nextMany (found.1.length + found.2.toList.length + k) =
      found.1.map .ok ++ found.2.toList.map .error ++
        List.replicate k (.ok (.atEnd (before ++ rest))) := by
  induction hn : rest.length using Nat.strong_induction_on generalizing before rest with
  | _ n ih =>
    have hnext := next_behind before rest
    generalize hfound : (behind before rest).next = found at hnext
    cases hnext with
    | atEnd blank =>
      rw [tokens_of_end hfound rfl]
      simp only [List.length_singleton, Option.toList_none, List.length_nil, Nat.add_zero]
      rw [Nat.add_comm, nextMany_of_next hfound, nextMany_end]
      rfl
    | unclosed blank opens =>
      rw [tokens_of_error hfound]
      simp only [List.length_nil, Option.toList_some, List.length_singleton, Nat.zero_add]
      rw [Nat.add_comm, nextMany_of_next hfound, nextMany_end]
      rfl
    | @token gap literal rest kind blank lexeme =>
      have hlength := List.length_pos_of_ne_nil lexeme.ne_nil
      have hmore := ih rest.length (by simp at hn; omega) (before ++ gap ++ literal) rest rfl
      rw [tokens_of_token hfound lexeme.ne_endOfInput]
      simp only [List.length_cons, Nat.add_right_comm _ 1]
      rw [nextMany_of_next hfound]
      simp only [List.append_assoc] at hmore ⊢
      rw [hmore]
      rfl

end Cursor

/-! ### Where tokens stand -/

/-- A token is what stands in a text between its offsets, and its line is that of its first
character. -/
structure Token.IsCutFrom (text : List Char) (t : Token) : Prop where
  nonempty : t.start < t.stop
  inside : t.stop ≤ text.length
  literal : t.literal = (text.drop t.start).take (t.stop - t.start)
  line : t.line = lineAfter (text.take t.start)

/-- Tokens stand in a text one after another between two offsets, and there is nothing but
separators around them. -/
structure Covers (text : List Char) (start stop : Nat) (ts : List Token) : Prop where
  cut : ∀ t ∈ ts, t.kind ≠ .endOfInput ∧ t.IsCutFrom text
  ordered : ts.Pairwise fun t u => t.stop ≤ u.start
  within : ∀ t ∈ ts, start ≤ t.start ∧ t.stop ≤ stop
  gaps : ∀ i, start ≤ i → i < stop → (∀ t ∈ ts, i < t.start ∨ t.stop ≤ i) →
    ∃ c, text[i]? = some c ∧ isSeparator c = true
  inside : stop ≤ text.length

theorem exists_mem_gap (before : List Char) {gap : List Char} (rest : List Char) {i : Nat}
    (hstart : before.length ≤ i) (hstop : i < (before ++ gap).length) :
    ∃ c ∈ gap, (before ++ (gap ++ rest))[i]? = some c := by
  have hi : i - before.length < gap.length := by
    rw [List.length_append] at hstop
    omega
  refine ⟨gap[i - before.length], List.getElem_mem hi, ?_⟩
  rw [List.getElem?_append_right hstart, List.getElem?_append_left hi, List.getElem?_eq_getElem hi]

theorem Token.isCutFrom_behind (before rest : List Char) (kind : TokenKind) {literal : List Char}
    (hne : literal ≠ []) :
    (Token.behind before kind literal).IsCutFrom (before ++ (literal ++ rest)) where
  nonempty := by simpa [Token.behind] using List.length_pos_of_ne_nil hne
  inside := by simp [Token.behind]
  literal := by simp [Token.behind]
  line := by simp [Token.behind]

section

variable {before gap : List Char} (rest : List Char)

/-- Before the first token there is nothing but separators. -/
theorem Covers.nil (h : ∀ c ∈ gap, isSeparator c = true) :
    Covers (before ++ (gap ++ rest)) before.length (before ++ gap).length [] where
  cut t ht := nomatch ht
  ordered := .nil
  within t ht := nomatch ht
  gaps i hstart hstop _ := by
    obtain ⟨c, hc, hi⟩ := exists_mem_gap before rest hstart hstop
    exact ⟨c, hi, h c hc⟩
  inside := by simp

variable {rest} {literal : List Char} {kind : TokenKind} {stop : Nat} {ts : List Token}

theorem Covers.cons (h : ∀ c ∈ gap, isSeparator c = true) (lexeme : Lexeme kind literal rest)
    (more : Covers (before ++ (gap ++ (literal ++ rest))) (before ++ gap ++ literal).length stop ts)
    (hstop : (before ++ gap ++ literal).length ≤ stop) :
    Covers (before ++ (gap ++ (literal ++ rest))) before.length stop
      (.behind (before ++ gap) kind literal :: ts) where
  cut := by
    refine List.forall_mem_cons.2 ⟨⟨lexeme.ne_endOfInput, ?_⟩, more.cut⟩
    rw [← List.append_assoc]
    exact Token.isCutFrom_behind (before ++ gap) rest kind lexeme.ne_nil
  ordered := by
    refine List.pairwise_cons.2 ⟨fun t ht => ?_, more.ordered⟩
    rw [Token.stop_behind]
    exact (more.within t ht).1
  within := by
    refine List.forall_mem_cons.2 ⟨?_, fun t ht => ⟨?_, (more.within t ht).2⟩⟩
    · rw [Token.stop_behind]
      exact ⟨by simp [Token.behind], hstop⟩
    · have hstart := (more.within t ht).1
      simp only [List.length_append] at hstart
      omega
  gaps i hstart hi hout := by
    obtain ⟨hfirst, hout⟩ := List.forall_mem_cons.1 hout
    rcases hfirst with hbefore | hbehind
    · obtain ⟨c, hc, hi⟩ := exists_mem_gap before (literal ++ rest) hstart hbefore
      exact ⟨c, hi, h c hc⟩
    · rw [Token.stop_behind] at hbehind
      exact more.gaps i hbehind hi hout
  inside := more.inside

end

theorem Cursor.Tokenizes.covers {before rest : List Char}
    {found : List Token × Option UnclosedBrace} (h : Tokenizes before rest found) :
    ∃ ts stop, Covers (before ++ rest) before.length stop ts ∧ before.length ≤ stop ∧
      (found = (ts ++ [.atEnd (before ++ rest)], none) ∧ stop = (before ++ rest).length ∨
        ∃ s, found = (ts, some (.behind ((before ++ rest).take stop) (before ++ rest))) ∧
          (before ++ rest).drop stop = '\x7b' :: s ∧ closeBraces 0 s = none) := by
  induction h with
  | @atEnd before gap blank =>
    refine ⟨[], (before ++ gap).length, ?_, by simp, .inl ⟨rfl, rfl⟩⟩
    have hcovers : Covers (before ++ (gap ++ [])) before.length _ [] := Covers.nil [] blank
    rwa [List.append_nil] at hcovers
  | @unclosed before gap s blank opens =>
    refine ⟨[], (before ++ gap).length, Covers.nil _ blank, by simp, .inr ⟨s, ?_, ?_, opens⟩⟩
    · rw [← List.append_assoc, List.take_left]
    · rw [← List.append_assoc, List.drop_left]
  | @token before gap literal rest kind found e blank lexeme more ih =>
    obtain ⟨ts, stop, hcovers, hstop, hends⟩ := ih
    simp only [List.append_assoc] at hcovers hends
    refine ⟨.behind (before ++ gap) kind literal :: ts, stop, ?_, ?_, ?_⟩
    · exact .cons blank lexeme (by simpa only [List.append_assoc] using hcovers) hstop
    · simp only [List.length_append] at hstop
      omega
    · rcases hends with ⟨hfound, hend⟩ | ⟨s, hfound, hbrace, hopens⟩
      · cases hfound
        exact .inl ⟨rfl, hend⟩
      · cases hfound
        exact .inr ⟨s, rfl, hbrace, hopens⟩

/-- The tokens of a text are cut out of it one after another, and only separators stand around them,
up to the end of the text or to a brace that is never closed. Asked for one by one they come in this
order, and then the end comes again and again. -/
theorem tokenize_lossless (text : List Char) :
    ∃ ts stop, Covers text 0 stop ts ∧
      (tokenize text = (ts ++ [.atEnd text], none) ∧ stop = text.length ∨
        ∃ s, tokenize text = (ts, some (.behind (text.take stop) text)) ∧
          text.drop stop = '\x7b' :: s ∧ ∀ p, p <+: s → p.count '\x7d' ≤ p.count '\x7b') ∧
      ∀ k, (Cursor.ofText text).nextMany
          ((tokenize text).1.length + (tokenize text).2.toList.length + k) =
        (tokenize text).1.map .ok ++ (tokenize text).2.toList.map .error ++
          List.replicate k (.ok (.atEnd text)) := by
  obtain ⟨ts, stop, hcovers, -, hends⟩ := (Cursor.tokens_behind [] text).covers
  refine ⟨ts, stop, hcovers, ?_, Cursor.nextMany_behind [] text⟩
  rcases hends with ⟨hfound, hend⟩ | ⟨s, hfound, hbrace, hopens⟩
  · exact .inl ⟨hfound, hend⟩
  · exact .inr ⟨s, hfound, hbrace, closeBraces_eq_none_iff.1 hopens⟩

end HttpScript
