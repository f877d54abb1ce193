import HttpScript.Proofs.Json.Refusals
import HttpScript.Proofs.Script.Completeness
import HttpScript.Proofs.Text.Case

/-!
# The letter case of keywords

Two scripts whose lines differ only in the letter case of the keywords they begin with are read
alike. The two readers go side by side: they hold the same requests and stand in the same stage, and
the one thing they may hold differently is the first line of a body, which can be a keyword in
brackets. No such body is JSON, and it is refused at the same place on both sides.
-/
namespace HttpScript

open Source (Spelling)

/-- What may follow the first word of a line: blanks to the end, or a space and anything. -/
def EndsWord (after : List Char) : Prop :=
  (∀ c ∈ after, Text.isBlank c = true) ∨ ∃ rest, after = ' ' :: rest

/-- Two lines that differ at most in the letter case of the keyword that is their first word. -/
inductive Recased : List Char → List Char → Prop
  | same (s : List Char) : Recased s s
  | keyword {k : Keyword} (w w' : Spelling k) {before after : List Char}
      (hbefore : ∀ c ∈ before, Text.isBlank c = true)
      (hafter : EndsWord after) :
      Recased (before ++ w.chars ++ after) (before ++ w'.chars ++ after)

/-- Numbered lines whose texts differ at most in the letter case of a keyword. -/
structure Line.Recased (l m : Line) : Prop where
  number : l.number = m.number
  source : HttpScript.Recased l.source m.source

/-- Results that `R` relates, or the same error. The line that a syntax error shows may differ in
the letter case of its keyword. -/
inductive SameOutcome {α : Type} (R : α → α → Prop) :
    Except ScriptFault α → Except ScriptFault α → Prop
  | ok {a b : α} (h : R a b) : SameOutcome R (.ok a) (.ok b)
  | syntaxError (fault : SyntaxFault) (line column : Nat) {s t : List Char} (h : Recased s t) :
      SameOutcome R (.error (.syntaxError ⟨fault, line, column, s⟩))
        (.error (.syntaxError ⟨fault, line, column, t⟩))
  | longInteger (digits : Nat) :
      SameOutcome R (.error (.longInteger digits)) (.error (.longInteger digits))

namespace SameOutcome

variable {α β : Type} {R : α → α → Prop} {S : β → β → Prop}

theorem refl (hR : ∀ a, R a a) (x : Except ScriptFault α) : SameOutcome R x x := by
  cases x with
  | ok a => exact .ok (hR a)
  | error fault =>
    cases fault with
    | syntaxError e => exact .syntaxError e.fault e.line e.column (.same e.source)
    | longInteger digits => exact .longInteger digits

theorem bind {x y : Except ScriptFault α} {f g : α → Except ScriptFault β}
    (h : SameOutcome R x y) (hfg : ∀ a b, R a b → SameOutcome S (f a) (g b)) :
    SameOutcome S (x >>= f) (y >>= g) := by
  cases h with
  | ok h => exact hfg _ _ h
  | syntaxError fault line column h => exact .syntaxError fault line column h
  | longInteger digits => exact .longInteger digits

end SameOutcome

/-! ### Words that differ in the case of their letters -/

theorem opensBody_cons (c : Char) (s : List Char) :
    opensBody (c :: s) = (c == '\x7b' || c == '[') := by
  unfold opensBody
  split
  · rename_i h
    obtain rfl := (List.cons.inj h).1
    rfl
  · rename_i h
    obtain rfl := (List.cons.inj h).1
    rfl
  · rename_i hbrace hbracket
    have hb : c ≠ '\x7b' := fun h => hbrace s (by rw [h])
    have hc : c ≠ '[' := fun h => hbracket s (by rw [h])
    simp [hb, hc]

theorem opensBody_map_toUpper (s : List Char) : opensBody (s.map Char.toUpper) = opensBody s := by
  cases s with
  | nil => rfl
  | cons c s =>
    rw [List.map_cons, opensBody_cons, opensBody_cons]
    exact Text.congr_toUpper (fun c => c == '\x7b' || c == '[') (by decide) c

section
variable {s t : List Char} (h : s.map Char.toUpper = t.map Char.toUpper)
include h

theorem keywordOf?_congr : keywordOf? s = keywordOf? t := by
  ext k
  rw [keywordOf?_eq_some_iff, keywordOf?_eq_some_iff, Keyword.Spells, Keyword.Spells, h]

theorem opensBody_congr : opensBody s = opensBody t := by
  rw [← opensBody_map_toUpper s, h, opensBody_map_toUpper t]

theorem length_congr : s.length = t.length := by
  simpa using congrArg List.length h

end

theorem Source.Spelling.map_toUpper_eq {k : Keyword} (w w' : Spelling k) :
    w.chars.map Char.toUpper = w'.chars.map Char.toUpper := w.spells.trans w'.spells.symm

theorem Recased.map_toUpper_eq {s t : List Char} (h : Recased s t) :
    s.map Char.toUpper = t.map Char.toUpper := by
  cases h with
  | same => rfl
  | keyword w w' => simp only [List.map_append, w.map_toUpper_eq w']

namespace Line.Recased

theorem refl (l : Line) : l.Recased l := ⟨rfl, .same l.source⟩

variable {l m : Line} (hl : l.Recased m) {s t : List Char}
  (h : s.map Char.toUpper = t.map Char.toUpper)
include hl h

theorem offsetOf_eq : l.offsetOf s = m.offsetOf t := by
  rw [Line.offsetOf, Line.offsetOf, Text.lower_congr hl.source.map_toUpper_eq, Text.lower_congr h]

variable {α : Type} {R : α → α → Prop} (fault : SyntaxFault)

theorem errorAt : SameOutcome R (.error (.syntaxError (l.errorAt s fault)))
    (.error (.syntaxError (m.errorAt t fault))) := by
  rw [Line.errorAt, Line.errorAt, hl.offsetOf_eq h, hl.number]
  exact .syntaxError _ _ _ hl.source

theorem errorAtEnd : SameOutcome R (.error (.syntaxError (l.errorAtEnd s fault)))
    (.error (.syntaxError (m.errorAtEnd t fault))) := by
  rw [Line.errorAtEnd, Line.errorAtEnd, hl.offsetOf_eq h, hl.number, length_congr h]
  exact .syntaxError _ _ _ hl.source

end Line.Recased

/-! ### Arguments -/

section
variable {l m : Line} (hl : l.Recased m) {first first' : List Char}
  (hfirst : first.map Char.toUpper = first'.map Char.toUpper) (argument : List Char)
include hl hfirst

theorem number?_recased :
    SameOutcome Eq (l.number? first argument) (m.number? first' argument) := by
  unfold Line.number?
  split
  · exact hl.errorAtEnd hfirst _
  · split
    · exact hl.errorAt rfl _
    · exact .refl (fun _ => rfl) _

theorem field?_recased :
    SameOutcome Eq (l.field? first argument) (m.field? first' argument) := by
  unfold Line.field?
  split
  · exact hl.errorAtEnd hfirst _
  · dsimp only
    split
    · exact hl.errorAtEnd rfl _
    · exact .ok rfl

theorem beginRequest_recased :
    SameOutcome Eq (beginRequest l first argument) (beginRequest m first' argument) := by
  unfold beginRequest
  rw [← keywordOf?_congr hfirst]
  split
  · exact hl.errorAt hfirst _
  · split
    · exact hl.errorAtEnd hfirst _
    · rw [hl.number]
      exact .ok rfl
  · exact hl.errorAt hfirst _

theorem continueRequest_recased (r : Request) :
    SameOutcome Eq (continueRequest r l first argument) (continueRequest r m first' argument) := by
  unfold continueRequest
  rw [← keywordOf?_congr hfirst]
  split
  · exact (number?_recased hl hfirst argument).bind fun n _ h => h ▸ .ok rfl
  · exact (field?_recased hl hfirst argument).bind fun f _ h => h ▸ .ok rfl
  · exact (number?_recased hl hfirst argument).bind fun n _ h => h ▸ .ok rfl
  · exact (field?_recased hl hfirst argument).bind fun f _ h => h ▸ .ok rfl
  · exact hl.errorAt hfirst _

end

/-! ### Shapes of lines -/

theorem EndsWord.dropRightWhile {p : Char → Bool} (hp : p ' ' = false) {after : List Char}
    (h : EndsWord after) : EndsWord (Text.dropRightWhile p after) := by
  rcases h with h | ⟨rest, rfl⟩
  · exact .inl fun c hc => h c ((List.rdropWhile_prefix p after).subset hc)
  · rw [Text.dropRightWhile_cons, hp, Bool.and_false, if_neg (by simp)]
    exact .inr ⟨_, rfl⟩

namespace Source.Spelling

variable {k : Keyword} (w : Spelling k) {before after : List Char}

/-- What is dropped from the end of a line does not reach into its keyword. -/
theorem dropRightWhile_append {p : Char → Bool} (hp : ∀ c, isWordChar c = true → p c = false)
    (before after : List Char) :
    Text.dropRightWhile p (before ++ w.chars ++ after) =
      before ++ w.chars ++ Text.dropRightWhile p after := by
  obtain ⟨c, s, hc, -⟩ := w.head
  have hword : w.chars ≠ [] := hc ▸ List.cons_ne_nil c s
  have hlast : isWordChar (w.chars.getLast hword) = true :=
    w.spells.isWordChar (List.getLast_mem hword)
  refine Text.dropRightWhile_append (List.rdropWhile_eq_self_iff.2 fun hne => ?_) after
  rw [List.getLast_append_of_ne_nil hne hword, hp _ hlast]
  exact Bool.false_ne_true

theorem trim_line_eq (hbefore : ∀ c ∈ before, Text.isBlank c = true) (after : List Char) :
    Text.trim (before ++ w.chars ++ after) = w.chars ++ Text.dropRightWhile Text.isBlank after := by
  obtain ⟨c, s, hc, hfirst, -⟩ := w.head
  have hdrop := w.dropRightWhile_append (fun _ h => isBlank_of_isWordChar h) [] after
  rw [List.nil_append] at hdrop
  rw [List.append_assoc, Text.trim_append_of_blank hbefore, ← hdrop, Text.trim, hc,
    List.cons_append, List.dropWhile_cons_of_neg (by simp [hfirst])]

/-- A keyword is the first word of its line, and the rest of the line is its argument. -/
theorem shape_of_source (hbefore : ∀ c ∈ before, Text.isBlank c = true) (hafter : EndsWord after)
    {l : Line} (hl : l.source = before ++ w.chars ++ after) :
    l.shape = .words w.chars (Text.trim after) := by
  have hnospace : ' ' ∉ w.chars := w.not_mem (by decide)
  have htrim := w.trim_line_eq hbefore after
  rw [← hl] at htrim
  by_cases hblank : Text.dropRightWhile Text.isBlank after = []
  · have hsplit : Text.splitAtSpace (w.chars ++ []) = (w.chars, none) := by
      rw [List.append_nil, Text.splitAtSpace_of_not_mem hnospace]
    have hnone : Text.trim after = [] :=
      Text.trim_eq_nil_iff.2 (List.rdropWhile_eq_nil_iff.1 hblank)
    rw [hblank] at htrim
    rw [w.shape_of_splitAtSpace htrim hsplit, hnone]
    rfl
  · obtain ⟨rest, rfl⟩ := hafter.resolve_left fun h => hblank (List.rdropWhile_eq_nil_iff.2 h)
    have hspace : ∀ c ∈ [' '], Text.isBlank c = true := by simp; decide
    have hrest : Text.dropRightWhile Text.isBlank (' ' :: rest) =
        ' ' :: Text.dropRightWhile Text.isBlank rest := by
      rw [Text.dropRightWhile_cons] at hblank ⊢
      split at hblank
      · exact absurd rfl hblank
      · rename_i hsome
        rw [if_neg hsome]
    rw [hrest] at htrim
    rw [w.shape_of_splitAtSpace htrim (Text.splitAtSpace_append hnospace _), Option.getD_some,
      Text.trim_dropRightWhile fun _ h => h, ← List.singleton_append,
      Text.trim_append_of_blank hspace]

end Source.Spelling

/-- The first word of a line stands behind blanks. -/
theorem Line.exists_source_of_shape {l : Line} {first argument : List Char}
    (h : l.shape = .words first argument) :
    ∃ before after, (∀ c ∈ before, Text.isBlank c = true) ∧ EndsWord after ∧
      l.source = before ++ first ++ after := by
  obtain ⟨left, right, hleft, hright, hsource⟩ := Text.exists_trim l.source
  unfold Line.shape at h
  split at h
  · cases h
  · cases h
  · rw [Text.splitAtSpace_eq] at h
    obtain ⟨rfl, -⟩ := Shape.words.inj h
    have hsplit := List.takeWhile_append_dropWhile (p := (· != ' ')) (l := Text.trim l.source)
    refine ⟨left, (Text.trim l.source).dropWhile (· != ' ') ++ right, hleft, ?_, ?_⟩
    · cases hrest : (Text.trim l.source).dropWhile (· != ' ') with
      | nil => exact .inl hright
      | cons c rest =>
        have hspace : (c != ' ') = false :=
          Text.head_dropWhile (p := (· != ' ')) (s := Text.trim l.source) (by rw [hrest]; rfl)
        obtain rfl : c = ' ' := by simpa using hspace
        exact .inr ⟨rest ++ right, rfl⟩
    · rw [List.append_assoc left, ← List.append_assoc (List.takeWhile _ _), hsplit,
        ← List.append_assoc]
      exact hsource

/-- Every line that begins with a keyword can be written with every other spelling of it. -/
theorem exists_recased {l : Line} {k : Keyword} {w : Spelling k} {argument : List Char}
    (h : l.shape = .words w.chars argument) (w' : Spelling k) :
    ∃ t, Recased l.source t ∧ (⟨l.number, t⟩ : Line).shape = .words w'.chars argument := by
  obtain ⟨before, after, hbefore, hafter, hsource⟩ := Line.exists_source_of_shape h
  have hargument := w.shape_of_source hbefore hafter hsource
  rw [h] at hargument
  obtain ⟨-, rfl⟩ := Shape.words.inj hargument
  exact ⟨before ++ w'.chars ++ after, hsource ▸ .keyword w w' hbefore hafter,
    w'.shape_of_source hbefore hafter rfl⟩

theorem Recased.dropReturns {s t : List Char} (h : Recased s t) :
    Recased (Text.dropRightWhile (· == '\r') s) (Text.dropRightWhile (· == '\r') t) := by
  cases h with
  | same => exact .same _
  | @keyword k w w' before after hbefore hafter =>
    have hword : ∀ c, isWordChar c = true → (c == '\r') = false := by
      intro c hc
      rw [beq_eq_false_iff_ne]
      rintro rfl
      exact absurd hc (by decide)
    rw [w.dropRightWhile_append hword, w'.dropRightWhile_append hword]
    exact .keyword w w' hbefore (hafter.dropRightWhile (by decide))

theorem numberLines_recased {ls ms : List (List Char)} (h : List.Forall₂ Recased ls ms) (n : Nat) :
    List.Forall₂ Line.Recased (numberLines n ls) (numberLines n ms) := by
  induction h generalizing n with
  | nil => exact .nil
  | cons hs _ ih => exact .cons ⟨rfl, hs.dropReturns⟩ (ih (n + 1))

theorem Line.Recased.eq_or_spelling {l m : Line} (h : l.Recased m) :
    l = m ∨ ∃ (k : Keyword) (w w' : Spelling k) (before after : List Char),
      (∀ c ∈ before, Text.isBlank c = true) ∧ EndsWord after ∧
        l.source = before ++ w.chars ++ after ∧ m.source = before ++ w'.chars ++ after := by
  obtain ⟨n, s⟩ := l
  obtain ⟨n', t⟩ := m
  obtain ⟨rfl, hsource⟩ := h
  cases hsource with
  | same => exact .inl rfl
  | keyword w w' hbefore hafter => exact .inr ⟨_, w, w', _, _, hbefore, hafter, rfl, rfl⟩

/-! ### Bodies -/

theorem startsValue_of_isBlank {c : Char} (h : Text.isBlank c = true) :
    Json.startsValue c = false := by
  rw [Bool.eq_false_iff]
  intro hc
  have hsolid := (isBlank_of_startsToken (c := c) (by simp [Json.startsToken, hc])).1
  rw [h] at hsolid
  cases hsolid

/-- The letters that the plain keywords begin with begin no value. -/
theorem startsValue_of_initial {c : Char} (hc : isWordChar c = true)
    (h : c.toUpper ∈ "GPDHWS".toList) : Json.startsValue c = false := by
  have hinitial := of_isWordChar
    (fun d => d.toUpper ∈ "GPDHWS".toList → Json.startsValue d = false) (by decide +kernel) hc
  exact hinitial h

theorem Source.Spelling.capture_chars (w : Spelling .capture) :
    ∃ c s, w.chars = '[' :: c :: s ∧ (c = 'c' ∨ c = 'C') := by
  have hspell : w.chars.map Char.toUpper = '[' :: 'C' :: "APTURE]".toList := w.spells
  obtain ⟨b, t, hb, hbracket, ht⟩ := List.map_eq_cons_iff.1 hspell
  obtain ⟨c, s, rfl, hletter, -⟩ := List.map_eq_cons_iff.1 ht
  have hword : isWordChar b = true := w.spells.isWordChar (hb ▸ List.mem_cons_self)
  have hsame := of_isWordChar (fun d => d.toUpper = '[' → d = '[') (by decide +kernel) hword
  rw [hb, hsame hbracket]
  exact ⟨c, s, rfl, Json.eq_or_eq_of_toUpper_eq hletter⟩

/-- A keyword begins no value, and is refused behind the same characters in any spelling. -/
theorem exists_value_error (k : Keyword) :
    ∃ read : List Char, ∀ (w : Spelling k) (after : List Char), ∃ left,
      w.chars ++ after = read ++ left ∧
        Json.value .refuse (w.chars ++ after) = .error (.malformed .expectingValue left) := by
  by_cases hk : k = .capture
  · subst hk
    refine ⟨['['], fun w after => ?_⟩
    obtain ⟨c, s, hc, hletter⟩ := w.capture_chars
    rw [hc]
    refine ⟨c :: (s ++ after), rfl, Json.value_bracket ?_ ?_ ?_ _⟩ <;>
      rcases hletter with rfl | rfl <;> decide
  · refine ⟨[], fun w after => ⟨w.chars ++ after, rfl, ?_⟩⟩
    have hall : ∀ k ∈ Keyword.all, k ≠ .capture →
        k.spelling.toList.head?.all (· ∈ "GPDHWS".toList) = true := by decide
    have hinitial := hall k k.mem_all hk
    rw [← w.spells] at hinitial
    obtain ⟨c, s, hc, -⟩ := w.head
    have hword := w.spells.isWordChar (hc ▸ List.mem_cons_self : c ∈ w.chars)
    rw [hc]
    exact Json.value_of_not_startsValue
      (startsValue_of_initial hword (by simpa [hc] using hinitial)) _

/-- A line with a keyword is no JSON, and it is refused behind the same characters in any spelling
of the keyword: at the first blank that JSON does not have, or in the keyword. -/
theorem exists_refusal {before : List Char} (hbefore : ∀ c ∈ before, Text.isBlank c = true)
    (k : Keyword) :
    ∃ read : List Char, ∀ (w : Spelling k) (after : List Char), ∃ left,
      before ++ (w.chars ++ after) = read ++ left ∧
        Json.read .refuse (before ++ (w.chars ++ after)) =
          .error (.malformed .expectingValue left) := by
  obtain ⟨spaces, rest, rfl, hspaces, hrest⟩ : ∃ spaces rest, before = spaces ++ rest ∧
      (∀ c ∈ spaces, Json.isSpace c = true) ∧ ∀ c ∈ rest.head?, Json.isSpace c = false :=
    ⟨before.takeWhile Json.isSpace, before.dropWhile Json.isSpace,
      List.takeWhile_append_dropWhile.symm, fun _ hc => List.mem_takeWhile_imp hc,
      fun _ hc => Text.head_dropWhile hc⟩
  cases rest with
  | cons d t =>
    have hblank := hbefore d (by simp)
    refine ⟨spaces, fun w after => ⟨d :: (t ++ (w.chars ++ after)), by simp, ?_⟩⟩
    rw [List.append_assoc]
    refine Json.read_of_value_error hspaces ?_
      (Json.value_of_not_startsValue (startsValue_of_isBlank hblank) _)
    rintro c ⟨⟩
    refine ⟨hrest d rfl, ?_⟩
    rintro rfl
    exact absurd hblank (by decide)
  | nil =>
    obtain ⟨read, hread⟩ := exists_value_error k
    refine ⟨spaces ++ read, fun w after => ?_⟩
    obtain ⟨left, hleft, hvalue⟩ := hread w after
    obtain ⟨c, s, hc, -⟩ := w.head
    have hword := w.spells.isWordChar (hc ▸ List.mem_cons_self : c ∈ w.chars)
    refine ⟨left, by rw [List.append_nil, hleft, List.append_assoc], ?_⟩
    rw [List.append_nil]
    refine Json.read_of_value_error hspaces ?_ hvalue
    rw [hc]
    rintro d ⟨⟩
    constructor
    · rw [Bool.eq_false_iff]
      intro hspace
      have hblank := isBlank_of_isSpace hspace
      rw [isBlank_of_isWordChar hword] at hblank
      cases hblank
    · rintro rfl
      exact absurd hword (by decide)

theorem bodyText_eq_append (first : Line) (more : List Line) :
    bodyText first more = first.source ++ more.flatMap fun l => '\n' :: l.source := by
  induction more using List.reverseRecOn with
  | nil => simp [bodyText]
  | append_singleton more l ih =>
    rw [bodyText] at ih ⊢
    simp [ih]

theorem bodyLine_recased {first first' : Line} (h : first.Recased first') (more : List Line)
    (n : Nat) : (bodyLine first more n).Recased (bodyLine first' more n) := by
  unfold bodyLine
  generalize min n (more.length + 1) - 1 = i
  cases i with
  | zero => exact h
  | succ i =>
    rw [List.getD_cons_succ, List.getD_cons_succ]
    by_cases hi : i < more.length
    · rw [List.getD_eq_getElem _ _ hi, List.getD_eq_getElem _ _ hi]
      exact .refl _
    · have hend : more.length ≤ i := Nat.le_of_not_lt hi
      rw [List.getD_eq_default _ _ hend, List.getD_eq_default _ _ hend]
      exact h

/-- A body that is refused behind `read` shows the line and the column where that ends. -/
theorem readBody_of_refusal {first : Line} {more : List Line} {read left : List Char}
    {what : Json.Malformation} (htext : bodyText first more = read ++ left)
    (h : Json.read .refuse (bodyText first more) = .error (.malformed what left)) :
    readBody first more =
      .error (.syntaxError ⟨.malformedBody what,
        (bodyLine first more (read.count '\n' + 1)).number,
        (read.reverse.takeWhile (· != '\n')).length + 1,
        (bodyLine first more (read.count '\n' + 1)).source⟩) := by
  refine readBody_eq_error_iff.2 ⟨_, h, ?_⟩
  rw [bodyError, htext, Json.placeOf_append]

theorem readBody_recased {first first' : Line} (h : first.Recased first') (more : List Line) :
    SameOutcome Eq (readBody first more) (readBody first' more) := by
  rcases h.eq_or_spelling with rfl | ⟨k, w, w', before, after, hbefore, -, hw, hw'⟩
  · exact .refl (fun _ => rfl) _
  · obtain ⟨read, hread⟩ := exists_refusal hbefore k
    have htext : ∀ {line : Line} (v : Spelling k), line.source = before ++ v.chars ++ after →
        bodyText line more =
          before ++ (v.chars ++ (after ++ more.flatMap fun l => '\n' :: l.source)) := by
      intro line v hv
      rw [bodyText_eq_append, hv, List.append_assoc, List.append_assoc]
    obtain ⟨left, hleft, hrefused⟩ := hread w (after ++ more.flatMap fun l => '\n' :: l.source)
    obtain ⟨left', hleft', hrefused'⟩ := hread w' (after ++ more.flatMap fun l => '\n' :: l.source)
    rw [← htext w hw] at hleft hrefused
    rw [← htext w' hw'] at hleft' hrefused'
    have hline := bodyLine_recased h more (read.count '\n' + 1)
    rw [readBody_of_refusal hleft hrefused, readBody_of_refusal hleft' hrefused', hline.number]
    exact .syntaxError _ _ _ hline.source

/-! ### The reader -/

/-- The same stage. The first line of a body may differ in the letter case of its keyword. -/
inductive Stage.Recased : Stage → Stage → Prop
  | between : Recased .between .between
  | inRequest (r : Request) : Recased (.inRequest r) (.inRequest r)
  | inBody (r : Request) {first first' : Line} (h : first.Recased first') (more : List Line) :
      Recased (.inBody r first more) (.inBody r first' more)

inductive Progress.Recased : Progress → Progress → Prop
  | mk (done : List Request) {stage stage' : Stage} (h : stage.Recased stage') :
      Recased ⟨done, stage⟩ ⟨done, stage'⟩

theorem words_recased {l m : Line} (hl : l.Recased m) {first first' : List Char}
    (hfirst : first.map Char.toUpper = first'.map Char.toUpper) (argument : List Char)
    (done : List Request) (current : Option Request) :
    SameOutcome Progress.Recased (Progress.words done current l first argument)
      (Progress.words done current m first' argument) := by
  cases current with
  | none =>
    refine (beginRequest_recased hl hfirst argument).bind ?_
    rintro r _ rfl
    exact .ok (.mk done (.inRequest r))
  | some r =>
    unfold Progress.words
    dsimp only
    rw [← opensBody_congr hfirst, ← keywordOf?_congr hfirst]
    split
    · exact .ok (.mk done (.inBody r hl []))
    · split
      · refine (beginRequest_recased hl hfirst argument).bind ?_
        rintro r' _ rfl
        exact .ok (.mk _ (.inRequest r'))
      · refine (continueRequest_recased hl hfirst argument r).bind ?_
        rintro r' _ rfl
        exact .ok (.mk done (.inRequest r'))

variable {p q : Progress}

theorem Progress.Recased.closeBody (h : p.Recased q) :
    SameOutcome Progress.Recased p.closeBody q.closeBody := by
  cases h with
  | mk done h =>
    cases h with
    | between => exact .ok (.mk done .between)
    | inRequest r => exact .ok (.mk done (.inRequest r))
    | inBody r h more =>
      refine (readBody_recased h more).bind ?_
      rintro body _ rfl
      exact .ok (.mk done (.inRequest _))

theorem Progress.Recased.closeRequest (h : p.Recased q) :
    p.closeRequest.Recased q.closeRequest := by
  cases h with
  | mk done h =>
    cases h with
    | between => exact .mk done .between
    | inRequest r => exact .mk _ .between
    | inBody r h more => exact .mk done (.inBody r h more)

/-- Lines with words, the same on both sides or with the same keyword. -/
theorem step_words {l m : Line} (hp : p.Recased q) (hl : l.Recased m)
    {first first' argument : List Char} (hs : l.shape = .words first argument)
    (ht : m.shape = .words first' argument)
    (hfirst : first.map Char.toUpper = first'.map Char.toUpper)
    (hsame : keywordOf? first = none → l = m) :
    SameOutcome Progress.Recased (p.step l) (q.step m) := by
  unfold Progress.step
  rw [hs, ht]
  dsimp only
  cases hp with
  | mk done h =>
    cases h with
    | between => exact words_recased hl hfirst argument done none
    | inRequest r => exact words_recased hl hfirst argument done (some r)
    | inBody r h more =>
      dsimp only
      rw [← keywordOf?_congr hfirst]
      split
      · rename_i hnone
        rw [hsame (Option.isNone_iff_eq_none.1 hnone)]
        exact .ok (.mk done (.inBody r h _))
      · refine (readBody_recased h more).bind ?_
        rintro body _ rfl
        exact words_recased hl hfirst argument done _

theorem step_recased {l m : Line} (hp : p.Recased q) (hl : l.Recased m) :
    SameOutcome Progress.Recased (p.step l) (q.step m) := by
  rcases hl.eq_or_spelling with rfl | ⟨k, w, w', before, after, hbefore, hafter, hs, ht⟩
  · cases hshape : l.shape with
    | blank =>
      unfold Progress.step
      rw [hshape]
      exact hp.closeBody.bind fun _ _ h => .ok h.closeRequest
    | comment =>
      unfold Progress.step
      rw [hshape]
      exact .ok hp
    | words first argument => exact step_words hp hl hshape hshape rfl fun _ => rfl
  · refine step_words hp hl (w.shape_of_source hbefore hafter hs)
      (w'.shape_of_source hbefore hafter ht) (w.map_toUpper_eq w') fun h => ?_
    rw [w.keywordOf?_eq] at h
    cases h

theorem foldlM_recased {ls ms : List Line} (h : List.Forall₂ Line.Recased ls ms)
    (hp : p.Recased q) :
    SameOutcome Progress.Recased (ls.foldlM Progress.step p) (ms.foldlM Progress.step q) := by
  induction h generalizing p q with
  | nil => exact .ok hp
  | cons hl _ ih =>
    rw [List.foldlM_cons, List.foldlM_cons]
    exact (step_recased hp hl).bind fun _ _ => ih

theorem finish_recased (hp : p.Recased q) : SameOutcome Eq p.finish q.finish := by
  refine hp.closeBody.bind fun _ _ h => .ok ?_
  have hdone : ∀ {p q : Progress}, p.Recased q → p.done = q.done := by
    rintro _ _ ⟨⟩
    rfl
  exact hdone h.closeRequest

theorem readLines_recased {ls ms : List Line} (h : List.Forall₂ Line.Recased ls ms) :
    SameOutcome Eq (readLines ls) (readLines ms) :=
  (foldlM_recased h (.mk [] .between)).bind fun _ _ => finish_recased

/-- Scripts that differ in the letter case of keywords only are read as the same requests, or give
the same error at the same place. -/
theorem readScript_recased {text text' : List Char}
    (h : List.Forall₂ Recased (Text.splitOn '\n' text) (Text.splitOn '\n' text')) :
    SameOutcome Eq (readScript text) (readScript text') :=
  readLines_recased (numberLines_recased h 1)

/-- A body that begins with a keyword in brackets. -/
def bracketedScript : List Char := "get /a\n [capture] 1".toList

/-- Letters in another case change neither the line nor the column of the error in the body. -/
theorem readScript_recased_bracketed :
    List.Forall₂ Recased (Text.splitOn '\n' bracketedScript)
        (Text.splitOn '\n' "GeT /a\n [Capture] 1".toList) ∧
      readScript bracketedScript =
        .error (.syntaxError ⟨.malformedBody .expectingValue, 2, 3, " [capture] 1".toList⟩) ∧
      SameOutcome Eq (readScript bracketedScript)
        (readScript "GeT /a\n [Capture] 1".toList) := by
  have hmethod : Recased "get /a".toList "GeT /a".toList :=
    @Recased.keyword (.method .get) ⟨"get".toList, by decide⟩ ⟨"GeT".toList, by decide⟩
      [] " /a".toList (by simp) (.inr ⟨_, rfl⟩)
  have hcapture : Recased " [capture] 1".toList " [Capture] 1".toList :=
    @Recased.keyword .capture ⟨"[capture]".toList, by decide⟩ ⟨"[Capture]".toList, by decide⟩
      [' '] " 1".toList (by simp; decide) (.inr ⟨_, rfl⟩)
  have hlines : List.Forall₂ Recased (Text.splitOn '\n' bracketedScript)
      (Text.splitOn '\n' "GeT /a\n [Capture] 1".toList) :=
    .cons hmethod (.cons hcapture .nil)
  exact ⟨hlines, by cbv, readScript_recased hlines⟩

end HttpScript
