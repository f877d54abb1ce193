import HttpScript.Proofs.Script.Outcome
import HttpScript.Proofs.Script.Places
import HttpScript.Proofs.Script.Problems
import HttpScript.Proofs.Text.Search

/-!
# Where a syntax error points

An error of a line names a part of it that is looked up in lower case, and it is found: the part
stands between blanks, and neither the blanks nor the keyword before it become longer in lower case.
An error of a body names a place in one of its lines. So every error points at a character of a line
with words, or just behind its end, and the caret shows this column.
-/
namespace HttpScript

/-! ### Numbers and texts of lines -/

theorem exists_getElem?_of_mem_numberLines {n : Nat} {ls : List (List Char)} {l : Line}
    (h : l ∈ numberLines n ls) :
    ∃ i s, ls[i]? = some s ∧ l = ⟨n + i, Text.dropRightWhile (· == '\r') s⟩ := by
  induction ls generalizing n with
  | nil => cases h
  | cons s ls ih =>
    rcases List.mem_cons.1 h with rfl | h
    · exact ⟨0, s, rfl, rfl⟩
    · obtain ⟨i, t, ht, rfl⟩ := ih h
      exact ⟨i + 1, t, ht, by rw [Nat.add_assoc, Nat.add_comm 1 i]⟩

/-- The number of a line of a script tells where it stands. -/
theorem number_of_mem_scriptLines {text : List Char} {l : Line} (h : l ∈ scriptLines text) :
    1 ≤ l.number ∧ l.number ≤ (Text.splitOn '\n' text).length ∧
      (Text.splitOn '\n' text)[l.number - 1]?.map (Text.dropRightWhile (· == '\r')) =
        some l.source := by
  obtain ⟨i, s, hs, rfl⟩ := exists_getElem?_of_mem_numberLines h
  obtain ⟨hi, -⟩ := List.getElem?_eq_some_iff.1 hs
  refine ⟨Nat.le_add_right 1 i, by dsimp only; omega, ?_⟩
  rw [Nat.add_sub_cancel_left, hs]
  rfl

theorem Line.exists_shape {l : Line} (h : l.hasWords = true) :
    ∃ first argument, l.shape = .words first argument := by
  unfold hasWords at h
  split at h
  · exact ⟨_, _, ‹_›⟩
  · cases h

theorem Line.hasWords_of_shape {l : Line} {first argument : List Char}
    (h : l.shape = .words first argument) : l.hasWords = true := by
  rw [hasWords, h]

theorem Line.trim_ne_nil {l : Line} (h : l.hasWords = true) : Text.trim l.source ≠ [] := by
  intro htrim
  obtain ⟨first, argument, hshape⟩ := exists_shape h
  rw [shape, htrim] at hshape
  cases hshape

/-! ### Parts of a line -/

/-- What an error of a line points at: its first word, or behind a keyword the argument or the first
word of the argument. -/
inductive Line.HasPart (l : Line) : List Char → Prop
  | first {first argument : List Char} (shape : l.shape = .words first argument) : HasPart l first
  | argument {first argument : List Char} {k : Keyword} (shape : l.shape = .words first argument)
      (word : keywordOf? first = some k) (some : argument ≠ []) : HasPart l argument
  | name {first argument : List Char} {k : Keyword} (shape : l.shape = .words first argument)
      (word : keywordOf? first = some k) (some : argument ≠ []) :
      HasPart l (Text.splitAtSpace argument).1

/-- A part of a text with blanks or nothing on both sides. What stands before it is as long in lower
case. -/
structure StandsBetween (before part after : List Char) : Prop where
  ne_nil : part ≠ []
  last : ∀ c ∈ before.getLast?, Text.isBlank c = true
  head : ∀ c ∈ after.head?, Text.isBlank c = true
  narrow : ∀ c ∈ before, c.toNat ≠ 0x130

/-- The part is found in lower case, and it ends within the text. -/
theorem StandsBetween.exists_find? {before part after : List Char}
    (h : StandsBetween before part after) :
    ∃ k, Text.find? (Text.lower part) (Text.lower (before ++ (part ++ after))) = some k ∧
      k + part.length ≤ (before ++ (part ++ after)).length := by
  obtain ⟨k, hk, hfind⟩ : ∃ k ≤ (Text.lower before).length,
      Text.find? (Text.lower part) (Text.lower (before ++ (part ++ after))) = some k :=
    Text.exists_find?_lower h.last h.head
  rw [Text.length_lower h.narrow] at hk
  refine ⟨k, hfind, ?_⟩
  rw [List.length_append, List.length_append]
  omega

theorem EndsWord.isBlank_head {after : List Char} (h : EndsWord after) :
    ∀ c ∈ after.head?, Text.isBlank c = true := by
  rcases h with h | ⟨rest, rfl⟩
  · exact fun c hc => h c (List.mem_of_mem_head? hc)
  · rintro c ⟨⟩
    decide

/-- What follows a first word begins with a blank before its argument. -/
theorem EndsWord.exists_trim {after : List Char} (h : EndsWord after) (hne : Text.trim after ≠ []) :
    ∃ left right, after = left ++ (Text.trim after ++ right) ∧ left ≠ [] ∧
      (∀ c ∈ left, Text.isBlank c = true) ∧ ∀ c ∈ right, Text.isBlank c = true := by
  obtain ⟨left, right, hleft, hright, hafter⟩ := Text.exists_trim after
  rw [List.append_assoc] at hafter
  refine ⟨left, right, hafter, ?_, hleft, hright⟩
  rintro rfl
  obtain ⟨c, t, ht⟩ := List.exists_cons_of_ne_nil hne
  have hsolid : Text.isBlank c = false := Text.head_trim (s := after) (by rw [ht]; rfl)
  have hblank := h.isBlank_head c (by rw [hafter, ht]; rfl)
  rw [hsolid] at hblank
  cases hblank

/-- Behind a keyword the argument stands between blanks. -/
theorem Line.exists_argument {l : Line} {first argument : List Char} {k : Keyword}
    (h : l.shape = .words first argument) (hword : keywordOf? first = some k)
    (hne : argument ≠ []) :
    ∃ before after, l.source = before ++ (argument ++ after) ∧
      StandsBetween before argument after := by
  obtain ⟨blanks, rest, hblanks, hends, hsource⟩ := l.exists_source_of_shape h
  set word : Source.Spelling k := ⟨first, keywordOf?_eq_some_iff.1 hword⟩
  have hargument := word.shape_of_source hblanks hends hsource
  rw [h] at hargument
  obtain ⟨-, rfl⟩ := Shape.words.inj hargument
  obtain ⟨left, right, hrest, hgap, hleft, hright⟩ := hends.exists_trim hne
  refine ⟨blanks ++ first ++ left, right, ?_, hne, ?_, ?_, ?_⟩
  · rw [hsource, List.append_assoc _ left, ← hrest]
  · intro c hc
    rw [List.getLast?_append_of_ne_nil _ hgap] at hc
    exact hleft c (List.mem_of_mem_getLast? hc)
  · exact fun c hc => hright c (List.mem_of_mem_head? hc)
  · intro c hc
    rcases List.mem_append.1 hc with hc | hc
    · rcases List.mem_append.1 hc with hc | hc
      · exact Text.toNat_ne_of_isBlank (hblanks c hc)
      · have := toNat_lt_of_isWordChar (word.spells.isWordChar hc)
        omega
    · exact Text.toNat_ne_of_isBlank (hleft c hc)

/-- The first word of a part stands between blanks, too. -/
theorem StandsBetween.splitAtSpace {before part after : List Char}
    (h : StandsBetween before part after) (hpart : Text.trim part = part) :
    ∃ rest, part = (Text.splitAtSpace part).1 ++ rest ∧
      StandsBetween before (Text.splitAtSpace part).1 (rest ++ after) := by
  obtain ⟨c, t, hc⟩ := List.exists_cons_of_ne_nil h.ne_nil
  have hsolid : Text.isBlank c = false := (Text.trim_eq_self_iff.1 hpart).1 c (by rw [hc]; rfl)
  have hspace : (c != ' ') = true := by
    rw [bne_iff_ne]
    rintro rfl
    exact absurd hsolid (by decide)
  rw [Text.splitAtSpace_eq]
  refine ⟨part.dropWhile (· != ' '), List.takeWhile_append_dropWhile.symm, ?_, h.last, ?_, h.narrow⟩
  · rw [hc]
    dsimp only
    rw [List.takeWhile_cons_of_pos (p := (· != ' ')) hspace]
    exact List.cons_ne_nil _ _
  · intro d hd
    cases hrest : part.dropWhile (· != ' ') with
    | nil => exact h.head d (by rwa [hrest] at hd)
    | cons b u =>
      have hb : (b != ' ') = false :=
        Text.head_dropWhile (p := (· != ' ')) (s := part) (by rw [hrest]; rfl)
      rw [hrest] at hd
      obtain rfl : b = d := Option.some.inj hd
      obtain rfl : b = ' ' := by simpa using hb
      decide

theorem Line.HasPart.exists_source {l : Line} {part : List Char} (h : l.HasPart part) :
    ∃ before after, l.source = before ++ (part ++ after) ∧ StandsBetween before part after := by
  cases h with
  | first shape =>
    obtain ⟨blanks, rest, hblanks, hends, hsource⟩ := l.exists_source_of_shape shape
    obtain ⟨c, s, rfl, -⟩ := first_of_shape shape
    refine ⟨blanks, rest, by rw [hsource, List.append_assoc], List.cons_ne_nil c s,
      fun d hd => hblanks d (List.mem_of_mem_getLast? hd), hends.isBlank_head,
      fun d hd => Text.toNat_ne_of_isBlank (hblanks d hd)⟩
  | argument shape word some => exact exists_argument shape word some
  | @name _ argument _ shape word some =>
    obtain ⟨before, after, hsource, hstands⟩ := exists_argument shape word some
    obtain ⟨rest, hargument, hname⟩ := hstands.splitAtSpace (trim_of_shape shape)
    refine ⟨before, rest ++ after, ?_, hname⟩
    rw [hsource, ← List.append_assoc _ rest, ← hargument]

/-- Every part is found, and it ends within the line. -/
theorem Line.HasPart.exists_find? {l : Line} {part : List Char} (h : l.HasPart part) :
    ∃ k, Text.find? (Text.lower part) (Text.lower l.source) = some k ∧
      k + part.length ≤ l.source.length := by
  -- it may be found further to the left, inside of the keyword
  obtain ⟨before, after, hsource, hstands⟩ := h.exists_source
  rw [hsource]
  exact hstands.exists_find?

theorem Line.HasPart.ne_nil {l : Line} {part : List Char} (h : l.HasPart part) : part ≠ [] := by
  obtain ⟨before, after, -, hstands⟩ := h.exists_source
  exact hstands.ne_nil

theorem Line.HasPart.hasWords {l : Line} {part : List Char} (h : l.HasPart part) :
    l.hasWords = true := by
  cases h with
  | first shape | argument shape | name shape => exact hasWords_of_shape shape

/-! ### Errors of lines -/

/-- The fault is one of a body. -/
def SyntaxFault.isOfBody : SyntaxFault → Bool
  | .malformedBody _ | .nonFiniteBody _ => true
  | _ => false

/-- What the reader reports about a line alone: a fault at the first or the last character of one of
its parts. -/
inductive Line.Reports (l : Line) : SyntaxError → Prop
  | first {part : List Char} {fault : SyntaxFault} (isPart : l.HasPart part)
      (plain : fault.isOfBody = false) : Reports l (l.errorAt part fault)
  | last {part : List Char} {fault : SyntaxFault} (isPart : l.HasPart part)
      (plain : fault.isOfBody = false) : Reports l (l.errorAtEnd part fault)

section

variable {l : Line} {w argument : List Char} {k : Keyword} {e : SyntaxError}

theorem Line.reports_of_number? (hl : l.shape = .words w argument) (hw : keywordOf? w = some k)
    (h : l.number? w argument = .error (.syntaxError e)) : l.Reports e := by
  unfold number? at h
  split at h
  · cases h
    exact .last (.first hl) rfl
  · rename_i hne
    split at h
    · cases h
      exact .first (.argument hl hw (by simpa using hne)) rfl
    · split at h <;> cases h

theorem Line.reports_of_field? (hl : l.shape = .words w argument) (hw : keywordOf? w = some k)
    (h : l.field? w argument = .error (.syntaxError e)) : l.Reports e := by
  unfold field? at h
  split at h
  · cases h
    exact .last (.first hl) rfl
  · rename_i hne
    dsimp only at h
    split at h
    · cases h
      exact .last (.name hl hw (by simpa using hne)) rfl
    · cases h

theorem reports_of_beginRequest (hl : l.shape = .words w argument)
    (h : beginRequest l w argument = .error (.syntaxError e)) : l.Reports e := by
  unfold beginRequest at h
  split at h
  · cases h
    exact .first (.first hl) rfl
  · split at h
    · cases h
      exact .last (.first hl) rfl
    · cases h
  · cases h
    exact .first (.first hl) rfl

theorem reports_of_continueRequest {r : Request} (hl : l.shape = .words w argument)
    (h : continueRequest r l w argument = .error (.syntaxError e)) : l.Reports e := by
  unfold continueRequest at h
  split at h
  · rename_i hw
    exact Line.reports_of_number? hl hw (eq_error_of_bind_pure h)
  · rename_i hw
    exact Line.reports_of_field? hl hw (eq_error_of_bind_pure h)
  · rename_i hw
    exact Line.reports_of_number? hl hw (eq_error_of_bind_pure h)
  · rename_i hw
    exact Line.reports_of_field? hl hw (eq_error_of_bind_pure h)
  · cases h
    exact .first (.first hl) rfl

end

/-! ### Where errors are placed -/

/-- How an error is placed in one of the lines. What is searched for is always found. -/
inductive SyntaxError.Located (lines : List Line) (e : SyntaxError) : Prop
  /-- At the first or the last character of a part of a line, where the search finds the part. -/
  | part {l : Line} {part : List Char} {k : Nat} (line : l ∈ lines) (isPart : l.HasPart part)
      (found : Text.find? (Text.lower part) (Text.lower l.source) = some k)
      (placed : e = l.errorAt part e.fault ∧ e.column = k + 1 ∨
        e = l.errorAtEnd part e.fault ∧ e.column = k + part.length)
  /-- At a literal that JSON does not have, where a line of a body holds it. -/
  | literal {l : Line} {what : Json.NonFinite} {k : Nat} (line : l ∈ lines)
      (words : l.hasWords = true) (found : Text.find? what.literal.toList l.source = some k)
      (placed : e = ⟨.nonFiniteBody what, l.number, k + 1, l.source⟩)
  /-- At the place in the lines of a body where the decoder stops. -/
  | place {first : Line} {more : List Line} {what : Json.Malformation}
      (body : ∀ l ∈ first :: more, l ∈ lines ∧ l.hasWords = true) (p : Place (first :: more))
      (refused : Json.read .refuse (bodyText first more) = .error (.malformed what p.left))
      (placed : e = ⟨.malformedBody what, p.line.number, p.column + 1, p.line.source⟩)

theorem Line.Reports.located {l : Line} {e : SyntaxError} (h : l.Reports e) {lines : List Line}
    (hl : l ∈ lines) : e.Located lines := by
  cases h with
  | @first part fault isPart =>
    obtain ⟨k, hfind, -⟩ := isPart.exists_find?
    refine .part hl isPart hfind (.inl ⟨rfl, ?_⟩)
    simp only [errorAt, offsetOf, hfind, Option.getD_some]
  | @last part fault isPart =>
    obtain ⟨k, hfind, -⟩ := isPart.exists_find?
    have hlength := List.length_pos_iff.2 isPart.ne_nil
    refine .part hl isPart hfind (.inr ⟨rfl, ?_⟩)
    simp only [errorAtEnd, offsetOf, hfind, Option.getD_some]
    omega

theorem not_mem_literal (what : Json.NonFinite) : '\n' ∉ what.literal.toList := by
  cases what <;> decide

/-- A literal that is refused stands in one of the lines of the body. -/
theorem exists_line_of_nonFinite {first : Line} {more : List Line} {what : Json.NonFinite}
    {left : List Char}
    (h : Json.read .refuse (bodyText first more) = .error (.nonFinite what left)) :
    ∃ l k, (first :: more).find? (fun l => (Text.find? what.literal.toList l.source).isSome) =
      some l ∧ Text.find? what.literal.toList l.source = some k := by
  obtain ⟨hliteral, hleft⟩ := Json.standsIn_of_read h
  have htext := hliteral.isInfix.trans hleft.isInfix
  rw [bodyText_eq] at htext
  obtain ⟨s, hs, before, after, hsource⟩ :=
    Text.exists_infix_of_intercalate (not_mem_literal what) (by simp) htext
  obtain ⟨m, hm, rfl⟩ := List.mem_map.1 hs
  have hsome : ((first :: more).find?
      fun l => (Text.find? what.literal.toList l.source).isSome).isSome := by
    rw [List.find?_isSome]
    obtain ⟨k, -, hk⟩ := Text.exists_find?_le what.literal.toList after before
    exact ⟨m, hm, by rw [← hsource, List.append_assoc, hk]; rfl⟩
  obtain ⟨l, hl⟩ := Option.isSome_iff_exists.1 hsome
  have hfind := List.find?_some hl
  obtain ⟨k, hk⟩ := Option.isSome_iff_exists.1 hfind
  exact ⟨l, k, hl, hk⟩

theorem located_of_readBody {lines : List Line} {first : Line} {more : List Line} {e : SyntaxError}
    (hlines : ∀ l ∈ first :: more, l ∈ lines ∧ l.hasWords = true)
    (hbreak : ∀ l ∈ first :: more, '\n' ∉ l.source)
    (h : readBody first more = .error (.syntaxError e)) : e.Located lines := by
  obtain ⟨fault, hread, herror⟩ := readBody_eq_error_iff.1 h
  cases fault with
  | malformed what left =>
    have hfault : e.fault = .malformedBody what := by
      cases herror
      rfl
    obtain ⟨p, hp, rfl⟩ := (readBody_eq_malformed_iff hbreak).1 ⟨h, hfault⟩
    exact .place hlines p hp rfl
  | nonFinite what left =>
    obtain ⟨l, k, hl, hk⟩ := exists_line_of_nonFinite hread
    have hmem := hlines l (List.mem_of_find?_eq_some hl)
    simp only [bodyError, hl, hk, Option.getD_some, Option.map_some] at herror
    cases herror
    exact .literal hmem.1 hmem.2 hk rfl
  | longInteger digits => cases herror

theorem ScriptFault.From.located {lines : List Line} {e : SyntaxError}
    (hbreak : ∀ l ∈ lines, '\n' ∉ l.source) (h : (syntaxError e).From lines) :
    e.Located lines := by
  cases h with
  | outside line shape fails => exact (reports_of_beginRequest shape fails).located line
  | inside line shape opens fails => exact (reports_of_continueRequest shape fails).located line
  | @body first more _ _ lines shape opens continues fails =>
    refine located_of_readBody (fun l hl => ⟨lines l hl, ?_⟩) (fun l hl => hbreak l (lines l hl))
      fails
    rcases List.mem_cons.1 hl with rfl | hl
    · exact Line.hasWords_of_shape shape
    · obtain ⟨w, argument, hshape, -⟩ := continues l hl
      exact Line.hasWords_of_shape hshape

/-- An error shows one of the lines, which has words, and a column in it or just behind its end. -/
theorem SyntaxError.Located.exists_line {lines : List Line} {e : SyntaxError}
    (h : e.Located lines) :
    ∃ l ∈ lines, l.hasWords = true ∧ e.line = l.number ∧ e.source = l.source ∧
      1 ≤ e.column ∧ e.column ≤ e.source.length + 1 := by
  cases h with
  | @part l part k line isPart found placed =>
    obtain ⟨k', hfind, hend⟩ := isPart.exists_find?
    obtain rfl : k = k' := Option.some.inj (found.symm.trans hfind)
    have hlength := List.length_pos_iff.2 isPart.ne_nil
    obtain ⟨hline, hsource⟩ : e.line = l.number ∧ e.source = l.source := by
      rcases placed with ⟨he, -⟩ | ⟨he, -⟩ <;> rw [he] <;> exact ⟨rfl, rfl⟩
    refine ⟨l, line, isPart.hasWords, hline, hsource, ?_, ?_⟩
    · rcases placed with ⟨-, hc⟩ | ⟨-, hc⟩ <;> omega
    · rw [hsource]
      rcases placed with ⟨-, hc⟩ | ⟨-, hc⟩ <;> omega
  | @literal l what k line words found placed =>
    have hne : what.literal.toList ≠ [] := by cases what <;> decide
    have hend := Text.add_length_le_of_find? hne found
    rw [placed]
    refine ⟨l, line, words, rfl, rfl, Nat.le_add_left 1 k, ?_⟩
    dsimp only
    omega
  | place body p refused placed =>
    obtain ⟨hmem, hwords⟩ := body p.line p.line_mem
    rw [placed]
    exact ⟨p.line, hmem, hwords, rfl, rfl, Nat.le_add_left 1 _, Nat.succ_le_succ p.column_le⟩

/-! ### What is shown -/

/-- Joined texts are cut again, the last of them as they are if they hold no separator. -/
theorem Text.splitOn_intercalate_append {sep : Char} (us : List (List Char))
    {vs : List (List Char)} (hvs : ∀ v ∈ vs, sep ∉ v) (hne : vs ≠ []) :
    ([sep].intercalate (us ++ vs)).splitOn sep = us.flatMap (·.splitOn sep) ++ vs := by
  induction us with
  | nil => exact List.splitOn_intercalate _ hvs hne
  | cons u us ih =>
    obtain ⟨w, ws, hw⟩ := List.exists_cons_of_ne_nil (l := us ++ vs) (by simp [hne])
    rw [hw] at ih
    rw [List.cons_append, hw, List.intercalate_cons_cons, List.append_assoc, List.singleton_append,
      List.splitOn_append_cons_self, ih, List.flatMap_cons, List.append_assoc]

theorem not_mem_toString (n : Nat) : '\n' ∉ (toString (n : Int)).toList := by
  intro h
  have hdigit : '\n'.isDigit = true := by
    change '\n' ∈ (String.ofList (Nat.toDigits 10 n)).toList at h
    rw [String.toList_ofList] at h
    exact Json.isDigit_of_mem_toDigits h
  exact absurd hdigit (by decide)

theorem not_mem_append {c : Char} {s t u : String} (hs : c ∉ s.toList) (ht : c ∉ t.toList)
    (hu : c ∉ u.toList) : c ∉ (s ++ t ++ u).toList := by
  rw [String.toList_append, String.toList_append, List.mem_append, List.mem_append, not_or, not_or]
  exact ⟨⟨hs, ht⟩, hu⟩

/-- Every message is one line. -/
theorem SyntaxFault.not_mem_message (fault : SyntaxFault) : '\n' ∉ fault.message.toList := by
  cases fault with
  | malformedBody what =>
    have hwhat : '\n' ∉ what.message.toList := by cases what <;> decide
    exact not_mem_append (by decide) hwhat (by decide)
  | nonFiniteBody what =>
    exact not_mem_append (by decide) (not_mem_literal what) (by decide)
  | _ => decide

namespace Diagnostic

/-- The line that is shown, behind its number. -/
def shown (d : Diagnostic) : List Char := d.margin.toList ++ d.source.toList

/-- Blanks up to the column, and the caret below it. -/
def caret (d : Diagnostic) : List Char :=
  List.replicate (d.margin.length + d.column - 1).toNat ' ' ++ ['^']

/-- The lines of what is shown end with the source line, the caret and the message. -/
theorem exists_lines_render (d : Diagnostic) (hmargin : '\n' ∉ d.margin.toList)
    (hsource : '\n' ∉ d.source.toList) (hmessage : '\n' ∉ d.message.toList) :
    ∃ heading, Text.splitOn '\n' d.render.toList =
      heading ++ [d.shown, d.caret, d.message.toList] := by
  have hlast : ∀ v ∈ [d.shown, d.caret, d.message.toList], '\n' ∉ v := by
    simp [shown, caret, hmargin, hsource, hmessage, List.mem_replicate]
  obtain ⟨above, habove⟩ : ∃ above, d.render = "\n".intercalate (above ++
      [d.margin ++ d.source, String.ofList d.caret, d.message]) := by
    have hcaret : String.ofList d.caret =
        String.ofList (List.replicate (d.margin.length + d.column - 1).toNat ' ') ++ "^" := by
      rw [caret, String.ofList_append]
    rw [hcaret]
    exact ⟨_ ++ [_], congrArg (String.intercalate "\n") (List.append_assoc _ [_] _).symm⟩
  have hus : d.render.toList = ['\n'].intercalate
      (above.map String.toList ++ [d.shown, d.caret, d.message.toList]) := by
    have hcaret : (String.ofList d.caret).toList = d.caret := String.toList_ofList
    rw [habove, String.toList_intercalate, List.map_append, List.map_cons, List.map_cons,
      List.map_singleton, String.toList_append, hcaret]
    rfl
  rw [Text.splitOn_eq, hus, Text.splitOn_intercalate_append _ hlast (by simp)]
  exact ⟨_, rfl⟩

end Diagnostic

/-- The caret stands under the column of the source line that is shown above it. -/
theorem SyntaxError.exists_caret (e : SyntaxError) (path : Option String) (hcolumn : 1 ≤ e.column)
    (hsource : '\n' ∉ e.source) :
    ∃ heading margin, Text.splitOn '\n' (e.diagnostic path).render.toList =
        heading ++ [margin ++ e.source,
          List.replicate (margin.length + (e.column - 1)) ' ' ++ ['^'],
          e.fault.message.toList] ∧
      (margin ++ e.source)[margin.length + (e.column - 1)]? = e.source[e.column - 1]? := by
  set d := e.diagnostic path with hd
  have hmargin : '\n' ∉ d.margin.toList :=
    not_mem_append (by decide) (not_mem_toString e.line) (by decide)
  have hshown : d.source.toList = e.source := String.toList_ofList
  obtain ⟨heading, hlines⟩ := d.exists_lines_render hmargin (by rwa [hshown])
    e.fault.not_mem_message
  have hcaret : (d.margin.length + d.column - 1).toNat =
      d.margin.toList.length + (e.column - 1) := by
    have hwidth : d.margin.length = d.margin.toList.length := d.margin.length_toList.symm
    have hsame : d.column = (e.column : Int) := rfl
    rw [hsame, hwidth]
    omega
  refine ⟨heading, d.margin.toList, ?_, ?_⟩
  · rw [hlines, Diagnostic.shown, Diagnostic.caret, hcaret, hshown]
    rfl
  · rw [List.getElem?_append_right (Nat.le_add_right _ _), Nat.add_sub_cancel_left]

/-- Every syntax error shows a line of the script and points at one of its characters, or just
behind its end. What it looks for in the line is found, and the caret stands under the column. -/
theorem syntaxError_points {text : List Char} {e : SyntaxError}
    (h : readScript text = .error (.syntaxError e)) :
    (1 ≤ e.line ∧ e.line ≤ (Text.splitOn '\n' text).length ∧
      (Text.splitOn '\n' text)[e.line - 1]?.map (Text.dropRightWhile (· == '\r')) =
        some e.source ∧
      Text.trim e.source ≠ []) ∧
    (1 ≤ e.column ∧ e.column ≤ e.source.length + 1) ∧
    (∀ path, ∃ heading margin, Text.splitOn '\n' (e.diagnostic path).render.toList =
        heading ++ [margin ++ e.source,
          List.replicate (margin.length + (e.column - 1)) ' ' ++ ['^'],
          e.fault.message.toList] ∧
      (margin ++ e.source)[margin.length + (e.column - 1)]? = e.source[e.column - 1]?) ∧
    e.Located (scriptLines text) ∧
    ∀ l ∈ scriptLines text, ∀ part, l.HasPart part →
      (Text.find? (Text.lower part) (Text.lower l.source)).isSome := by
  have hbreak : ∀ l ∈ scriptLines text, '\n' ∉ l.source := fun _ hl =>
    Line.not_mem_of_mem_scriptLines hl
  have hlocated : e.Located (scriptLines text) := (readLines_fault h).located hbreak
  obtain ⟨l, hl, hwords, hline, hsource, hcolumn, hend⟩ := hlocated.exists_line
  obtain ⟨hfirst, hlast, htext⟩ := number_of_mem_scriptLines hl
  rw [← hline, ← hsource] at htext
  rw [← hline] at hfirst hlast
  have hsolid : Text.trim e.source ≠ [] := hsource ▸ Line.trim_ne_nil hwords
  have hshown : '\n' ∉ e.source := hsource ▸ hbreak l hl
  refine ⟨⟨hfirst, hlast, htext, hsolid⟩, ⟨hcolumn, hend⟩,
    fun path => e.exists_caret path hcolumn hshown, hlocated, fun m _ part hpart => ?_⟩
  obtain ⟨k, hk, -⟩ := hpart.exists_find?
  rw [hk]
  rfl

/-- A name that becomes longer in lower case, without a value. -/
def dottedScript : List Char := "get /a\n\tHeader İx".toList

/-- The name is found behind the keyword, and the error stands at its last character. -/
theorem syntaxError_points_dotted :
    readScript dottedScript =
        .error (.syntaxError ⟨.expectedValue, 2, 10, "\tHeader İx".toList⟩) ∧
      (SyntaxError.mk .expectedValue 2 10 "\tHeader İx".toList).Located
        (scriptLines dottedScript) := by
  have hread : readScript dottedScript =
      .error (.syntaxError ⟨.expectedValue, 2, 10, "\tHeader İx".toList⟩) := by
    cbv
  exact ⟨hread, (syntaxError_points hread).2.2.2.1⟩

end HttpScript
