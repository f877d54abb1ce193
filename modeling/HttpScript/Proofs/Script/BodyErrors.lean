import HttpScript.Proofs.Script.Columns

/-!
# Where the error of a body points

A body goes on from the line that opens it to the first line that ends it, and its text leaves out
the comments in between. So a place in the text lies on a line of the script whose number cannot be
counted from the first line of the body alone. The error shows this line, and on it the character
that the decoder rejects.
-/
namespace HttpScript

/-- The line ends a body that is open above it: it is blank, or it begins with a keyword. -/
def Line.EndsBody (l : Line) : Prop :=
  l.shape = .blank ∨
    ∃ first argument k, l.shape = .words first argument ∧ keywordOf? first = some k

/-- The lines of a body of a script. Above them everything is read, the first of them opens the
body, and the others are those with words up to a line that ends the body, or to the last line. -/
inductive IsBody (lines : List Line) (first : Line) (more : List Line) : Prop
  | intro {above inside below : List Line} {done : List Request} {r : Request}
      (split : lines = above ++ first :: (inside ++ below))
      (opens : (above ++ [first]).foldlM Progress.step Progress.start =
        .ok ⟨done, .inBody r first []⟩)
      (goesOn : ∀ l ∈ inside, ¬ l.EndsBody)
      (kept : more = inside.filter Line.hasWords)
      (ends : ∀ l ∈ below.head?, l.EndsBody)

/-! ### What the reader does within a body -/

namespace Progress

variable {p : Progress} {done done' : List Request} {r : Request} {l first : Line}
  {more inside : List Line} {w argument : List Char} {fault : ScriptFault}

/-- A line that does not end the body is kept if it has words. -/
theorem step_goesOn (h : ¬ l.EndsBody) :
    step ⟨done, .inBody r first more⟩ l =
      .ok ⟨done, .inBody r first (more ++ [l].filter Line.hasWords)⟩ := by
  cases hl : l.shape with
  | blank => exact absurd (.inl hl) h
  | comment =>
    have hskip : [l].filter Line.hasWords = [] := by simp [Line.hasWords, hl]
    rw [step, hl, hskip, List.append_nil]
  | words w argument =>
    have hkept : [l].filter Line.hasWords = [l] := by simp [Line.hasWords, hl]
    have hword : keywordOf? w = none := by
      rw [Option.eq_none_iff_forall_ne_some]
      exact fun k hk => h (.inr ⟨w, argument, k, hl, hk⟩)
    simp only [step, hl, hkept, hword, Option.isNone_none, if_true]

theorem foldlM_goesOn (h : ∀ l ∈ inside, ¬ l.EndsBody) (more : List Line) :
    inside.foldlM step ⟨done, .inBody r first more⟩ =
      .ok ⟨done, .inBody r first (more ++ inside.filter Line.hasWords)⟩ := by
  induction inside generalizing more with
  | nil => simp [pure, Except.pure]
  | cons l inside ih =>
    have hrest := ih (fun m hm => h m (List.mem_cons_of_mem l hm))
      (more ++ [l].filter Line.hasWords)
    rw [List.append_assoc, ← List.filter_append, List.singleton_append] at hrest
    rw [List.foldlM_cons, step_goesOn (h l List.mem_cons_self)]
    exact hrest

/-- A line that ends the body gives the error of the body. -/
theorem step_ends (h : l.EndsBody) (hread : readBody first more = .error fault) :
    step ⟨done, .inBody r first more⟩ l = .error fault := by
  rcases h with hl | ⟨w, argument, k, hl, hword⟩
  · rw [step, hl]
    simp only [closeBody, hread]
    rfl
  · simp only [step, hl, hword, Option.isNone_some, Bool.false_eq_true, if_false, hread]
    rfl

/-! ### How the reader comes to be within a body -/

theorem words_inBody {current : Option Request}
    (h : words done current l w argument = .ok ⟨done', .inBody r first more⟩) :
    first = l ∧ more = [] := by
  unfold words at h
  split at h
  · obtain ⟨q, -, hq⟩ := bind_eq_ok_iff.1 h
    cases hq
  · split at h
    · cases h
      exact ⟨rfl, rfl⟩
    · split at h
      · obtain ⟨q, -, hq⟩ := bind_eq_ok_iff.1 h
        cases hq
      · obtain ⟨q, -, hq⟩ := bind_eq_ok_iff.1 h
        cases hq

/-- After a line the reader is within a body if the line opens it, or if it does not end the body
that was open before. -/
theorem step_inBody (h : p.step l = .ok ⟨done, .inBody r first more⟩) :
    (first = l ∧ more = []) ∨
      ∃ before, p = ⟨done, .inBody r first before⟩ ∧ ¬ l.EndsBody ∧
        more = before ++ [l].filter Line.hasWords := by
  by_cases hends : l.EndsBody
  · -- a keyword in brackets ends one body and opens the next
    left
    rcases hends with hl | ⟨w, argument, k, hl, hword⟩
    · exfalso
      rw [step_of_blank hl] at h
      cases hfinish : p.finish with
      | error fault => rw [hfinish] at h; cases h
      | ok requests => rw [hfinish] at h; cases h
    · obtain ⟨d, stage⟩ := p
      rw [step, hl] at h
      cases stage with
      | between | inRequest => exact words_inBody h
      | inBody q f m =>
        dsimp only at h
        rw [hword, if_neg (by simp)] at h
        obtain ⟨body, -, hwords⟩ := bind_eq_ok_iff.1 h
        exact words_inBody hwords
  · obtain ⟨d, stage⟩ := p
    cases stage with
    | inBody q f m =>
      rw [step_goesOn hends] at h
      cases h
      exact .inr ⟨m, rfl, hends, rfl⟩
    | between | inRequest q =>
      cases hl : l.shape with
      | blank => exact absurd (.inl hl) hends
      | comment => rw [step, hl] at h; cases h
      | words w argument =>
        rw [step, hl] at h
        exact .inl (words_inBody h)

/-- Where the reader is within a body, a line opened it that no line since then has ended. -/
theorem exists_opening {ls : List Line}
    (h : ls.foldlM step start = .ok ⟨done, .inBody r first more⟩) :
    ∃ above inside, ls = above ++ first :: inside ∧
      (above ++ [first]).foldlM step start = .ok ⟨done, .inBody r first []⟩ ∧
      (∀ l ∈ inside, ¬ l.EndsBody) ∧ more = inside.filter Line.hasWords := by
  -- from the last line back: it opens the body, or the body was open before it
  induction ls using List.reverseRecOn generalizing more with
  | nil => cases h
  | append_singleton ls l ih =>
    have hfold := h
    rw [List.foldlM_append] at hfold
    obtain ⟨p, hp, hlast⟩ := bind_eq_ok_iff.1 hfold
    rw [List.foldlM_cons] at hlast
    obtain ⟨q, hstep, hq⟩ := bind_eq_ok_iff.1 hlast
    obtain rfl := Except.ok.inj hq
    rcases step_inBody hstep with ⟨rfl, rfl⟩ | ⟨before, rfl, hends, rfl⟩
    · exact ⟨ls, [], rfl, h, by simp, rfl⟩
    · obtain ⟨above, inside, rfl, hopens, hinside, rfl⟩ := ih hp
      refine ⟨above, inside ++ [l], by simp, hopens, fun m hm => ?_, by rw [List.filter_append]⟩
      rcases List.mem_append.1 hm with hm | hm
      · exact hinside m hm
      · rwa [List.mem_singleton.1 hm]

/-! ### Which errors the reader gives -/

theorem reports_of_words {current : Option Request} {e : SyntaxError}
    (hl : l.shape = .words w argument)
    (h : words done current l w argument = .error (.syntaxError e)) : l.Reports e := by
  unfold words at h
  split at h
  · exact reports_of_beginRequest hl (eq_error_of_bind_pure h)
  · split at h
    · cases h
    · split at h
      · exact reports_of_beginRequest hl (eq_error_of_bind_pure h)
      · exact reports_of_continueRequest hl (eq_error_of_bind_pure h)

/-- Where closing gives an error, a body is open that does not read. -/
theorem exists_body_of_closeBody (h : p.closeBody = .error fault) :
    ∃ done r first more, p = ⟨done, .inBody r first more⟩ ∧ readBody first more = .error fault := by
  obtain ⟨d, stage⟩ := p
  cases stage with
  | between | inRequest => cases h
  | inBody q f m =>
    exact ⟨d, q, f, m, rfl, eq_error_of_bind_pure h⟩

/-- A line gives an error for itself alone, or ends a body that does not read. -/
theorem step_error {e : SyntaxError} (h : p.step l = .error (.syntaxError e)) :
    l.Reports e ∨ ∃ done r first more, p = ⟨done, .inBody r first more⟩ ∧ l.EndsBody ∧
      readBody first more = .error (.syntaxError e) := by
  cases hl : l.shape with
  | comment => rw [step, hl] at h; cases h
  | blank =>
    rw [step, hl] at h
    obtain ⟨d, r, first, more, hp, hread⟩ := exists_body_of_closeBody (eq_error_of_bind_pure h)
    exact .inr ⟨d, r, first, more, hp, .inl hl, hread⟩
  | words w argument =>
    obtain ⟨d, stage⟩ := p
    rw [step, hl] at h
    cases stage with
    | between | inRequest => exact .inl (reports_of_words hl h)
    | inBody r first more =>
      dsimp only at h
      split at h
      · cases h
      · rename_i hword
        obtain ⟨k, hk⟩ := Option.ne_none_iff_exists'.1 (by simpa using hword)
        obtain hread | ⟨v, -, hwords⟩ := bind_eq_error_iff.1 h
        · exact .inr ⟨d, r, first, more, rfl, .inr ⟨w, argument, k, hl, hk⟩, hread⟩
        · exact .inl (reports_of_words hl hwords)

end Progress

/-! ### Bodies of a script -/

section

variable {lines more : List Line} {first : Line}

theorem IsBody.mem_lines (h : IsBody lines first more) :
    ∀ l ∈ first :: more, l ∈ lines ∧ l.hasWords = true := by
  cases h with
  | @intro above inside below done r split opens goesOn kept ends =>
    have hfirst : first.hasWords = true := by
      have hopened := Progress.explained_start.foldlM_step opens
      generalize [] ++ (above ++ [first]).filter Line.hasWords = read at hopened
      cases hopened with
      | inBody complete current shape => exact Line.hasWords_of_shape shape
    intro l hl
    rcases List.mem_cons.1 hl with rfl | hl
    · exact ⟨by simp [split], hfirst⟩
    · rw [kept] at hl
      obtain ⟨hinside, hwords⟩ := List.mem_filter.1 hl
      exact ⟨by simp [split, hinside], hwords⟩

/-- A body that does not read ends the reading. -/
theorem IsBody.readLines_eq (h : IsBody lines first more) {fault : ScriptFault}
    (hread : readBody first more = .error fault) : readLines lines = .error fault := by
  cases h with
  | @intro above inside below done r split opens goesOn kept ends =>
    have hbody : (above ++ first :: inside).foldlM Progress.step Progress.start =
        .ok ⟨done, .inBody r first more⟩ := by
      rw [List.append_cons, List.foldlM_append, opens, kept]
      exact Progress.foldlM_goesOn goesOn []
    rw [readLines, split, ← List.cons_append, ← List.append_assoc, List.foldlM_append, hbody]
    cases below with
    | nil =>
      simp only [List.foldlM_nil, bind, Except.bind, pure, Except.pure, Progress.finish,
        Progress.closeBody, hread]
    | cons l below =>
      simp only [List.foldlM_cons, bind, Except.bind, Progress.step_ends (ends l rfl) hread]

/-- What is no error of a line alone is the error of a body. -/
theorem exists_isBody {e : SyntaxError} (h : readLines lines = .error (.syntaxError e))
    (hbody : e.fault.isOfBody = true) :
    ∃ first more, IsBody lines first more ∧ readBody first more = .error (.syntaxError e) := by
  obtain hfold | ⟨p, hfold, hfinish⟩ := bind_eq_error_iff.1 h
  · obtain ⟨read, l, below, p, rfl, hread, hstep⟩ := exists_of_foldlM_error hfold
    rcases Progress.step_error hstep with hline | ⟨d, r, first, more, rfl, hends, hfail⟩
    · have hplain : e.fault.isOfBody = false := by cases hline <;> assumption
      rw [hplain] at hbody
      cases hbody
    · obtain ⟨above, inside, rfl, hopens, hinside, hkept⟩ := Progress.exists_opening hread
      have hsplit : above ++ first :: inside ++ l :: below =
          above ++ first :: (inside ++ l :: below) := List.append_assoc above _ _
      refine ⟨first, more, .intro hsplit hopens hinside hkept ?_, hfail⟩
      rintro m ⟨⟩
      exact hends
  · obtain ⟨d, r, first, more, rfl, hfail⟩ :=
      Progress.exists_body_of_closeBody (eq_error_of_bind_pure hfinish)
    obtain ⟨above, inside, rfl, hopens, hinside, hkept⟩ := Progress.exists_opening hfold
    have hsplit : above ++ first :: inside = above ++ first :: (inside ++ []) := by
      rw [List.append_nil]
    exact ⟨first, more, .intro hsplit hopens hinside hkept (by simp), hfail⟩

end

/-- A script whose body the decoder refuses has an error that shows the line of the script where the
refused character stands, which is no comment, and its column. Where the decoder stops at a line
break or at the end of the body, the column is the one behind the end of the line. -/
theorem readScript_malformedBody (text : List Char) (e : SyntaxError) (what : Json.Malformation) :
    readScript text = .error (.syntaxError e) ∧ e.fault = .malformedBody what ↔
      ∃ first more, IsBody (scriptLines text) first more ∧ ∃ p : Place (first :: more),
        Json.read .refuse (bodyText first more) = .error (.malformed what p.left) ∧
        e = ⟨.malformedBody what, p.line.number, p.column + 1, p.line.source⟩ ∧
        (p.line ∈ first :: more ∧ p.line ∈ scriptLines text ∧ p.line.shape ≠ .comment) ∧
        (Text.splitOn '\n' text)[e.line - 1]?.map (Text.dropRightWhile (· == '\r')) =
          some e.source ∧
        ∃ offset, (Json.placeOf (bodyText first more) p.left).offset = offset ∧
          ((e.column ≤ e.source.length ∧
              e.source[e.column - 1]? = (bodyText first more)[offset]?) ∨
            (e.column = e.source.length + 1 ∧
              ((bodyText first more)[offset]? = some '\n' ∨
                offset = (bodyText first more).length))) := by
  constructor
  · rintro ⟨hread, hfault⟩
    obtain ⟨first, more, hbody, hfail⟩ := exists_isBody hread (by rw [hfault]; rfl)
    have hbreak : ∀ l ∈ first :: more, '\n' ∉ l.source := fun l hl =>
      Line.not_mem_of_mem_scriptLines (hbody.mem_lines l hl).1
    obtain ⟨p, hrefused, rfl⟩ := (readBody_eq_malformed_iff hbreak).1 ⟨hfail, hfault⟩
    obtain ⟨hmem, hwords⟩ := hbody.mem_lines p.line p.line_mem
    have hcomment : p.line.shape ≠ .comment := by
      obtain ⟨w, argument, hshape⟩ := Line.exists_shape hwords
      rw [hshape]
      exact Shape.noConfusion
    have hoffset : (Json.placeOf (bodyText first more) p.left).offset = p.before.length := by
      rw [← p.before_append_left, p.placeOf_eq hbreak]
    refine ⟨first, more, hbody, p, hrefused, rfl, ⟨p.line_mem, hmem, hcomment⟩,
      (number_of_mem_scriptLines hmem).2.2, p.before.length, hoffset, ?_⟩
    rcases p.getElem?_before_length with ⟨hlt, hnext⟩ | ⟨hend, hnext⟩
    · exact .inl ⟨hlt, hnext.symm⟩
    · exact .inr ⟨congrArg (· + 1) hend, hnext⟩
  · rintro ⟨first, more, hbody, p, hrefused, rfl, -⟩
    have hbreak : ∀ l ∈ first :: more, '\n' ∉ l.source := fun l hl =>
      Line.not_mem_of_mem_scriptLines (hbody.mem_lines l hl).1
    obtain ⟨hfail, hfault⟩ := (readBody_eq_malformed_iff hbreak).2 ⟨p, hrefused, rfl⟩
    exact ⟨hbody.readLines_eq hfail, hfault⟩

example : readScript "get /a\n[1,\n# two\n 2".toList =
    .error (.syntaxError ⟨.malformedBody .expectingComma, 4, 3, " 2".toList⟩) := by cbv

end HttpScript
