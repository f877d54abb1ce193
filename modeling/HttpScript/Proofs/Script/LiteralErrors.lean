import HttpScript.Proofs.Json.NonFinite
import HttpScript.Proofs.Script.BodyErrors

/-!
# Where the error of a refused literal points

A literal of a non-finite number that stands as a value in a body is looked up in the lines of the
body by its text, and the error stands at the first place that holds it. That is the place of the
value, unless the same letters stand further up in the body, as in a string or in the name of a
member.
-/
namespace HttpScript

/-! ### Places that hold a text -/

namespace Place

variable {lines : List Line}

/-- What stands behind the place begins with a text. -/
def Holds (p : Place lines) (part : List Char) : Prop := part <+: p.left

/-- The number of characters that stand before the place. -/
def offset (p : Place lines) : Nat := p.before.length

theorem offset_eq (p : Place lines) :
    p.offset = (p.above.flatMap fun l => l.source ++ ['\n']).length + p.column := by
  rw [offset, before, List.length_append, List.length_take, Nat.min_eq_left p.column_le]

/-- The place is the first of those that hold a text. -/
structure IsFirst (p : Place lines) (part : List Char) : Prop where
  holds : p.Holds part
  first : ∀ q : Place lines, q.Holds part → p.offset ≤ q.offset

theorem exists_isFirst {p : Place lines} {part : List Char} (h : p.Holds part) :
    ∃ q : Place lines, q.IsFirst part := by
  obtain ⟨q, hq, hfirst⟩ :=
    (measure Place.offset).wf.has_min {q : Place lines | q.Holds part} ⟨p, h⟩
  exact ⟨q, hq, fun r hr => Nat.le_of_not_lt (hfirst r hr)⟩

/-- A text without a line break that is held at a place stands in its line. -/
theorem holds_iff {p : Place lines} {part : List Char} (hbreak : '\n' ∉ part) :
    p.Holds part ↔ part <+: p.line.source.drop p.column := by
  constructor
  · rintro ⟨t, ht⟩
    rw [left] at ht
    rcases List.append_eq_append_iff.1 ht with ⟨rest, hline, -⟩ | ⟨rest, rfl, hbelow⟩
    · exact ⟨rest, hline.symm⟩
    · cases rest with
      | nil => rw [List.append_nil]
      | cons c rest =>
        -- what the text goes on with would be a line break
        cases hlines : p.below with
        | nil => simp [hlines] at hbelow
        | cons l ls =>
          rw [hlines, List.flatMap_cons, List.cons_append, List.cons_append] at hbelow
          obtain ⟨rfl, -⟩ := List.cons.inj hbelow
          simp at hbreak
  · exact fun h => h.trans (List.prefix_append _ _)

/-- A place above in the lines stands before it. -/
theorem offset_lt_of_above {p q : Place lines} {rest : List Line}
    (h : p.above = q.above ++ q.line :: rest) : q.offset < p.offset := by
  have := q.column_le
  rw [q.offset_eq, p.offset_eq, h]
  simp only [List.flatMap_append, List.flatMap_cons, List.length_append, List.length_singleton]
  omega

/-- The line of the first place is the first that holds the text, and it holds it there first. -/
theorem IsFirst.find?_line {p : Place lines} {part : List Char} (h : p.IsFirst part)
    (hne : part ≠ []) (hbreak : '\n' ∉ part) :
    lines.find? (fun l => (Text.find? part l.source).isSome) = some p.line ∧
      Text.find? part p.line.source = some p.column := by
  have hcolumn : Text.find? part p.line.source = some p.column := by
    refine Text.find?_eq_some_iff.2 ⟨(holds_iff hbreak).1 h.holds, fun j hj hholds => ?_⟩
    let q : Place lines :=
      ⟨p.above, p.line, p.below, j, p.lines_eq, Nat.le_of_lt (Nat.lt_of_lt_of_le hj p.column_le)⟩
    have hfirst := h.first q ((holds_iff hbreak).2 hholds)
    rw [p.offset_eq, q.offset_eq] at hfirst
    exact absurd hj (Nat.not_lt.2 (Nat.le_of_add_le_add_left hfirst))
  have habove : p.above.find? (fun l => (Text.find? part l.source).isSome) = none := by
    rw [List.find?_eq_none]
    intro l hl hsome
    obtain ⟨k, hk⟩ := Option.isSome_iff_exists.1 hsome
    obtain ⟨above, rest, hsplit⟩ := List.append_of_mem hl
    have hlines : lines = above ++ l :: (rest ++ p.line :: p.below) :=
      p.lines_eq.trans (by rw [hsplit, List.append_assoc, List.cons_append])
    have hend := Text.add_length_le_of_find? hne hk
    let q : Place lines := ⟨above, l, rest ++ p.line :: p.below, k, hlines, by omega⟩
    have hfirst := h.first q ((holds_iff hbreak).2 (Text.prefix_drop_of_find? hk))
    exact absurd (offset_lt_of_above (q := q) hsplit) (Nat.not_lt.2 hfirst)
  refine ⟨?_, hcolumn⟩
  calc lines.find? (fun l => (Text.find? part l.source).isSome)
      = (p.above ++ p.line :: p.below).find? (fun l => (Text.find? part l.source).isSome) :=
        congrArg _ p.lines_eq
    _ = some p.line := by
        rw [List.find?_append, habove, Option.none_or, List.find?_cons_of_pos (by simp [hcolumn])]

end Place

/-! ### The literal in the lines of a body -/

theorem literal_ne_nil (what : Json.NonFinite) : what.literal.toList ≠ [] := by
  cases what <;> decide

section

variable {first : Line} {more : List Line} {which : Json.NonFinite}

/-- The error of a literal that is refused stands at the first place of the body that holds it. -/
theorem Place.IsFirst.readBody_eq {p : Place (first :: more)}
    (hp : p.IsFirst which.literal.toList) {left : List Char}
    (hread : Json.read .refuse (bodyText first more) = .error (.nonFinite which left)) :
    readBody first more = .error (.syntaxError
      ⟨.nonFiniteBody which, p.line.number, p.column + 1, p.line.source⟩) := by
  obtain ⟨hline, hcolumn⟩ := hp.find?_line (literal_ne_nil which) (not_mem_literal which)
  refine readBody_eq_error_iff.2 ⟨_, hread, ?_⟩
  simp only [bodyError, hline, Option.getD_some, hcolumn, Option.map_some]

theorem read_of_nonFiniteBody {e : SyntaxError}
    (h : readBody first more = .error (.syntaxError e)) (hfault : e.fault = .nonFiniteBody which) :
    ∃ left, Json.read .refuse (bodyText first more) = .error (.nonFinite which left) := by
  obtain ⟨fault, hread, herror⟩ := readBody_eq_error_iff.1 h
  cases fault with
  | malformed what left => cases herror; cases hfault
  | nonFinite what left =>
    obtain rfl : _ = e := ScriptFault.syntaxError.inj herror
    cases hfault
    exact ⟨left, hread⟩
  | longInteger digits => cases herror

/-- Where a literal is refused, a place of the body holds it. -/
theorem exists_place_of_nonFinite {left : List Char}
    (hread : Json.read .refuse (bodyText first more) = .error (.nonFinite which left)) :
    ∃ p : Place (first :: more), p.left = left ∧ p.Holds which.literal.toList := by
  obtain ⟨hliteral, before, htext⟩ := Json.standsIn_of_read hread
  obtain ⟨p, -, rfl⟩ := exists_place htext.symm
  exact ⟨p, rfl, hliteral⟩

end

/-- A place is told by the number of its line and by its column. -/
theorem Place.offset_eq_of_number {lines : List Line}
    (hnumbers : lines.Pairwise fun l m => l.number < m.number) {p q : Place lines}
    (hline : p.line.number = q.line.number) (hcolumn : p.column = q.column) :
    p.offset = q.offset := by
  have hother : q.line.number ∉ p.above.map Line.number ∧
      q.line.number ∉ p.below.map Line.number := by
    rw [p.lines_eq, List.pairwise_append, List.pairwise_cons] at hnumbers
    obtain ⟨-, ⟨hbelow, -⟩, habove⟩ := hnumbers
    rw [← hline]
    constructor
    · intro hmem
      obtain ⟨l, hl, heq⟩ := List.mem_map.1 hmem
      exact absurd heq (Nat.ne_of_lt (habove l hl _ List.mem_cons_self))
    · intro hmem
      obtain ⟨l, hl, heq⟩ := List.mem_map.1 hmem
      exact absurd heq.symm (Nat.ne_of_lt (hbelow l hl))
  have hlines : p.above ++ p.line :: p.below = q.above ++ q.line :: q.below :=
    p.lines_eq.symm.trans q.lines_eq
  have hmap := congrArg (List.map Line.number) hlines
  rw [List.map_append, List.map_append, List.map_cons, List.map_cons,
    List.append_cons_inj_of_notMem hother.1 hother.2] at hmap
  have hlength : p.above.length = q.above.length := by simpa using congrArg List.length hmap.1
  rw [p.offset_eq, q.offset_eq, (List.append_inj hlines hlength).1, hcolumn]

theorem IsBody.numbers {text : List Char} {first : Line} {more : List Line}
    (h : IsBody (scriptLines text) first more) :
    (first :: more).Pairwise fun l m => l.number < m.number := by
  cases h with
  | @intro above inside below done r split opens goesOn kept ends =>
    have hordered := numberLines_ordered 1 (Text.splitOn '\n' text)
    have hsublist : (first :: more).Sublist (scriptLines text) := by
      rw [split, kept]
      exact ((List.filter_sublist.trans (List.sublist_append_left _ _)).cons_cons first).trans
        (List.sublist_append_right _ _)
    exact hordered.sublist hsublist

/-- A script is refused for a literal of a non-finite number where the first of them stands as a
value in one of its bodies. The error stands at the first place of the body that holds the letters
of the literal, and that is the place of the value exactly when they stand nowhere before it. -/
theorem readScript_nonFiniteBody (text : List Char) (e : SyntaxError) (which : Json.NonFinite) :
    readScript text = .error (.syntaxError e) ∧ e.fault = .nonFiniteBody which ↔
      ∃ first more, IsBody (scriptLines text) first more ∧ ∃ p q : Place (first :: more),
        Json.FirstNonFinite which p.left .value (Json.skipSpace (bodyText first more)) ∧
        q.IsFirst which.literal.toList ∧
        e = ⟨.nonFiniteBody which, q.line.number, q.column + 1, q.line.source⟩ ∧
        (e.line = p.line.number ∧ e.column = p.column + 1 ↔
          ∀ r : Place (first :: more), r.Holds which.literal.toList → p.offset ≤ r.offset) := by
  constructor
  · rintro ⟨hread, hfault⟩
    obtain ⟨first, more, hbody, hfail⟩ := exists_isBody hread (by rw [hfault]; rfl)
    obtain ⟨left, hrefused⟩ := read_of_nonFiniteBody hfail hfault
    obtain ⟨p, rfl, hholds⟩ := exists_place_of_nonFinite hrefused
    obtain ⟨q, hq⟩ := Place.exists_isFirst hholds
    have hplaced : ∀ {r : Place (first :: more)}, r.IsFirst which.literal.toList →
        e = ⟨.nonFiniteBody which, r.line.number, r.column + 1, r.line.source⟩ := fun hr =>
      ScriptFault.syntaxError.inj (Except.error.inj (hfail.symm.trans (hr.readBody_eq hrefused)))
    refine ⟨first, more, hbody, p, q, Json.read_eq_nonFinite_iff.1 hrefused, hq, hplaced hq, ?_, ?_⟩
    · rintro ⟨hline, hcolumn⟩ r hr
      rw [hplaced hq] at hline hcolumn
      have hsame := Place.offset_eq_of_number hbody.numbers hline (Nat.succ.inj hcolumn)
      exact hsame ▸ hq.first r hr
    · intro hfirst
      rw [hplaced ⟨hholds, hfirst⟩]
      exact ⟨rfl, rfl⟩
  · rintro ⟨first, more, hbody, p, q, hvalue, hfirst, rfl, -⟩
    have hread := Json.read_eq_nonFinite_iff.2 hvalue
    exact ⟨hbody.readLines_eq (hfirst.readBody_eq hread), rfl⟩

/-- The lines of a body: the first has the letters of a literal in the name of a member, the second
has the literal as a value. -/
def nameLine : Line := ⟨2, "\x7b\"NaN\": 1,".toList⟩

def valueLine : Line := ⟨3, "\"a\": NaN\x7d".toList⟩

/-- The place of the value. -/
def valuePlace : Place [nameLine, valueLine] := ⟨[nameLine], valueLine, [], 5, rfl, by decide⟩

def namesakeScript : List Char := "post /x\n\x7b\"NaN\": 1,\n\"a\": NaN\x7d".toList

theorem isBody_namesakeScript : IsBody (scriptLines namesakeScript) nameLine [valueLine] := by
  have hsplit : scriptLines namesakeScript =
      [⟨1, "post /x".toList⟩] ++ nameLine :: ([valueLine] ++ []) := by cbv
  have hopens : ([(⟨1, "post /x".toList⟩ : Line)] ++ [nameLine]).foldlM Progress.step
      Progress.start =
        .ok ⟨[], .inBody { method := "POST", url := "/x", line := 1 } nameLine []⟩ := by cbv
  have hshape : valueLine.shape = .words "\"a\":".toList "NaN\x7d".toList := by cbv
  have hword : keywordOf? "\"a\":".toList = none := by cbv
  have hgoesOn : ¬ valueLine.EndsBody := by
    rintro (hblank | ⟨first, argument, k, hl, hk⟩)
    · rw [hshape] at hblank
      cases hblank
    · rw [hshape] at hl
      cases hl
      rw [hword] at hk
      cases hk
  exact .intro hsplit hopens (List.forall_mem_singleton.2 hgoesOn) (by cbv) (by simp)

/-- The error of a literal may stand on other letters than those of the value. -/
theorem not_forall_line_eq :
    ¬ ∀ (text : List Char) (e : SyntaxError) (which : Json.NonFinite) (first : Line)
      (more : List Line) (p : Place (first :: more)),
      readScript text = .error (.syntaxError e) → IsBody (scriptLines text) first more →
        Json.FirstNonFinite which p.left .value (Json.skipSpace (bodyText first more)) →
          e.line = p.line.number ∧ e.column = p.column + 1 := by
  intro h
  have hread : readScript namesakeScript =
      .error (.syntaxError ⟨.nonFiniteBody .nan, 2, 3, nameLine.source⟩) := by cbv
  have hrefused : Json.read .refuse (bodyText nameLine [valueLine]) =
      .error (.nonFinite .nan valuePlace.left) := by cbv
  have hline := (h _ _ _ _ _ valuePlace hread isBody_namesakeScript
    (Json.read_eq_nonFinite_iff.1 hrefused)).1
  exact absurd hline (by decide)

end HttpScript
