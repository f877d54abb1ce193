import HttpScript.Proofs.Json.Faults
import HttpScript.Proofs.Script.LetterCase

/-!
# Places in the lines of a body

The text of a body is its lines with line breaks between them. Where the text is cut in two, one of
the lines is cut in two, at its end if a line break or nothing follows. The number of line breaks
above and the characters since the last of them tell the line and the column.
-/
namespace HttpScript

/-- A place in one of several lines, the end of the line included. -/
structure Place (lines : List Line) where
  above : List Line
  line : Line
  below : List Line
  /-- The characters of the line that stand before the place. -/
  column : Nat
  lines_eq : lines = above ++ line :: below
  column_le : column ≤ line.source.length

namespace Place

variable {lines : List Line}

/-- What stands before the place, each line above with its line break. -/
def before (p : Place lines) : List Char :=
  (p.above.flatMap fun l => l.source ++ ['\n']) ++ p.line.source.take p.column

/-- What stands behind the place. -/
def left (p : Place lines) : List Char :=
  p.line.source.drop p.column ++ p.below.flatMap fun l => '\n' :: l.source

theorem mem_of_mem_above (p : Place lines) {l : Line} (h : l ∈ p.above) : l ∈ lines := by
  have hmem : l ∈ p.above ++ p.line :: p.below := List.mem_append_left _ h
  rwa [← p.lines_eq] at hmem

theorem line_mem (p : Place lines) : p.line ∈ lines := by
  have hmem : p.line ∈ p.above ++ p.line :: p.below := by simp
  rwa [← p.lines_eq] at hmem

/-- The same place seen with a further line on top. -/
def under (first : Line) (p : Place lines) : Place (first :: lines) :=
  ⟨first :: p.above, p.line, p.below, p.column, congrArg (first :: ·) p.lines_eq, p.column_le⟩

theorem before_under (first : Line) (p : Place lines) :
    (p.under first).before = first.source ++ '\n' :: p.before := by
  simp [before, under]

end Place

theorem bodyText_cons (first l : Line) (more : List Line) :
    bodyText first (l :: more) = first.source ++ '\n' :: bodyText l more := by
  simp [bodyText_eq_append]

/-- The text of a body, told from any of its lines. -/
theorem bodyText_of_eq_append {first l : Line} {more above below : List Line}
    (h : first :: more = above ++ l :: below) :
    bodyText first more = (above.flatMap fun l => l.source ++ ['\n']) ++
      (l.source ++ below.flatMap fun l => '\n' :: l.source) := by
  induction above generalizing first more with
  | nil =>
    obtain ⟨rfl, rfl⟩ := List.cons.inj h
    exact bodyText_eq_append first more
  | cons a above ih =>
    obtain ⟨rfl, hmore⟩ := List.cons.inj h
    cases more with
    | nil => simp at hmore
    | cons m more => simp [bodyText_cons, ih hmore]

theorem count_lineBreaks {ls : List Line} (h : ∀ l ∈ ls, '\n' ∉ l.source) :
    (ls.flatMap fun l => l.source ++ ['\n']).count '\n' = ls.length := by
  induction ls with
  | nil => rfl
  | cons l ls ih =>
    have hl := List.count_eq_zero.2 (h l List.mem_cons_self)
    have hls := ih fun m hm => h m (List.mem_cons_of_mem l hm)
    rw [List.flatMap_cons, List.count_append, List.count_append, hl, hls, Nat.zero_add,
      List.count_singleton_self, List.length_cons, Nat.add_comm]

/-- However the text of a body is cut in two, one of its lines is cut there. -/
theorem exists_place {first : Line} {more : List Line} {before left : List Char}
    (h : bodyText first more = before ++ left) :
    ∃ p : Place (first :: more), p.before = before ∧ p.left = left := by
  induction more generalizing first before with
  | nil =>
    have htext : first.source = before ++ left := by rwa [bodyText_eq_append, List.flatMap_nil,
      List.append_nil] at h
    have hlength : before.length ≤ first.source.length := by simp [htext]
    refine ⟨⟨[], first, [], before.length, rfl, hlength⟩, ?_, ?_⟩ <;>
      simp [Place.before, Place.left, htext]
  | cons l more ih =>
    rw [bodyText_cons] at h
    rcases List.append_eq_append_iff.1 h with ⟨rest, rfl, hrest⟩ | ⟨rest, hfirst, rfl⟩
    · cases rest with
      | nil =>
        -- the line ends where the text is cut
        rw [List.nil_append] at hrest
        refine ⟨⟨[], first, l :: more, first.source.length, rfl, le_rfl⟩, ?_, ?_⟩
        · simp [Place.before]
        · simp [Place.left, ← hrest, bodyText_eq_append]
      | cons c rest =>
        obtain ⟨rfl, hbelow⟩ := List.cons.inj hrest
        obtain ⟨p, rfl, hleft⟩ := ih hbelow
        exact ⟨p.under first, p.before_under first, hleft⟩
    · have hlength : before.length ≤ first.source.length := by simp [hfirst]
      refine ⟨⟨[], first, l :: more, before.length, rfl, hlength⟩, ?_, ?_⟩
      · simp [Place.before, hfirst]
      · simp [Place.left, hfirst, bodyText_eq_append]

namespace Place

variable {lines : List Line} {first : Line} {more : List Line}

theorem before_append_left (p : Place (first :: more)) :
    p.before ++ p.left = bodyText first more := by
  have hcut := List.take_append_drop p.column p.line.source
  rw [bodyText_of_eq_append p.lines_eq, before, left, List.append_assoc,
    ← List.append_assoc (List.take _ _), hcut]

/-- The line breaks above tell the line, and what stands before the place on it the column. -/
theorem placeOf_eq (h : ∀ l ∈ lines, '\n' ∉ l.source) (p : Place lines) :
    Json.placeOf (p.before ++ p.left) p.left =
      ⟨p.before.length, p.above.length + 1, p.column + 1⟩ := by
  have hline : '\n' ∉ p.line.source.take p.column := fun hmem =>
    h p.line p.line_mem (List.mem_of_mem_take hmem)
  have hcount : p.before.count '\n' = p.above.length := by
    rw [before, List.count_append, count_lineBreaks fun l hl => h l (p.mem_of_mem_above hl),
      List.count_eq_zero.2 hline, Nat.add_zero]
  have hcolumn : (p.before.reverse.takeWhile (· != '\n')).length = p.column := by
    have hlast : ∀ c ∈ (p.above.flatMap fun l => l.source ++ ['\n']).reverse.head?,
        (c != '\n') = false := by
      rcases List.eq_nil_or_concat p.above with habove | ⟨ls, l, habove⟩
      · simp [habove]
      · simp [habove]
    have hkeep : ∀ c ∈ (p.line.source.take p.column).reverse, (c != '\n') = true := by
      intro c hc
      rw [bne_iff_ne]
      rintro rfl
      exact hline (List.mem_reverse.1 hc)
    rw [before, List.reverse_append, Text.takeWhile_append hkeep hlast, List.length_reverse,
      List.length_take, Nat.min_eq_left p.column_le]
  rw [Json.placeOf_append, hcount, hcolumn]

theorem bodyLine_eq (p : Place (first :: more)) :
    bodyLine first more (p.above.length + 1) = p.line := by
  have hlength := congrArg List.length p.lines_eq
  simp only [List.length_cons, List.length_append] at hlength
  have hindex : min (p.above.length + 1) (more.length + 1) - 1 = p.above.length := by omega
  have hline : (p.above ++ p.line :: p.below)[p.above.length]? = some p.line := by simp
  rw [← p.lines_eq] at hline
  rw [bodyLine, hindex, List.getD_eq_getElem?_getD, hline, Option.getD_some]

/-- The character behind a place is the next one of its line; at the end of the line it is a line
break, or nothing. -/
theorem getElem?_before_length (p : Place (first :: more)) :
    (p.column < p.line.source.length ∧
        (bodyText first more)[p.before.length]? = p.line.source[p.column]?) ∨
      (p.column = p.line.source.length ∧ ((bodyText first more)[p.before.length]? = some '\n' ∨
        p.before.length = (bodyText first more).length)) := by
  have hnext : (bodyText first more)[p.before.length]? = p.left[0]? := by
    rw [← p.before_append_left, List.getElem?_append_right le_rfl, Nat.sub_self]
  rcases Nat.lt_or_eq_of_le p.column_le with hlt | hend
  · refine .inl ⟨hlt, ?_⟩
    rw [hnext, left, List.getElem?_append_left (by rw [List.length_drop]; omega),
      List.getElem?_drop, Nat.add_zero]
  · refine .inr ⟨hend, ?_⟩
    have hleft : p.left = p.below.flatMap fun l => '\n' :: l.source := by
      rw [left, hend, List.drop_length, List.nil_append]
    cases hbelow : p.below with
    | nil =>
      right
      rw [hbelow] at hleft
      rw [← p.before_append_left, hleft, List.flatMap_nil, List.append_nil]
    | cons l ls =>
      left
      rw [hnext, hleft, hbelow]
      rfl

end Place

/-- A body that is no JSON is refused at the place in its lines where the decoder stops. -/
theorem readBody_eq_malformed_iff {first : Line} {more : List Line}
    (h : ∀ l ∈ first :: more, '\n' ∉ l.source) {e : SyntaxError} {what : Json.Malformation} :
    readBody first more = .error (.syntaxError e) ∧ e.fault = .malformedBody what ↔
      ∃ p : Place (first :: more),
        Json.read .refuse (bodyText first more) = .error (.malformed what p.left) ∧
          e = ⟨.malformedBody what, p.line.number, p.column + 1, p.line.source⟩ := by
  have hplace : ∀ {what'} {p : Place (first :: more)},
      Json.read .refuse (bodyText first more) = .error (.malformed what' p.left) →
      readBody first more = .error
        (.syntaxError ⟨.malformedBody what', p.line.number, p.column + 1, p.line.source⟩) := by
    intro what' p hread
    have hrefused := readBody_of_refusal p.before_append_left.symm hread
    have hof := p.placeOf_eq h
    rw [Json.placeOf_append] at hof
    obtain ⟨-, hnumber, hcolumn⟩ := Json.Place.mk.inj hof
    rw [hrefused, hnumber, hcolumn, p.bodyLine_eq]
  constructor
  · rintro ⟨hbody, hfault⟩
    obtain ⟨fault, hread, herror⟩ := readBody_eq_error_iff.1 hbody
    cases fault with
    | malformed what' left =>
      obtain ⟨before, htext⟩ := Json.standsIn_of_read hread
      obtain ⟨p, -, rfl⟩ := exists_place htext.symm
      rw [hplace hread] at hbody
      obtain rfl : _ = e := ScriptFault.syntaxError.inj (Except.error.inj hbody)
      obtain rfl : what' = what := SyntaxFault.malformedBody.inj hfault
      exact ⟨p, hread, rfl⟩
    | nonFinite which left =>
      obtain rfl : _ = e := ScriptFault.syntaxError.inj herror
      cases hfault
    | longInteger digits => cases herror
  · rintro ⟨p, hread, rfl⟩
    exact ⟨hplace hread, rfl⟩

end HttpScript
