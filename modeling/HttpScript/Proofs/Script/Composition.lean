import HttpScript.Proofs.Script.Renumbering

/-!
# Scripts put together

A blank line ends whatever is open, just as the end of a script does. So scripts with a blank line
between them are read one after the other, and the first that gives an error gives it alone. A
comment is passed over wherever the reader stands, so it does nothing but move the lines below it.
-/
namespace HttpScript

namespace Progress

theorem step_of_comment {l : Line} (hl : l.shape = .comment) (p : Progress) : p.step l = .ok p := by
  rw [step, hl]

end Progress

/-! ### Blank lines -/

/-- Two scripts with a blank line between them: the requests of the first, then those of the second
with their lines moved down. An error of the first stands alone; one of the second is moved down. -/
theorem readLines_append_blank (above below : List (List Char)) {blank : List Char}
    (hblank : ∀ c ∈ blank, Text.isBlank c = true) :
    readLines (numberLines 1 (above ++ blank :: below)) =
      readLines (numberLines 1 above) >>= fun requests =>
        (Renumbering.shift (above.length + 1)).onOutcome
          (fun more => requests ++ more.map (Renumbering.shift (above.length + 1)).onRequest)
          (readLines (numberLines 1 below)) := by
  set moved := Renumbering.shift (above.length + 1) with hmoved
  have hbelow : (numberLines 1 below).map moved.onLine = numberLines (1 + above.length + 1) below :=
    moved.map_onLine_numberLines fun i _ => by
      simp only [hmoved, Renumbering.shift]
      omega
  have htrim : Text.trim blank = [] := Text.trim_eq_nil_iff.2 hblank
  rw [readLines, readLines, numberLines_append, List.foldlM_append]
  cases (numberLines 1 above).foldlM Progress.step Progress.start with
  | error fault => rfl
  | ok p =>
    simp only [bind, Except.bind]
    rw [numberLines, List.foldlM_cons, Progress.step_of_blank (Line.shape_of_trim_eq_nil htrim rfl),
      ← hbelow]
    cases p.finish with
    | error fault => rfl
    | ok requests => exact Renumbering.read_onLine requests _

/-- A request whose body ends with the script. -/
def openScript : List (List Char) := ["get /a".toList, "[1,".toList, "2]".toList]

/-- A request whose body holds a literal that JSON does not have. -/
def refusedScript : List (List Char) :=
  ["# users".toList, "post /b".toList, "\x7b\"n\":".toList, " NaN\x7d".toList]

/-- The error of the second script stands four lines further down; before the other script it is
all there is. -/
theorem readLines_append_blank_refused :
    (∀ c ∈ "\t".toList, Text.isBlank c = true) ∧
      readLines (numberLines 1 openScript) =
        .ok [{ method := "GET", url := "/a", body := some (.array [.int 1, .int 2]), line := 1 }] ∧
      readLines (numberLines 1 (openScript ++ "\t".toList :: refusedScript)) =
        .error (.syntaxError ⟨.nonFiniteBody .nan, 8, 2, " NaN\x7d".toList⟩) ∧
      readLines (numberLines 1 (refusedScript ++ "\t".toList :: openScript)) =
        .error (.syntaxError ⟨.nonFiniteBody .nan, 4, 2, " NaN\x7d".toList⟩) := by
  have hblank : ∀ c ∈ "\t".toList, Text.isBlank c = true := by simp; decide
  have hopen : readLines (numberLines 1 openScript) =
      .ok [{ method := "GET", url := "/a", body := some (.array [.int 1, .int 2]), line := 1 }] := by
    cbv
  have hrefused : readLines (numberLines 1 refusedScript) =
      .error (.syntaxError ⟨.nonFiniteBody .nan, 4, 2, " NaN\x7d".toList⟩) := by
    cbv
  refine ⟨hblank, hopen, ?_, ?_⟩
  · rw [readLines_append_blank openScript refusedScript hblank, hopen, hrefused]
    rfl
  · rw [readLines_append_blank refusedScript openScript hblank, hrefused]
    rfl

/-! ### Comments -/

/-- The first character of the line that is no blank is `#`. -/
def IsComment (line : List Char) : Prop := line.find? (fun c => !Text.isBlank c) = some '#'

instance (line : List Char) : Decidable (IsComment line) :=
  inferInstanceAs (Decidable (line.find? (fun c => !Text.isBlank c) = some '#'))

theorem shape_of_isComment {line : List Char} (h : IsComment line) {l : Line}
    (hl : l.source = Text.dropRightWhile (· == '\r') line) : l.shape = .comment := by
  obtain ⟨hsolid, before, after, rfl, hbefore⟩ := List.find?_eq_some_iff_append.1 h
  have htrim : Text.trim l.source = '#' :: Text.dropRightWhile Text.isBlank after := by
    rw [hl, Text.trim_dropRightWhile (by simp; decide),
      Text.trim_append_of_blank (by simpa using hbefore), Text.trim_cons (by simpa using hsolid)]
  rw [Line.shape, htrim]
  rfl

theorem readLines_append_comment (above below : List (List Char)) {line : List Char}
    (h : IsComment line) :
    readLines (numberLines 1 (above ++ line :: below)) =
      (Renumbering.makeRoom above.length).onOutcome
        (List.map (Renumbering.makeRoom above.length).onRequest)
        (readLines (numberLines 1 (above ++ below))) := by
  set moved := Renumbering.makeRoom above.length with hmoved
  have habove : (numberLines 1 above).map moved.onLine = numberLines 1 above :=
    moved.map_onLine_numberLines fun i hi => if_neg (by omega)
  have hbelow : (numberLines (1 + above.length) below).map moved.onLine =
      numberLines (1 + above.length + 1) below :=
    moved.map_onLine_numberLines fun i _ => by
      simp only [hmoved, Renumbering.makeRoom]
      rw [if_pos (by omega)]
      omega
  rw [← Renumbering.readLines_onLine, numberLines_append 1 above (line :: below), numberLines,
    numberLines_append 1 above below, List.map_append, habove, hbelow, readLines, readLines,
    List.foldlM_append, List.foldlM_append]
  cases (numberLines 1 above).foldlM Progress.step Progress.start with
  | error fault => rfl
  | ok p =>
    simp only [bind, Except.bind]
    rw [List.foldlM_cons, Progress.step_of_comment (shape_of_isComment h rfl)]
    rfl

/-- A text with a further line below its first `above` lines. -/
def insertLine (above : Nat) (line text : List Char) : List Char :=
  let lines := Text.splitOn '\n' text
  ['\n'].intercalate (lines.take above ++ line :: lines.drop above)

theorem splitOn_insertLine (above : Nat) {line : List Char} (h : '\n' ∉ line) (text : List Char) :
    Text.splitOn '\n' (insertLine above line text) =
      (Text.splitOn '\n' text).take above ++ line :: (Text.splitOn '\n' text).drop above := by
  rw [Text.splitOn_eq, insertLine, Text.splitOn_eq]
  refine List.splitOn_intercalate _ (fun l hl => ?_) (by simp)
  rcases List.mem_append.1 hl with hl | hl
  · exact Text.not_mem_of_mem_splitOn (List.mem_of_mem_take hl)
  · rcases List.mem_cons.1 hl with rfl | hl
    · exact h
    · exact Text.not_mem_of_mem_splitOn (List.mem_of_mem_drop hl)

/-- A comment put in anywhere changes nothing of what is read but the numbers of the lines below
it, in requests and errors alike. -/
theorem readScript_insert_comment (text : List Char) {above : Nat}
    (habove : above ≤ (Text.splitOn '\n' text).length) {line : List Char} (hcomment : IsComment line)
    (hline : '\n' ∉ line) :
    readScript (insertLine above line text) =
      (Renumbering.makeRoom above).onOutcome (List.map (Renumbering.makeRoom above).onRequest)
        (readScript text) := by
  have hread := readLines_append_comment ((Text.splitOn '\n' text).take above)
    ((Text.splitOn '\n' text).drop above) hcomment
  rw [List.length_take, Nat.min_eq_left habove, List.take_append_drop] at hread
  rw [readScript, splitOn_insertLine above hline, hread]
  rfl

/-- A body whose last line lacks a comma. -/
def unseparatedScript : List Char := "get /a\n[1,\n2 3]".toList

/-- The comment stands inside the body, right above the line with the error. -/
theorem readScript_insert_comment_unseparated :
    IsComment "  # two".toList ∧ '\n' ∉ "  # two".toList ∧
      insertLine 2 "  # two".toList unseparatedScript = "get /a\n[1,\n  # two\n2 3]".toList ∧
      readScript unseparatedScript =
        .error (.syntaxError ⟨.malformedBody .expectingComma, 3, 3, "2 3]".toList⟩) ∧
      readScript (insertLine 2 "  # two".toList unseparatedScript) =
        .error (.syntaxError ⟨.malformedBody .expectingComma, 4, 3, "2 3]".toList⟩) := by
  have hcomment : IsComment "  # two".toList := by decide
  have hline : '\n' ∉ "  # two".toList := by decide
  have hread : readScript unseparatedScript =
      .error (.syntaxError ⟨.malformedBody .expectingComma, 3, 3, "2 3]".toList⟩) := by
    cbv
  refine ⟨hcomment, hline, by decide, hread, ?_⟩
  rw [readScript_insert_comment unseparatedScript (by decide) hcomment hline, hread]
  rfl

end HttpScript
