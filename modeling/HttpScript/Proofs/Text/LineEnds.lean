import HttpScript.Proofs.Text.Lines

/-!
# Two kinds of line ends

Where carriage returns stand only before line feeds, it makes no difference how they are lost: as
part of a line end that is written anew, or from the ends of the lines.
-/
namespace HttpScript.Text

/-- A carriage return stands right before a line feed, wherever there is one. -/
def ReturnsEndLines (s : List Char) : Prop :=
  ∀ before after, s = before ++ '\r' :: after → ∃ rest, after = '\n' :: rest

/-- Looked at from each place in the text. -/
theorem returnsEndLines_iff {s : List Char} :
    ReturnsEndLines s ↔ ∀ t ∈ s.tails, t.head? = some '\r' → t.tail.head? = some '\n' := by
  constructor
  · intro h t ht hhead
    obtain ⟨before, hs⟩ := (List.mem_tails _ _).1 ht
    obtain ⟨after, rfl⟩ := List.head?_eq_some_iff.1 hhead
    obtain ⟨rest, rfl⟩ := h before after hs.symm
    rfl
  · intro h before after hs
    have ht : '\r' :: after ∈ s.tails := (List.mem_tails _ _).2 ⟨before, hs.symm⟩
    exact List.head?_eq_some_iff.1 (h _ ht rfl)

instance (s : List Char) : Decidable (ReturnsEndLines s) := decidable_of_iff' _ returnsEndLines_iff

/-- A text in which a carriage return with a line feed is written as a line feed. -/
def joinLineEnds : List Char → List Char
  | [] => []
  | '\r' :: '\n' :: s => '\n' :: joinLineEnds s
  | c :: s => c :: joinLineEnds s

namespace ReturnsEndLines

variable {c : Char} {s : List Char}

theorem tail (h : ReturnsEndLines (c :: s)) : ReturnsEndLines s := fun before after hs =>
  h (c :: before) after (by rw [hs, List.cons_append])

/-- A text that does not begin with a line end begins with no carriage return. -/
theorem ne_return (h : ReturnsEndLines (c :: s))
    (hother : ∀ rest, c = '\r' → s = '\n' :: rest → False) : c ≠ '\r' := by
  rintro rfl
  obtain ⟨rest, hs⟩ := h [] s rfl
  exact hother rest rfl hs

end ReturnsEndLines

@[simp] theorem dropReturns_lineEnd (s : List Char) :
    dropReturns ('\r' :: '\n' :: s) = '\n' :: dropReturns s := by
  rw [dropReturns, dropReturns_cons (by decide)]
  rfl

theorem joinLineEnds_eq {s : List Char} (h : ReturnsEndLines s) : joinLineEnds s = dropReturns s := by
  fun_induction joinLineEnds s with
  | case1 => rfl
  | case2 s ih => rw [dropReturns_lineEnd, ih h.tail.tail]
  | case3 c s hother ih =>
    have hc := h.ne_return hother
    rw [dropReturns_cons hc, ih h.tail]

theorem unifyLineEnds_eq {s : List Char} (h : ReturnsEndLines s) :
    unifyLineEnds s = dropReturns s := by
  fun_induction unifyLineEnds s with
  | case1 => rfl
  | case2 s ih => rw [dropReturns_lineEnd, ih h.tail.tail]
  | case3 c s hother ih =>
    have hc := h.ne_return hother
    rw [dropReturns_cons hc, ih h.tail, if_neg (by simpa using hc)]

/-- The lines of what is left are the lines without the carriage returns at their ends. -/
theorem splitOn_dropReturns (s : List Char) :
    splitOn '\n' (dropReturns s) = (splitOn '\n' s).map (dropRightWhile (· == '\r')) := by
  have hlines : ∀ l ∈ s.splitOn '\n', '\n' ∉ l := fun l hl => not_mem_of_mem_splitOn hl
  rw [splitOn_eq, splitOn_eq]
  have hdrop := dropReturns_intercalate hlines
  rw [List.intercalate_splitOn] at hdrop
  rw [hdrop]
  refine List.splitOn_intercalate _ (fun l hl => ?_) (by simp [List.splitOn_ne_nil])
  obtain ⟨m, hm, rfl⟩ := List.mem_map.1 hl
  exact fun hmem => hlines m hm ((List.rdropWhile_prefix _ _).subset hmem)

end HttpScript.Text
