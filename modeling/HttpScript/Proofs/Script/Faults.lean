import HttpScript.Proofs.Except
import HttpScript.Proofs.Script.Provenance

/-!
# Where an error comes from

A script is refused for one of its lines alone, which begins no request or adds nothing to one, or
for the lines of a body, which do not read as a whole. Nothing else that the reader does can fail.
-/
namespace HttpScript

/-- The steps before the one that fails succeed. -/
theorem exists_of_foldlM_error {α β ε : Type} {f : β → α → Except ε β} {ls : List α} {b : β}
    {e : ε} (h : ls.foldlM f b = .error e) :
    ∃ above l below b', ls = above ++ l :: below ∧ above.foldlM f b = .ok b' ∧
      f b' l = .error e := by
  induction ls generalizing b with
  | nil => cases h
  | cons a ls ih =>
    rw [List.foldlM_cons] at h
    obtain hstep | ⟨b₁, hstep, hrest⟩ := bind_eq_error_iff.1 h
    · exact ⟨[], a, ls, b, rfl, rfl, hstep⟩
    · obtain ⟨above, l, below, b', rfl, habove, hl⟩ := ih hrest
      refine ⟨a :: above, l, below, b', rfl, ?_, hl⟩
      rw [List.foldlM_cons, hstep]
      exact habove

/-- The fault comes from these lines: from one of them where it stands outside of a body, or from a
body that some of them make up. -/
inductive ScriptFault.From (lines : List Line) (fault : ScriptFault) : Prop
  | outside {l : Line} {w argument : List Char} (line : l ∈ lines)
      (shape : l.shape = .words w argument) (fails : beginRequest l w argument = .error fault)
  | inside {r : Request} {l : Line} {w argument : List Char} (line : l ∈ lines)
      (shape : l.shape = .words w argument) (opens : opensBody w = false)
      (fails : continueRequest r l w argument = .error fault)
  | body {first : Line} {more : List Line} {w argument : List Char}
      (lines : ∀ l ∈ first :: more, l ∈ lines) (shape : first.shape = .words w argument)
      (opens : opensBody w = true)
      (continues : ∀ l ∈ more, ∃ w argument, l.shape = .words w argument ∧ keywordOf? w = none)
      (fails : readBody first more = .error fault)

theorem ScriptFault.From.mono {lines lines' : List Line} {fault : ScriptFault}
    (h : fault.From lines) (hlines : lines ⊆ lines') : fault.From lines' := by
  cases h with
  | outside line shape fails => exact .outside (hlines line) shape fails
  | inside line shape opens fails => exact .inside (hlines line) shape opens fails
  | body lines shape opens continues fails =>
    exact .body (fun l hl => hlines (lines l hl)) shape opens continues fails

namespace Progress

variable {p : Progress} {done : List Request} {r : Request} {l first : Line}
  {more lines : List Line} {w argument : List Char} {fault : ScriptFault}

theorem Explained.body_fault (h : Explained ⟨done, .inBody r first more⟩ lines)
    (hread : readBody first more = .error fault) : fault.From lines := by
  cases h with
  | inBody complete current shape opens continues =>
    exact .body (fun l hl => List.mem_append_right _ hl) shape opens continues hread

theorem Explained.closeBody_fault (h : Explained p lines) (hp : p.closeBody = .error fault) :
    fault.From lines := by
  obtain ⟨done, stage⟩ := p
  cases stage with
  | between | inRequest => cases hp
  | inBody r first more =>
    exact h.body_fault (eq_error_of_bind_pure hp)

/-- Words outside of a body fail for their line alone. -/
theorem words_fault {current : Option Request} (hl : l.shape = .words w argument)
    (hp : words done current l w argument = .error fault) : fault.From [l] := by
  have hmem : l ∈ [l] := List.mem_singleton_self l
  unfold words at hp
  split at hp
  · exact .outside hmem hl (eq_error_of_bind_pure hp)
  · split at hp
    · cases hp
    · rename_i hopens
      split at hp
      · exact .outside hmem hl (eq_error_of_bind_pure hp)
      · exact .inside hmem hl (by simpa using hopens) (eq_error_of_bind_pure hp)

/-- One line fails for itself, or for the body that it ends. -/
theorem Explained.step_fault (h : Explained p lines) (hp : p.step l = .error fault) :
    fault.From (lines ++ [l]) := by
  have hopen : lines ⊆ lines ++ [l] := List.subset_append_left _ _
  have hline : [l] ⊆ lines ++ [l] := List.subset_append_right _ _
  unfold Progress.step at hp
  split at hp
  · cases hp
  · exact (h.closeBody_fault (eq_error_of_bind_pure hp)).mono hopen
  · rename_i w argument hl
    obtain ⟨done, stage⟩ := p
    cases stage with
    | between | inRequest => exact (words_fault hl hp).mono hline
    | inBody r first more =>
      dsimp only at hp
      split at hp
      · cases hp
      · obtain hread | ⟨value, -, hwords⟩ := bind_eq_error_iff.1 hp
        · exact (h.body_fault hread).mono hopen
        · exact (words_fault hl hwords).mono hline

theorem Explained.foldlM_fault {ls : List Line} (h : Explained p lines)
    (hp : ls.foldlM Progress.step p = .error fault) : fault.From (lines ++ ls) := by
  obtain ⟨above, l, below, q, rfl, habove, hl⟩ := exists_of_foldlM_error hp
  have hkept : (lines ++ above.filter Line.hasWords ++ [l]).Sublist
      (lines ++ (above ++ l :: below)) := by
    rw [List.append_assoc]
    exact (List.filter_sublist.append (List.singleton_sublist.2 List.mem_cons_self)).append_left _
  exact ((h.foldlM_step habove).step_fault hl).mono hkept.subset

theorem Explained.finish_fault (h : Explained p lines) (hp : p.finish = .error fault) :
    fault.From lines := h.closeBody_fault (eq_error_of_bind_pure hp)

end Progress

theorem readLines_fault {ls : List Line} {fault : ScriptFault} (h : readLines ls = .error fault) :
    fault.From ls := by
  have hstart := Progress.explained_start
  obtain hfold | ⟨p, hfold, hfinish⟩ := bind_eq_error_iff.1 h
  · exact hstart.foldlM_fault hfold
  · exact ((hstart.foldlM_step hfold).finish_fault hfinish).mono (List.filter_subset_self _)

end HttpScript
