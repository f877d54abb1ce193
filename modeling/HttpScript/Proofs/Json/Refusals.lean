import HttpScript.Proofs.Json.Grammar

/-!
# Where a text is refused

A text is refused at the first character that should begin a value and does not. The place of a
fault is told from what stands before it, so it does not depend on what is left.
-/
namespace HttpScript.Json

variable {policy : NonFinitePolicy} {c : Char}

theorem scalar_of_not_startsScalar (h : startsScalar c = false) (t : List Char) :
    scalar policy (c :: t) = .error (.malformed .expectingValue (c :: t)) := by
  have hnumber : numberParts? (c :: t) = none := by
    rw [Option.eq_none_iff_forall_ne_some]
    intro parts hparts
    obtain ⟨d, u, hd, hstart⟩ := numberParts?_head hparts
    obtain rfl := (List.cons.inj hd).1
    have hscalar : startsScalar c = true := by
      rcases hstart with rfl | hstart <;> simp [startsScalar, *]
    rw [h] at hscalar
    cases hscalar
  unfold scalar
  split
  · rename_i text name hfound
    obtain ⟨d, u, rfl, hd⟩ := names_head (List.mem_of_find?_eq_some hfound)
    have hprefix := List.find?_some hfound
    obtain ⟨rfl, -⟩ := List.cons_prefix_cons.1 (List.isPrefixOf_iff_prefix.1 hprefix)
    rw [h] at hd
    cases hd
  · split
    · rename_i hparts
      rw [hnumber] at hparts
      cases hparts
    · rfl

theorem value_of_not_startsValue (h : startsValue c = false) (t : List Char) :
    value policy (c :: t) = .error (.malformed .expectingValue (c :: t)) := by
  obtain ⟨hscalar, hother⟩ := Bool.or_eq_false_iff.1 h
  have heq : value policy (c :: t) = scalar policy (c :: t) := by
    apply value.eq_4 <;> rintro u ⟨⟩ <;> exact absurd hother (by decide)
  rw [heq, scalar_of_not_startsScalar hscalar]

/-- A bracket is followed by a value or by the closing bracket. -/
theorem value_bracket (h : startsValue c = false) (hspace : isSpace c = false) (hclose : c ≠ ']')
    (t : List Char) :
    value policy ('[' :: c :: t) = .error (.malformed .expectingValue (c :: t)) := by
  have hskip : skipSpace (c :: t) = c :: t := List.dropWhile_cons_of_neg (by simp [hspace])
  have hitems : items policy (c :: t) = .error (.malformed .expectingValue (c :: t)) := by
    rw [items, value_of_not_startsValue h]
  apply Result.view_eq_error
  rw [value_array fun u hu => hclose (List.cons.inj (hskip.symm.trans hu)).1, hskip, hitems]
  rfl

/-- A text is refused like the value that stands in it behind blanks. -/
theorem read_of_value_error {s t : List Char} {fault : Fault} (hs : ∀ c ∈ s, isSpace c = true)
    (ht : ∀ c ∈ t.head?, isSpace c = false ∧ c ≠ '\ufeff') (h : value policy t = .error fault) :
    read policy (s ++ t) = .error fault := by
  have hskip : skipSpace (s ++ t) = t := by
    rw [skipSpace_append_of_space hs]
    cases t with
    | nil => rfl
    | cons c t => exact List.dropWhile_cons_of_neg (by simp [(ht c rfl).1])
  have hvalue : value policy (skipSpace (s ++ t)) = .error fault := by rw [hskip, h]
  unfold read
  split
  · rename_i u hmark
    cases s with
    | nil =>
      rw [List.nil_append] at hmark
      exact absurd rfl (ht '\ufeff' (by rw [hmark]; rfl)).2
    | cons c s =>
      obtain rfl := (List.cons.inj hmark).1
      exact absurd (hs _ List.mem_cons_self) (by decide)
  · rw [hvalue]
    rfl

/-! ### Places -/

/-- A place is told from what stands before it. -/
theorem placeOf_append (before left : List Char) :
    placeOf (before ++ left) left =
      ⟨before.length, before.count '\n' + 1,
        (before.reverse.takeWhile (· != '\n')).length + 1⟩ := by
  have htake : (before ++ left).take ((before ++ left).length - left.length) = before := by
    rw [List.length_append, Nat.add_sub_cancel, List.take_left]
  rw [placeOf, htake]

end HttpScript.Json
