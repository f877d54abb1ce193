import HttpScript.Proofs.Json.Faults

/-!
# The first literal that is refused

A text is refused for a literal of a non-finite number where the first such literal stands as a
value. The relation `ValueAt` finds the places of values in the grammar, through the values that are
read before them; the same letters in a string or in the name of a member are no value.
-/
namespace HttpScript.Json

/-- What may begin with a value, or hold it. -/
inductive Kind where
  | value
  | items
  | members

/-- In a part that begins `s`, a value stands where `left` begins. The values before it are read. -/
inductive ValueAt (left : List Char) : Kind → List Char → Prop
  | here : ValueAt left .value left
  | array {t : List Char} (items : ValueAt left .items (skipSpace t)) :
      ValueAt left .value ('[' :: t)
  | object {t : List Char} (members : ValueAt left .members (skipSpace t)) :
      ValueAt left .value ('\x7b' :: t)
  | item {s : List Char} (item : ValueAt left .value s) : ValueAt left .items s
  | laterItem {s r t : List Char} {v : Json} (item : Reads .refuse (.value v) s r)
      (comma : skipSpace r = ',' :: t) (rest : ValueAt left .items (skipSpace t)) :
      ValueAt left .items s
  | member {n cs r t : List Char} (name : StringTail n cs r) (colon : skipSpace r = ':' :: t)
      (value : ValueAt left .value (skipSpace t)) : ValueAt left .members ('"' :: n)
  | laterMember {n cs r t r' u : List Char} {v : Json} (name : StringTail n cs r)
      (colon : skipSpace r = ':' :: t) (value : Reads .refuse (.value v) (skipSpace t) r')
      (comma : skipSpace r' = ',' :: u) (rest : ValueAt left .members (skipSpace u)) :
      ValueAt left .members ('"' :: n)

theorem ValueAt.suffix {left s : List Char} {kind : Kind} (h : ValueAt left kind s) :
    left <:+ s := by
  induction h with
  | here => exact List.suffix_rfl
  | @array t _ ih | @object t _ ih =>
    exact ih.trans ((skipSpace_suffix t).trans (List.suffix_cons _ t))
  | item _ ih => exact ih
  | laterItem item comma _ ih =>
    exact ih.trans ((skipSpace_suffix_of_mark comma).trans item.linesOpen.suffix)
  | member name colon _ ih =>
    exact ih.trans ((skipSpace_suffix_of_mark colon).trans
      (name.linesOpen.suffix.trans (List.suffix_cons _ _)))
  | laterMember name colon value comma _ ih =>
    exact ih.trans ((skipSpace_suffix_of_mark comma).trans
      (value.linesOpen.suffix.trans ((skipSpace_suffix_of_mark colon).trans
        (name.linesOpen.suffix.trans (List.suffix_cons _ _)))))

/-- Of the values in a part that begins `s`, in the order of the text, the first one that is the
literal of a non-finite number is `which`, and it stands where `left` begins. -/
structure FirstNonFinite (which : NonFinite) (left : List Char) (kind : Kind) (s : List Char) :
    Prop where
  literal : which.literal.toList <+: left
  place : ValueAt left kind s

/-! ### Faults that are none of a literal -/

theorem secondUnit_ne_nonFinite {s left : List Char} {which : NonFinite} :
    secondUnit s ≠ .error (.nonFinite which left) := by
  intro h
  unfold secondUnit at h
  split at h
  · split at h
    · split at h <;> cases h
    · cases h
  · cases h

theorem unicodeEscape_ne_nonFinite {s left : List Char} {which : NonFinite} :
    unicodeEscape s ≠ .error (.nonFinite which left) := by
  intro h
  unfold unicodeEscape at h
  split at h
  · cases h
  · rename_i n u hu
    split at h
    · cases hsecond : secondUnit u with
      | error fault =>
        rw [hsecond] at h
        obtain rfl : fault = _ := Except.error.inj h
        exact secondUnit_ne_nonFinite hsecond
      | ok low =>
        rw [hsecond] at h
        cases low with
        | none => cases h
        | some x =>
          change (if isLowSurrogate x.1 = true then _ else _) = _ at h
          split at h <;> cases h
    · cases h

theorem stringTail_ne_nonFinite {start s left : List Char} {which : NonFinite} :
    (stringTail start s).view ≠ .error (.nonFinite which left) := by
  intro h
  fun_induction stringTail start s with
  | case1 | case2 | case3 | case6 | case8 => cases h
  | case4 t fault hfault =>
    obtain rfl : fault = _ := Except.error.inj h
    exact unicodeEscape_ne_nonFinite hfault
  | case5 t c u hu _ ih | case7 e t hu c he ih =>
    exact ih ((Result.view_extend_error (c :: ·) _ _).1 h)
  | case9 c t quote single hnot escape visible ih =>
    exact ih ((Result.view_extend_error (c :: ·) _ _).1 h)

theorem NumberParts.value_ne_nonFinite {parts : NumberParts} {which : NonFinite}
    {left : List Char} : parts.value ≠ .error (.nonFinite which left) := by
  intro h
  rw [value] at h
  split at h
  · split at h <;> cases h
  · cases h

/-- A scalar is refused for a literal only where it is one. -/
theorem valueAt_of_scalar {s left : List Char} {which : NonFinite}
    (h : (scalar .refuse s).view = .error (.nonFinite which left)) :
    ValueAt left .value s := by
  replace h := Result.view_eq_error h
  unfold scalar at h
  split at h
  · rename_i text name hfound
    have hprefix : text.isPrefixOf s = true := by simpa using List.find?_some hfound
    obtain ⟨r, rfl⟩ := List.isPrefixOf_iff_prefix.1 hprefix
    split at h
    · dsimp only at h
      split at h
      · cases h
      · rename_i hpolicy
        cases hpolicy
      · cases h
        exact .here
    · cases h
  · split at h
    · rename_i parts hparts
      cases hvalue : parts.value with
      | ok v => rw [hvalue] at h; cases h
      | error fault =>
        rw [hvalue] at h
        cases h
        exact absurd hvalue NumberParts.value_ne_nonFinite
    · cases h

mutual

theorem valueAt_of_value {s left : List Char} {which : NonFinite}
    (h : (value .refuse s).view = .error (.nonFinite which left)) :
    ValueAt left .value s := by
  generalize hs : s = u at h
  unfold value at h
  split at h
  · exact absurd ((Result.view_extend_error (fun cs => Json.string (.ofList cs)) _ _).1 h)
      stringTail_ne_nonFinite
  · split at h
    · cases h
    · rename_i t _
      have := length_skipSpace_le t
      exact .array (valueAt_of_items ((Result.view_extend_error Json.array _ _).1 h))
  · split at h
    · cases h
    · rename_i t _
      have := length_skipSpace_le t
      exact .object (valueAt_of_members
        ((Result.view_extend_error (fun ms => Json.object (Entries.collapse ms)) _ _).1 h))
  · exact valueAt_of_scalar h
termination_by 2 * s.length
decreasing_by all_goals (subst_vars; simp only [List.length_cons] at *; omega)

theorem valueAt_of_items {s left : List Char} {which : NonFinite}
    (h : (items .refuse s).view = .error (.nonFinite which left)) :
    ValueAt left .items s := by
  unfold items at h
  split at h
  · rename_i fault hvalue
    obtain rfl : fault = _ := Except.error.inj h
    exact .item (valueAt_of_value (by rw [hvalue]; rfl))
  · rename_i v r hr hv
    have hitem : Reads .refuse (.value v) s r := value_sound (by rw [hv]; rfl)
    split at h
    · cases h
    · rename_i t ht
      have := length_of_skipSpace_eq ht
      have := length_skipSpace_le t
      exact .laterItem hitem ht
        (valueAt_of_items ((Result.view_extend_error (v :: ·) _ _).1 h))
    · cases h
termination_by 2 * s.length + 1
decreasing_by all_goals (simp only [List.length_cons] at *; omega)

theorem valueAt_of_members {s left : List Char} {which : NonFinite}
    (h : (members .refuse s).view = .error (.nonFinite which left)) :
    ValueAt left .members s := by
  generalize hs : s = u at h
  unfold members at h
  split at h
  · split at h
    · rename_i fault hname
      obtain rfl : fault = _ := Except.error.inj h
      exact absurd (congrArg Result.view hname) stringTail_ne_nonFinite
    · rename_i m _ cs r hr hn
      have hname : StringTail m cs r := stringTail_sound (by rw [hn]; rfl)
      split at h
      · rename_i t ht
        have := length_of_skipSpace_eq ht
        have := length_skipSpace_le t
        dsimp only at h
        split at h
        · rename_i fault hvalue
          obtain rfl : fault = _ := Except.error.inj h
          exact .member hname ht (valueAt_of_value (by rw [hvalue]; rfl))
        · rename_i v r' hr' hv
          have hvalue : Reads .refuse (.value v) (skipSpace t) r' := value_sound (by rw [hv]; rfl)
          split at h
          · cases h
          · rename_i u hu
            have := length_of_skipSpace_eq hu
            have := length_skipSpace_le u
            exact .laterMember hname ht hvalue hu (valueAt_of_members
              ((Result.view_extend_error ((String.ofList cs, v) :: ·) _ _).1 h))
          · cases h
      · cases h
  · cases h
termination_by 2 * s.length + 1
decreasing_by all_goals (subst_vars; simp only [List.length_cons] at *; omega)

end

/-! ### Where the reader stops -/

theorem mem_names_literal (which : NonFinite) :
    (which.literal.toList, .nonFinite which) ∈ names := by
  rw [names_eq]
  cases which <;> simp [NonFinite.literal]

theorem FirstNonFinite.head {which : NonFinite} {left s : List Char} {kind : Kind}
    (h : FirstNonFinite which left kind s) : ∃ c t, s = c :: t ∧ startsValue c = true := by
  obtain ⟨⟨r, rfl⟩, hplace⟩ := h
  induction hplace with
  | here =>
    obtain ⟨c, t, hc, hstart⟩ := names_head (mem_names_literal which)
    exact ⟨c, t ++ r, by rw [hc]; rfl, by simp [startsValue, hstart]⟩
  | array | object | member | laterMember => exact ⟨_, _, rfl, by decide⟩
  | item _ ih => exact ih
  | laterItem item => exact item.value_head

/-- No closing mark stands where the literal is still to come. -/
theorem FirstNonFinite.ne_mark {which : NonFinite} {left s : List Char} {kind : Kind}
    (h : FirstNonFinite which left kind s) {c : Char} (hc : startsValue c = false)
    (u : List Char) : s ≠ c :: u := by
  obtain ⟨d, t, rfl, hd⟩ := h.head
  rintro ⟨⟩
  rw [hc] at hd
  cases hd

/-- The reader for a kind of part stops at the literal. -/
def Kind.StopsAt (which : NonFinite) (left s : List Char) : Kind → Prop
  | .value => (Json.value .refuse s).view = .error (.nonFinite which left)
  | .items => (Json.items .refuse s).view = .error (.nonFinite which left)
  | .members => (Json.members .refuse s).view = .error (.nonFinite which left)

theorem FirstNonFinite.stopsAt {which : NonFinite} {left s : List Char} {kind : Kind}
    (h : FirstNonFinite which left kind s) : kind.StopsAt which left s := by
  obtain ⟨hliteral, hplace⟩ := h
  have hopen : ∀ {kind s}, ValueAt left kind s → ∀ {c}, startsValue c = false → ∀ u, s ≠ c :: u :=
    fun hplace => FirstNonFinite.ne_mark ⟨hliteral, hplace⟩
  induction hplace with
  | here =>
    obtain ⟨r, rfl⟩ := hliteral
    have hknown := mem_names_literal which
    obtain ⟨c, t, hc, hstart⟩ := names_head hknown
    rw [Kind.StopsAt, hc, List.cons_append, value_of_scalar hstart, ← List.cons_append, ← hc]
    exact scalar_refuse hknown
  | array items ih =>
    rw [Kind.StopsAt, value_array (hopen items (by decide)),
      show (Json.items _ _).view = _ from ih]
    rfl
  | object members ih =>
    rw [Kind.StopsAt, value_object (hopen members (by decide)),
      show (Json.members _ _).view = _ from ih]
    rfl
  | item _ ih => exact items_fault ih
  | laterItem item comma _ ih =>
    rw [Kind.StopsAt, items_comma item.found comma, show (Json.items _ _).view = _ from ih]
    rfl
  | member name colon _ ih => exact members_fault name colon ih
  | laterMember name colon value comma _ ih =>
    rw [Kind.StopsAt, members_comma name colon value.found comma,
      show (Json.members _ _).view = _ from ih]
    rfl

/-- A text is refused for a literal where the first one stands as a value. -/
theorem read_eq_nonFinite_iff {text left : List Char} {which : NonFinite} :
    read .refuse text = .error (.nonFinite which left) ↔
      FirstNonFinite which left .value (skipSpace text) := by
  constructor
  · intro h
    refine ⟨(standsIn_of_read h).1, ?_⟩
    unfold read at h
    split at h
    · cases h
    · cases hvalue : value .refuse (skipSpace text) with
      | error fault =>
        rw [hvalue] at h
        obtain rfl : fault = _ := Except.error.inj h
        exact valueAt_of_value (by rw [hvalue]; rfl)
      | ok x =>
        rw [hvalue] at h
        dsimp only [bind, Except.bind] at h
        split at h <;> cases h
  · intro h
    have hvalue : value .refuse (skipSpace text) = .error (.nonFinite which left) :=
      Result.view_eq_error h.stopsAt
    unfold read
    split
    · rename_i t
      exact absurd rfl (h.ne_mark (c := '\ufeff') (by decide) t)
    · rw [hvalue]
      rfl

end HttpScript.Json
