import HttpScript.Proofs.Json.LineStarts
import HttpScript.Proofs.Json.Numbers

/-!
# Where a fault stands in a text

Whatever stops the reader stops it at a token, and what is left of the text there is an end of it. A
literal that is refused stands there, and an integer that is too long to be read stands in the text
with all its digits in a row.
-/
namespace HttpScript.Json

/-- So many digits stand in a row in the text. -/
def HoldsDigits (n : Nat) (s : List Char) : Prop :=
  ∃ digits, digits <:+: s ∧ digits.length = n ∧ ∀ c ∈ digits, c.isDigit = true

/-- The text holds more digits in a row than an integer may have. -/
def IsLong (n : Nat) (s : List Char) : Prop := integerDigitLimit < n ∧ HoldsDigits n s

theorem HoldsDigits.mono {n : Nat} {s t : List Char} (h : HoldsDigits n s) (hs : s <:+: t) :
    HoldsDigits n t := by
  obtain ⟨digits, hdigits, hlength, hall⟩ := h
  exact ⟨digits, hdigits.trans hs, hlength, hall⟩

theorem IsLong.mono {n : Nat} {s t : List Char} (h : IsLong n s) (hs : s <:+: t) : IsLong n t :=
  ⟨h.1, h.2.mono hs⟩

/-! ### What is left of a text -/

theorem LinesOpen.suffix {s r : List Char} (h : LinesOpen s r) : r <:+ s := by
  induction h with
  | refl r => exact List.suffix_rfl
  | cons _ _ ih => exact ih.trans (List.suffix_cons _ _)

theorem skipSpace_suffix (s : List Char) : skipSpace s <:+ s := List.dropWhile_suffix _

theorem suffix_of_skipSpace {c : Char} {s t : List Char} (h : skipSpace s = c :: t) : t <:+ s :=
  (List.suffix_cons c t).trans (h ▸ skipSpace_suffix s)

/-- After a mark and blanks, what is left is still an end of the text. -/
theorem skipSpace_suffix_of_mark {c : Char} {s t : List Char} (h : skipSpace s = c :: t) :
    skipSpace t <:+ s :=
  (skipSpace_suffix t).trans (suffix_of_skipSpace h)

/-! ### Faults -/

/-- What is done with a value that was read adds no fault and hides none. -/
theorem Result.view_extend_error {α β : Type} {s t : List Char} {fault : Fault} (f : α → β)
    (h : s.length ≤ t.length) (r : Result α s) :
    Result.view ((r.widen h).map fun x => (f x.1, x.2)) = .error fault ↔ r.view = .error fault := by
  rw [Result.view_map_widen]
  cases r.view <;> simp [Except.map]

/-- What is left at a fault is an end of the text, which begins with the literal if one is refused;
of an integer that is too long the digits stand in the text. -/
def Fault.StandsIn (s : List Char) : Fault → Prop
  | .malformed _ left => left <:+ s
  | .nonFinite what left => what.literal.toList <+: left ∧ left <:+ s
  | .longInteger n => IsLong n s

theorem Fault.StandsIn.mono {fault : Fault} {s t : List Char} (h : fault.StandsIn s)
    (hs : s <:+ t) : fault.StandsIn t := by
  cases fault with
  | malformed what left => exact h.trans hs
  | nonFinite what left => exact ⟨h.1, h.2.trans hs⟩
  | longInteger n => exact IsLong.mono h hs.isInfix

theorem standsIn_of_secondUnit {s : List Char} {fault : Fault} (h : secondUnit s = .error fault) :
    fault.StandsIn s := by
  unfold secondUnit at h
  split at h
  · split at h
    · split at h
      · cases h
      · cases h
        exact List.suffix_cons _ _
    · cases h
  · cases h

theorem standsIn_of_unicodeEscape {s : List Char} {fault : Fault}
    (h : unicodeEscape s = .error fault) : fault.StandsIn ('u' :: s) := by
  unfold unicodeEscape at h
  split at h
  · cases h
    exact List.suffix_rfl
  · rename_i n u hu
    split at h
    · cases hsecond : secondUnit u with
      | error second =>
        rw [hsecond] at h
        obtain rfl : second = fault := Except.error.inj h
        exact (standsIn_of_secondUnit hsecond).mono
          ((linesOpen_unit? hu).suffix.trans (List.suffix_cons _ s))
      | ok low =>
        rw [hsecond] at h
        cases low with
        | none => cases h
        | some x =>
          change (if isLowSurrogate x.1 = true then _ else _) = _ at h
          split at h <;> cases h
    · cases h

/-- A string is refused where it begins, or at one of its characters. -/
theorem standsIn_of_stringTail {start s : List Char} {fault : Fault} (hs : s <:+ start)
    (h : (stringTail start s).view = .error fault) : fault.StandsIn start := by
  fun_induction stringTail start s with
  | case1 | case3 => cases h; exact List.suffix_rfl
  | case2 => cases h
  | case4 t f hf =>
    obtain rfl : f = fault := Except.error.inj h
    exact (standsIn_of_unicodeEscape hf).mono ((List.suffix_cons _ _).trans hs)
  | case5 t c u hu _ ih =>
    have hrest : u <:+ '\\' :: 'u' :: t :=
      (linesOpen_unicodeEscape hu).suffix.trans
        ((List.suffix_cons _ _).trans (List.suffix_cons _ _))
    exact ih (hrest.trans hs) ((Result.view_extend_error (c :: ·) _ _).1 h)
  | case6 => cases h; exact hs
  | case7 e t _ c he ih =>
    have hrest : t <:+ '\\' :: e :: t := (List.suffix_cons _ _).trans (List.suffix_cons _ _)
    exact ih (hrest.trans hs) ((Result.view_extend_error (c :: ·) _ _).1 h)
  | case8 => cases h; exact hs
  | case9 c t quote single _ escape visible ih =>
    exact ih ((List.suffix_cons _ _).trans hs) ((Result.view_extend_error (c :: ·) _ _).1 h)

/-! ### Numbers -/

theorem wholePart?_eq_append {s d t : List Char} (h : wholePart? s = some (d, t)) : s = d ++ t := by
  unfold wholePart? at h
  split at h
  · cases h
    rfl
  · rename_i c u _
    split at h
    · cases h
      rw [List.cons_append, List.takeWhile_append_dropWhile]
    · cases h
  · cases h

theorem numberSign_suffix (s : List Char) : (numberSign s).2 <:+ s := by
  unfold numberSign
  split
  · exact List.suffix_cons _ _
  · exact List.suffix_rfl

theorem infix_whole {s : List Char} {parts : NumberParts} (h : numberParts? s = some parts) :
    parts.whole <:+: s := by
  rw [numberParts?_eq] at h
  obtain ⟨⟨whole, t⟩, hwhole, rfl⟩ := Option.map_eq_some_iff.1 h
  have hprefix : whole <+: (numberSign s).2 := ⟨t, (wholePart?_eq_append hwhole).symm⟩
  exact hprefix.isInfix.trans (numberSign_suffix s).isInfix

theorem standsIn_of_number {s : List Char} {parts : NumberParts} {fault : Fault}
    (hparts : numberParts? s = some parts) (h : parts.value = .error fault) :
    fault.StandsIn s := by
  rw [NumberParts.value] at h
  split at h
  · split at h
    · rename_i hlimit
      cases h
      exact ⟨hlimit, parts.whole, infix_whole hparts, rfl, isDigit_of_numberParts? hparts⟩
    · cases h
  · cases h

theorem literal_of_names {text : List Char} {which : NonFinite}
    (h : (text, .nonFinite which) ∈ names) : which.literal.toList = text := by
  rw [names_eq] at h
  simp only [List.mem_cons, List.not_mem_nil, or_false, Prod.mk.injEq] at h
  rcases h with ⟨-, h⟩ | ⟨-, h⟩ | ⟨-, h⟩ | ⟨rfl, h⟩ | ⟨rfl, h⟩ | ⟨rfl, h⟩ <;> cases h <;> rfl

theorem standsIn_of_scalar {p : NonFinitePolicy} {s : List Char} {fault : Fault}
    (h : (scalar p s).view = .error fault) : fault.StandsIn s := by
  replace h := Result.view_eq_error h
  unfold scalar at h
  split at h
  · rename_i text name hfound
    have hprefix : text.isPrefixOf s = true := by simpa using List.find?_some hfound
    split at h
    · dsimp only at h
      split at h
      · cases h
      · cases h
      · cases h
        rw [Fault.StandsIn, literal_of_names (List.mem_of_find?_eq_some hfound)]
        exact ⟨List.isPrefixOf_iff_prefix.1 hprefix, List.suffix_rfl⟩
    · cases h
      exact List.suffix_rfl
  · split at h
    · rename_i parts hparts
      cases hvalue : parts.value with
      | ok v => rw [hvalue] at h; cases h
      | error fault =>
        rw [hvalue] at h
        cases h
        exact standsIn_of_number hparts hvalue
    · cases h
      exact List.suffix_rfl

/-! ### Values -/

mutual

theorem standsIn_of_value {p : NonFinitePolicy} {s : List Char} {fault : Fault}
    (h : (value p s).view = .error fault) : fault.StandsIn s := by
  generalize hs : s = u at h
  unfold value at h
  split at h
  · subst hs
    exact standsIn_of_stringTail (List.suffix_cons _ _)
      ((Result.view_extend_error (fun cs => Json.string (.ofList cs)) _ _).1 h)
  · split at h
    · cases h
    · rename_i t _
      have := length_skipSpace_le t
      have hitems := standsIn_of_items ((Result.view_extend_error Json.array _ _).1 h)
      subst hs
      exact hitems.mono ((skipSpace_suffix t).trans (List.suffix_cons _ t))
  · split at h
    · cases h
    · rename_i t _
      have := length_skipSpace_le t
      have hmembers := standsIn_of_members
        ((Result.view_extend_error (fun ms => Json.object (Entries.collapse ms)) _ _).1 h)
      subst hs
      exact hmembers.mono ((skipSpace_suffix t).trans (List.suffix_cons _ t))
  · subst hs
    exact standsIn_of_scalar h
termination_by 2 * s.length
decreasing_by all_goals (subst_vars; simp only [List.length_cons] at *; omega)

theorem standsIn_of_items {p : NonFinitePolicy} {s : List Char} {fault : Fault}
    (h : (items p s).view = .error fault) : fault.StandsIn s := by
  unfold items at h
  split at h
  · rename_i fault' hvalue
    obtain rfl : fault' = fault := Except.error.inj h
    exact standsIn_of_value (by rw [hvalue]; rfl)
  · rename_i v r hr hv
    have hitem : Reads p (.value v) s r := value_sound (by rw [hv]; rfl)
    have hafter : r <:+ s := hitem.linesOpen.suffix
    split at h
    · cases h
    · rename_i t ht
      have := length_of_skipSpace_eq ht
      have := length_skipSpace_le t
      have hrest := standsIn_of_items ((Result.view_extend_error (v :: ·) _ _).1 h)
      exact hrest.mono ((skipSpace_suffix_of_mark ht).trans hafter)
    · cases h
      exact (skipSpace_suffix r).trans hafter
termination_by 2 * s.length + 1
decreasing_by all_goals (simp only [List.length_cons] at *; omega)

theorem standsIn_of_members {p : NonFinitePolicy} {s : List Char} {fault : Fault}
    (h : (members p s).view = .error fault) : fault.StandsIn s := by
  generalize hs : s = u at h
  unfold members at h
  split at h
  · rename_i m
    subst hs
    split at h
    · rename_i fault' hname
      obtain rfl : fault' = fault := Except.error.inj h
      exact standsIn_of_stringTail (List.suffix_cons _ _) (congrArg Result.view hname)
    · rename_i cs r hr hn
      have hname : StringTail m cs r := stringTail_sound (by rw [hn]; rfl)
      have hafter : r <:+ '"' :: m := hname.linesOpen.suffix.trans (List.suffix_cons _ m)
      split at h
      · rename_i t ht
        have := length_of_skipSpace_eq ht
        have := length_skipSpace_le t
        have hcolon : skipSpace t <:+ '"' :: m := (skipSpace_suffix_of_mark ht).trans hafter
        dsimp only at h
        split at h
        · rename_i fault' hvalue
          obtain rfl : fault' = fault := Except.error.inj h
          have hstands : fault'.StandsIn (skipSpace t) := standsIn_of_value (by rw [hvalue]; rfl)
          exact hstands.mono hcolon
        · rename_i v r' hr' hv
          have hvalue : Reads p (.value v) (skipSpace t) r' := value_sound (by rw [hv]; rfl)
          have hbehind : r' <:+ '"' :: m := hvalue.linesOpen.suffix.trans hcolon
          split at h
          · cases h
          · rename_i u hu
            have := length_of_skipSpace_eq hu
            have := length_skipSpace_le u
            have hrest := standsIn_of_members
              ((Result.view_extend_error ((String.ofList cs, v) :: ·) _ _).1 h)
            exact hrest.mono ((skipSpace_suffix_of_mark hu).trans hbehind)
          · cases h
            exact (skipSpace_suffix r').trans hbehind
      · cases h
        exact (skipSpace_suffix r).trans hafter
  · cases h
    subst hs
    exact List.suffix_rfl
termination_by 2 * s.length + 1
decreasing_by all_goals (subst_vars; simp only [List.length_cons] at *; omega)

end

/-- A fault of a text stands in it. -/
theorem standsIn_of_read {p : NonFinitePolicy} {text : List Char} {fault : Fault}
    (h : read p text = .error fault) : fault.StandsIn text := by
  unfold read at h
  split at h
  · cases h
    exact List.suffix_rfl
  · cases hvalue : value p (skipSpace text) with
    | error fault' =>
      rw [hvalue] at h
      obtain rfl : fault' = fault := Except.error.inj h
      have hstands : fault'.StandsIn (skipSpace text) := standsIn_of_value (by rw [hvalue]; rfl)
      exact hstands.mono (skipSpace_suffix text)
    | ok x =>
      obtain ⟨v, r, hr⟩ := x
      rw [hvalue] at h
      have hread : Reads p (.value v) (skipSpace text) r := value_sound (by rw [hvalue]; rfl)
      have hafter : r <:+ text := hread.linesOpen.suffix.trans (skipSpace_suffix text)
      dsimp only [bind, Except.bind] at h
      split at h
      · cases h
      · cases h
        exact (skipSpace_suffix r).trans hafter

/-- A text that is refused for the length of an integer holds its digits. -/
theorem read_isLong {p : NonFinitePolicy} {text : List Char} {n : Nat}
    (h : read p text = .error (.longInteger n)) : IsLong n text := standsIn_of_read h

end HttpScript.Json
