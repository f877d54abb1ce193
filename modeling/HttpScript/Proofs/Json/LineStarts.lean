import HttpScript.Proofs.Json.Returns
import Mathlib

/-!
# How the lines of a text begin

Line breaks stand between the tokens of a text only. So a line after the first one begins, blanks
aside, with the first character of a token.
-/
namespace HttpScript.Json

/-- The characters that tokens begin with. -/
def startsToken (c : Char) : Bool := startsValue c || "]\x7d:,".toList.contains c

/-- The text is empty or begins with a token. A bracket is followed by no `C`: what follows it is
the start of a value, a blank or another bracket. -/
def OpensLine (s : List Char) : Prop :=
  ∀ c t, s = c :: t → startsToken c = true ∧ (c = '[' → ∀ d u, t = d :: u → d.toUpper ≠ 'C')

theorem opensLine_nil : OpensLine [] := by
  rintro c t ⟨⟩

theorem opensLine_cons {c : Char} (t : List Char) (h : startsToken c = true) (hc : c ≠ '[') :
    OpensLine (c :: t) := by
  rintro d u ⟨⟩
  exact ⟨h, fun hd => absurd hd hc⟩

theorem OpensLine.of_append {s r : List Char} (h : OpensLine (s ++ r)) : OpensLine s := by
  rintro c t rfl
  obtain ⟨hc, hd⟩ := h c (t ++ r) rfl
  exact ⟨hc, fun hb d u hu => hd hb d (u ++ r) (by rw [hu]; rfl)⟩

/-- From `s` down to its end `r`, every line that begins in between begins with a token. -/
inductive LinesOpen : List Char → List Char → Prop
  | refl (r : List Char) : LinesOpen r r
  | cons {c : Char} {s r : List Char} (h : c = '\n' → OpensLine (skipSpace s))
      (tail : LinesOpen s r) : LinesOpen (c :: s) r

namespace LinesOpen

theorem trans {s t r : List Char} (h : LinesOpen s t) (h' : LinesOpen t r) : LinesOpen s r := by
  induction h with
  | refl => exact h'
  | cons hc _ ih => exact .cons hc (ih h')

theorem char {c : Char} {s r : List Char} (hc : c ≠ '\n') (h : LinesOpen s r) :
    LinesOpen (c :: s) r :=
  .cons (fun h => absurd h hc) h

theorem append {w : List Char} (h : ∀ c ∈ w, c ≠ '\n') (r : List Char) :
    LinesOpen (w ++ r) r := by
  induction w with
  | nil => exact .refl r
  | cons c w ih =>
    exact char (h c List.mem_cons_self) (ih fun d hd => h d (List.mem_cons_of_mem c hd))

theorem dropWhile {q : Char → Bool} (hq : q '\n' = false) (s : List Char) :
    LinesOpen s (s.dropWhile q) := by
  have h : ∀ c ∈ s.takeWhile q, c ≠ '\n' := by
    rintro c hc rfl
    rw [List.mem_takeWhile_imp hc] at hq
    cases hq
  simpa only [List.takeWhile_append_dropWhile] using append h (s.dropWhile q)

theorem skipSpace {s : List Char} (h : OpensLine (Json.skipSpace s)) :
    LinesOpen s (Json.skipSpace s) := by
  induction s with
  | nil => exact .refl _
  | cons c s ih =>
    by_cases hc : isSpace c = true
    · have hs : Json.skipSpace (c :: s) = Json.skipSpace s := List.dropWhile_cons_of_pos hc
      rw [hs] at h ⊢
      exact .cons (fun _ => h) (ih h)
    · rw [Json.skipSpace, List.dropWhile_cons_of_neg hc]
      exact .refl _

/-- Blanks up to a token, and the token itself. -/
theorem skipSpace_char {c : Char} {s r : List Char} (h : Json.skipSpace s = c :: r)
    (hc : startsToken c = true) (hb : c ≠ '[') : LinesOpen s r := by
  have hs : LinesOpen s (c :: r) := h ▸ skipSpace (by rw [h]; exact opensLine_cons r hc hb)
  exact hs.trans (char (by rintro rfl; exact absurd hc (by decide)) (.refl r))

end LinesOpen

/-! ### Strings and numbers -/

theorem linesOpen_unit? {t u : List Char} {n : Nat} (h : unit? t = some (n, u)) :
    LinesOpen t u := by
  obtain ⟨-, hn, rfl⟩ := unit?_eq_some_iff.1 h
  have hdigits : ∀ c ∈ t.take 4, c ≠ '\n' := by
    rintro c hc rfl
    exact absurd (isHex_of_hexValues? hn hc) (by decide)
  simpa only [List.take_append_drop] using LinesOpen.append hdigits (t.drop 4)

theorem linesOpen_unicodeEscape {t u : List Char} {c : Char} (h : unicodeEscape t = .ok (c, u)) :
    LinesOpen t u := by
  obtain ⟨n, t', hu, ⟨low, -, hs, -, -⟩ | ⟨-, rfl, -⟩⟩ := unicodeEscape_eq_ok_iff.1 h
  · obtain ⟨t'', rfl, hu'⟩ := secondUnit_eq_some_iff.1 hs
    exact (linesOpen_unit? hu).trans
      (.char (by decide) (.char (by decide) (linesOpen_unit? hu')))
  · exact linesOpen_unit? hu

theorem StringTail.linesOpen {t cs r : List Char} (h : StringTail t cs r) : LinesOpen t r := by
  induction h with
  | close t => exact .char (by decide) (.refl t)
  | unicode escape _ ih =>
    exact .char (by decide) (.char (by decide) ((linesOpen_unicodeEscape escape).trans ih))
  | letter escape _ ih =>
    exact .char (by decide) (.char (by rintro rfl; cases escape) ih)
  | plain _ _ visible _ ih => exact .char (by rintro rfl; exact visible (by decide)) ih

theorem linesOpen_wholePart? {s d u : List Char} (h : wholePart? s = some (d, u)) :
    LinesOpen s u := by
  unfold wholePart? at h
  split at h
  · cases h
    exact .char (by decide) (.refl _)
  · split at h
    · rename_i c t _ hc
      cases h
      exact .char (by rintro rfl; exact absurd hc (by decide)) (.dropWhile rfl t)
    · cases h
  · cases h

theorem linesOpen_fractionPart (s : List Char) : LinesOpen s (fractionPart s).2 := by
  unfold fractionPart
  split
  · split
    · exact .refl _
    · exact .char (by decide) (.dropWhile rfl _)
  · exact .refl _

theorem linesOpen_exponentPart (s : List Char) : LinesOpen s (exponentPart s).2 := by
  cases s with
  | nil => exact .refl _
  | cons e t =>
    have hsign : LinesOpen t (exponentSign t).2 := by
      unfold exponentSign
      split
      · exact .char (by decide) (.refl _)
      · exact .char (by decide) (.refl _)
      · exact .refl _
    rw [exponentPart_cons]
    split
    · rename_i he
      split
      · exact .refl _
      · exact .char (by rintro rfl; exact absurd he (by decide)) (hsign.trans (.dropWhile rfl _))
    · exact .refl _

theorem linesOpen_numberParts? {s : List Char} {parts : NumberParts}
    (h : numberParts? s = some parts) : LinesOpen s parts.rest := by
  have hsign : LinesOpen s (numberSign s).2 := by
    unfold numberSign
    split
    · exact .char (by decide) (.refl _)
    · exact .refl _
  rw [numberParts?_eq] at h
  obtain ⟨⟨whole, u⟩, hw, rfl⟩ := Option.map_eq_some_iff.1 h
  exact hsign.trans ((linesOpen_wholePart? hw).trans
    ((linesOpen_fractionPart u).trans (linesOpen_exponentPart _)))

/-! ### Values -/

theorem startsToken_of_startsScalar {c : Char} (h : startsScalar c = true) :
    startsToken c = true ∧ c ≠ '[' := by
  refine ⟨by simp [startsToken, startsValue, h], ?_⟩
  rintro rfl
  exact absurd h (by decide)

theorem eq_or_eq_of_toUpper_eq {d : Char} (h : d.toUpper = 'C') : d = 'c' ∨ d = 'C' := by
  rw [Char.toUpper] at h
  split at h
  · rename_i hl
    have hz : d.toNat ≤ 'z'.toNat := UInt32.le_iff_toNat_le.1 hl.2
    have hv := congrArg Char.toNat h
    simp only [Char.toNat, UInt32.toNat_add] at hv hz
    have hd : d.toNat = 'c'.toNat := by
      simp at hv hz ⊢
      omega
    exact .inl (Char.toNat_inj.1 hd)
  · exact .inr h

/-- What follows a bracket is no letter of a word. -/
theorem opensLine_bracket {t : List Char}
    (h : ∀ c u, skipSpace t = c :: u → startsToken c = true) : OpensLine ('[' :: t) := by
  rintro c u ⟨⟩
  refine ⟨by decide, ?_⟩
  rintro - d w rfl hd
  rcases eq_or_eq_of_toUpper_eq hd with rfl | rfl
  · exact absurd (h _ w (List.dropWhile_cons_of_neg (by decide))) (by decide)
  · exact absurd (h _ w (List.dropWhile_cons_of_neg (by decide))) (by decide)

theorem Reads.opensLine {p : NonFinitePolicy} {v : Json} {s r : List Char}
    (h : Reads p (.value v) s r) : OpensLine s := by
  cases h with
  | string => exact opensLine_cons _ (by decide) (by decide)
  | emptyArray close =>
    refine opensLine_bracket fun c u hu => ?_
    rw [close] at hu
    obtain rfl := (List.cons.inj hu).1
    decide
  | array items =>
    refine opensLine_bracket fun c u hu => ?_
    obtain ⟨d, w, hd, hv⟩ := items.items_head
    rw [hd] at hu
    obtain rfl := (List.cons.inj hu).1
    simp [startsToken, hv]
  | emptyObject => exact opensLine_cons _ (by decide) (by decide)
  | object => exact opensLine_cons _ (by decide) (by decide)
  | name known =>
    obtain ⟨c, t, rfl, hc⟩ := names_head known
    obtain ⟨htoken, hbracket⟩ := startsToken_of_startsScalar hc
    exact opensLine_cons _ htoken hbracket
  | number spelled =>
    obtain ⟨c, t, rfl, hc⟩ := numberParts?_head spelled
    have hscalar : startsScalar c = true := by
      rcases hc with rfl | hc <;> simp [startsScalar, *]
    obtain ⟨htoken, hbracket⟩ := startsToken_of_startsScalar hscalar
    exact opensLine_cons _ htoken hbracket

theorem Reads.items_opensLine {p : NonFinitePolicy} {vs : List Json} {s r : List Char}
    (h : Reads p (.items vs) s r) : OpensLine s := by
  cases h with
  | lastItem item => exact item.opensLine
  | item item => exact item.opensLine

theorem Reads.members_opensLine {p : NonFinitePolicy} {ms : List (String × Json)} {s r : List Char}
    (h : Reads p (.members ms) s r) : OpensLine s := by
  obtain ⟨n, rfl⟩ := h.members_head
  exact opensLine_cons n (by decide) (by decide)

theorem Reads.linesOpen {p : NonFinitePolicy} {part : Part} {s r : List Char}
    (h : Reads p part s r) : LinesOpen s r := by
  induction h with
  | string tail => exact .char (by decide) tail.linesOpen
  | emptyArray close => exact .char (by decide) (.skipSpace_char close (by decide) (by decide))
  | array items ih => exact .char (by decide) ((LinesOpen.skipSpace items.items_opensLine).trans ih)
  | emptyObject close => exact .char (by decide) (.skipSpace_char close (by decide) (by decide))
  | object members ih =>
    exact .char (by decide) ((LinesOpen.skipSpace members.members_opensLine).trans ih)
  | name known =>
    have hno : ∀ x ∈ names, '\n' ∉ x.1 := by decide
    exact .append (fun c hc => ne_of_mem_of_not_mem hc (hno _ known)) _
  | number spelled => exact linesOpen_numberParts? spelled
  | lastItem _ close ih => exact ih.trans (.skipSpace_char close (by decide) (by decide))
  | item _ comma rest ih ihRest =>
    exact ih.trans ((LinesOpen.skipSpace_char comma (by decide) (by decide)).trans
      ((LinesOpen.skipSpace rest.items_opensLine).trans ihRest))
  | lastMember name colon value close ih =>
    exact .char (by decide) (name.linesOpen.trans
      ((LinesOpen.skipSpace_char colon (by decide) (by decide)).trans
        ((LinesOpen.skipSpace value.opensLine).trans
          (ih.trans (.skipSpace_char close (by decide) (by decide))))))
  | member name colon value comma rest ih ihRest =>
    exact .char (by decide) (name.linesOpen.trans
      ((LinesOpen.skipSpace_char colon (by decide) (by decide)).trans
        ((LinesOpen.skipSpace value.opensLine).trans
          (ih.trans ((LinesOpen.skipSpace_char comma (by decide) (by decide)).trans
            ((LinesOpen.skipSpace rest.members_opensLine).trans ihRest))))))

theorem read_linesOpen {p : NonFinitePolicy} {text : List Char} {v : Json}
    (h : read p text = .ok v) : LinesOpen text [] := by
  obtain ⟨r, hv, hr⟩ := read_eq_ok_iff.1 h
  have hend : LinesOpen r [] := hr ▸ LinesOpen.skipSpace (by rw [hr]; exact opensLine_nil)
  exact (LinesOpen.skipSpace hv.opensLine).trans (hv.linesOpen.trans hend)

/-! ### Lines -/

theorem LinesOpen.mem_tail_lines {s : List Char} (h : LinesOpen s []) {l : List Char}
    (hl : l ∈ (s.splitOn '\n').tail) : OpensLine (Json.skipSpace l) := by
  generalize hr : [] = r at h
  induction h with
  | refl => subst hr; simp at hl
  | @cons c s r hc _ ih =>
    subst hr
    rw [List.splitOn_cons_eq_if_modifyHead] at hl
    split at hl
    · rename_i hn
      obtain ⟨m, ms, hm⟩ := List.exists_cons_of_ne_nil (List.splitOn_ne_nil '\n' s)
      rw [List.tail_cons, hm] at hl
      rcases List.mem_cons.1 hl with rfl | hl
      · have hopen := hc (by simpa using hn)
        obtain ⟨u, rfl⟩ := Text.append_of_splitOn_eq_cons hm
        rw [Json.skipSpace, List.dropWhile_append] at hopen
        split at hopen
        · rename_i hnil
          rw [Json.skipSpace, List.isEmpty_iff.1 hnil]
          exact opensLine_nil
        · exact hopen.of_append
      · exact ih (by rw [hm]; exact hl) rfl
    · rw [List.tail_modifyHead] at hl
      exact ih hl rfl

/-- Arrays and objects. -/
def isContainer : Json → Bool
  | .array _ | .object _ => true
  | _ => false

/-- The text of an array or an object begins with its bracket. -/
theorem read_container_head {p : NonFinitePolicy} {text : List Char} {v : Json}
    (h : read p text = .ok v) (hv : v.isContainer = true) :
    ∃ c t, skipSpace text = c :: t ∧ (c = '[' ∨ c = '\x7b') := by
  obtain ⟨r, hr, -⟩ := read_eq_ok_iff.1 h
  generalize skipSpace text = s at hr
  cases hr with
  | string => cases hv
  | emptyArray | array => exact ⟨_, _, rfl, .inl rfl⟩
  | emptyObject | object => exact ⟨_, _, rfl, .inr rfl⟩
  | name known admitted =>
    simp only [names_eq, List.mem_cons, List.not_mem_nil, or_false, Prod.mk.injEq] at known
    rcases known with ⟨-, rfl⟩ | ⟨-, rfl⟩ | ⟨-, rfl⟩ | ⟨-, rfl⟩ | ⟨-, rfl⟩ | ⟨-, rfl⟩ <;>
      cases p <;> cases admitted <;> cases hv
  | number _ value =>
    unfold NumberParts.value at value
    split at value
    · split at value
      · cases value
      · cases value; cases hv
    · cases value; cases hv

end HttpScript.Json
