import HttpScript.Proofs.Json.Grammar
import HttpScript.Proofs.Text.Lines

/-!
# Line ends within a text

A carriage return at the end of a line is a blank that stands before another blank or at the end.
Inside strings, numbers and names there is none, so a text reads the same without them.
-/
namespace HttpScript.Json

open Text (dropReturns dropReturns_cons dropReturns_nil dropReturns_return endsLine)

theorem skipSpace_dropReturns (s : List Char) :
    skipSpace (dropReturns s) = dropReturns (skipSpace s) := by
  induction s with
  | nil => rfl
  | cons c s ih =>
    by_cases hr : c = '\r'
    · subst hr
      rw [show skipSpace ('\r' :: s) = skipSpace s from rfl, ← ih, dropReturns]
      split <;> rfl
    · rw [dropReturns_cons hr]
      by_cases hc : isSpace c = true
      · rw [skipSpace, skipSpace, List.dropWhile_cons_of_pos hc, List.dropWhile_cons_of_pos hc]
        exact ih
      · rw [skipSpace, skipSpace, List.dropWhile_cons_of_neg hc, List.dropWhile_cons_of_neg hc,
          dropReturns_cons hr]

section Span

variable {q : Char → Bool} (hline : q '\n' = false) (hreturn : q '\r' = false)
include hline hreturn

/-- At a carriage return, what is left of the text begins with no `q` either. -/
theorem takeWhile_dropReturns_return (s : List Char) :
    (dropReturns ('\r' :: s)).takeWhile q = [] := by
  rcases dropReturns_return s with h | ⟨t, h⟩
  · cases hs : dropReturns ('\r' :: s) with
    | nil => rfl
    | cons d t =>
      rw [hs] at h
      obtain rfl : d = '\n' := by simpa [endsLine] using h
      exact List.takeWhile_cons_of_neg (by simp [hline])
  · rw [h]
    exact List.takeWhile_cons_of_neg (by simp [hreturn])

theorem takeWhile_dropReturns (s : List Char) : (dropReturns s).takeWhile q = s.takeWhile q := by
  induction s with
  | nil => rfl
  | cons c s ih =>
    by_cases hr : c = '\r'
    · subst hr
      rw [takeWhile_dropReturns_return hline hreturn,
        List.takeWhile_cons_of_neg (by simp [hreturn])]
    · rw [dropReturns_cons hr]
      by_cases hc : q c = true
      · rw [List.takeWhile_cons_of_pos hc, List.takeWhile_cons_of_pos hc, ih]
      · rw [List.takeWhile_cons_of_neg hc, List.takeWhile_cons_of_neg hc]

theorem dropWhile_dropReturns (s : List Char) :
    (dropReturns s).dropWhile q = dropReturns (s.dropWhile q) := by
  induction s with
  | nil => rfl
  | cons c s ih =>
    by_cases hr : c = '\r'
    · subst hr
      have h := List.takeWhile_append_dropWhile (p := q) (l := dropReturns ('\r' :: s))
      rw [takeWhile_dropReturns_return hline hreturn, List.nil_append] at h
      rw [h, List.dropWhile_cons_of_neg (by simp [hreturn])]
    · rw [dropReturns_cons hr]
      by_cases hc : q c = true
      · rw [List.dropWhile_cons_of_pos hc, List.dropWhile_cons_of_pos hc, ih]
      · rw [List.dropWhile_cons_of_neg hc, List.dropWhile_cons_of_neg hc, dropReturns_cons hr]

end Span

/-! ### Numbers -/

/-- A character that no line end is made of stands first in a text only if it did before. -/
theorem head_of_dropReturns {c : Char} {s t : List Char} (hline : c ≠ '\n') (hreturn : c ≠ '\r')
    (h : dropReturns s = c :: t) : ∃ u, s = c :: u := by
  cases s with
  | nil => cases h
  | cons d u =>
    by_cases hd : d = '\r'
    · subst hd
      rcases dropReturns_return u with hu | ⟨w, hu⟩
      · rw [h] at hu
        exact absurd (by simpa [endsLine] using hu) hline
      · rw [h] at hu
        exact absurd (List.cons.inj hu).1 hreturn
    · rw [dropReturns_cons hd] at h
      obtain rfl := (List.cons.inj h).1
      exact ⟨u, rfl⟩

theorem wholePart?_dropReturns {s d u : List Char} (h : wholePart? s = some (d, u)) :
    wholePart? (dropReturns s) = some (d, dropReturns u) := by
  unfold wholePart? at h
  split at h
  · cases h
    rw [dropReturns_cons (by decide)]
    rfl
  · rename_i c t hzero
    split at h
    · rename_i hc
      cases h
      have hr : c ≠ '\r' := by rintro rfl; exact absurd hc (by decide)
      rw [dropReturns_cons hr, wholePart?]
      · rw [if_pos hc, takeWhile_dropReturns rfl rfl, dropWhile_dropReturns rfl rfl]
      · rintro rfl; exact hzero rfl
    · cases h
  · cases h

theorem fractionPart_dropReturns (s : List Char) :
    fractionPart (dropReturns s) = ((fractionPart s).1, dropReturns (fractionPart s).2) := by
  by_cases hs : ∃ t, s = '.' :: t
  · obtain ⟨t, rfl⟩ := hs
    rw [dropReturns_cons (by decide)]
    simp only [fractionPart, takeWhile_dropReturns (q := Char.isDigit) rfl rfl,
      dropWhile_dropReturns (q := Char.isDigit) rfl rfl]
    split
    · rw [dropReturns_cons (by decide)]
    · rfl
  · rw [fractionPart.eq_2 s fun t ht => hs ⟨t, ht⟩, fractionPart.eq_2]
    intro t ht
    exact hs (head_of_dropReturns (by decide) (by decide) ht)

/-- The sign of an exponent, and what follows it. -/
def exponentSign : List Char → Bool × List Char
  | '-' :: u => (true, u)
  | '+' :: u => (false, u)
  | u => (false, u)

theorem exponentPart_cons (e : Char) (t : List Char) :
    exponentPart (e :: t) =
      if e == 'e' || e == 'E' then
        if ((exponentSign t).2.takeWhile Char.isDigit).isEmpty then (none, e :: t)
        else (some ((exponentSign t).1, (exponentSign t).2.takeWhile Char.isDigit),
          (exponentSign t).2.dropWhile Char.isDigit)
      else (none, e :: t) := by
  rfl

theorem exponentSign_dropReturns (s : List Char) :
    exponentSign (dropReturns s) = ((exponentSign s).1, dropReturns (exponentSign s).2) := by
  by_cases hminus : ∃ t, s = '-' :: t
  · obtain ⟨t, rfl⟩ := hminus
    rw [dropReturns_cons (by decide)]
    rfl
  by_cases hplus : ∃ t, s = '+' :: t
  · obtain ⟨t, rfl⟩ := hplus
    rw [dropReturns_cons (by decide)]
    rfl
  rw [exponentSign.eq_3 s (fun t ht => hminus ⟨t, ht⟩) fun t ht => hplus ⟨t, ht⟩,
    exponentSign.eq_3]
  · exact fun t ht => hminus (head_of_dropReturns (by decide) (by decide) ht)
  · exact fun t ht => hplus (head_of_dropReturns (by decide) (by decide) ht)

theorem exponentPart_dropReturns (s : List Char) :
    exponentPart (dropReturns s) = ((exponentPart s).1, dropReturns (exponentPart s).2) := by
  have hother : ∀ t, (∀ e u, t = e :: u → ¬ (e == 'e' || e == 'E') = true) →
      exponentPart t = (none, t) := by
    intro t ht
    cases t with
    | nil => rfl
    | cons e u => rw [exponentPart_cons, if_neg (ht e u rfl)]
  by_cases hs : ∃ e t, s = e :: t ∧ (e == 'e' || e == 'E') = true
  · obtain ⟨e, t, rfl, he⟩ := hs
    have hr : e ≠ '\r' := by rintro rfl; exact absurd he (by decide)
    rw [dropReturns_cons hr, exponentPart_cons, exponentPart_cons, if_pos he, if_pos he,
      exponentSign_dropReturns]
    simp only [takeWhile_dropReturns (q := Char.isDigit) rfl rfl,
      dropWhile_dropReturns (q := Char.isDigit) rfl rfl]
    split
    · rw [dropReturns_cons hr]
    · rfl
  · rw [hother s fun e t ht he => hs ⟨e, t, ht, he⟩, hother]
    intro e t ht he
    obtain ⟨u, hu⟩ := head_of_dropReturns (c := e) (by rintro rfl; exact absurd he (by decide))
      (by rintro rfl; exact absurd he (by decide)) ht
    exact hs ⟨e, u, hu, he⟩

/-- The sign of a number, and what follows it. -/
def numberSign : List Char → Bool × List Char
  | '-' :: t => (true, t)
  | t => (false, t)

theorem numberParts?_eq (s : List Char) :
    numberParts? s = (wholePart? (numberSign s).2).map fun x =>
      ⟨(numberSign s).1, x.1, (fractionPart x.2).1, (exponentPart (fractionPart x.2).2).1,
        (exponentPart (fractionPart x.2).2).2⟩ := rfl

theorem numberSign_dropReturns (s : List Char) :
    numberSign (dropReturns s) = ((numberSign s).1, dropReturns (numberSign s).2) := by
  by_cases hs : ∃ t, s = '-' :: t
  · obtain ⟨t, rfl⟩ := hs
    rw [dropReturns_cons (by decide)]
    rfl
  · rw [numberSign.eq_2 s fun t ht => hs ⟨t, ht⟩, numberSign.eq_2]
    exact fun t ht => hs (head_of_dropReturns (by decide) (by decide) ht)

theorem numberParts?_dropReturns {s : List Char} {parts : NumberParts}
    (h : numberParts? s = some parts) :
    numberParts? (dropReturns s) = some { parts with rest := dropReturns parts.rest } := by
  rw [numberParts?_eq] at h ⊢
  obtain ⟨⟨whole, u⟩, hw, rfl⟩ := Option.map_eq_some_iff.1 h
  rw [numberSign_dropReturns, wholePart?_dropReturns hw]
  simp only [Option.map_some, fractionPart_dropReturns, exponentPart_dropReturns]

/-! ### Strings -/

theorem isHex_of_hexValues? {cs : List Char} {n : Nat} (h : hexValues? cs = some n) {c : Char}
    (hc : c ∈ cs) : (hexValue? c).isSome = true := by
  have key : ∀ (cs : List Char) (m : Nat),
      cs.foldlM (fun n c => (hexValue? c).map (16 * n + ·)) m = some n →
        ∀ c ∈ cs, (hexValue? c).isSome = true := by
    intro cs
    induction cs with
    | nil => intro _ _ c hc; cases hc
    | cons d cs ih =>
      intro m hm c hc
      rw [List.foldlM_cons] at hm
      obtain ⟨k, hk, hm⟩ := Option.bind_eq_some_iff.1 hm
      obtain ⟨v, hv, -⟩ := Option.map_eq_some_iff.1 hk
      rcases List.mem_cons.1 hc with rfl | hc
      · rw [hv]; rfl
      · exact ih k hm c hc
  exact key cs 0 h c hc

/-- Four hexadecimal digits are no line end. -/
theorem take_drop_dropReturns {t : List Char} {n : Nat} (hlen : 4 < t.length)
    (h : hexValues? (t.take 4) = some n) :
    (dropReturns t).take 4 = t.take 4 ∧ (dropReturns t).drop 4 = dropReturns (t.drop 4) := by
  have hdigits : ∀ c ∈ t.take 4, c ≠ '\r' := by
    rintro c hc rfl
    exact absurd (isHex_of_hexValues? h hc) (by decide)
  match t, hlen with
  | a :: b :: c :: d :: u, _ =>
    simp only [List.take_succ_cons, List.take_zero, List.mem_cons, List.not_mem_nil, or_false,
      forall_eq_or_imp, forall_eq] at hdigits
    obtain ⟨ha, hb, hc, hd⟩ := hdigits
    rw [dropReturns_cons ha, dropReturns_cons hb, dropReturns_cons hc, dropReturns_cons hd]
    exact ⟨rfl, rfl⟩

/-- After a high surrogate the next unit decides. -/
theorem unicodeEscape_of_high {t t' u : List Char} {n : Nat} {c : Char}
    (hu : unit? t = some (n, t')) (hn : isHighSurrogate n = true) :
    unicodeEscape t = .ok (c, u) ↔
      (∃ low, secondUnit t' = .ok (some (low, u)) ∧ isLowSurrogate low = true ∧
        c = Char.ofNat (0x10000 + (n - 0xD800) * 0x400 + (low - 0xDC00))) ∨
      (c = unitChar n ∧ u = t' ∧
        ∃ o, secondUnit t' = .ok o ∧ ∀ x ∈ o, isLowSurrogate x.1 = false) := by
  unfold unicodeEscape
  rw [hu]
  simp only [if_pos hn]
  cases hs : secondUnit t' with
  | error fault => simp [bind, Except.bind]
  | ok o =>
    cases o with
    | none =>
      simp only [bind, Except.bind, pure, Except.pure, Except.ok.injEq, Prod.mk.injEq]
      constructor
      · rintro ⟨rfl, rfl⟩
        exact .inr ⟨rfl, rfl, none, rfl, by simp⟩
      · rintro (⟨low, hlow, -⟩ | ⟨rfl, rfl, -⟩)
        · cases hlow
        · exact ⟨rfl, rfl⟩
    | some y =>
      obtain ⟨low, t''⟩ := y
      by_cases hlow : isLowSurrogate low = true
      · simp only [bind, Except.bind, pure, Except.pure, if_pos hlow, Except.ok.injEq,
          Prod.mk.injEq]
        constructor
        · rintro ⟨rfl, rfl⟩
          exact .inl ⟨low, rfl, hlow, rfl⟩
        · rintro (⟨low', hlow', -, hc⟩ | ⟨-, -, o, rfl, hnot⟩)
          · cases hlow'; exact ⟨hc.symm, rfl⟩
          · exact absurd hlow (by simp [hnot _ rfl])
      · simp only [bind, Except.bind, pure, Except.pure, if_neg hlow, Except.ok.injEq,
          Prod.mk.injEq]
        constructor
        · rintro ⟨rfl, rfl⟩
          exact .inr ⟨rfl, rfl, _, rfl, by simpa using hlow⟩
        · rintro (⟨low', hlow', hlow'', -⟩ | ⟨rfl, rfl, -⟩)
          · cases hlow'; exact absurd hlow'' hlow
          · exact ⟨rfl, rfl⟩

theorem unicodeEscape_of_not_high {t t' u : List Char} {n : Nat} {c : Char}
    (hu : unit? t = some (n, t')) (hn : isHighSurrogate n = false) :
    unicodeEscape t = .ok (c, u) ↔ c = unitChar n ∧ u = t' := by
  simp [unicodeEscape, hu, hn, eq_comm]

/-- An escape is one unit, or a pair of surrogates. The unit after a high surrogate that is no low
one, or that the text is too short for, is left for the next turn. -/
theorem unicodeEscape_eq_ok_iff {t u : List Char} {c : Char} :
    unicodeEscape t = .ok (c, u) ↔ ∃ n t', unit? t = some (n, t') ∧
      ((∃ low, isHighSurrogate n = true ∧ secondUnit t' = .ok (some (low, u)) ∧
          isLowSurrogate low = true ∧
          c = Char.ofNat (0x10000 + (n - 0xD800) * 0x400 + (low - 0xDC00))) ∨
        (c = unitChar n ∧ u = t' ∧ (isHighSurrogate n = true →
          ∃ o, secondUnit t' = .ok o ∧ ∀ x ∈ o, isLowSurrogate x.1 = false))) := by
  cases hu : unit? t with
  | none => simp [unicodeEscape, hu]
  | some x =>
    obtain ⟨n, t'⟩ := x
    cases hn : isHighSurrogate n with
    | true =>
      rw [unicodeEscape_of_high hu hn]
      constructor
      · intro h
        exact ⟨n, t', rfl, by simpa only [hn, true_and, true_implies] using h⟩
      · rintro ⟨_, _, ⟨⟩, h⟩
        simpa only [hn, true_and, true_implies] using h
    | false =>
      rw [unicodeEscape_of_not_high hu hn]
      constructor
      · rintro ⟨rfl, rfl⟩
        exact ⟨n, u, rfl, .inr ⟨rfl, rfl, by simp [hn]⟩⟩
      · rintro ⟨_, _, ⟨⟩, ⟨_, h, -⟩ | ⟨rfl, rfl, -⟩⟩
        · rw [hn] at h
          cases h
        · exact ⟨rfl, rfl⟩

theorem unit?_eq_some_iff {t u : List Char} {n : Nat} :
    unit? t = some (n, u) ↔ 4 < t.length ∧ hexValues? (t.take 4) = some n ∧ t.drop 4 = u := by
  unfold unit?
  split <;> rename_i h <;> simp [h]

/-- Something follows a unit, as the text of a string goes on to its closing quote. -/
theorem unit?_dropReturns {t u : List Char} {n : Nat} (h : unit? t = some (n, u))
    (hu : dropReturns u ≠ []) : unit? (dropReturns t) = some (n, dropReturns u) := by
  obtain ⟨hlen, hn, rfl⟩ := unit?_eq_some_iff.1 h
  obtain ⟨htake, hdrop⟩ := take_drop_dropReturns hlen hn
  refine unit?_eq_some_iff.2 ⟨?_, by rw [htake, hn], hdrop⟩
  have := List.length_pos_iff.2 hu
  rw [← hdrop, List.length_drop] at this
  omega

theorem secondUnit_eq_some_iff {t u : List Char} {n : Nat} :
    secondUnit t = .ok (some (n, u)) ↔ ∃ t', t = '\\' :: 'u' :: t' ∧ unit? t' = some (n, u) := by
  constructor
  · intro h
    unfold secondUnit at h
    split at h
    · rename_i t'
      refine ⟨t', rfl, unit?_eq_some_iff.2 ?_⟩
      split at h
      · rename_i hlen
        split at h
        · rename_i hn; cases h; exact ⟨hlen, hn, rfl⟩
        · cases h
      · cases h
    · cases h
  · rintro ⟨t', rfl, hu⟩
    obtain ⟨hlen, hn, rfl⟩ := unit?_eq_some_iff.1 hu
    simp only [secondUnit, if_pos hlen, hn]

/-- Without the carriage returns a second unit is the same, or there is too little left for one. -/
theorem secondUnit_dropReturns {t : List Char} {o : Option (Nat × List Char)}
    (h : secondUnit t = .ok o) :
    ∃ o', secondUnit (dropReturns t) = .ok o' ∧ ∀ x ∈ o', ∃ y ∈ o, x.1 = y.1 := by
  by_cases hs : ∃ t', t = '\\' :: 'u' :: t'
  · obtain ⟨t', rfl⟩ := hs
    rw [dropReturns_cons (by decide), dropReturns_cons (by decide)]
    simp only [secondUnit] at h ⊢
    split
    · rename_i hlen'
      have hlen : 4 < t'.length := by
        have := Text.length_dropReturns_le t'
        omega
      rw [if_pos hlen] at h
      split at h
      · rename_i n hn
        cases h
        rw [(take_drop_dropReturns hlen hn).1, hn]
        exact ⟨_, rfl, by simp⟩
      · cases h
    · exact ⟨none, rfl, by simp⟩
  · refine ⟨none, ?_, by simp⟩
    unfold secondUnit
    split
    · rename_i u hu
      obtain ⟨v, rfl⟩ := head_of_dropReturns (by decide) (by decide) hu
      rw [dropReturns_cons (by decide)] at hu
      obtain ⟨w, rfl⟩ := head_of_dropReturns (by decide) (by decide) (List.cons.inj hu).2
      exact absurd ⟨w, rfl⟩ hs
    · rfl

theorem StringTail.dropReturns {t cs r : List Char} (h : StringTail t cs r) :
    StringTail (dropReturns t) cs (dropReturns r) := by
  induction h with
  | close t => rw [dropReturns_cons (by decide)]; exact .close _
  | @unicode t u cs r c escape tail ih =>
    rw [dropReturns_cons (by decide), dropReturns_cons (by decide)]
    refine .unicode ?_ ih
    have hne : Text.dropReturns u ≠ [] := by rintro hu; rw [hu] at ih; cases ih
    obtain ⟨n, t', hu, ⟨low, hn, hs, hlow, hc⟩ | ⟨rfl, rfl, hn⟩⟩ :=
      unicodeEscape_eq_ok_iff.1 escape
    · obtain ⟨t'', rfl, hu'⟩ := secondUnit_eq_some_iff.1 hs
      have hne' : Text.dropReturns ('\\' :: 'u' :: t'') ≠ [] := by
        rw [dropReturns_cons (by decide)]; simp
      refine unicodeEscape_eq_ok_iff.2
        ⟨n, _, unit?_dropReturns hu hne', .inl ⟨low, hn, ?_, hlow, hc⟩⟩
      rw [dropReturns_cons (by decide), dropReturns_cons (by decide)]
      exact secondUnit_eq_some_iff.2 ⟨_, rfl, unit?_dropReturns hu' hne⟩
    · refine unicodeEscape_eq_ok_iff.2
        ⟨n, _, unit?_dropReturns hu hne, .inr ⟨rfl, rfl, fun h => ?_⟩⟩
      obtain ⟨o, ho, hlow⟩ := hn h
      obtain ⟨o', ho', hx⟩ := secondUnit_dropReturns ho
      refine ⟨o', ho', fun x hmem => ?_⟩
      obtain ⟨y, hy, hxy⟩ := hx x hmem
      rw [hxy]
      exact hlow y hy
  | @letter t cs r e c escape tail ih =>
    have he : e ≠ '\r' := by rintro rfl; cases escape
    rw [dropReturns_cons (by decide), dropReturns_cons he]
    exact .letter escape ih
  | plain quote slash visible tail ih =>
    rw [dropReturns_cons (by rintro rfl; exact visible (by decide))]
    exact .plain quote slash visible ih

/-! ### Values -/

theorem names_ne_return {text : List Char} {name : Name} (h : (text, name) ∈ names)
    (r : List Char) : dropReturns (text ++ r) = text ++ dropReturns r := by
  have hno : ∀ x ∈ names, '\r' ∉ x.1 := by decide
  have key : ∀ s : List Char, '\r' ∉ s → dropReturns (s ++ r) = s ++ dropReturns r := by
    intro s hs
    induction s with
    | nil => rfl
    | cons c s ih =>
      rw [List.mem_cons, not_or] at hs
      rw [List.cons_append, dropReturns_cons (Ne.symm hs.1), ih hs.2]
      rfl
  exact key text (hno _ h)

/-- A text is spelled by its lines without the carriage returns at their ends as well. -/
theorem Reads.dropReturns {p : NonFinitePolicy} {part : Part} {s r : List Char}
    (h : Reads p part s r) : Reads p part (dropReturns s) (dropReturns r) := by
  have hskip : ∀ {c : Char} {t u : List Char}, c ≠ '\r' → skipSpace t = c :: u →
      skipSpace (Text.dropReturns t) = c :: Text.dropReturns u := by
    intro c t u hc ht
    rw [skipSpace_dropReturns, ht, dropReturns_cons hc]
  induction h with
  | string tail => rw [dropReturns_cons (by decide)]; exact .string tail.dropReturns
  | emptyArray close =>
    rw [dropReturns_cons (by decide)]
    exact .emptyArray (hskip (by decide) close)
  | array _ ih =>
    rw [dropReturns_cons (by decide)]
    exact .array (by rw [skipSpace_dropReturns]; exact ih)
  | emptyObject close =>
    rw [dropReturns_cons (by decide)]
    exact .emptyObject (hskip (by decide) close)
  | object _ ih =>
    rw [dropReturns_cons (by decide)]
    exact .object (by rw [skipSpace_dropReturns]; exact ih)
  | name known admitted => rw [names_ne_return known]; exact .name known admitted
  | number spelled value => exact .number (numberParts?_dropReturns spelled) value
  | lastItem _ close ih => exact .lastItem ih (hskip (by decide) close)
  | item _ comma _ ih ihRest =>
    exact .item ih (hskip (by decide) comma) (by rw [skipSpace_dropReturns]; exact ihRest)
  | lastMember name colon _ close ih =>
    rw [dropReturns_cons (by decide)]
    exact .lastMember name.dropReturns (hskip (by decide) colon)
      (by rw [skipSpace_dropReturns]; exact ih) (hskip (by decide) close)
  | member name colon _ comma _ ih ihRest =>
    rw [dropReturns_cons (by decide)]
    exact .member name.dropReturns (hskip (by decide) colon)
      (by rw [skipSpace_dropReturns]; exact ih) (hskip (by decide) comma)
      (by rw [skipSpace_dropReturns]; exact ihRest)

theorem read_dropReturns {p : NonFinitePolicy} {text : List Char} {v : Json}
    (h : read p text = .ok v) : read p (dropReturns text) = .ok v := by
  obtain ⟨r, hv, hr⟩ := read_eq_ok_iff.1 h
  refine read_eq_ok_iff.2 ⟨dropReturns r, ?_, ?_⟩
  · rw [skipSpace_dropReturns]; exact hv.dropReturns
  · rw [skipSpace_dropReturns, hr, dropReturns_nil]

end HttpScript.Json
