import HttpScript.Json.Reader
import Mathlib.Tactic

/-!
# The grammar of JSON texts

`Reads p part s r` says that `s` begins with a spelling of `part` and that `r` is what follows it.
The relation has one rule per way of spelling a value, the items of an array or the members of an
object. The reader finds exactly what the grammar derives; whatever holds of all readable texts is
proved by induction on derivations, and a text is shown readable by deriving it.
-/
namespace HttpScript.Json

/-- A result with what is left of the text, the proof about its length left out. -/
def Result.view {α : Type} {s : List Char} (r : Result α s) : Except Fault (α × List Char) :=
  r.map fun x => (x.1, x.2.chars)

theorem Result.view_map_widen {α β : Type} {s t : List Char} (f : α → β)
    (h : s.length ≤ t.length) (r : Result α s) :
    Result.view ((r.widen h).map fun x => (f x.1, x.2)) = r.view.map fun x => (f x.1, x.2) := by
  cases r <;> rfl

theorem Result.view_eq_ok {α : Type} {s r : List Char} {x : Result α s} {a : α}
    (h : x.view = .ok (a, r)) : ∃ hr, x = .ok (a, ⟨r, hr⟩) := by
  cases x with
  | error fault => cases h
  | ok x => obtain ⟨b, rest, hr⟩ := x; cases h; exact ⟨hr, rfl⟩

theorem Result.view_eq_error {α : Type} {s : List Char} {x : Result α s} {fault : Fault}
    (h : x.view = .error fault) : x = .error fault := by
  cases x with
  | error fault => cases h; rfl
  | ok x => cases h

theorem Result.view_extend {α β : Type} {s t u : List Char} (f : α → β)
    (h : s.length ≤ t.length) (r : Result α s) (b : β) :
    Result.view ((r.widen h).map fun x => (f x.1, x.2)) = .ok (b, u) ↔
      ∃ a, r.view = .ok (a, u) ∧ f a = b := by
  rw [Result.view_map_widen]
  cases r.view with
  | error fault => simp [Except.map]
  | ok x =>
    obtain ⟨a, w⟩ := x
    simp only [Except.map, Except.ok.injEq, Prod.mk.injEq]
    constructor
    · rintro ⟨rfl, rfl⟩; exact ⟨a, ⟨rfl, rfl⟩, rfl⟩
    · rintro ⟨_, ⟨rfl, rfl⟩, rfl⟩; exact ⟨rfl, rfl⟩

theorem skipSpace_append_of_space {b : List Char} (h : ∀ c ∈ b, isSpace c = true)
    (s : List Char) : skipSpace (b ++ s) = skipSpace s :=
  List.dropWhile_append_of_pos h

/-! ### Strings -/

/-- The characters of a string up to its closing quote, and what follows the quote. -/
inductive StringTail : List Char → List Char → List Char → Prop
  | close (t : List Char) : StringTail ('"' :: t) [] t
  | unicode {t u cs r : List Char} {c : Char} (escape : unicodeEscape t = .ok (c, u))
      (tail : StringTail u cs r) : StringTail ('\\' :: 'u' :: t) (c :: cs) r
  | letter {t cs r : List Char} {e c : Char} (escape : letterEscape? e = some c)
      (tail : StringTail t cs r) : StringTail ('\\' :: e :: t) (c :: cs) r
  | plain {t cs r : List Char} {c : Char} (quote : c ≠ '"') (slash : c ≠ '\\')
      (visible : ¬ c.toNat < 0x20) (tail : StringTail t cs r) : StringTail (c :: t) (c :: cs) r

theorem stringTail_sound {start s cs r : List Char}
    (h : (stringTail start s).view = .ok (cs, r)) : StringTail s cs r := by
  fun_induction stringTail start s generalizing cs with
  | case1 => cases h
  | case2 t => cases h; exact .close t
  | case3 => cases h
  | case4 => cases h
  | case5 t c u hu _ ih =>
    obtain ⟨cs, ht, rfl⟩ := (Result.view_extend (c :: ·) _ _ _).1 h
    exact .unicode hu (ih ht)
  | case6 => cases h
  | case7 e t _ c he ih =>
    obtain ⟨cs, ht, rfl⟩ := (Result.view_extend (c :: ·) _ _ _).1 h
    exact .letter he (ih ht)
  | case8 => cases h
  | case9 c t quote single _ escape visible ih =>
    obtain ⟨cs, ht, rfl⟩ := (Result.view_extend (c :: ·) _ _ _).1 h
    refine .plain quote ?_ visible (ih ht)
    rintro rfl
    cases t with
    | nil => exact single rfl rfl
    | cons e t => exact escape e t rfl rfl

theorem stringTail_complete {start s cs r : List Char} (h : StringTail s cs r) :
    (stringTail start s).view = .ok (cs, r) := by
  fun_induction stringTail start s generalizing cs with
  | case1 => cases h
  | case2 t =>
    cases h with
    | close => rfl
    | plain quote => exact absurd rfl quote
  | case3 =>
    cases h with
    | plain _ slash => exact absurd rfl slash
  | case4 t fault hu =>
    cases h with
    | unicode escape => rw [hu] at escape; cases escape
    | letter escape => cases escape
    | plain _ slash => exact absurd rfl slash
  | case5 t c u hu _ ih =>
    cases h with
    | unicode escape tail =>
      obtain ⟨rfl, rfl⟩ : c = _ ∧ u = _ := by simpa [hu] using escape
      exact (Result.view_extend (c :: ·) _ _ _).2 ⟨_, ih tail, rfl⟩
    | letter escape => cases escape
    | plain _ slash => exact absurd rfl slash
  | case6 e t hu he =>
    cases h with
    | unicode => exact (hu rfl).elim
    | letter escape => rw [he] at escape; cases escape
    | plain _ slash => exact absurd rfl slash
  | case7 e t hu c he ih =>
    cases h with
    | unicode => cases he
    | letter escape tail =>
      obtain rfl : c = _ := by simpa [he] using escape
      exact (Result.view_extend (c :: ·) _ _ _).2 ⟨_, ih tail, rfl⟩
    | plain _ slash => exact absurd rfl slash
  | case8 c t quote single _ escape control =>
    cases h with
    | close => exact absurd rfl quote
    | unicode => exact absurd rfl (escape _ _ rfl)
    | letter => exact absurd rfl (escape _ _ rfl)
    | plain _ _ visible => exact absurd control visible
  | case9 c t quote single _ escape visible ih =>
    cases h with
    | close => exact absurd rfl quote
    | unicode => exact absurd rfl (escape _ _ rfl)
    | letter => exact absurd rfl (escape _ _ rfl)
    | plain _ _ _ tail => exact (Result.view_extend (c :: ·) _ _ _).2 ⟨_, ih tail, rfl⟩

/-! ### Values -/

/-- What a stretch of text may spell: a value, or the inside of an array or of an object. -/
inductive Part where
  | value (v : Json)
  | items (vs : List Json)
  | members (ms : List (String × Json))

/-- The value of a literal name, if the policy admits it. -/
def Name.read? (p : NonFinitePolicy) : Name → Option Json
  | .plain v => some v
  | .nonFinite which =>
    match p with
    | .accept => some (.float which.value)
    | .refuse => none

/-- `s` begins with a spelling of the part, and `r` follows it. Items and members include the
bracket that closes them. -/
inductive Reads (p : NonFinitePolicy) : Part → List Char → List Char → Prop
  | string {t cs r : List Char} (tail : StringTail t cs r) :
      Reads p (.value (.string (.ofList cs))) ('"' :: t) r
  | emptyArray {t r : List Char} (close : skipSpace t = ']' :: r) :
      Reads p (.value (.array [])) ('[' :: t) r
  | array {t r : List Char} {vs : List Json} (items : Reads p (.items vs) (skipSpace t) r) :
      Reads p (.value (.array vs)) ('[' :: t) r
  | emptyObject {t r : List Char} (close : skipSpace t = '\x7d' :: r) :
      Reads p (.value (.object [])) ('\x7b' :: t) r
  | object {t r : List Char} {ms : List (String × Json)}
      (members : Reads p (.members ms) (skipSpace t) r) :
      Reads p (.value (.object (Entries.collapse ms))) ('\x7b' :: t) r
  | name {text r : List Char} {name : Name} {v : Json} (known : (text, name) ∈ names)
      (admitted : name.read? p = some v) : Reads p (.value v) (text ++ r) r
  | number {s : List Char} {parts : NumberParts} {v : Json} (spelled : numberParts? s = some parts)
      (value : parts.value = .ok v) : Reads p (.value v) s parts.rest
  | lastItem {s r t : List Char} {v : Json} (item : Reads p (.value v) s r)
      (close : skipSpace r = ']' :: t) : Reads p (.items [v]) s t
  | item {s r t u : List Char} {v : Json} {vs : List Json} (item : Reads p (.value v) s r)
      (comma : skipSpace r = ',' :: t) (rest : Reads p (.items vs) (skipSpace t) u) :
      Reads p (.items (v :: vs)) s u
  | lastMember {n cs r t r' u : List Char} {v : Json} (name : StringTail n cs r)
      (colon : skipSpace r = ':' :: t) (value : Reads p (.value v) (skipSpace t) r')
      (close : skipSpace r' = '\x7d' :: u) : Reads p (.members [(.ofList cs, v)]) ('"' :: n) u
  | member {n cs r t r' u w : List Char} {v : Json} {ms : List (String × Json)}
      (name : StringTail n cs r) (colon : skipSpace r = ':' :: t)
      (value : Reads p (.value v) (skipSpace t) r') (comma : skipSpace r' = ',' :: u)
      (rest : Reads p (.members ms) (skipSpace u) w) :
      Reads p (.members ((.ofList cs, v) :: ms)) ('"' :: n) w

/-- The characters that literal names and numbers begin with. -/
def startsScalar (c : Char) : Bool := c.isDigit || "-ntfNI".toList.contains c

theorem names_eq : names = [
    (['n', 'u', 'l', 'l'], .plain .null), (['t', 'r', 'u', 'e'], .plain (.bool true)),
    (['f', 'a', 'l', 's', 'e'], .plain (.bool false)), (['N', 'a', 'N'], .nonFinite .nan),
    (['I', 'n', 'f', 'i', 'n', 'i', 't', 'y'], .nonFinite .infinity),
    (['-', 'I', 'n', 'f', 'i', 'n', 'i', 't', 'y'], .nonFinite .negativeInfinity)] := rfl

theorem names_head {text : List Char} {name : Name} (h : (text, name) ∈ names) :
    ∃ c t, text = c :: t ∧ startsScalar c = true := by
  simp only [names_eq, List.mem_cons, List.not_mem_nil, or_false, Prod.mk.injEq] at h
  rcases h with ⟨rfl, -⟩ | ⟨rfl, -⟩ | ⟨rfl, -⟩ | ⟨rfl, -⟩ | ⟨rfl, -⟩ | ⟨rfl, -⟩ <;>
    exact ⟨_, _, rfl, by decide⟩

theorem wholePart?_head {s d t : List Char} (h : wholePart? s = some (d, t)) :
    ∃ c u, s = c :: u ∧ c.isDigit = true := by
  unfold wholePart? at h
  split at h
  · exact ⟨_, _, rfl, rfl⟩
  · rename_i c u _
    split at h
    · rename_i hc; exact ⟨c, u, rfl, hc⟩
    · cases h
  · cases h

theorem numberParts?_head {s : List Char} {parts : NumberParts} (h : numberParts? s = some parts) :
    ∃ c t, s = c :: t ∧ (c = '-' ∨ c.isDigit = true) := by
  unfold numberParts? at h
  split at h
  rename_i negative t hs
  obtain ⟨⟨d, u⟩, hw, -⟩ := Option.map_eq_some_iff.1 h
  obtain ⟨c, w, rfl, hc⟩ := wholePart?_head hw
  split at hs
  · exact ⟨_, _, rfl, .inl rfl⟩
  · obtain ⟨-, rfl⟩ := Prod.mk.inj hs
    exact ⟨c, w, rfl, .inr hc⟩

/-- The literal that a text begins with is the one the search for a literal finds. -/
theorem find?_names {text r : List Char} {name : Name} (h : (text, name) ∈ names) :
    names.find? (fun (text', _) => text'.isPrefixOf (text ++ r)) = some (text, name) := by
  rw [names_eq] at h ⊢
  simp only [List.mem_cons, List.not_mem_nil, or_false, Prod.mk.injEq] at h
  rcases h with ⟨rfl, rfl⟩ | ⟨rfl, rfl⟩ | ⟨rfl, rfl⟩ | ⟨rfl, rfl⟩ | ⟨rfl, rfl⟩ | ⟨rfl, rfl⟩ <;>
    simp [List.isPrefixOf]

/-- No number begins with a literal name. -/
theorem find?_names_of_number {s : List Char} {parts : NumberParts}
    (h : numberParts? s = some parts) :
    names.find? (fun (text, _) => text.isPrefixOf s) = none := by
  obtain ⟨c, t, rfl, hc⟩ := numberParts?_head h
  rw [List.find?_eq_none, names_eq]
  rintro ⟨text, name⟩ hmem hprefix
  obtain ⟨u, hu⟩ := List.isPrefixOf_iff_prefix.1 hprefix
  simp only [List.mem_cons, List.not_mem_nil, or_false, Prod.mk.injEq] at hmem
  rcases hmem with ⟨rfl, -⟩ | ⟨rfl, -⟩ | ⟨rfl, -⟩ | ⟨rfl, -⟩ | ⟨rfl, -⟩ | ⟨rfl, -⟩ <;>
    simp only [List.cons_append, List.cons.injEq] at hu <;>
    obtain ⟨rfl, rfl⟩ := hu
  all_goals try exact absurd hc (by decide)
  cases h

theorem scalar_view_eq_ok_iff {p : NonFinitePolicy} {s r : List Char} {v : Json} :
    (scalar p s).view = .ok (v, r) ↔
      (∃ text name, (text, name) ∈ names ∧ name.read? p = some v ∧ s = text ++ r) ∨
        ∃ parts, numberParts? s = some parts ∧ parts.value = .ok v ∧ parts.rest = r := by
  constructor
  · intro h
    unfold scalar at h
    split at h
    · rename_i text name hfind
      have hprefix : text.isPrefixOf s = true := by simpa using List.find?_some hfind
      obtain ⟨u, rfl⟩ := List.isPrefixOf_iff_prefix.1 hprefix
      refine .inl ⟨text, name, List.mem_of_find?_eq_some hfind, ?_⟩
      split at h
      · split at h <;> cases h <;> exact ⟨rfl, by simp⟩
      · cases h
    · split at h
      · rename_i parts hparts
        cases hv : parts.value with
        | error fault => rw [hv] at h; cases h
        | ok w => rw [hv] at h; cases h; exact .inr ⟨parts, hparts, hv, rfl⟩
      · cases h
  · rintro (⟨text, name, hmem, hread, rfl⟩ | ⟨parts, hparts, hv, rfl⟩)
    · have hpos : 0 < text.length := by
        obtain ⟨c, t, rfl, -⟩ := names_head hmem
        exact Nat.succ_pos _
      unfold scalar
      rw [find?_names hmem]
      dsimp only
      rw [dif_pos ⟨hpos, by rw [List.length_append]; omega⟩]
      cases name with
      | plain w => obtain rfl := Option.some.inj hread; simp [Result.view, Except.map]
      | nonFinite which =>
        cases p with
        | accept => obtain rfl := Option.some.inj hread; simp [Result.view, Except.map]
        | refuse => cases hread
    · unfold scalar
      rw [find?_names_of_number hparts]
      dsimp only
      split
      · rename_i parts' h'
        obtain rfl : parts = parts' := Option.some.inj (hparts.symm.trans h')
        rw [hv]
        rfl
      · rename_i h'; rw [hparts] at h'; cases h'

/-- The literals that the refusing reader stops at. -/
theorem scalar_refuse {text r : List Char} {which : NonFinite}
    (h : (text, .nonFinite which) ∈ names) :
    (scalar .refuse (text ++ r)).view = .error (.nonFinite which (text ++ r)) := by
  obtain ⟨c, t, ht, -⟩ := names_head h
  unfold scalar
  rw [find?_names h]
  dsimp only
  rw [dif_pos ⟨by rw [ht]; exact Nat.succ_pos _, by rw [ht]; exact Nat.succ_pos _⟩]
  rfl

mutual

theorem value_sound {p : NonFinitePolicy} {s r : List Char} {v : Json}
    (h : (value p s).view = .ok (v, r)) : Reads p (.value v) s r := by
  generalize hs : s = u at h
  unfold value at h
  split at h
  · obtain ⟨cs, ht, rfl⟩ := (Result.view_extend (fun cs => Json.string (.ofList cs)) _ _ _).1 h
    exact .string (stringTail_sound ht)
  · split at h
    · rename_i close; cases h; exact .emptyArray close
    · rename_i t _
      have := length_skipSpace_le t
      obtain ⟨vs, ht, rfl⟩ := (Result.view_extend Json.array _ _ _).1 h
      exact .array (items_sound ht)
  · split at h
    · rename_i close; cases h; exact .emptyObject close
    · rename_i t _
      have := length_skipSpace_le t
      obtain ⟨ms, ht, rfl⟩ :=
        (Result.view_extend (fun ms => Json.object (Entries.collapse ms)) _ _ _).1 h
      exact .object (members_sound ht)
  · subst hs
    rcases scalar_view_eq_ok_iff.1 h with ⟨text, name, known, admitted, rfl⟩ | ⟨parts, hs, hv, rfl⟩
    · exact .name known admitted
    · exact .number hs hv
termination_by 2 * s.length
decreasing_by all_goals (subst_vars; simp only [List.length_cons] at *; omega)

theorem items_sound {p : NonFinitePolicy} {s r : List Char} {vs : List Json}
    (h : (items p s).view = .ok (vs, r)) : Reads p (.items vs) s r := by
  unfold items at h
  split at h
  · cases h
  · rename_i v u hu hv
    have hitem : Reads p (.value v) s u := value_sound (by rw [hv]; rfl)
    split at h
    · rename_i t ht; cases h; exact .lastItem hitem ht
    · rename_i t ht
      have := length_of_skipSpace_eq ht
      have := length_skipSpace_le t
      obtain ⟨ws, hw, rfl⟩ := (Result.view_extend (v :: ·) _ _ _).1 h
      exact .item hitem ht (items_sound hw)
    · cases h
termination_by 2 * s.length + 1
decreasing_by all_goals (subst_vars; simp only [List.length_cons] at *; omega)

theorem members_sound {p : NonFinitePolicy} {s r : List Char} {ms : List (String × Json)}
    (h : (members p s).view = .ok (ms, r)) : Reads p (.members ms) s r := by
  generalize hs : s = u at h
  unfold members at h
  split at h
  · split at h
    · cases h
    · rename_i n _ cs r hr hn
      have hname : StringTail n cs r := stringTail_sound (by rw [hn]; rfl)
      split at h
      · rename_i t ht
        have := length_of_skipSpace_eq ht
        have := length_skipSpace_le t
        dsimp only at h
        split at h
        · cases h
        · rename_i v r' hr' hv
          have hvalue : Reads p (.value v) (skipSpace t) r' := value_sound (by rw [hv]; rfl)
          split at h
          · rename_i u hu; cases h; exact .lastMember hname ht hvalue hu
          · rename_i u hu
            have := length_of_skipSpace_eq hu
            have := length_skipSpace_le u
            obtain ⟨ws, hw, rfl⟩ := (Result.view_extend ((String.ofList cs, v) :: ·) _ _ _).1 h
            exact .member hname ht hvalue hu (members_sound hw)
          · cases h
      · cases h
  · cases h
termination_by 2 * s.length + 1
decreasing_by all_goals (subst_vars; simp only [List.length_cons] at *; omega)

end

/-- The characters that values begin with. -/
def startsValue (c : Char) : Bool := startsScalar c || "\"[\x7b".toList.contains c

theorem Reads.value_head {p : NonFinitePolicy} {s r : List Char} {v : Json}
    (h : Reads p (.value v) s r) : ∃ c t, s = c :: t ∧ startsValue c = true := by
  cases h with
  | string | emptyArray | array | emptyObject | object => exact ⟨_, _, rfl, by decide⟩
  | name known =>
    obtain ⟨c, t, ht, hc⟩ := names_head known
    exact ⟨c, t ++ r, by rw [ht]; rfl, by simp [startsValue, hc]⟩
  | number spelled =>
    obtain ⟨c, t, rfl, hc⟩ := numberParts?_head spelled
    exact ⟨c, t, rfl, by rcases hc with rfl | hc <;> simp [startsValue, startsScalar, *]⟩

theorem Reads.items_head {p : NonFinitePolicy} {s r : List Char} {vs : List Json}
    (h : Reads p (.items vs) s r) : ∃ c t, s = c :: t ∧ startsValue c = true := by
  cases h with
  | lastItem item => exact item.value_head
  | item item => exact item.value_head

theorem Reads.members_head {p : NonFinitePolicy} {s r : List Char} {ms : List (String × Json)}
    (h : Reads p (.members ms) s r) : ∃ n, s = '"' :: n := by
  cases h with
  | lastMember | member => exact ⟨_, rfl⟩

/-! ### The readers, one step at a time -/

section Steps

variable {p : NonFinitePolicy} {v : Json} {s t r u n : List Char} {cs : List Char}

theorem value_of_scalar {c : Char} (h : startsScalar c = true) :
    value p (c :: t) = scalar p (c :: t) := by
  apply value.eq_4 <;> rintro u ⟨⟩ <;> exact absurd h (by decide)

theorem value_array (h : ∀ u, skipSpace t ≠ ']' :: u) :
    (value p ('[' :: t)).view = (items p (skipSpace t)).view.map fun x => (.array x.1, x.2) := by
  rw [value]
  split
  · rename_i hu; exact absurd hu (h _)
  · exact Result.view_map_widen Json.array _ _

theorem value_object (h : ∀ u, skipSpace t ≠ '\x7d' :: u) :
    (value p ('\x7b' :: t)).view =
      (members p (skipSpace t)).view.map fun x => (.object (Entries.collapse x.1), x.2) := by
  rw [value]
  split
  · rename_i hu; exact absurd hu (h _)
  · exact Result.view_map_widen (fun ms => Json.object (Entries.collapse ms)) _ _

theorem items_fault {fault : Fault} (h : (value p s).view = .error fault) :
    (items p s).view = .error fault := by
  rw [items, Result.view_eq_error h]
  rfl

theorem items_close (h : (value p s).view = .ok (v, r)) (close : skipSpace r = ']' :: t) :
    (items p s).view = .ok ([v], t) := by
  obtain ⟨hr, hv⟩ := Result.view_eq_ok h
  rw [items, hv]
  dsimp only
  split
  · rename_i hu; rw [close] at hu; cases hu; rfl
  · rename_i hu; rw [close] at hu; cases hu
  · rename_i hu _; exact (hu _ close).elim

theorem items_comma (h : (value p s).view = .ok (v, r)) (comma : skipSpace r = ',' :: t) :
    (items p s).view = (items p (skipSpace t)).view.map fun x => (v :: x.1, x.2) := by
  obtain ⟨hr, hv⟩ := Result.view_eq_ok h
  rw [items, hv]
  dsimp only
  split
  · rename_i hu; rw [comma] at hu; cases hu
  · rename_i hu
    rw [comma] at hu
    cases hu
    exact Result.view_map_widen (v :: ·) _ _
  · rename_i _ hu; exact (hu _ comma).elim

theorem members_fault {fault : Fault} (name : StringTail n cs r) (colon : skipSpace r = ':' :: t)
    (h : (value p (skipSpace t)).view = .error fault) :
    (members p ('"' :: n)).view = .error fault := by
  obtain ⟨hr, hn⟩ := Result.view_eq_ok (stringTail_complete name)
  rw [members, hn]
  dsimp only
  split
  · rename_i hu; rw [colon] at hu; cases hu; rw [Result.view_eq_error h]; rfl
  · rename_i hu; exact (hu _ colon).elim

theorem members_close (name : StringTail n cs r) (colon : skipSpace r = ':' :: t)
    (h : (value p (skipSpace t)).view = .ok (v, s)) (close : skipSpace s = '\x7d' :: u) :
    (members p ('"' :: n)).view = .ok ([(.ofList cs, v)], u) := by
  obtain ⟨hr, hn⟩ := Result.view_eq_ok (stringTail_complete name)
  obtain ⟨hs, hv⟩ := Result.view_eq_ok h
  rw [members, hn]
  dsimp only
  split
  · rename_i hu
    rw [colon] at hu
    cases hu
    rw [hv]
    dsimp only
    split
    · rename_i hw; rw [close] at hw; cases hw; rfl
    · rename_i hw; rw [close] at hw; cases hw
    · rename_i hw _; exact (hw _ close).elim
  · rename_i hu; exact (hu _ colon).elim

theorem members_comma (name : StringTail n cs r) (colon : skipSpace r = ':' :: t)
    (h : (value p (skipSpace t)).view = .ok (v, s)) (comma : skipSpace s = ',' :: u) :
    (members p ('"' :: n)).view =
      (members p (skipSpace u)).view.map fun x => ((.ofList cs, v) :: x.1, x.2) := by
  obtain ⟨hr, hn⟩ := Result.view_eq_ok (stringTail_complete name)
  obtain ⟨hs, hv⟩ := Result.view_eq_ok h
  rw [members, hn]
  dsimp only
  split
  · rename_i hu
    rw [colon] at hu
    cases hu
    rw [hv]
    dsimp only
    split
    · rename_i hw; rw [comma] at hw; cases hw
    · rename_i hw
      rw [comma] at hw
      cases hw
      exact Result.view_map_widen ((String.ofList cs, v) :: ·) _ _
    · rename_i _ hw; exact (hw _ comma).elim
  · rename_i hu; exact (hu _ colon).elim

end Steps

theorem Reads.items_ne_close {p : NonFinitePolicy} {t r : List Char} {vs : List Json}
    (h : Reads p (.items vs) (skipSpace t) r) (u : List Char) : skipSpace t ≠ ']' :: u := by
  obtain ⟨c, w, hc, hv⟩ := h.items_head
  rw [hc]
  rintro ⟨⟩
  exact absurd hv (by decide)

theorem Reads.members_ne_close {p : NonFinitePolicy} {t r : List Char} {ms : List (String × Json)}
    (h : Reads p (.members ms) (skipSpace t) r) (u : List Char) : skipSpace t ≠ '\x7d' :: u := by
  obtain ⟨n, hn⟩ := h.members_head
  rw [hn]
  rintro ⟨⟩

/-- The reader for a kind of part finds this part at the head of `s`, and `r` after it. -/
def Part.Found (p : NonFinitePolicy) (s r : List Char) : Part → Prop
  | .value v => (Json.value p s).view = .ok (v, r)
  | .items vs => (Json.items p s).view = .ok (vs, r)
  | .members ms => (Json.members p s).view = .ok (ms, r)

theorem Reads.found {p : NonFinitePolicy} {part : Part} {s r : List Char}
    (h : Reads p part s r) : part.Found p s r := by
  induction h with
  | string tail =>
    rw [Part.Found, value]
    exact (Result.view_extend (fun cs => Json.string (.ofList cs)) _ _ _).2
      ⟨_, stringTail_complete tail, rfl⟩
  | emptyArray close =>
    rw [Part.Found, value]
    split
    · rename_i hu; rw [close] at hu; cases hu; rfl
    · rename_i hu; exact (hu _ close).elim
  | array items ih =>
    rw [Part.Found, value_array items.items_ne_close, show (Json.items p _).view = _ from ih]
    rfl
  | emptyObject close =>
    rw [Part.Found, value]
    split
    · rename_i hu; rw [close] at hu; cases hu; rfl
    · rename_i hu; exact (hu _ close).elim
  | object members ih =>
    rw [Part.Found, value_object members.members_ne_close, show (Json.members p _).view = _ from ih]
    rfl
  | @name text r name v known admitted =>
    obtain ⟨c, t, ht, hc⟩ := names_head known
    have hs : text ++ r = c :: (t ++ r) := by rw [ht]; rfl
    rw [Part.Found, hs, value_of_scalar hc, ← hs]
    exact scalar_view_eq_ok_iff.2 (.inl ⟨text, name, known, admitted, rfl⟩)
  | @number s parts v spelled value =>
    obtain ⟨c, t, rfl, hc⟩ := numberParts?_head spelled
    rw [Part.Found, value_of_scalar (by rcases hc with rfl | hc <;> simp [startsScalar, *])]
    exact scalar_view_eq_ok_iff.2 (.inr ⟨parts, spelled, value, rfl⟩)
  | lastItem item close ih => exact items_close ih close
  | item item comma rest ih ihRest =>
    rw [Part.Found, items_comma ih comma, show (Json.items p _).view = _ from ihRest]
    rfl
  | lastMember name colon value close ih => exact members_close name colon ih close
  | member name colon value comma rest ih ihRest =>
    rw [Part.Found, members_comma name colon ih comma, show (Json.members p _).view = _ from ihRest]
    rfl

/-- A text reads as a value exactly when it spells it between blanks. -/
theorem read_eq_ok_iff {p : NonFinitePolicy} {text : List Char} {v : Json} :
    read p text = .ok v ↔
      ∃ r, Reads p (.value v) (skipSpace text) r ∧ skipSpace r = [] := by
  constructor
  · intro h
    unfold read at h
    split at h
    · cases h
    · cases hv : value p (skipSpace text) with
      | error fault => rw [hv] at h; cases h
      | ok x =>
        obtain ⟨w, rest⟩ := x
        rw [hv] at h
        simp only [bind, Except.bind] at h
        split at h
        · rename_i hr
          obtain rfl : w = v := Except.ok.inj h
          exact ⟨rest.chars, value_sound (by rw [hv]; rfl), hr⟩
        · cases h
  · rintro ⟨r, hv, hr⟩
    obtain ⟨hlen, hval⟩ := Result.view_eq_ok hv.found
    unfold read
    split
    · obtain ⟨c, t, hc, hstart⟩ := hv.value_head
      rw [skipSpace, List.dropWhile_cons_of_neg (by decide)] at hc
      cases hc
      exact absurd hstart (by decide)
    · rw [hval]
      simp only [bind, Except.bind, hr]
      rfl

/-! ### The two policies -/

theorem Reads.accept {part : Part} {s r : List Char} (h : Reads .refuse part s r) :
    Reads .accept part s r := by
  induction h with
  | string tail => exact .string tail
  | emptyArray close => exact .emptyArray close
  | array _ ih => exact .array ih
  | emptyObject close => exact .emptyObject close
  | object _ ih => exact .object ih
  | @name _ _ name _ known admitted =>
    refine .name known ?_
    cases name with
    | plain v => exact admitted
    | nonFinite which => cases admitted
  | number spelled value => exact .number spelled value
  | lastItem _ close ih => exact .lastItem ih close
  | item _ comma _ ih ihRest => exact .item ih comma ihRest
  | lastMember name colon _ close ih => exact .lastMember name colon ih close
  | member name colon _ comma _ ih ihRest => exact .member name colon ih comma ihRest

/-- The reader that refuses the non-finite numbers stops at one of them. -/
def Part.Stops (s : List Char) (part : Part) : Prop :=
  ∃ which left, match part with
    | .value _ => (Json.value .refuse s).view = .error (.nonFinite which left)
    | .items _ => (Json.items .refuse s).view = .error (.nonFinite which left)
    | .members _ => (Json.members .refuse s).view = .error (.nonFinite which left)

/-- What the accepting reader finds, the refusing reader finds too, unless it stops at a literal
of a non-finite number. -/
theorem Reads.refuse_or_stops {part : Part} {s r : List Char} (h : Reads .accept part s r) :
    Reads .refuse part s r ∨ part.Stops s := by
  induction h with
  | string tail => exact .inl (.string tail)
  | emptyArray close => exact .inl (.emptyArray close)
  | array items ih =>
    refine ih.imp .array ?_
    rintro ⟨which, left, hi⟩
    exact ⟨which, left, by rw [value_array items.items_ne_close, hi]; rfl⟩
  | emptyObject close => exact .inl (.emptyObject close)
  | object members ih =>
    refine ih.imp .object ?_
    rintro ⟨which, left, hm⟩
    exact ⟨which, left, by rw [value_object members.members_ne_close, hm]; rfl⟩
  | @name text r name v known admitted =>
    cases name with
    | plain w => exact .inl (.name known admitted)
    | nonFinite which =>
      obtain ⟨c, t, ht, hc⟩ := names_head known
      have hs : text ++ r = c :: (t ++ r) := by rw [ht]; rfl
      refine .inr ⟨which, text ++ r, ?_⟩
      rw [hs, value_of_scalar hc, ← hs]
      exact scalar_refuse known
  | number spelled value => exact .inl (.number spelled value)
  | lastItem item close ih =>
    refine ih.imp (.lastItem · close) ?_
    rintro ⟨which, left, hi⟩
    exact ⟨which, left, items_fault hi⟩
  | item item comma rest ih ihRest =>
    rcases ih with item' | ⟨which, left, hi⟩
    · refine ihRest.imp (.item item' comma) ?_
      rintro ⟨which, left, hr⟩
      exact ⟨which, left, by rw [items_comma item'.found comma, hr]; rfl⟩
    · exact .inr ⟨which, left, items_fault hi⟩
  | lastMember name colon value close ih =>
    refine ih.imp (.lastMember name colon · close) ?_
    rintro ⟨which, left, hv⟩
    exact ⟨which, left, members_fault name colon hv⟩
  | member name colon value comma rest ih ihRest =>
    rcases ih with value' | ⟨which, left, hv⟩
    · refine ihRest.imp (.member name colon value' comma) ?_
      rintro ⟨which, left, hr⟩
      exact ⟨which, left, by rw [members_comma name colon value'.found comma, hr]; rfl⟩
    · exact .inr ⟨which, left, members_fault name colon hv⟩

/-- A readable text without a literal of a non-finite number reads the same when these literals are
refused. -/
theorem read_refuse_of_accept {text : List Char} {v : Json} (h : read .accept text = .ok v)
    (finite : ∀ which left, read .refuse text ≠ .error (.nonFinite which left)) :
    read .refuse text = .ok v := by
  obtain ⟨r, hv, hr⟩ := read_eq_ok_iff.1 h
  rcases hv.refuse_or_stops with hv' | ⟨which, left, hstop⟩
  · exact read_eq_ok_iff.2 ⟨r, hv', hr⟩
  · refine absurd ?_ (finite which left)
    unfold read
    split
    · cases h
    · rw [Result.view_eq_error hstop]
      rfl

end HttpScript.Json
