import HttpScript.Text.Blank
import Mathlib.Data.List.DropRight
import Mathlib.Tactic

/-!
# Lines, words and the blanks around them

Cutting a text at a character is undone by joining the pieces with it. A text that has no blank at
either end is its own trimmed form, and the first word of such a text begins where the text begins.
-/
namespace HttpScript.Text

theorem splitOn_eq (sep : Char) (s : List Char) : splitOn sep s = s.splitOn sep := by
  induction s with
  | nil => rfl
  | cons c s ih =>
    rw [splitOn, List.splitOn_cons_eq_if_modifyHead, ih]
    split
    · rfl
    · split
      · rename_i h; exact absurd h (List.splitOn_ne_nil sep s)
      · rename_i h; rw [h]; rfl

theorem not_mem_of_mem_splitOn {sep : Char} {s l : List Char} (h : l ∈ s.splitOn sep) :
    sep ∉ l := by
  induction s generalizing l with
  | nil => simp_all
  | cons c s ih =>
    rw [List.splitOn_cons_eq_if_modifyHead] at h
    split at h
    · rcases List.mem_cons.1 h with rfl | h
      · simp
      · exact ih h
    · rename_i hc
      obtain ⟨m, ms, hm⟩ := List.exists_cons_of_ne_nil (List.splitOn_ne_nil sep s)
      rw [hm] at h ih
      rcases List.mem_cons.1 h with rfl | h
      · have hm : sep ∉ m := ih List.mem_cons_self
        have hne : sep ≠ c := by rintro rfl; simp at hc
        simp [hne, hm]
      · exact ih (List.mem_cons_of_mem _ h)

/-- A text begins with its first piece. -/
theorem append_of_splitOn_eq_cons {sep : Char} {s l : List Char} {ls : List (List Char)}
    (h : s.splitOn sep = l :: ls) : ∃ u, s = l ++ u := by
  have hjoin : [sep].intercalate (l :: ls) = s := h ▸ List.intercalate_splitOn sep
  cases ls with
  | nil => exact ⟨[], by simpa using hjoin.symm⟩
  | cons m ls => exact ⟨_, by rw [← hjoin, List.intercalate_cons_cons, List.append_assoc]⟩

/-- Each of the pieces stands in the text that they make up. -/
theorem infix_intercalate (sep : Char) {l : List Char} {ls : List (List Char)} (h : l ∈ ls) :
    l <:+: [sep].intercalate ls := by
  induction ls with
  | nil => cases h
  | cons m ls ih =>
    cases ls with
    | nil =>
      obtain rfl := List.mem_singleton.1 h
      rw [List.intercalate_singleton]
    | cons k ls =>
      rw [List.intercalate_cons_cons]
      rcases List.mem_cons.1 h with rfl | h
      · exact (List.prefix_append l [sep]).isInfix.trans (List.prefix_append _ _).isInfix
      · exact (ih h).trans (List.suffix_append _ _).isInfix

/-- What stands in a text and does not hold a character stands before or after it. -/
theorem infix_of_append_cons {sep : Char} {w s t : List Char} (hsep : sep ∉ w)
    (h : w <:+: s ++ sep :: t) : w <:+: s ∨ w <:+: t := by
  obtain ⟨u, v, h⟩ := h
  rcases List.append_eq_append_iff.1 h with ⟨rest, hs, -⟩ | ⟨rest, hw, ht⟩
  · exact .inl ⟨u, rest, hs.symm⟩
  · rcases List.append_eq_append_iff.1 hw with ⟨tail, hs, htail⟩ | ⟨tail, hu, hrest⟩
    · cases rest with
      | nil =>
        rw [List.append_nil] at htail
        exact .inl ⟨u, [], by rw [htail, hs, List.append_nil]⟩
      | cons c rest =>
        obtain ⟨rfl, -⟩ := List.cons.inj ht
        exact absurd (by simp [htail]) hsep
    · cases tail with
      | nil =>
        rw [List.nil_append] at hrest
        cases rest with
        | nil => exact .inl (hrest ▸ List.nil_prefix.isInfix)
        | cons c rest =>
          obtain ⟨rfl, -⟩ := List.cons.inj ht
          exact absurd (by simp [← hrest]) hsep
      | cons c tail =>
        rw [hrest, List.cons_append] at ht
        exact .inr ⟨tail, v, (List.cons.inj ht).2.symm⟩

/-- What stands in joined pieces and does not hold the separator stands in one of them. -/
theorem exists_infix_of_intercalate {sep : Char} {w : List Char} {ls : List (List Char)}
    (hsep : sep ∉ w) (hne : ls ≠ []) (h : w <:+: [sep].intercalate ls) : ∃ l ∈ ls, w <:+: l := by
  induction ls with
  | nil => exact absurd rfl hne
  | cons m ls ih =>
    cases ls with
    | nil => exact ⟨m, List.mem_singleton_self m, by rwa [List.intercalate_singleton] at h⟩
    | cons k ls =>
      rw [List.intercalate_cons_cons, List.append_assoc, List.singleton_append] at h
      rcases infix_of_append_cons hsep h with h | h
      · exact ⟨m, List.mem_cons_self, h⟩
      · obtain ⟨l, hl, hw⟩ := ih (by simp) h
        exact ⟨l, List.mem_cons_of_mem m hl, hw⟩

theorem dropRightWhile_eq (p : Char → Bool) (s : List Char) :
    dropRightWhile p s = s.rdropWhile p := rfl

theorem dropRightWhile_cons (p : Char → Bool) (c : Char) (s : List Char) :
    dropRightWhile p (c :: s) =
      if (dropRightWhile p s).isEmpty && p c then [] else c :: dropRightWhile p s := by
  simp only [dropRightWhile, List.reverse_cons, List.dropWhile_append]
  by_cases hs : s.reverse.dropWhile p = []
  · by_cases hc : p c = true <;> simp [hs, hc]
  · simp [hs]

/-- Behind a text that loses nothing at its end, what is dropped is what the rest loses. -/
theorem dropRightWhile_append {p : Char → Bool} {s : List Char} (h : dropRightWhile p s = s)
    (t : List Char) : dropRightWhile p (s ++ t) = s ++ dropRightWhile p t := by
  simp only [dropRightWhile_eq] at h ⊢
  induction t using List.reverseRecOn with
  | nil => rw [List.append_nil, h, List.rdropWhile_nil, List.append_nil]
  | append_singleton t c ih =>
    by_cases hc : p c = true
    · rw [← List.append_assoc, List.rdropWhile_concat_pos _ _ _ hc, ih,
        List.rdropWhile_concat_pos _ _ _ hc]
    · rw [← List.append_assoc, List.rdropWhile_concat_neg _ _ _ hc,
        List.rdropWhile_concat_neg _ _ _ hc, List.append_assoc]

/-- What is left after characters that satisfy `p` were dropped begins with one that does not. -/
theorem head_dropWhile {p : Char → Bool} {s : List Char} {c : Char}
    (h : c ∈ (s.dropWhile p).head?) : p c = false := by
  have hhead := List.head?_dropWhile_not p s
  rwa [Option.mem_def.1 h] at hhead

theorem takeWhile_append {p : Char → Bool} {s t : List Char} (hs : ∀ c ∈ s, p c = true)
    (ht : ∀ c ∈ t.head?, p c = false) : (s ++ t).takeWhile p = s := by
  rw [List.takeWhile_append_of_pos hs]
  cases t with
  | nil => simp
  | cons c t => simp [ht c rfl]

theorem dropWhile_append {p : Char → Bool} {s t : List Char} (hs : ∀ c ∈ s, p c = true)
    (ht : ∀ c ∈ t.head?, p c = false) : (s ++ t).dropWhile p = t := by
  rw [List.dropWhile_append_of_pos hs]
  cases t with
  | nil => rfl
  | cons c t => simp [ht c rfl]

/-! ### Blanks at the ends -/

@[simp] theorem trim_nil : trim [] = [] := rfl

/-- What is left of a text from its first character that is no blank. -/
theorem trim_cons {c : Char} {s : List Char} (h : isBlank c = false) :
    trim (c :: s) = c :: dropRightWhile isBlank s := by
  rw [trim, List.dropWhile_cons_of_neg (by simp [h]), dropRightWhile_cons, h, Bool.and_false]
  rfl

theorem forall_isBlank_cons_space {s : List Char} (h : ∀ c ∈ s, isBlank c = true) :
    ∀ c ∈ ' ' :: s, isBlank c = true :=
  List.forall_mem_cons.2 ⟨by decide, h⟩

theorem trim_append_of_blank {s t : List Char} (h : ∀ c ∈ s, isBlank c = true) :
    trim (s ++ t) = trim t := by
  rw [trim, trim, List.dropWhile_append_of_pos h]

theorem trim_concat_of_blank {s : List Char} {c : Char} (h : isBlank c = true) :
    trim (s ++ [c]) = trim s := by
  simp only [trim, List.dropWhile_append]
  split
  · rename_i hs
    simp [List.isEmpty_iff.1 hs, h]
  · rw [dropRightWhile_eq, dropRightWhile_eq, List.rdropWhile_concat_pos _ _ _ h]

theorem trim_append_blanks {s t : List Char} (h : ∀ c ∈ t, isBlank c = true) :
    trim (s ++ t) = trim s := by
  induction t using List.reverseRecOn with
  | nil => rw [List.append_nil]
  | append_singleton t c ih =>
    rw [← List.append_assoc, trim_concat_of_blank (h c (by simp))]
    exact ih fun d hd => h d (List.mem_append_left _ hd)

/-- Blanks dropped from the end before trimming make no difference. -/
theorem trim_dropRightWhile {p : Char → Bool} (hp : ∀ c, p c = true → isBlank c = true)
    (s : List Char) : trim (dropRightWhile p s) = trim s := by
  induction s using List.reverseRecOn with
  | nil => rfl
  | append_singleton s d ih =>
    by_cases hd : p d = true
    · rw [dropRightWhile_eq, List.rdropWhile_concat_pos _ _ _ hd, trim_concat_of_blank (hp d hd)]
      exact ih
    · rw [dropRightWhile_eq, List.rdropWhile_concat_neg _ _ _ hd]

/-- Trimming takes away blanks on both sides and nothing else. -/
theorem exists_trim (s : List Char) : ∃ left right, (∀ c ∈ left, isBlank c = true) ∧
    (∀ c ∈ right, isBlank c = true) ∧ s = left ++ trim s ++ right := by
  refine ⟨s.takeWhile isBlank, (s.dropWhile isBlank).rtakeWhile isBlank,
    fun c hc => List.mem_takeWhile_imp hc, fun c hc => List.mem_rtakeWhile_imp hc, ?_⟩
  rw [trim, dropRightWhile_eq, List.append_assoc, List.rdropWhile_append_rtakeWhile,
    List.takeWhile_append_dropWhile]

theorem trim_eq_nil_iff {s : List Char} : trim s = [] ↔ ∀ c ∈ s, isBlank c = true := by
  induction s with
  | nil => simp
  | cons c s ih =>
    by_cases hc : isBlank c = true
    · rw [← List.singleton_append, trim_append_of_blank (by simpa using hc), ih]
      simp [hc]
    · simp [trim_cons (Bool.not_eq_true _ ▸ hc), hc]

/-- A trimmed text begins with no blank. -/
theorem head_trim {s : List Char} {c : Char} (h : c ∈ (trim s).head?) : isBlank c = false := by
  induction s with
  | nil => cases h
  | cons d s ih =>
    by_cases hd : isBlank d = true
    · rw [← List.singleton_append, trim_append_of_blank (by simpa using hd)] at h
      exact ih h
    · rw [trim_cons (by simpa using hd)] at h
      obtain rfl := Option.some.inj h
      simpa using hd

theorem infix_trim (s : List Char) : trim s <:+: s :=
  (List.rdropWhile_prefix isBlank (s.dropWhile isBlank)).isInfix.trans
    (List.dropWhile_suffix isBlank).isInfix

/-- A text is its own trimmed form when no blank stands at either end. -/
theorem trim_eq_self_iff {s : List Char} :
    trim s = s ↔ (∀ c ∈ s.head?, isBlank c = false) ∧ (∀ c ∈ s.getLast?, isBlank c = false) := by
  cases s with
  | nil => simp
  | cons c s =>
    by_cases hc : isBlank c = true
    · have hlen : (trim (c :: s)).length ≤ s.length := by
        rw [← List.singleton_append, trim_append_of_blank (by simpa using hc)]
        exact (List.rdropWhile_prefix _ _).length_le.trans (List.dropWhile_suffix _).length_le
      simp only [List.head?_cons, Option.mem_some_iff, forall_eq', hc, Bool.true_eq_false,
        false_and, iff_false]
      intro h
      rw [h] at hlen
      simp at hlen
    · have hc : isBlank c = false := by simpa using hc
      rw [trim_cons hc, dropRightWhile_eq]
      simp only [List.cons.injEq, true_and, List.head?_cons, Option.mem_some_iff, forall_eq', hc]
      rw [List.rdropWhile_eq_self_iff]
      cases hl : s.getLast? with
      | none => simp [List.getLast?_eq_none_iff.1 hl, hc]
      | some d =>
        obtain ⟨t, rfl⟩ := List.getLast?_eq_some_iff.1 hl
        rw [← List.cons_append, List.getLast?_concat]
        simp

theorem trim_trim (s : List Char) : trim (trim s) = trim s := by
  rw [trim_eq_self_iff]
  refine ⟨fun c hc => head_trim hc, fun c hc => ?_⟩
  have hlast : (trim s).rdropWhile isBlank = trim s := List.rdropWhile_idempotent _ _
  obtain ⟨hne, rfl⟩ := List.mem_getLast?_eq_getLast hc
  simpa using List.rdropWhile_eq_self_iff.1 hlast hne

/-! ### Words -/

/-- Words joined by a space are trimmed when the first begins and the last ends with no blank. -/
theorem trim_words {s t : List Char} (hs : s ≠ []) (hfirst : ∀ c ∈ s.head?, isBlank c = false)
    (ht : t ≠ []) (hlast : ∀ c ∈ t.getLast?, isBlank c = false) :
    trim (s ++ ' ' :: t) = s ++ ' ' :: t := by
  rw [trim_eq_self_iff, List.head?_append_of_ne_nil _ hs]
  refine ⟨hfirst, fun c hc => hlast c ?_⟩
  rw [List.append_cons, List.getLast?_append_of_ne_nil _ ht] at hc
  exact hc

theorem splitAtSpace_eq (s : List Char) :
    splitAtSpace s =
      (s.takeWhile (· != ' '), match s.dropWhile (· != ' ') with
        | [] => none
        | _ :: t => some t) := by
  rw [splitAtSpace, List.span_eq_takeWhile_dropWhile]
  split <;> rename_i h <;> obtain ⟨hw, ht⟩ := Prod.mk.inj h <;> rw [hw, ht]

theorem splitAtSpace_append {w : List Char} (h : ' ' ∉ w) (t : List Char) :
    splitAtSpace (w ++ ' ' :: t) = (w, some t) := by
  have hw : ∀ c ∈ w, (c != ' ') = true := by
    intro c hc
    simpa using ne_of_mem_of_not_mem hc h
  rw [splitAtSpace_eq, List.takeWhile_append_of_pos hw, List.dropWhile_append_of_pos hw]
  simp

theorem splitAtSpace_of_not_mem {w : List Char} (h : ' ' ∉ w) : splitAtSpace w = (w, none) := by
  have hw : ∀ c ∈ w, (c != ' ') = true := by
    intro c hc
    simpa using ne_of_mem_of_not_mem hc h
  rw [splitAtSpace_eq, List.takeWhile_eq_self_iff.2 hw, List.dropWhile_eq_nil_iff.2 hw]

theorem infix_splitAtSpace (s : List Char) :
    (splitAtSpace s).1 <:+: s ∧ (splitAtSpace s).2.getD [] <:+: s := by
  rw [splitAtSpace_eq]
  refine ⟨(List.takeWhile_prefix _).isInfix, ?_⟩
  have hsuffix := List.dropWhile_suffix (l := s) (· != ' ')
  cases h : s.dropWhile (· != ' ') with
  | nil => exact List.nil_prefix.isInfix
  | cons c t =>
    rw [h] at hsuffix
    exact ((List.suffix_cons c t).trans hsuffix).isInfix

/-! ### Carriage returns at line ends -/

/-- Nothing is left of the current line. -/
def endsLine : List Char → Bool
  | [] => true
  | c :: _ => c == '\n'

/-- A text without the carriage returns that stand at the ends of its lines. -/
def dropReturns : List Char → List Char
  | [] => []
  | c :: s => if c == '\r' && endsLine (dropReturns s) then dropReturns s else c :: dropReturns s

@[simp] theorem dropReturns_nil : dropReturns [] = [] := rfl

theorem dropReturns_cons {c : Char} (h : c ≠ '\r') (s : List Char) :
    dropReturns (c :: s) = c :: dropReturns s := by
  simp [dropReturns, h]

theorem length_dropReturns_le (s : List Char) : (dropReturns s).length ≤ s.length := by
  induction s with
  | nil => rfl
  | cons c s ih =>
    rw [dropReturns]
    split <;> simp only [List.length_cons] <;> omega

/-- Where a text goes on with a carriage return, what is left begins with a line break or return. -/
theorem dropReturns_return (s : List Char) :
    endsLine (dropReturns ('\r' :: s)) = true ∨ ∃ t, dropReturns ('\r' :: s) = '\r' :: t := by
  simp only [dropReturns, beq_self_eq_true, Bool.true_and]
  split
  · left; assumption
  · right; exact ⟨_, rfl⟩

theorem dropReturns_append {l u : List Char} (hl : '\n' ∉ l)
    (hu : endsLine (dropReturns u) = true) :
    dropReturns (l ++ u) = dropRightWhile (· == '\r') l ++ dropReturns u := by
  induction l with
  | nil => rfl
  | cons c l ih =>
    obtain ⟨hc, hl⟩ : '\n' ≠ c ∧ '\n' ∉ l := by simpa using hl
    have hends : endsLine (dropReturns (l ++ u)) = (dropRightWhile (· == '\r') l).isEmpty := by
      rw [ih hl]
      cases h : dropRightWhile (· == '\r') l with
      | nil => simpa using hu
      | cons d m =>
        have : d ∈ l := (List.rdropWhile_prefix _ _).subset (h ▸ List.mem_cons_self)
        have : d ≠ '\n' := ne_of_mem_of_not_mem this hl
        simp [endsLine, this]
    rw [List.cons_append, dropReturns, hends, dropRightWhile_cons, Bool.and_comm, ih hl]
    split
    · rename_i h
      simp [List.isEmpty_iff.1 (Bool.and_eq_true_iff.1 h).1]
    · rfl

/-- Line by line, the carriage returns at the end are dropped. -/
theorem dropReturns_intercalate {ls : List (List Char)} (h : ∀ l ∈ ls, '\n' ∉ l) :
    dropReturns (['\n'].intercalate ls) =
      ['\n'].intercalate (ls.map (dropRightWhile (· == '\r'))) := by
  induction ls with
  | nil => rfl
  | cons l ls ih =>
    have hl := h l List.mem_cons_self
    have ih := ih fun m hm => h m (List.mem_cons_of_mem l hm)
    cases ls with
    | nil => simpa using dropReturns_append (u := []) hl rfl
    | cons m ls =>
      rw [List.intercalate_cons_cons, List.append_assoc, dropReturns_append hl (by rfl),
        List.singleton_append, dropReturns_cons (by decide), ih]
      simp

end HttpScript.Text
