import HttpScript.Proofs.Json.Numbers

/-!
# The characters of a written text

A text is put together from words, strings, separators and line breaks, so what holds of these, and
of two texts in a row, holds of the text of every value. The compact style has no blank between its
tokens: blanks inside strings belong to the value, and quotes and backslashes are escaped there, so
where a string ends can be seen without reading the text. The style in ASCII has printable characters
only.
-/
namespace HttpScript.Json

/-! ### Pieces -/

/-- A visible character of ASCII after the double quote. Names, numbers and brackets have no
others. -/
def IsTokenChar (c : Char) : Prop := 0x23 ≤ c.toNat ∧ c.toNat ≤ 0x7E

/-- What holds of the pieces of a text and of one text after another. -/
structure Pieces (style : Style) (P : List Char → Prop) : Prop where
  append {s t : List Char} : P s → P t → P (s ++ t)
  token {s : List Char} : (∀ c ∈ s, IsTokenChar c) → P s
  quoted (s : String) : P (quote style.asciiOnly s)
  item : P style.itemSeparator.toList
  name : P style.nameSeparator.toList
  newline (level : Nat) : P (style.newline level)

theorem isTokenChar_of_isDigit {c : Char} (h : c.isDigit = true) : IsTokenChar c := by
  simp only [Char.isDigit, Bool.and_eq_true, decide_eq_true_eq, ge_iff_le, UInt32.le_iff_toNat_le,
    Char.toNat_val] at h
  simp at h
  exact ⟨by omega, by omega⟩

/-- The text of an integer is a sign and digits. -/
theorem mem_intText {n : Int} {c : Char} (h : c ∈ intText n) : c = '-' ∨ c.isDigit = true := by
  unfold intText at h
  split at h
  · exact .inr (isDigit_of_mem_toDigits h)
  · exact (List.mem_cons.1 h).imp_right isDigit_of_mem_toDigits

theorem isTokenChar_exponentText (e : Int) : ∀ c ∈ Decimal.exponentText e, IsTokenChar c := by
  obtain ⟨sign, ds, htext, hsign, -, hds⟩ := exponentText_eq e
  rw [htext]
  refine List.forall_mem_cons.2 ⟨?_, fun c hc => isTokenChar_of_isDigit (hds c hc)⟩
  rcases hsign with rfl | rfl <;> simp [IsTokenChar]

theorem isTokenChar_zeros (n : Nat) : ∀ c ∈ Decimal.zeros n, IsTokenChar c := fun _ hc =>
  isTokenChar_of_isDigit (isDigit_of_mem_zeros hc)

/-- Beside its digits, a magnitude has a point, an exponent or both. -/
theorem isTokenChar_place (style : Decimal.Layout) {digits : List Char} (point : Int)
    (hdigits : ∀ d ∈ digits, IsTokenChar d) : ∀ c ∈ style.place digits point, IsTokenChar c := by
  have hpoint : IsTokenChar '.' := by simp [IsTokenChar]
  have hzero : IsTokenChar '0' := by simp [IsTokenChar]
  have hmark : IsTokenChar 'e' := by simp [IsTokenChar]
  have hexponent := isTokenChar_exponentText (point - 1)
  unfold Decimal.Layout.place
  split
  · split
    · -- a zero before the point, and zeros after it
      have hfraction := List.forall_mem_append.2 ⟨isTokenChar_zeros (-point).toNat, hdigits⟩
      simpa [hzero, hpoint] using hfraction
    · split
      · -- the point among the digits
        have htake : ∀ d ∈ digits.take point.toNat, IsTokenChar d := fun d hd =>
          hdigits d (List.mem_of_mem_take hd)
        have hdrop : ∀ d ∈ digits.drop point.toNat, IsTokenChar d := fun d hd =>
          hdigits d (List.mem_of_mem_drop hd)
        exact List.forall_mem_append.2 ⟨htake, List.forall_mem_cons.2 ⟨hpoint, hdrop⟩⟩
      · -- zeros between the digits and the point
        have hwhole := List.forall_mem_append.2
          ⟨hdigits, isTokenChar_zeros (point.toNat - digits.length)⟩
        refine List.forall_mem_append.2 ⟨hwhole, ?_⟩
        split <;> simp [hpoint, hzero]
  · split
    · simp
    · exact List.forall_mem_cons.2
        ⟨hdigits _ List.mem_cons_self, List.forall_mem_cons.2 ⟨hmark, hexponent⟩⟩
    · obtain ⟨hfirst, hrest⟩ := List.forall_mem_cons.1 hdigits
      exact List.forall_mem_cons.2 ⟨hfirst, List.forall_mem_cons.2 ⟨hpoint,
        List.forall_mem_append.2 ⟨hrest, List.forall_mem_cons.2 ⟨hmark, hexponent⟩⟩⟩⟩

theorem mem_numbers_write {x : Float} {c : Char} (h : c ∈ (numbers.write x).toList) :
    IsTokenChar c := by
  unfold Decimal.Layout.write at h
  split at h
  · have hname : ∀ d ∈ numbers.notANumber.toList, IsTokenChar d := by
      simp [numbers, IsTokenChar]
    exact hname c h
  · have hnames : (∀ d ∈ numbers.negativeInfinity.toList, IsTokenChar d) ∧
        ∀ d ∈ numbers.infinity.toList, IsTokenChar d := by
      simp [numbers, IsTokenChar]
    split at h
    · exact hnames.1 c h
    · exact hnames.2 c h
  · rename_i b _
    have hdigits : ∀ d ∈ Nat.toDigits 10 b.shortest.digits, IsTokenChar d := fun d hd =>
      isTokenChar_of_isDigit (isDigit_of_mem_toDigits hd)
    have hplace := fun point => isTokenChar_place numbers point hdigits
    rw [String.toList_ofList] at h
    split at h
    · rcases List.mem_cons.1 h with rfl | h
      · simp [IsTokenChar]
      · exact hplace _ c h
    · exact hplace _ c h

/-- How a character stands inside a string: after a backslash, as one or two units, or as it is. -/
theorem escapeChar_cases (asciiOnly : Bool) (c : Char) :
    (∃ d, escapeChar asciiOnly c = ['\\', d] ∧ 0x20 ≤ d.toNat ∧ d.toNat ≤ 0x7E) ∨
    (∃ n, escapeChar asciiOnly c = unitEscape n) ∨
    (∃ m n, escapeChar asciiOnly c = unitEscape m ++ unitEscape n) ∨
    escapeChar asciiOnly c = [c] ∧ c ≠ '"' ∧ c ≠ '\\' ∧ 0x20 ≤ c.toNat ∧
      (asciiOnly = true → c.toNat ≤ 0x7E) := by
  unfold escapeChar
  split
  iterate 7 exact .inl ⟨_, rfl, by simp⟩
  rename_i hquote hslash _ _ _ _ _
  dsimp only
  split
  · exact .inr (.inl ⟨_, rfl⟩)
  · split
    · split
      · exact .inr (.inl ⟨_, rfl⟩)
      · exact .inr (.inr (.inl ⟨_, _, rfl⟩))
    · rename_i hcontrol hascii
      simp only [Bool.and_eq_true, decide_eq_true_eq, not_and, not_lt] at hascii
      exact .inr (.inr (.inr ⟨rfl, hquote, hslash, not_lt.1 hcontrol, hascii⟩))

namespace Pieces

variable {style : Style} {P : List Char → Prop} (h : Pieces style P)
include h

theorem mark {c : Char} (hc : IsTokenChar c) : P [c] := h.token (List.forall_mem_singleton.2 hc)

mutual

/-- What holds of all pieces holds of the text of a value. -/
theorem write (level : Nat) : (v : Json) → P (Json.write style level v)
  | .null => by
    rw [Json.write]
    exact h.token (by simp [IsTokenChar])
  | .bool b => by
    rw [Json.write]
    cases b <;> exact h.token (by simp [IsTokenChar])
  | .int n => by
    rw [Json.write]
    refine h.token fun c hc => ?_
    rcases mem_intText hc with rfl | hdigit
    · simp [IsTokenChar]
    · exact isTokenChar_of_isDigit hdigit
  | .float x => by
    rw [Json.write]
    exact h.token fun c => mem_numbers_write
  | .string s => by
    rw [Json.write]
    exact h.quoted s
  | .array [] => by
    rw [Json.write]
    exact h.token (by simp [IsTokenChar])
  | .array (v :: rest) => by
    have hopen : P ['['] := h.mark (by simp [IsTokenChar])
    have hclose : P [']'] := h.mark (by simp [IsTokenChar])
    have hfirst := h.append (h.newline (level + 1)) (write (level + 1) v)
    have hitems := h.append hfirst (writeItems (level + 1) rest)
    have hall := h.append hopen (h.append (h.append hitems (h.newline level)) hclose)
    rw [Json.write]
    simpa only [List.append_assoc, List.cons_append, List.nil_append] using hall
  | .object [] => by
    rw [Json.write]
    exact h.token (by simp [IsTokenChar])
  | .object ((k, v) :: rest) => by
    have hopen : P ['\x7b'] := h.mark (by simp [IsTokenChar])
    have hclose : P ['\x7d'] := h.mark (by simp [IsTokenChar])
    have hname := h.append (h.append (h.newline (level + 1)) (h.quoted k)) h.name
    have hfirst := h.append hname (write (level + 1) v)
    have hmembers := h.append hfirst (writeMembers (level + 1) rest)
    have hall := h.append hopen (h.append (h.append hmembers (h.newline level)) hclose)
    rw [Json.write]
    simpa only [List.append_assoc, List.cons_append, List.nil_append] using hall

theorem writeItems (level : Nat) : (vs : List Json) → P (Json.writeItems style level vs)
  | [] => h.token (by simp [Json.writeItems])
  | v :: rest => by
    rw [Json.writeItems]
    exact h.append (h.append (h.append h.item (h.newline level)) (write level v))
      (writeItems level rest)

theorem writeMembers (level : Nat) :
    (ms : List (String × Json)) → P (Json.writeMembers style level ms)
  | [] => h.token (by simp [Json.writeMembers])
  | (k, v) :: rest => by
    have hseparator := h.append h.item (h.newline level)
    have hname := h.append (h.append hseparator (h.quoted k)) h.name
    rw [Json.writeMembers]
    exact h.append (h.append hname (write level v)) (writeMembers level rest)

end

end Pieces

/-! ### Whitespace between tokens -/

/-- The characters that stand outside the strings of a text, which begins inside one or not. -/
def outsideStrings : Bool → List Char → List Char
  | _, [] => []
  | false, '"' :: t => outsideStrings true t
  | false, c :: t => c :: outsideStrings false t
  | true, '"' :: t => outsideStrings false t
  | true, '\\' :: _ :: t => outsideStrings true t
  | true, _ :: t => outsideStrings true t

/-- No whitespace stands between the tokens of a text. -/
def IsTight (text : List Char) : Prop := ∀ c ∈ outsideStrings false text, isSpace c = false

instance (text : List Char) : Decidable (IsTight text) :=
  List.decidableBAll _ (outsideStrings false text)

theorem outsideStrings_cons {c : Char} (h : c ≠ '"') (t : List Char) :
    outsideStrings false (c :: t) = c :: outsideStrings false t := by
  rw [outsideStrings]
  simpa using h

theorem insideString_cons {c : Char} (hquote : c ≠ '"') (hslash : c ≠ '\\') (t : List Char) :
    outsideStrings true (c :: t) = outsideStrings true t := by
  rw [outsideStrings]
  · simpa using hquote
  · simp [hslash]

theorem insideString_append {s : List Char} (h : ∀ c ∈ s, c ≠ '"' ∧ c ≠ '\\') (t : List Char) :
    outsideStrings true (s ++ t) = outsideStrings true t := by
  induction s with
  | nil => rfl
  | cons c s ih =>
    obtain ⟨hquote, hslash⟩ := h c List.mem_cons_self
    rw [List.cons_append, insideString_cons hquote hslash]
    exact ih fun d hd => h d (List.mem_cons_of_mem c hd)

theorem ne_of_mem_hex4 {n : Nat} {c : Char} (h : c ∈ hex4 n) : c ≠ '"' ∧ c ≠ '\\' := by
  have hc := isHex_of_hexValues? (hexValues?_hex4 n) h
  constructor <;> rintro rfl <;> exact absurd hc (by decide)

theorem insideString_unitEscape (n : Nat) (t : List Char) :
    outsideStrings true (unitEscape n ++ t) = outsideStrings true t := by
  rw [unitEscape_append]
  exact insideString_append (fun _ => ne_of_mem_hex4) t

/-- An escape does not end the string that it stands in. -/
theorem insideString_escapeChar (asciiOnly : Bool) (c : Char) (t : List Char) :
    outsideStrings true (escapeChar asciiOnly c ++ t) = outsideStrings true t := by
  obtain ⟨d, h, -⟩ | ⟨n, h⟩ | ⟨m, n, h⟩ | ⟨h, hquote, hslash, -⟩ := escapeChar_cases asciiOnly c
  · rw [h]
    rfl
  · rw [h, insideString_unitEscape]
  · rw [h, List.append_assoc, insideString_unitEscape, insideString_unitEscape]
  · rw [h]
    exact insideString_cons hquote hslash t

/-- A quoted string leaves no trace outside. -/
theorem outsideStrings_quote (asciiOnly : Bool) (s : String) (t : List Char) :
    outsideStrings false (quote asciiOnly s ++ t) = outsideStrings false t := by
  have key : ∀ cs : List Char,
      outsideStrings true (cs.flatMap (escapeChar asciiOnly) ++ '"' :: t) =
        outsideStrings false t := by
    intro cs
    induction cs with
    | nil => rfl
    | cons c cs ih => rw [List.flatMap_cons, List.append_assoc, insideString_escapeChar, ih]
  rw [quote, List.cons_append, List.append_assoc]
  exact key s.toList

/-- A stretch of text after which the text goes on outside strings, itself without whitespace. Texts
that are only tight do not compose: one may end inside a string. -/
def KeepsTight (s : List Char) : Prop := ∀ t, IsTight t → IsTight (s ++ t)

theorem KeepsTight.isTight {s : List Char} (h : KeepsTight s) : IsTight s := by
  have hnil : IsTight [] := by simp [IsTight, outsideStrings]
  simpa using h [] hnil

theorem keepsTight_quote (asciiOnly : Bool) (s : String) : KeepsTight (quote asciiOnly s) := by
  intro t ht
  rwa [IsTight, outsideStrings_quote]

theorem keepsTight_of_forall {s : List Char} (h : ∀ c ∈ s, c ≠ '"' ∧ isSpace c = false) :
    KeepsTight s := by
  intro t ht
  induction s with
  | nil => exact ht
  | cons c s ih =>
    obtain ⟨hquote, hspace⟩ := h c List.mem_cons_self
    rw [IsTight, List.cons_append, outsideStrings_cons hquote]
    exact List.forall_mem_cons.2 ⟨hspace, ih fun d hd => h d (List.mem_cons_of_mem c hd)⟩

/-- Names, numbers and brackets have neither quotes nor blanks. -/
theorem IsTokenChar.outside {c : Char} (h : IsTokenChar c) : c ≠ '"' ∧ isSpace c = false := by
  refine ⟨?_, ?_⟩
  · rintro rfl
    exact absurd h (by simp [IsTokenChar])
  · rw [Bool.eq_false_iff]
    intro hspace
    simp only [isSpace, Bool.or_eq_true, beq_iff_eq] at hspace
    rcases hspace with ((rfl | rfl) | rfl) | rfl <;> exact absurd h (by simp [IsTokenChar])

theorem compact_keepsTight : Pieces compact KeepsTight where
  append hs hu t ht := by
    rw [List.append_assoc]
    exact hs _ (hu t ht)
  token hs := keepsTight_of_forall fun c hc => (hs c hc).outside
  quoted := keepsTight_quote false
  item := keepsTight_of_forall (by simp [compact, isSpace])
  name := keepsTight_of_forall (by simp [compact, isSpace])
  newline _ := keepsTight_of_forall (by simp [Style.newline, compact])

/-- The compact text of a value has no whitespace outside its strings. -/
theorem isTight_write (v : Json) : IsTight (write compact 0 v) :=
  (compact_keepsTight.write 0 v).isTight

example : ¬ IsTight "[1, 2]".toList := by decide

/-! ### Printable characters -/

/-- Characters of ASCII that are not controls. -/
def IsPrintable (s : List Char) : Prop := ∀ c ∈ s, 0x20 ≤ c.toNat ∧ c.toNat ≤ 0x7E

theorem isPrintable_of_isTokenChar {s : List Char} (h : ∀ c ∈ s, IsTokenChar c) : IsPrintable s :=
  fun c hc => ⟨by have := (h c hc).1; omega, (h c hc).2⟩

theorem isTokenChar_of_between {a b c : Char} (ha : 0x23 ≤ a.toNat) (hb : b.toNat ≤ 0x7E)
    (h : (decide (a ≤ c) && decide (c ≤ b)) = true) : IsTokenChar c := by
  simp only [Bool.and_eq_true, decide_eq_true_eq] at h
  exact ⟨ha.trans (UInt32.le_iff_toNat_le.1 h.1), (UInt32.le_iff_toNat_le.1 h.2).trans hb⟩

theorem isTokenChar_of_hexValue? {c : Char} (h : (hexValue? c).isSome = true) : IsTokenChar c := by
  unfold hexValue? at h
  split at h
  · exact isTokenChar_of_between (a := '0') (b := '9') (by simp) (by simp) ‹_›
  · split at h
    · exact isTokenChar_of_between (a := 'a') (b := 'f') (by simp) (by simp) ‹_›
    · split at h
      · exact isTokenChar_of_between (a := 'A') (b := 'F') (by simp) (by simp) ‹_›
      · cases h

theorem isPrintable_hex4 (n : Nat) : IsPrintable (hex4 n) :=
  isPrintable_of_isTokenChar fun _ hc =>
    isTokenChar_of_hexValue? (isHex_of_hexValues? (hexValues?_hex4 n) hc)

theorem isPrintable_unitEscape (n : Nat) : IsPrintable (unitEscape n) := by
  have hmarks : IsPrintable ['\\', 'u'] := by simp [IsPrintable]
  exact List.forall_mem_append.2 ⟨hmarks, isPrintable_hex4 n⟩

theorem isPrintable_escapeChar (c : Char) : IsPrintable (escapeChar true c) := by
  obtain ⟨d, h, hd⟩ | ⟨n, h⟩ | ⟨m, n, h⟩ | ⟨h, -, -, hlow, hhigh⟩ := escapeChar_cases true c
  · rw [h]
    exact List.forall_mem_cons.2 ⟨by simp, List.forall_mem_singleton.2 hd⟩
  · rw [h]
    exact isPrintable_unitEscape n
  · rw [h]
    exact List.forall_mem_append.2 ⟨isPrintable_unitEscape m, isPrintable_unitEscape n⟩
  · rw [h]
    exact List.forall_mem_singleton.2 ⟨hlow, hhigh rfl⟩

theorem isPrintable_quote (s : String) : IsPrintable (quote true s) := by
  have hinside : IsPrintable (s.toList.flatMap (escapeChar true)) := by
    intro c hc
    obtain ⟨d, -, hd⟩ := List.mem_flatMap.1 hc
    exact isPrintable_escapeChar d c hd
  have hquote : IsPrintable ['"'] := by simp [IsPrintable]
  exact List.forall_mem_append.2 ⟨hquote, List.forall_mem_append.2 ⟨hinside, hquote⟩⟩

theorem spaced_isPrintable : Pieces spaced IsPrintable where
  append hs ht := List.forall_mem_append.2 ⟨hs, ht⟩
  token := isPrintable_of_isTokenChar
  quoted := isPrintable_quote
  item := by simp [IsPrintable, spaced]
  name := by simp [IsPrintable, spaced]
  newline _ := by simp [IsPrintable, Style.newline, spaced]

/-- The text in ASCII has no other characters, however a value is nested. -/
theorem isPrintable_write (v : Json) : IsPrintable (write spaced 0 v) :=
  spaced_isPrintable.write 0 v

end HttpScript.Json
