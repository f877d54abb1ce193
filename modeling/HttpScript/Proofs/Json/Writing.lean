import HttpScript.Json.Printer
import HttpScript.Proofs.Entries
import HttpScript.Proofs.Json.Returns

/-!
# What is written is read back

The text that a style writes for a value spells this value, whatever follows it, as long as what
follows does not continue a number. Fractions are left out, and so are integers with more digits
than the reader takes.
-/
namespace HttpScript.Json

/-! ### Strings -/

theorem hexValue?_digitChar {d : Nat} (h : d < 16) : hexValue? d.digitChar = some d := by
  have hall : ∀ d < 16, hexValue? d.digitChar = some d := by decide
  exact hall d h

theorem hexValues?_toDigits (n : Nat) : hexValues? (Nat.toDigits 16 n) = some n := by
  induction n using Nat.strongRecOn with
  | _ n ih =>
    by_cases hn : n < 16
    · rw [Nat.toDigits_of_lt_base hn, hexValues?]
      simp [hexValue?_digitChar hn]
    · have hdigit : n % 16 < 16 := Nat.mod_lt n (by decide)
      have hvalue : 16 * (n / 16) + n % 16 = n := Nat.div_add_mod n 16
      have hquotient := ih (n / 16) (by omega)
      rw [hexValues?] at hquotient
      rw [Nat.toDigits_of_base_le (by decide) (by omega), hexValues?, List.foldlM_append, hquotient]
      simp [hexValue?_digitChar hdigit, hvalue]

theorem hexValues?_hex4 (n : Nat) : hexValues? (hex4 n) = some n := by
  have hzeros : ∀ k, (Decimal.zeros k).foldlM (fun n c => (hexValue? c).map (16 * n + ·)) 0 =
      some 0 := by
    intro k
    induction k with
    | zero => rfl
    | succ k ih => rw [Decimal.zeros, List.replicate_succ]; exact ih
  have hdigits := hexValues?_toDigits n
  rw [hexValues?] at hdigits
  rw [hexValues?, hex4, List.foldlM_append, hzeros]
  exact hdigits

theorem length_hex4 {n : Nat} (h : n < 0x10000) : (hex4 n).length = 4 := by
  have hlength : (Nat.toDigits 16 n).length ≤ 4 :=
    (Nat.length_toDigits_le_iff (by decide) (by decide)).2 h
  simp only [hex4, Decimal.zeros, List.length_append, List.length_replicate]
  omega

theorem unit?_hex4 {n : Nat} (h : n < 0x10000) {u : List Char} (hu : u ≠ []) :
    unit? (hex4 n ++ u) = some (n, u) := by
  have hlength := length_hex4 h
  refine unit?_eq_some_iff.2 ⟨?_, ?_, ?_⟩
  · have := List.length_pos_iff.2 hu
    rw [List.length_append]
    omega
  · rw [← hlength, List.take_left, hexValues?_hex4]
  · rw [← hlength, List.drop_left]

theorem StringTail.ne_nil {t cs r : List Char} (h : StringTail t cs r) : t ≠ [] := by
  rintro rfl
  cases h

/-- No character is half of a surrogate pair. -/
theorem toNat_not_surrogate (c : Char) : c.toNat < 0xD800 ∨ 0xDFFF < c.toNat :=
  c.valid.imp id And.left

theorem toNat_lt (c : Char) : c.toNat < 0x110000 := by
  rcases c.valid with hc | ⟨-, hc⟩
  · exact Nat.lt_trans hc (by decide)
  · exact hc

theorem unicodeEscape_hex4 (c : Char) (h : c.toNat < 0x10000) {u : List Char} (hu : u ≠ []) :
    unicodeEscape (hex4 c.toNat ++ u) = .ok (c, u) := by
  have hc := toNat_not_surrogate c
  refine unicodeEscape_eq_ok_iff.2 ⟨c.toNat, u, unit?_hex4 h hu, .inr ⟨?_, rfl, fun hhigh => ?_⟩⟩
  · rw [unitChar, if_neg, Char.ofNat_toNat]
    simp only [Bool.and_eq_true, decide_eq_true_eq]
    omega
  · simp only [isHighSurrogate, Bool.and_eq_true, decide_eq_true_eq] at hhigh
    omega

theorem unicodeEscape_surrogates {high low : Nat} (hhigh : isHighSurrogate high = true)
    (hlow : isLowSurrogate low = true) {u : List Char} (hu : u ≠ []) :
    unicodeEscape (hex4 high ++ '\\' :: 'u' :: (hex4 low ++ u)) =
      .ok (Char.ofNat (0x10000 + (high - 0xD800) * 0x400 + (low - 0xDC00)), u) := by
  have hsmall : high < 0x10000 ∧ low < 0x10000 := by
    simp only [isHighSurrogate, isLowSurrogate, Bool.and_eq_true, decide_eq_true_eq] at hhigh hlow
    omega
  have hsecond : secondUnit ('\\' :: 'u' :: (hex4 low ++ u)) = .ok (some (low, u)) :=
    secondUnit_eq_some_iff.2 ⟨_, rfl, unit?_hex4 hsmall.2 hu⟩
  exact unicodeEscape_eq_ok_iff.2
    ⟨high, _, unit?_hex4 hsmall.1 (by simp), .inl ⟨low, hhigh, hsecond, hlow, rfl⟩⟩

theorem isHighSurrogate_of_lt {n : Nat} (h : n < 0x110000) :
    isHighSurrogate (0xD800 + (n - 0x10000) / 0x400) = true := by
  simp only [isHighSurrogate, Bool.and_eq_true, decide_eq_true_eq]
  omega

theorem isLowSurrogate_add_mod (n : Nat) : isLowSurrogate (0xDC00 + n % 0x400) = true := by
  simp only [isLowSurrogate, Bool.and_eq_true, decide_eq_true_eq]
  omega

theorem surrogates_value {n : Nat} (h : 0x10000 ≤ n) :
    0x10000 + (0xD800 + (n - 0x10000) / 0x400 - 0xD800) * 0x400 +
      (0xDC00 + (n - 0x10000) % 0x400 - 0xDC00) = n := by
  omega

/-- Beyond the basic plane two surrogates stand for a character. -/
theorem unicodeEscape_pair (c : Char) (h : 0x10000 ≤ c.toNat) {u : List Char} (hu : u ≠ []) :
    unicodeEscape (hex4 (0xD800 + (c.toNat - 0x10000) / 0x400) ++
      '\\' :: 'u' :: (hex4 (0xDC00 + (c.toNat - 0x10000) % 0x400) ++ u)) = .ok (c, u) := by
  have hpair := unicodeEscape_surrogates (isHighSurrogate_of_lt (toNat_lt c))
    (isLowSurrogate_add_mod (c.toNat - 0x10000)) hu
  rw [surrogates_value h, Char.ofNat_toNat] at hpair
  exact hpair

theorem unitEscape_append (n : Nat) (t : List Char) :
    unitEscape n ++ t = '\\' :: 'u' :: (hex4 n ++ t) := rfl

theorem StringTail.unit {c : Char} (hc : c.toNat < 0x10000) {t cs r : List Char}
    (h : StringTail t cs r) : StringTail (unitEscape c.toNat ++ t) (c :: cs) r := by
  rw [unitEscape_append]
  exact .unicode (unicodeEscape_hex4 c hc h.ne_nil) h

theorem StringTail.pair {c : Char} (hc : 0x10000 ≤ c.toNat) {t cs r : List Char}
    (h : StringTail t cs r) :
    StringTail (unitEscape (0xD800 + (c.toNat - 0x10000) / 0x400) ++
      unitEscape (0xDC00 + (c.toNat - 0x10000) % 0x400) ++ t) (c :: cs) r := by
  rw [List.append_assoc, unitEscape_append, unitEscape_append]
  exact .unicode (unicodeEscape_pair c hc h.ne_nil) h

theorem StringTail.escapeChar (asciiOnly : Bool) (c : Char) {t cs r : List Char}
    (h : StringTail t cs r) : StringTail (Json.escapeChar asciiOnly c ++ t) (c :: cs) r := by
  unfold Json.escapeChar
  split
  · exact .letter rfl h
  · exact .letter rfl h
  · exact .letter rfl h
  · exact .letter rfl h
  · exact .letter rfl h
  · exact .letter rfl h
  · exact .letter rfl h
  · rename_i hquote hslash _ _ _ _ _
    dsimp only
    split
    · exact h.unit (by omega)
    · rename_i hvisible
      split
      · split
        · exact h.unit (by assumption)
        · rename_i hlarge
          exact h.pair (Nat.not_lt.1 hlarge)
      · exact .plain hquote hslash hvisible h

theorem stringTail_quote (asciiOnly : Bool) (s : String) (r : List Char) :
    ∃ t, quote asciiOnly s ++ r = '"' :: t ∧ StringTail t s.toList r := by
  have key : ∀ cs : List Char,
      StringTail (cs.flatMap (Json.escapeChar asciiOnly) ++ '"' :: r) cs r := by
    intro cs
    induction cs with
    | nil => exact .close r
    | cons c cs ih =>
      rw [List.flatMap_cons, List.append_assoc]
      exact ih.escapeChar asciiOnly c
  exact ⟨_, by simp [quote], key s.toList⟩

/-! ### Integers -/

/-- No digit, point or exponent goes on with the number before. -/
def EndsNumber (r : List Char) : Prop :=
  ∀ c t, r = c :: t → c.isDigit = false ∧ c ≠ '.' ∧ c ≠ 'e' ∧ c ≠ 'E'

theorem endsNumber_nil : EndsNumber [] := by
  rintro c t ⟨⟩

theorem endsNumber_cons {c : Char} (t : List Char)
    (h : c.isDigit = false ∧ c ≠ '.' ∧ c ≠ 'e' ∧ c ≠ 'E') : EndsNumber (c :: t) := by
  rintro d u ⟨⟩
  exact h

theorem fractionPart_of_endsNumber {r : List Char} (h : EndsNumber r) :
    fractionPart r = (none, r) :=
  fractionPart.eq_2 r fun t ht => (h '.' t ht).2.1 rfl

theorem exponentPart_of_endsNumber {r : List Char} (h : EndsNumber r) :
    exponentPart r = (none, r) := by
  cases r with
  | nil => rfl
  | cons c t =>
    obtain ⟨-, -, he, hE⟩ := h c t rfl
    rw [exponentPart_cons, if_neg (by simp [he, hE])]

/-- No digit goes on with the digits before. -/
def EndsDigits (r : List Char) : Prop := ∀ c ∈ r.head?, c.isDigit = false

theorem EndsNumber.endsDigits {r : List Char} (h : EndsNumber r) : EndsDigits r := by
  intro c hc
  obtain ⟨t, rfl⟩ := List.head?_eq_some_iff.1 hc
  exact (h c t rfl).1

theorem takeWhile_digits {ds r : List Char} (hds : ∀ c ∈ ds, c.isDigit = true)
    (hr : EndsDigits r) :
    (ds ++ r).takeWhile Char.isDigit = ds ∧ (ds ++ r).dropWhile Char.isDigit = r :=
  ⟨Text.takeWhile_append hds hr, Text.dropWhile_append hds hr⟩

/-- Digits are the part before a point if they do not begin with a zero, or are one alone. -/
theorem wholePart?_of_digits {c : Char} {ds r : List Char} (hds : ∀ d ∈ c :: ds, d.isDigit = true)
    (hzero : c = '0' → ds = []) (hr : EndsDigits r) :
    wholePart? (c :: ds ++ r) = some (c :: ds, r) := by
  by_cases hc : c = '0'
  · rw [hzero hc, hc]
    rfl
  · obtain ⟨htake, hdrop⟩ :=
      takeWhile_digits (fun d hd => hds d (List.mem_cons_of_mem c hd)) hr
    rw [List.cons_append, wholePart?]
    · rw [if_pos (hds c List.mem_cons_self), htake, hdrop]
    · exact hc

theorem isDigit_of_mem_toDigits {n : Nat} {c : Char} (h : c ∈ Nat.toDigits 10 n) :
    c.isDigit = true :=
  Nat.isDigit_of_mem_toDigits (by decide) le_rfl h

/-- Only the text of zero begins with a zero. -/
theorem toDigits_head (n : Nat) :
    ∃ c ds, Nat.toDigits 10 n = c :: ds ∧ (c = '0' → n = 0 ∧ ds = []) := by
  induction n using Nat.strongRecOn with
  | _ n ih =>
    by_cases hn : n < 10
    · refine ⟨_, [], Nat.toDigits_of_lt_base hn, fun hzero => ⟨?_, rfl⟩⟩
      simpa using hzero
    · obtain ⟨c, ds, hds, hc⟩ := ih (n / 10) (by omega)
      have hdigits : Nat.toDigits 10 n = c :: (ds ++ [(n % 10).digitChar]) := by
        rw [Nat.toDigits_of_base_le (by decide) (by omega), hds]
        rfl
      refine ⟨c, _, hdigits, fun hzero => ?_⟩
      have := (hc hzero).1
      omega

theorem wholePart?_toDigits (n : Nat) {r : List Char} (hr : EndsDigits r) :
    wholePart? (Nat.toDigits 10 n ++ r) = some (Nat.toDigits 10 n, r) := by
  obtain ⟨c, ds, hds, hzero⟩ := toDigits_head n
  have hdigits : ∀ d ∈ c :: ds, d.isDigit = true := fun d hd =>
    isDigit_of_mem_toDigits (hds ▸ hd)
  rw [hds]
  exact wholePart?_of_digits hdigits (fun h => (hzero h).2) hr

theorem numberSign_toDigits (n : Nat) (r : List Char) :
    numberSign (Nat.toDigits 10 n ++ r) = (false, Nat.toDigits 10 n ++ r) := by
  refine numberSign.eq_2 _ fun t ht => ?_
  obtain ⟨c, ds, hds⟩ := List.exists_cons_of_ne_nil (Nat.toDigits_ne_nil (n := n) (b := 10))
  have hc : c.isDigit = true := isDigit_of_mem_toDigits (hds ▸ List.mem_cons_self)
  rw [hds] at ht
  obtain rfl := (List.cons.inj ht).1
  exact absurd hc (by decide)

theorem numberParts?_intText (n : Int) {r : List Char} (hr : EndsNumber r) :
    numberParts? (intText n ++ r) =
      some ⟨decide (n < 0), Nat.toDigits 10 n.natAbs, none, none, r⟩ := by
  rw [numberParts?_eq]
  cases n with
  | ofNat n =>
    rw [intText, numberSign_toDigits, wholePart?_toDigits n hr.endsDigits]
    simp [fractionPart_of_endsNumber hr, exponentPart_of_endsNumber hr]
  | negSucc n =>
    rw [intText, List.cons_append, numberSign, wholePart?_toDigits (n + 1) hr.endsDigits]
    simp [fractionPart_of_endsNumber hr, exponentPart_of_endsNumber hr]

/-- An integer that the reader takes. -/
def IsShort (n : Int) : Prop := (Nat.toDigits 10 n.natAbs).length ≤ integerDigitLimit

instance (n : Int) : Decidable (IsShort n) := inferInstanceAs (Decidable (_ ≤ _))

theorem Reads.int {p : NonFinitePolicy} {n : Int} (h : IsShort n) {r : List Char}
    (hr : EndsNumber r) : Reads p (.value (.int n)) (intText n ++ r) r := by
  have hvalue : digitsValue (Nat.toDigits 10 n.natAbs) = n.natAbs := by
    rw [digitsValue_eq, Nat.ofDigitChars_ten_toDigits]
  refine .number (numberParts?_intText n hr) ?_
  rw [NumberParts.value]
  simp only [if_neg (Nat.not_lt.2 h), hvalue]
  congr 2
  by_cases hn : n < 0
  · rw [decide_eq_true hn, if_pos rfl]
    omega
  · rw [decide_eq_false hn, if_neg (by simp)]
    omega

/-! ### Values -/

/-- Whole values: no fraction at any depth, and no integer that is too long to be read. -/
inductive IsWhole : Json → Prop
  | null : IsWhole .null
  | bool (b : Bool) : IsWhole (.bool b)
  | int {n : Int} (short : IsShort n) : IsWhole (.int n)
  | string (s : String) : IsWhole (.string s)
  | array {vs : List Json} (items : ∀ v ∈ vs, IsWhole v) : IsWhole (.array vs)
  | object {ms : List (String × Json)} (members : ∀ m ∈ ms, IsWhole m.2) : IsWhole (.object ms)

/-- The names of every object at any depth satisfy `P`. -/
inductive EveryObject (P : List String → Prop) : Json → Prop
  | null : EveryObject P .null
  | bool (b : Bool) : EveryObject P (.bool b)
  | int (n : Int) : EveryObject P (.int n)
  | float (x : Float) : EveryObject P (.float x)
  | string (s : String) : EveryObject P (.string s)
  | array {vs : List Json} (items : ∀ v ∈ vs, EveryObject P v) : EveryObject P (.array vs)
  | object {ms : List (String × Json)} (names : P (ms.map (·.1)))
      (members : ∀ m ∈ ms, EveryObject P m.2) : EveryObject P (.object ms)

theorem EveryObject.mono {P Q : List String → Prop} (hPQ : ∀ names, P names → Q names) {v : Json}
    (h : EveryObject P v) : EveryObject Q v := by
  induction h with
  | null => exact .null
  | bool b => exact .bool b
  | int n => exact .int n
  | float x => exact .float x
  | string s => exact .string s
  | array _ ih => exact .array ih
  | object names _ ih => exact .object (hPQ _ names) ih

/-- The separators are a comma and a colon, with blanks after them. -/
structure Style.IsReadable (style : Style) : Prop where
  item : ∃ b, style.itemSeparator.toList = ',' :: b ∧ ∀ c ∈ b, isSpace c = true
  name : ∃ b, style.nameSeparator.toList = ':' :: b ∧ ∀ c ∈ b, isSpace c = true

theorem compact_isReadable : compact.IsReadable := ⟨⟨[], rfl, by simp⟩, ⟨[], rfl, by simp⟩⟩

theorem isSpace_of_mem_newline {style : Style} {level : Nat} {c : Char}
    (h : c ∈ style.newline level) : isSpace c = true := by
  unfold Style.newline at h
  split at h
  · rcases List.mem_cons.1 h with rfl | h
    · rfl
    · rw [List.eq_of_mem_replicate h]
      rfl
  · cases h

theorem skipSpace_of_startsValue {c : Char} (h : startsValue c = true) (t : List Char) :
    skipSpace (c :: t) = c :: t := by
  refine List.dropWhile_cons_of_neg fun hc => ?_
  simp only [isSpace, Bool.or_eq_true, beq_iff_eq] at hc
  rcases hc with ((rfl | rfl) | rfl) | rfl <;> exact absurd h (by decide)

theorem skipSpace_quote (asciiOnly : Bool) (s : String) (r : List Char) :
    skipSpace (quote asciiOnly s ++ r) = quote asciiOnly s ++ r := by
  rw [quote, List.cons_append]
  exact skipSpace_of_startsValue (by decide) _

theorem Reads.skipSpace_eq {p : NonFinitePolicy} {v : Json} {s r : List Char}
    (h : Reads p (.value v) s r) : skipSpace s = s := by
  obtain ⟨c, t, rfl, hc⟩ := h.value_head
  exact skipSpace_of_startsValue hc t

theorem Reads.items_skipSpace_eq {p : NonFinitePolicy} {vs : List Json} {s r : List Char}
    (h : Reads p (.items vs) s r) : skipSpace s = s := by
  obtain ⟨c, t, rfl, hc⟩ := h.items_head
  exact skipSpace_of_startsValue hc t

theorem Reads.string_quote (p : NonFinitePolicy) (asciiOnly : Bool) (s : String) (r : List Char) :
    Reads p (.value (.string s)) (quote asciiOnly s ++ r) r := by
  obtain ⟨t, ht, htail⟩ := stringTail_quote asciiOnly s r
  have h := Reads.string (p := p) htail
  rwa [String.ofList_toList, ← ht] at h

/-- What closes a list: a line break, if the style has one, and the bracket. -/
theorem endsNumber_newline (style : Style) (level : Nat) {c : Char}
    (hc : c.isDigit = false ∧ c ≠ '.' ∧ c ≠ 'e' ∧ c ≠ 'E') (r : List Char) :
    EndsNumber (style.newline level ++ c :: r) := by
  unfold Style.newline
  split
  · exact endsNumber_cons _ (by decide)
  · exact endsNumber_cons r hc

theorem skipSpace_newline (style : Style) (level : Nat) (s : List Char) :
    skipSpace (style.newline level ++ s) = skipSpace s :=
  skipSpace_append_of_space (fun _ => isSpace_of_mem_newline) s

/-- The text of `v` spells `w` wherever no number goes on. -/
def SpelledAs (p : NonFinitePolicy) (style : Style) (v w : Json) : Prop :=
  ∀ level r, EndsNumber r → Reads p (.value w) (write style level v ++ r) r

/-- The text of a value spells it wherever no number goes on. -/
def Spelled (p : NonFinitePolicy) (style : Style) (v : Json) : Prop :=
  ∀ level r, EndsNumber r → Reads p (.value v) (write style level v ++ r) r

theorem Reads.plain {p : NonFinitePolicy} {text r : List Char} {v : Json}
    (h : (text, .plain v) ∈ names) : Reads p (.value v) (text ++ r) r :=
  .name h rfl

section Scalars

variable (p : NonFinitePolicy) (style : Style)

theorem spelled_null : Spelled p style .null := by
  intro level r _
  rw [write]
  exact .plain (by simp [names])

theorem spelled_bool (b : Bool) : Spelled p style (.bool b) := by
  intro level r _
  rw [write]
  cases b
  · exact .plain (by simp [names])
  · exact .plain (by simp [names])

theorem spelled_int {n : Int} (h : IsShort n) : Spelled p style (.int n) := by
  intro level r hr
  rw [write]
  exact Reads.int h hr

theorem spelled_string (s : String) : Spelled p style (.string s) := by
  intro level r _
  rw [write]
  exact .string_quote p style.asciiOnly s r

end Scalars

section Lists

variable {p : NonFinitePolicy} {style : Style} (hstyle : style.IsReadable) (level outer : Nat)
include hstyle

/-- Between two elements stand a comma and blanks. -/
theorem item_text {tail : List Char} (h : skipSpace tail = tail) :
    ∃ w, style.itemSeparator.toList ++ (style.newline level ++ tail) = ',' :: w ∧
      skipSpace w = tail := by
  obtain ⟨b, hseparator, hb⟩ := hstyle.item
  refine ⟨b ++ (style.newline level ++ tail), by rw [hseparator, List.cons_append], ?_⟩
  rw [skipSpace_append_of_space hb, skipSpace_newline, h]

/-- Between a name and its value stand a colon and blanks. -/
theorem name_text (k : String) {tail : List Char} (h : skipSpace tail = tail) :
    ∃ t n w, quote style.asciiOnly k ++ (style.nameSeparator.toList ++ tail) = '"' :: t ∧
      StringTail t k.toList n ∧ skipSpace n = ':' :: w ∧ skipSpace w = tail := by
  obtain ⟨b, hseparator, hb⟩ := hstyle.name
  obtain ⟨t, ht, hname⟩ := stringTail_quote style.asciiOnly k (':' :: (b ++ tail))
  refine ⟨t, _, b ++ tail, ?_, hname, rfl, ?_⟩
  · rw [hseparator, List.cons_append, ht]
  · rw [skipSpace_append_of_space hb, h]

theorem Reads.items_write {v w : Json} {vs ws : List Json}
    (h : List.Forall₂ (SpelledAs p style) (v :: vs) (w :: ws)) (r : List Char) :
    Reads p (.items (w :: ws)) (write style level v ++ (writeItems style level vs ++
      (style.newline outer ++ ']' :: r))) r := by
  induction vs generalizing v w ws with
  | nil =>
    obtain ⟨hv, hnil⟩ := List.forall₂_cons.1 h
    obtain rfl := List.forall₂_nil_left_iff.1 hnil
    have hitem := hv level _ (endsNumber_newline style outer (c := ']') (by decide) r)
    rw [writeItems, List.nil_append]
    exact .lastItem hitem (skipSpace_newline style outer (']' :: r))
  | cons v' vs ih =>
    obtain ⟨hv, hvs⟩ := List.forall₂_cons.1 h
    obtain ⟨w', ws, -, -, rfl⟩ := List.forall₂_cons_left_iff.1 hvs
    have hrest := ih hvs
    obtain ⟨t, hcomma, hskip⟩ := item_text hstyle level hrest.items_skipSpace_eq
    have htext : writeItems style level (v' :: vs) ++ (style.newline outer ++ ']' :: r) =
        ',' :: t := by
      rw [← hcomma]
      simp only [writeItems, List.append_assoc]
    rw [htext]
    exact .item (hv level _ (endsNumber_cons t (by decide))) rfl (by rw [hskip]; exact hrest)

/-- The members after the name of the first. -/
theorem Reads.members_write {k : String} {v w : Json} {ms ns : List (String × Json)}
    (h : List.Forall₂ (fun m n => m.1 = n.1 ∧ SpelledAs p style m.2 n.2)
      ((k, v) :: ms) ((k, w) :: ns)) (r : List Char) :
    Reads p (.members ((k, w) :: ns)) (quote style.asciiOnly k ++ (style.nameSeparator.toList ++
      (write style level v ++ (writeMembers style level ms ++
        (style.newline outer ++ '\x7d' :: r))))) r := by
  induction ms generalizing k v w ns with
  | nil =>
    obtain ⟨⟨-, hv⟩, hnil⟩ := List.forall₂_cons.1 h
    obtain rfl := List.forall₂_nil_left_iff.1 hnil
    have hvalue := hv level _ (endsNumber_newline style outer (c := '\x7d') (by decide) r)
    obtain ⟨t, n, u, ht, hname, hcolon, hskip⟩ := name_text hstyle k hvalue.skipSpace_eq
    have hmember := Reads.lastMember (p := p) hname hcolon (by rw [hskip]; exact hvalue)
      (skipSpace_newline style outer ('\x7d' :: r))
    rw [writeMembers, List.nil_append, ht]
    rwa [String.ofList_toList] at hmember
  | cons m ms ih =>
    obtain ⟨⟨-, hv⟩, hms⟩ := List.forall₂_cons.1 h
    obtain ⟨⟨k', w'⟩, ns, ⟨rfl, -⟩, -, rfl⟩ := List.forall₂_cons_left_iff.1 hms
    obtain ⟨k', v'⟩ := m
    have hrest := ih hms
    obtain ⟨u, hcomma, hskipRest⟩ := item_text hstyle level
      (skipSpace_quote style.asciiOnly k' (style.nameSeparator.toList ++
        (write style level v' ++ (writeMembers style level ms ++
          (style.newline outer ++ '\x7d' :: r)))))
    have htext : writeMembers style level ((k', v') :: ms) ++ (style.newline outer ++ '\x7d' :: r) =
        ',' :: u := by
      rw [← hcomma]
      simp only [writeMembers, List.append_assoc]
    have hvalue := hv level _ (endsNumber_cons u (c := ',') (by decide))
    obtain ⟨t, n, x, ht, hname, hcolon, hskip⟩ := name_text hstyle k hvalue.skipSpace_eq
    have hmember := Reads.member (p := p) hname hcolon (by rw [hskip]; exact hvalue) rfl
      (by rw [hskipRest]; exact hrest)
    rw [htext, ht]
    rwa [String.ofList_toList] at hmember

/-- Items that spell values make an array that spells the array of these. -/
theorem spelledAs_array {vs ws : List Json} (h : List.Forall₂ (SpelledAs p style) vs ws) :
    SpelledAs p style (.array vs) (.array ws) := by
  intro level r _
  cases h with
  | nil => rw [write]; exact .emptyArray rfl
  | cons hv hvs =>
    have hitems := Reads.items_write hstyle (level + 1) level (.cons hv hvs) r
    simp only [write, List.cons_append, List.append_assoc, List.nil_append]
    refine .array ?_
    rw [skipSpace_newline, hitems.items_skipSpace_eq]
    exact hitems

/-- Of members with the same name, the reader keeps one. -/
theorem spelledAs_object {ms ns : List (String × Json)}
    (h : List.Forall₂ (fun m n => m.1 = n.1 ∧ SpelledAs p style m.2 n.2) ms ns) :
    SpelledAs p style (.object ms) (.object (Entries.collapse ns)) := by
  intro level r _
  cases h with
  | nil => rw [write]; exact .emptyObject rfl
  | @cons m n ms ns hm hms =>
    obtain ⟨k, v⟩ := m
    obtain ⟨k', w⟩ := n
    obtain rfl : k = k' := hm.1
    have hmembers := Reads.members_write hstyle (level + 1) level (List.Forall₂.cons hm hms) r
    have hobject := Reads.object (p := p) (t := style.newline (level + 1) ++ _)
      (by rw [skipSpace_newline, skipSpace_quote]; exact hmembers)
    simpa only [write, List.cons_append, List.append_assoc, List.nil_append] using hobject

end Lists

/-- Whole values without a name twice in an object are spelled by their texts in any readable
style. -/
theorem spelled_of_isWhole {p : NonFinitePolicy} {style : Style} (hstyle : style.IsReadable)
    {v : Json} (hv : IsWhole v) (hnames : EveryObject List.Nodup v) : Spelled p style v := by
  induction hv with
  | null => exact spelled_null p style
  | bool b => exact spelled_bool p style b
  | int short => exact spelled_int p style short
  | string s => exact spelled_string p style s
  | array _ ih =>
    cases hnames with
    | array hnames =>
      exact spelledAs_array hstyle (List.forall₂_same.2 fun v hv => ih v hv (hnames v hv))
  | object _ ih =>
    cases hnames with
    | object hnodup hnames =>
      have hobject := spelledAs_object hstyle
        (List.forall₂_same.2 fun m hm => ⟨rfl, ih m hm (hnames m hm)⟩)
      rwa [Entries.collapse_of_nodup hnodup] at hobject

/-- What is written is read back. -/
theorem read_write {p : NonFinitePolicy} {style : Style} (hstyle : style.IsReadable) {v : Json}
    (hv : IsWhole v) (hnames : EveryObject List.Nodup v) :
    read p (write style 0 v) = .ok v := by
  have h := spelled_of_isWhole (p := p) hstyle hv hnames 0 [] endsNumber_nil
  rw [List.append_nil] at h
  exact read_eq_ok_iff.2 ⟨[], by rw [h.skipSpace_eq]; exact h, rfl⟩

end HttpScript.Json
