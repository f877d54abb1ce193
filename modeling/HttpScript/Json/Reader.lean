import HttpScript.Entries
import HttpScript.Json.Value
import HttpScript.Decimal.Binary

/-!
# Reading JSON

A recursive descent over the characters that are left. Every reader returns a strictly shorter rest,
and every fault carries the characters that are left where it is reported, so that its position is
the length of the text less the length of that rest.
-/
namespace HttpScript.Json

/-- What is wrong at the place of a fault. -/
inductive Malformation where
  | expectingValue
  | expectingPropertyName
  | expectingColon
  | expectingComma
  | unterminatedString
  | controlCharacter
  | badEscape
  | badUnicodeEscape
  | extraData
  | byteOrderMark
  deriving Repr, DecidableEq

def Malformation.message : Malformation → String
  | .expectingValue => "Expecting value"
  | .expectingPropertyName => "Expecting property name enclosed in double quotes"
  | .expectingColon => "Expecting ':' delimiter"
  | .expectingComma => "Expecting ',' delimiter"
  | .unterminatedString => "Unterminated string starting at"
  | .controlCharacter => "Invalid control character at"
  | .badEscape => "Invalid \\escape"
  | .badUnicodeEscape => "Invalid \\uXXXX escape"
  | .extraData => "Extra data"
  | .byteOrderMark => "Unexpected UTF-8 BOM (decode using utf-8-sig)"

/-- The three number literals that JSON itself does not have. -/
inductive NonFinite where
  | nan
  | infinity
  | negativeInfinity
  deriving Repr, DecidableEq

def NonFinite.literal : NonFinite → String
  | .nan => "NaN"
  | .infinity => "Infinity"
  | .negativeInfinity => "-Infinity"

def NonFinite.value : NonFinite → Float
  | .nan => 0.0 / 0.0
  | .infinity => 1.0 / 0.0
  | .negativeInfinity => -1.0 / 0.0

/-- Why a text is refused, with the characters left at that place. -/
inductive Fault where
  | malformed (what : Malformation) (left : List Char)
  | nonFinite (what : NonFinite) (left : List Char)
  | longInteger (digits : Nat)
  deriving Repr, DecidableEq

def longIntegerMessage (digits : Nat) : String :=
  "Exceeds the limit (4300 digits) for integer string conversion: value has " ++ toString digits ++
    " digits; use sys.set_int_max_str_digits() to increase the limit"

/-- A proper suffix of `s`, as far as lengths tell. -/
structure Rest (s : List Char) where
  chars : List Char
  shorter : chars.length < s.length

abbrev Result (α : Type) (s : List Char) := Except Fault (α × Rest s)

/-- The same result seen from a longer text. -/
def Result.widen {α : Type} {s t : List Char} (h : s.length ≤ t.length) (r : Result α s) :
    Result α t :=
  r.map fun (a, rest) => (a, ⟨rest.chars, Nat.lt_of_lt_of_le rest.shorter h⟩)

def isSpace (c : Char) : Bool := c == ' ' || c == '\t' || c == '\n' || c == '\r'

def skipSpace (s : List Char) : List Char := s.dropWhile isSpace

theorem length_skipSpace_le (s : List Char) : (skipSpace s).length ≤ s.length :=
  (List.dropWhile_suffix isSpace).length_le

/-! ### Strings -/

def hexValue? (c : Char) : Option Nat :=
  if '0' ≤ c && c ≤ '9' then some (c.toNat - '0'.toNat)
  else if 'a' ≤ c && c ≤ 'f' then some (c.toNat - 'a'.toNat + 10)
  else if 'A' ≤ c && c ≤ 'F' then some (c.toNat - 'A'.toNat + 10)
  else none

def hexValues? (cs : List Char) : Option Nat :=
  cs.foldlM (fun n c => (hexValue? c).map (16 * n + ·)) 0

/-- A 16-bit unit after `\u`: four hexadecimal digits that the text does not end with. -/
def unit? (s : List Char) : Option (Nat × List Char) :=
  if 4 < s.length then (hexValues? (s.take 4)).map (·, s.drop 4) else none

def isHighSurrogate (n : Nat) : Bool := 0xD800 ≤ n && n ≤ 0xDBFF

def isLowSurrogate (n : Nat) : Bool := 0xDC00 ≤ n && n ≤ 0xDFFF

/-- The character of a 16-bit unit; an unpaired surrogate becomes the replacement character. -/
def unitChar (n : Nat) : Char :=
  if 0xD800 ≤ n && n ≤ 0xDFFF then Char.ofNat 0xFFFD else Char.ofNat n

/-- The unit of a second escape `\u` that may complete a surrogate pair. A text that ends right
after its four digits is left for the next turn. -/
def secondUnit (s : List Char) : Except Fault (Option (Nat × List Char)) :=
  match s with
  | '\\' :: 'u' :: t =>
    if 4 < t.length then
      match hexValues? (t.take 4) with
      | some n => .ok (some (n, t.drop 4))
      | none => .error (.malformed .badUnicodeEscape ('u' :: t))
    else .ok none
  | _ => .ok none

/-- The character after `\u`, whose digits start `s`. -/
def unicodeEscape (s : List Char) : Except Fault (Char × List Char) :=
  match unit? s with
  | none => .error (.malformed .badUnicodeEscape ('u' :: s))
  | some (n, t) =>
    if isHighSurrogate n then do
      match ← secondUnit t with
      | some (low, t') =>
        if isLowSurrogate low then
          return (Char.ofNat (0x10000 + (n - 0xD800) * 0x400 + (low - 0xDC00)), t')
        else return (unitChar n, t)
      | none => return (unitChar n, t)
    else .ok (unitChar n, t)

theorem unit?_length {s t : List Char} {n : Nat} (h : unit? s = some (n, t)) :
    t.length ≤ s.length := by
  unfold unit? at h
  split at h
  · obtain ⟨m, -, hm⟩ := Option.map_eq_some_iff.1 h
    obtain rfl : s.drop 4 = t := (Prod.mk.inj hm).2
    simp
  · cases h

theorem secondUnit_length {s t : List Char} {n : Nat} (h : secondUnit s = .ok (some (n, t))) :
    t.length ≤ s.length := by
  unfold secondUnit at h
  split at h
  · split at h
    · split at h
      · obtain rfl : List.drop 4 _ = t := by simpa using (congrArg Prod.snd (Option.some.inj (Except.ok.inj h)))
        simp only [List.length_drop, List.length_cons]; omega
      · cases h
    · cases h
  · cases h

theorem unicodeEscape_length {s t : List Char} {c : Char} (h : unicodeEscape s = .ok (c, t)) :
    t.length ≤ s.length := by
  unfold unicodeEscape at h
  split at h
  · cases h
  · rename_i n u hu
    have hl := unit?_length hu
    split at h
    · cases hs : secondUnit u with
      | error e => rw [hs] at h; cases h
      | ok o =>
        rw [hs] at h
        cases o with
        | none => obtain rfl := (Prod.mk.inj (Except.ok.inj h)).2; exact hl
        | some p =>
          obtain ⟨low, t'⟩ := p
          have hl' := secondUnit_length hs
          change (if isLowSurrogate low = true then _ else _) = _ at h
          split at h
          · obtain rfl := (Prod.mk.inj (Except.ok.inj h)).2; omega
          · obtain rfl := (Prod.mk.inj (Except.ok.inj h)).2; exact hl
    · obtain rfl := (Prod.mk.inj (Except.ok.inj h)).2; exact hl

/-- The character of an escape of one letter. -/
def letterEscape? : Char → Option Char
  | '"' => some '"'
  | '\\' => some '\\'
  | '/' => some '/'
  | 'b' => some '\x08'
  | 'f' => some '\x0c'
  | 'n' => some '\n'
  | 'r' => some '\r'
  | 't' => some '\t'
  | _ => none

/-- The characters of a string up to its closing quote. `start` is the text from the opening quote
on, which an unterminated string is reported at. -/
def stringTail (start : List Char) (s : List Char) : Result (List Char) s :=
  match s with
  | [] => .error (.malformed .unterminatedString start)
  | '"' :: t => .ok ([], ⟨t, by simp⟩)
  | ['\\'] => .error (.malformed .unterminatedString start)
  | '\\' :: 'u' :: t =>
    match h : unicodeEscape t with
    | .error fault => .error fault
    | .ok (c, t') =>
      have := unicodeEscape_length h
      ((stringTail start t').widen (by simp only [List.length_cons]; omega)).map
        fun (cs, rest) => (c :: cs, rest)
  | '\\' :: e :: t =>
    match letterEscape? e with
    | none => .error (.malformed .badEscape ('\\' :: e :: t))
    | some c =>
      ((stringTail start t).widen (by simp only [List.length_cons]; omega)).map
        fun (cs, rest) => (c :: cs, rest)
  | c :: t =>
    if c.toNat < 0x20 then .error (.malformed .controlCharacter (c :: t))
    else
      ((stringTail start t).widen (by simp)).map fun (cs, rest) => (c :: cs, rest)
termination_by s.length
decreasing_by all_goals (simp only [List.length_cons]; omega)

/-! ### Numbers -/

def digitsValue (cs : List Char) : Nat :=
  cs.foldl (fun n c => 10 * n + (c.toNat - '0'.toNat)) 0

theorem digitsValue_eq (cs : List Char) : digitsValue cs = Nat.ofDigitChars 10 cs 0 := rfl

/-- A literal split into its parts, and what follows it. -/
structure NumberParts where
  negative : Bool
  whole : List Char
  fraction : Option (List Char)
  exponent : Option (Bool × List Char)
  rest : List Char

/-- The digits after a point, if a digit follows it. -/
def fractionPart (s : List Char) : Option (List Char) × List Char :=
  match s with
  | '.' :: t =>
    if (t.takeWhile Char.isDigit).isEmpty then (none, s)
    else (some (t.takeWhile Char.isDigit), t.dropWhile Char.isDigit)
  | _ => (none, s)

/-- The sign (true for minus) and digits of an exponent, if it has a digit. -/
def exponentPart (s : List Char) : Option (Bool × List Char) × List Char :=
  match s with
  | e :: t =>
    if e == 'e' || e == 'E' then
      let (negative, u) := match t with
        | '-' :: u => (true, u)
        | '+' :: u => (false, u)
        | u => (false, u)
      if (u.takeWhile Char.isDigit).isEmpty then (none, s)
      else (some (negative, u.takeWhile Char.isDigit), u.dropWhile Char.isDigit)
    else (none, s)
  | [] => (none, s)

/-- The digits before the point: a single zero, or digits that do not start with zero. -/
def wholePart? (s : List Char) : Option (List Char × List Char) :=
  match s with
  | '0' :: t => some (['0'], t)
  | c :: t =>
    if c.isDigit then some (c :: t.takeWhile Char.isDigit, t.dropWhile Char.isDigit) else none
  | [] => none

def numberParts? (s : List Char) : Option NumberParts :=
  let (negative, t) := match s with
    | '-' :: t => (true, t)
    | t => (false, t)
  (wholePart? t).map fun (whole, u) =>
    let (fraction, v) := fractionPart u
    let (exponent, w) := exponentPart v
    ⟨negative, whole, fraction, exponent, w⟩

theorem fractionPart_length (s : List Char) : (fractionPart s).2.length ≤ s.length := by
  unfold fractionPart
  split
  · split
    · simp
    · have := (List.dropWhile_suffix (l := ‹List Char›) Char.isDigit).length_le
      simp only [List.length_cons]; omega
  · simp

theorem exponentPart_length (s : List Char) : (exponentPart s).2.length ≤ s.length := by
  unfold exponentPart
  split
  · split
    · rename_i e t _
      have key : ∀ u : List Char, u.length ≤ t.length →
          (if (u.takeWhile Char.isDigit).isEmpty = true then (none, e :: t)
            else (some (true, u.takeWhile Char.isDigit), u.dropWhile Char.isDigit) :
              Option (Bool × List Char) × List Char).2.length ≤ (e :: t).length := by
        intro u hu
        split
        · simp
        · have := (List.dropWhile_suffix (l := u) Char.isDigit).length_le
          simp only [List.length_cons]; omega
      split
      rename_i negative u hs
      have hu : u.length ≤ t.length := by
        split at hs <;> cases hs <;> simp
      split
      · simp
      · have := (List.dropWhile_suffix (l := u) Char.isDigit).length_le
        simp only [List.length_cons]; omega
    · simp
  · simp

theorem wholePart?_length {s d t : List Char} (h : wholePart? s = some (d, t)) :
    t.length < s.length := by
  unfold wholePart? at h
  split at h
  · cases h; simp
  · split at h
    · rename_i c u _ _
      cases h
      have := (List.dropWhile_suffix (l := u) Char.isDigit).length_le
      simp only [List.length_cons]; omega
    · cases h
  · cases h

theorem numberParts?_length {s : List Char} {p : NumberParts} (h : numberParts? s = some p) :
    p.rest.length < s.length := by
  unfold numberParts? at h
  split at h
  rename_i negative t hs
  have ht : t.length ≤ s.length := by
    split at hs <;> cases hs <;> simp
  obtain ⟨⟨whole, u⟩, hw, rfl⟩ := Option.map_eq_some_iff.1 h
  have hu := wholePart?_length hw
  have hf := fractionPart_length u
  have he := exponentPart_length (fractionPart u).2
  show (exponentPart (fractionPart u).2).2.length < s.length
  omega

/-- The number of a literal: an integer when it has neither fraction nor exponent. -/
def NumberParts.value (p : NumberParts) : Except Fault Json :=
  match p.fraction, p.exponent with
  | none, none =>
    if integerDigitLimit < p.whole.length then .error (.longInteger p.whole.length)
    else
      let n : Int := digitsValue p.whole
      .ok (.int (if p.negative then -n else n))
  | fraction, exponent =>
    let places := fraction.getD []
    let shift : Int := match exponent with
      | some (true, ds) => -(digitsValue ds : Int)
      | some (false, ds) => digitsValue ds
      | none => 0
    .ok (.float (Decimal.nearest p.negative (digitsValue (p.whole ++ places)) (shift - places.length)))

/-! ### Values -/

/-- The literal names, longest of a common start first, each with the value it stands for. -/
inductive Name where
  | plain (value : Json)
  | nonFinite (which : NonFinite)

def names : List (List Char × Name) := [
  ("null".toList, .plain .null), ("true".toList, .plain (.bool true)),
  ("false".toList, .plain (.bool false)), ("NaN".toList, .nonFinite .nan),
  ("Infinity".toList, .nonFinite .infinity), ("-Infinity".toList, .nonFinite .negativeInfinity)]

/-- Whether the literals of the non-finite numbers are read or refused. -/
inductive NonFinitePolicy where
  | accept
  | refuse
  deriving Repr, DecidableEq

/-- A literal name or a number at the head of `s`. -/
def scalar (policy : NonFinitePolicy) (s : List Char) : Result Json s :=
  match names.find? fun (text, _) => text.isPrefixOf s with
  | some (text, name) =>
    if h : 0 < text.length ∧ 0 < s.length then
      let rest : Rest s := ⟨s.drop text.length, by rw [List.length_drop]; omega⟩
      match name, policy with
      | .plain value, _ => .ok (value, rest)
      | .nonFinite which, .accept => .ok (.float which.value, rest)
      | .nonFinite which, .refuse => .error (.nonFinite which s)
    else .error (.malformed .expectingValue s)
  | none =>
    match h : numberParts? s with
    | some parts => parts.value.map fun value => (value, ⟨parts.rest, numberParts?_length h⟩)
    | none => .error (.malformed .expectingValue s)

theorem length_of_skipSpace_eq {s u : List Char} (h : skipSpace s = u) : u.length ≤ s.length :=
  h ▸ length_skipSpace_le s

mutual

/-- The value at the head of `s`. -/
def value (policy : NonFinitePolicy) (s : List Char) : Result Json s :=
  match s with
  | '"' :: t =>
    ((stringTail ('"' :: t) t).widen (Nat.le_succ _)).map
      fun (cs, rest) => (.string (.ofList cs), rest)
  | '[' :: t =>
    match h : skipSpace t with
    | ']' :: u => .ok (.array [], ⟨u, Nat.lt_succ_of_lt (length_of_skipSpace_eq h)⟩)
    | u =>
      have hu := length_of_skipSpace_eq h
      ((items policy u).widen (Nat.le_succ_of_le hu)).map fun (vs, rest) => (.array vs, rest)
  | '\x7b' :: t =>
    match h : skipSpace t with
    | '\x7d' :: u => .ok (.object [], ⟨u, Nat.lt_succ_of_lt (length_of_skipSpace_eq h)⟩)
    | u =>
      have hu := length_of_skipSpace_eq h
      ((members policy u).widen (Nat.le_succ_of_le hu)).map
        fun (ms, rest) => (.object (Entries.collapse ms), rest)
  | s => scalar policy s
termination_by 2 * s.length
decreasing_by all_goals (simp only [List.length_cons]; omega)

/-- The items of an array up to its closing bracket, the first of them at the head of `s`. -/
def items (policy : NonFinitePolicy) (s : List Char) : Result (List Json) s :=
  match value policy s with
  | .error fault => .error fault
  | .ok (v, ⟨r, hr⟩) =>
    match h : skipSpace r with
    | ']' :: t => .ok ([v], ⟨t, Nat.lt_trans (length_of_skipSpace_eq h) hr⟩)
    | ',' :: t =>
      have ht : t.length < s.length := Nat.lt_trans (length_of_skipSpace_eq h) hr
      have hu := length_skipSpace_le t
      ((items policy (skipSpace t)).widen (Nat.le_trans hu (Nat.le_of_lt ht))).map
        fun (vs, rest) => (v :: vs, rest)
    | t => .error (.malformed .expectingComma t)
termination_by 2 * s.length + 1
decreasing_by all_goals omega

/-- The members of an object up to its closing brace, the name of the first at the head of `s`. -/
def members (policy : NonFinitePolicy) (s : List Char) : Result (List (String × Json)) s :=
  match s with
  | '"' :: n =>
    match stringTail ('"' :: n) n with
    | .error fault => .error fault
    | .ok (name, ⟨r, hr⟩) =>
      match h : skipSpace r with
      | ':' :: t =>
        have ht : t.length < n.length := Nat.lt_trans (length_of_skipSpace_eq h) hr
        have hv := length_skipSpace_le t
        match value policy (skipSpace t) with
        | .error fault => .error fault
        | .ok (v, ⟨r', hr'⟩) =>
          match h' : skipSpace r' with
          | '\x7d' :: u =>
            have hu : u.length < r'.length := length_of_skipSpace_eq h'
            .ok ([(.ofList name, v)], ⟨u, by simp only [List.length_cons]; omega⟩)
          | ',' :: u =>
            have hu : u.length < r'.length := length_of_skipSpace_eq h'
            have hw := length_skipSpace_le u
            ((members policy (skipSpace u)).widen (by simp only [List.length_cons]; omega)).map
              fun (ms, rest) => ((.ofList name, v) :: ms, rest)
          | u => .error (.malformed .expectingComma u)
      | t => .error (.malformed .expectingColon t)
  | s => .error (.malformed .expectingPropertyName s)
termination_by 2 * s.length + 1
decreasing_by all_goals (simp only [List.length_cons]; omega)

end

/-- The one value that makes up a text, blanks around it left out. -/
def read (policy : NonFinitePolicy) (text : List Char) : Except Fault Json :=
  match text with
  | '\ufeff' :: _ => .error (.malformed .byteOrderMark text)
  | text => do
    let (v, rest) ← value policy (skipSpace text)
    match skipSpace rest.chars with
    | [] => return v
    | left => throw (.malformed .extraData left)

/-! ### Places -/

/-- A place in a text: the offset from its start, and line and column counted from one. -/
structure Place where
  offset : Nat
  line : Nat
  column : Nat
  deriving Repr, DecidableEq

/-- The place at which `left` is what is left of `text`. -/
def placeOf (text left : List Char) : Place :=
  let before := text.take (text.length - left.length)
  ⟨before.length, before.count '\n' + 1,
    (before.reverse.takeWhile (· != '\n')).length + 1⟩

/-- The message of a fault, with its place where it has one. -/
def Fault.message (text : List Char) : Fault → String
  | .malformed what left =>
    let p := placeOf text left
    s!"{what.message}: line {p.line} column {p.column} (char {p.offset})"
  | .nonFinite what _ => "invalid JSON literal: " ++ what.literal
  | .longInteger digits => longIntegerMessage digits

end HttpScript.Json
