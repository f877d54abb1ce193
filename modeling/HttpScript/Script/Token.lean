import HttpScript.Script.Keyword

/-!
# Tokens

A text is cut into words, numbers, brace blobs and single characters that fit nothing, with blanks
between them left out. A brace blob runs from an opening brace to the closing brace that balances
it, whatever stands in between.
-/
namespace HttpScript

inductive TokenKind where
  | endOfInput
  | illegal
  | word
  | number
  | braces
  | keyword (k : Keyword)
  deriving Repr, DecidableEq

/-- A token, the line it starts on, and the offsets of its first character and of the character
after its last. -/
structure Token where
  kind : TokenKind
  literal : List Char
  line : Nat
  start : Nat
  stop : Nat
  deriving Repr, DecidableEq

/-- A brace that is never closed: where it stands, and the line on which the text ends. -/
structure UnclosedBrace where
  opened : Nat
  line : Nat
  deriving Repr, DecidableEq

def UnclosedBrace.message (e : UnclosedBrace) : String :=
  s!"expected \x60\x7d\x60 before end of input (opened on line {e.opened})"

/-- A place in a text: what is left of it, the line reached, and the offset. -/
structure Cursor where
  rest : List Char
  line : Nat
  offset : Nat
  deriving Repr, DecidableEq

namespace Cursor

def ofText (text : List Char) : Cursor := ⟨text, 1, 0⟩

/-- Move over `taken`, which `rest` follows. -/
def advance (c : Cursor) (taken rest : List Char) : Cursor :=
  ⟨rest, c.line + taken.count '\n', c.offset + taken.length⟩

end Cursor

/-- The characters that separate tokens. -/
def isSeparator (c : Char) : Bool := c == ' ' || c == '\t' || c == '\n' || c == '\r'

/-- The characters that words and numbers are made of. -/
def isWordChar (c : Char) : Bool :=
  c.isAlphanum || ";/?:@&=+$,#-_.!~*'()[]\"".toList.contains c

/-- Digits with an optional minus before and an optional fraction after. -/
def isNumber (word : List Char) : Bool :=
  let unsigned := match word with
    | '-' :: t => t
    | t => t
  match unsigned.span Char.isDigit with
  | (whole, []) => !whole.isEmpty
  | (whole, '.' :: fraction) => !whole.isEmpty && !fraction.isEmpty && fraction.all Char.isDigit
  | _ => false

def wordKind (word : List Char) : TokenKind :=
  if isNumber word then .number
  else match Keyword.ofWord? word with
    | some k => .keyword k
    | none => .word

/-- The characters up to the brace that closes the innermost of `depth + 1` open braces and all
around it, and what follows. -/
def closeBraces (depth : Nat) : List Char → Option (List Char × List Char)
  | [] => none
  | c :: s =>
    if c == '\x7d' then
      match depth with
      | 0 => some ([c], s)
      | d + 1 => (closeBraces d s).map fun (blob, rest) => (c :: blob, rest)
    else
      (closeBraces (if c == '\x7b' then depth + 1 else depth) s).map
        fun (blob, rest) => (c :: blob, rest)

namespace Cursor

/-- Move to the next character that is no separator. -/
def skip (c : Cursor) : Cursor :=
  c.advance (c.rest.takeWhile isSeparator) (c.rest.dropWhile isSeparator)

/-- The token made of `literal`, which `rest` follows. -/
def token (c : Cursor) (kind : TokenKind) (literal rest : List Char) : Token × Cursor :=
  (⟨kind, literal, c.line, c.offset, c.offset + literal.length⟩, c.advance literal rest)

/-- The token at a place that is no separator, and the place after it. -/
def tokenHere (c : Cursor) : Except UnclosedBrace Token × Cursor :=
  match c.rest with
  | [] => (.ok ⟨.endOfInput, [], c.line, c.offset, c.offset⟩, c)
  | '\x7b' :: s =>
    match closeBraces 0 s with
    | some (blob, rest) =>
      let (t, after) := c.token .braces ('\x7b' :: blob) rest
      (.ok t, after)
    | none =>
      let after := c.advance ('\x7b' :: s) []
      (.error ⟨c.line, after.line⟩, after)
  | a :: s =>
    if isWordChar a then
      let word := (a :: s).takeWhile isWordChar
      let (t, after) := c.token (wordKind word) word ((a :: s).dropWhile isWordChar)
      (.ok t, after)
    else
      let (t, after) := c.token .illegal [a] s
      (.ok t, after)

/-- The next token, and the place after it. At the end of the text the place stays. -/
def next (c : Cursor) : Except UnclosedBrace Token × Cursor := c.skip.tokenHere

end Cursor

theorem length_closeBraces {depth : Nat} {s blob rest : List Char}
    (h : closeBraces depth s = some (blob, rest)) : rest.length < s.length := by
  induction s generalizing depth blob rest with
  | nil => simp [closeBraces] at h
  | cons c s ih =>
    unfold closeBraces at h
    split at h
    · split at h
      · cases h; simp
      · obtain ⟨⟨b, r⟩, hb, he⟩ := Option.map_eq_some_iff.1 h
        cases he
        exact Nat.lt_succ_of_lt (ih hb)
    · obtain ⟨⟨b, r⟩, hb, he⟩ := Option.map_eq_some_iff.1 h
      cases he
      exact Nat.lt_succ_of_lt (ih hb)

namespace Cursor

theorem length_tokenHere {c : Cursor} {t : Token} (h : c.tokenHere.1 = .ok t)
    (hk : t.kind ≠ .endOfInput) : c.tokenHere.2.rest.length < c.rest.length := by
  unfold tokenHere at h ⊢
  split at h
  · cases h; exact absurd rfl hk
  · rename_i s hs
    rw [hs]
    cases hb : closeBraces 0 s with
    | none => simp [hb] at h
    | some p =>
      obtain ⟨blob, rest⟩ := p
      have := length_closeBraces hb
      simp only [token, advance, List.length_cons]
      omega
  · rename_i a s _ hs
    rw [hs]
    simp only [token, advance]
    split
    · rename_i ha
      have := (List.dropWhile_suffix (l := s) isWordChar).length_le
      simp only [List.dropWhile_cons, ha, ↓reduceIte, List.length_cons]
      omega
    · simp

theorem length_next {c : Cursor} {t : Token} (h : c.next.1 = .ok t) (hk : t.kind ≠ .endOfInput) :
    c.next.2.rest.length < c.rest.length :=
  Nat.lt_of_lt_of_le (length_tokenHere h hk) (List.dropWhile_suffix isSeparator).length_le

/-- The tokens from a place on: up to the end of the text, which is the last of them, or up to a
brace that is never closed. -/
def tokens (c : Cursor) : List Token × Option UnclosedBrace :=
  match _h : c.next.1 with
  | .error e => ([], some e)
  | .ok t =>
    if _hk : t.kind = .endOfInput then ([t], none)
    else
      let (ts, e) := c.next.2.tokens
      (t :: ts, e)
termination_by c.rest.length
decreasing_by exact length_next _h _hk

/-- The next `n` tokens, asked for one by one, whatever comes. -/
def nextMany (c : Cursor) : Nat → List (Except UnclosedBrace Token)
  | 0 => []
  | n + 1 => c.next.1 :: c.next.2.nextMany n

end Cursor

/-- All tokens of a text. -/
def tokenize (text : List Char) : List Token × Option UnclosedBrace :=
  (Cursor.ofText text).tokens

end HttpScript
