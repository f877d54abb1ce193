/-!
# Blanks and trimming

The characters that count as white space between words, and the text functions built on them.
The set is Unicode's white space together with the four information separators U+001C to U+001F.
-/
namespace HttpScript.Text

/-- White space: the tabulators and line breaks, the separators, and the Unicode spaces. -/
def isBlank (c : Char) : Bool :=
  let n := c.toNat
  (0x09 ≤ n && n ≤ 0x0D) || (0x1C ≤ n && n ≤ 0x20) || n == 0x85 || n == 0xA0 || n == 0x1680 ||
    (0x2000 ≤ n && n ≤ 0x200A) || n == 0x2028 || n == 0x2029 || n == 0x202F || n == 0x205F ||
    n == 0x3000

theorem isBlank_of_isWhitespace {c : Char} (h : c.isWhitespace = true) : isBlank c = true := by
  simp [Char.isWhitespace] at h
  rcases h with ((h | h) | h) | h <;> subst h <;> decide

/-- Drop what satisfies `p` from the end. -/
def dropRightWhile (p : Char → Bool) (s : List Char) : List Char :=
  (s.reverse.dropWhile p).reverse

/-- Drop the blanks at both ends. -/
def trim (s : List Char) : List Char :=
  dropRightWhile isBlank (s.dropWhile isBlank)

/-- The part before the first space, and the part after it when there is a space. -/
def splitAtSpace (s : List Char) : List Char × Option (List Char) :=
  match s.span (· != ' ') with
  | (head, []) => (head, none)
  | (head, _ :: tail) => (head, some tail)

/-- Cut at every occurrence of `sep`; a text without one is a single piece. -/
def splitOn (sep : Char) : List Char → List (List Char)
  | [] => [[]]
  | c :: s =>
    if c == sep then [] :: splitOn sep s
    else match splitOn sep s with
      | [] => [[c]]
      | piece :: pieces => (c :: piece) :: pieces

/-- Write every kind of line end as a line feed. -/
def unifyLineEnds : List Char → List Char
  | [] => []
  | '\r' :: '\n' :: s => '\n' :: unifyLineEnds s
  | c :: s => (if c == '\r' then '\n' else c) :: unifyLineEnds s

/-- The offset of the first occurrence of `part` in `s`. -/
def find? (part : List Char) : List Char → Option Nat
  | [] => if part.isEmpty then some 0 else none
  | c :: s => if part.isPrefixOf (c :: s) then some 0 else (find? part s).map (· + 1)

end HttpScript.Text
