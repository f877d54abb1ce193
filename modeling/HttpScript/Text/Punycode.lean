import HttpScript.Text.Case
import HttpScript.Text.Printable

/-!
# Punycode

Labels of host names in ASCII. The characters beyond ASCII are taken in the order of their code
points, and each is written as the distance from the one before, in digits whose weights adapt.
-/
namespace HttpScript.Text.Punycode

/-- The letters stand for 0 to 25, the digits for 26 to 35. -/
def digit (n : Nat) : Char := Char.ofNat (if n < 26 then 97 + n else 22 + n)

/-- The least value that does not end a number at a position. -/
def threshold (bias position : Nat) : Nat :=
  if position ≤ bias then 1 else min (position - bias) 26

theorem threshold_pos (bias position : Nat) : 0 < threshold bias position := by
  unfold threshold
  split <;> omega

/-- A number in digits of changing weights. -/
def number (bias position n : Nat) : List Char :=
  let t := threshold bias position
  if n < t then [digit n]
  else digit (t + (n - t) % (36 - t)) :: number bias (position + 36) ((n - t) / (36 - t))
termination_by n
decreasing_by
  have h := threshold_pos bias position
  have := Nat.div_le_self (n - threshold bias position) (36 - threshold bias position)
  omega

def shrink (delta position : Nat) : Nat :=
  if 455 < delta then shrink (delta / 35) (position + 36)
  else position + 36 * delta / (delta + 38)
termination_by delta
decreasing_by omega

/-- The bias after a distance. -/
def adapt (delta count : Nat) (first : Bool) : Nat :=
  let delta := if first then delta / 700 else delta / 2
  shrink (delta + delta / count) 0

/-- What has been written: how many characters, and the distance so far. -/
structure Writing where
  written : List Char
  handled : Nat
  delta : Nat
  bias : Nat

/-- Pass one character of the label while characters with the code point `n` are written. -/
def pass (basic n : Nat) (w : Writing) (c : Char) : Writing :=
  if c.toNat < n then { w with delta := w.delta + 1 }
  else if c.toNat == n then
    ⟨w.written ++ number w.bias 36 w.delta, w.handled + 1, 0,
      adapt w.delta (w.handled + 1) (w.handled == basic)⟩
  else w

/-- Write the characters with the code points of a list, all of them at least `n`. -/
def writeFrom (label : List Char) (basic n : Nat) : List Nat → Writing → Writing
  | [], w => w
  | m :: rest, w =>
    let w := label.foldl (pass basic m) { w with delta := w.delta + (m - n) * (w.handled + 1) }
    writeFrom label basic (m + 1) rest { w with delta := w.delta + 1 }

def insertOnce (n : Nat) : List Nat → List Nat
  | [] => [n]
  | m :: rest => if n < m then n :: m :: rest else if n == m then m :: rest
    else m :: insertOnce n rest

/-- A label in ASCII, without the mark that tells it from others. -/
def encode (label : List Char) : List Char :=
  let basic := label.filter (·.toNat < 0x80)
  let others := (label.filter (0x80 ≤ ·.toNat)).foldr (fun c ns => insertOnce c.toNat ns) []
  let w := writeFrom label basic.length 0x80 others ⟨[], basic.length, 0, 72⟩
  basic ++ (if basic.isEmpty then [] else ['-']) ++ w.written

/-- The mark of labels that were encoded. -/
def mark : List Char := ['x', 'n', '-', '-']

/-- Blocks of punctuation, symbols, and characters of private use. -/
def symbolRanges : List (Nat × Nat) := [
  (0x80, 0xBF), (0xD7, 0xD7), (0xF7, 0xF7), (0x2000, 0x2BFF), (0x2E00, 0x3004), (0x3007, 0x3020),
  (0xE000, 0xF8FF), (0xFE10, 0xFE6F), (0xFF00, 0xFFFF), (0x1D000, 0x1D7FF), (0x1F000, 0x1FAFF),
  (0xF0000, 0x10FFFF)]

/-- A character that a label may hold. -/
def isLabelChar (c : Char) : Bool :=
  if c.toNat < 0x80 then c.isAlphanum || c == '-'
  else isPrintable c && lowerChar c == [c] && !inRanges symbolRanges c.toNat

/-- The longest label. -/
def lengthLimit : Nat := 63

/-- A label in ASCII; one that is in ASCII already stays. -/
def label? (s : List Char) : Option (List Char) :=
  let s := lower s
  if s.all (·.toNat < 0x80) then some s
  else
    let encoded := mark ++ encode s
    let hyphens := s.head? == some '-' || s.getLast? == some '-' || (s.drop 2).take 2 == ['-', '-']
    if s.all isLabelChar && !hyphens && encoded.length ≤ lengthLimit then some encoded else none

end HttpScript.Text.Punycode
