import HttpScript.Text.Blank

/-!
# Base64

Bytes as characters, six bits each. Reading passes over characters that mean nothing.
-/
namespace HttpScript.Text.Base64

/-- The character of a six-bit number. -/
def symbol (n : Nat) : Char :=
  if n < 26 then Char.ofNat (65 + n)
  else if n < 52 then Char.ofNat (71 + n)
  else if n < 62 then Char.ofNat (n - 4)
  else if n == 62 then '+' else '/'

/-- The six-bit number of a character. -/
def value? (c : Char) : Option Nat :=
  let n := c.toNat
  if c.isUpper then some (n - 65)
  else if c.isLower then some (n - 71)
  else if c.isDigit then some (n + 4)
  else if c == '+' then some 62
  else if c == '/' then some 63
  else none

theorem value?_symbol : ∀ n < 64, value? (symbol n) = some n := by decide

/-- The characters of bytes, filled up to a multiple of four. -/
def encode : List UInt8 → List Char
  | a :: b :: c :: rest =>
    let n := a.toNat * 0x10000 + b.toNat * 0x100 + c.toNat
    symbol (n / 0x40000) :: symbol (n / 0x1000 % 64) :: symbol (n / 64 % 64) ::
      symbol (n % 64) :: encode rest
  | [a, b] =>
    let n := a.toNat * 0x100 + b.toNat
    [symbol (n / 0x400), symbol (n / 16 % 64), symbol (n * 4 % 64), '=']
  | [a] => [symbol (a.toNat / 4), symbol (a.toNat * 16 % 64), '=', '=']
  | [] => []

/-- The bytes of the characters from here on: `taken` characters of a group of four came before,
the last of which left some bits, and `pads` padding characters followed them. Enough padding ends
the text. -/
def decodeFrom (taken bits pads : Nat) : List Char → Option (List UInt8)
  | [] => if taken == 0 then some [] else none
  | '=' :: s =>
    if taken ≥ 2 then
      if taken + pads + 1 ≥ 4 then some [] else decodeFrom taken bits (pads + 1) s
    else decodeFrom taken bits pads s
  | c :: s =>
    match value? c with
    | none => decodeFrom taken bits pads s
    | some v =>
      match taken with
      | 0 => decodeFrom 1 v 0 s
      | 1 => (decodeFrom 2 (v % 16) 0 s).map ((bits * 4 + v / 16).toUInt8 :: ·)
      | 2 => (decodeFrom 3 (v % 4) 0 s).map ((bits * 16 + v / 4).toUInt8 :: ·)
      | _ => (decodeFrom 0 0 0 s).map ((bits * 64 + v).toUInt8 :: ·)

def decode (s : List Char) : Option (List UInt8) := decodeFrom 0 0 0 s

end HttpScript.Text.Base64
