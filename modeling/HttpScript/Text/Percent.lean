import HttpScript.Text.Utf8

/-!
# Percent encoding

A byte as a percent sign with two hexadecimal digits.
-/
namespace HttpScript.Text.Percent

def hexDigit (n : Nat) : Char := Char.ofNat (if n < 10 then 48 + n else 55 + n)

def hexValue? (c : Char) : Option Nat :=
  if c.isDigit then some (c.toNat - 48)
  else if 'a' ≤ c && c ≤ 'f' then some (c.toNat - 87)
  else if 'A' ≤ c && c ≤ 'F' then some (c.toNat - 55)
  else none

theorem hexValue?_hexDigit : ∀ n < 16, hexValue? (hexDigit n) = some n := by decide

def escapeByte (b : UInt8) : List Char :=
  ['%', hexDigit (b.toNat / 16), hexDigit (b.toNat % 16)]

def escapeChar (c : Char) : List Char := (String.utf8EncodeChar c).flatMap escapeByte

/-- Escape the characters that are not kept. -/
def escape (keep : Char → Bool) (s : List Char) : List Char :=
  s.flatMap fun c => if keep c then [c] else escapeChar c

/-- The byte of an escape after its percent sign. -/
def escaped? : List Char → Option (UInt8 × List Char)
  | a :: b :: s => do
    let high ← hexValue? a
    let low ← hexValue? b
    return ((16 * high + low).toUInt8, s)
  | _ => none

/-- Every percent sign begins an escape. -/
def isEscaped : List Char → Bool
  | [] => true
  | c :: s => (c != '%' || (escaped? s).isSome) && isEscaped s

/-- Letters of escapes in upper case. -/
def upperEscapes : List Char → List Char
  | '%' :: a :: b :: s =>
    if (hexValue? a).isSome && (hexValue? b).isSome then '%' :: a.toUpper :: b.toUpper :: upperEscapes s
    else '%' :: upperEscapes (a :: b :: s)
  | c :: s => c :: upperEscapes s
  | [] => []

/-- Letters, digits and the four marks that never need an escape. -/
def isUnreserved (c : Char) : Bool := c.isAlphanum || c == '.' || c == '_' || c == '-' || c == '~'

/-- Put unreserved characters in the place of their escapes; nothing if there is a broken escape of
two letters or digits. -/
def revealUnreserved : List Char → Option (List Char)
  | '%' :: a :: b :: s =>
    if a.isAlphanum && b.isAlphanum then
      match escaped? [a, b] with
      | none => none
      | some (byte, _) =>
        let c := Char.ofNat byte.toNat
        (revealUnreserved s).map fun s => if isUnreserved c then c :: s else '%' :: a :: b :: s
    else (revealUnreserved (a :: b :: s)).map ('%' :: ·)
  | c :: s => (revealUnreserved s).map (c :: ·)
  | [] => some []

/-- The bytes of a text in which escapes stand for bytes. -/
def bytes : List Char → List UInt8
  | '%' :: a :: b :: s =>
    match escaped? [a, b] with
    | some (byte, _) => byte :: bytes s
    | none => 37 :: bytes (a :: b :: s)
  | c :: s => String.utf8EncodeChar c ++ bytes s
  | [] => []

/-- Resolve all escapes. -/
def unescape (s : List Char) : List Char := Utf8.decodeLossy (bytes s)

end HttpScript.Text.Percent
