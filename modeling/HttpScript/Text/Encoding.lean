import HttpScript.Text.Case
import HttpScript.Text.Utf8

/-!
# Character encodings

The encodings that a server may name. Bytes that mean nothing become U+FFFD, and an encoding that is
not known is read as UTF-8.
-/
namespace HttpScript.Text

inductive Encoding where
  | utf8
  | utf8Marked
  | latin1
  | ascii
  | utf16 (bigEndian : Option Bool)
  deriving Repr, DecidableEq

namespace Encoding

def names : List (String × Encoding) := [
  ("utf_8", .utf8), ("utf8", .utf8), ("u8", .utf8), ("utf", .utf8), ("cp65001", .utf8),
  ("utf_8_sig", .utf8Marked),
  ("latin_1", .latin1), ("latin1", .latin1), ("latin", .latin1), ("l1", .latin1),
  ("iso_8859_1", .latin1), ("iso8859_1", .latin1), ("iso8859", .latin1), ("8859", .latin1),
  ("cp819", .latin1),
  ("ascii", .ascii), ("us_ascii", .ascii), ("646", .ascii),
  ("utf_16", .utf16 none), ("utf16", .utf16 none), ("u16", .utf16 none),
  ("utf_16_le", .utf16 (some false)), ("utf_16le", .utf16 (some false)),
  ("utf_16_be", .utf16 (some true)), ("utf_16be", .utf16 (some true))]

/-- The encoding with a name. Letter case does not matter, nor does the kind of mark between words. -/
def ofName (name : String) : Encoding :=
  let plain := String.ofList ((lower name.toList).map fun c => if c == '-' || c == ' ' then '_' else c)
  ((names.find? (·.1 == plain)).map (·.2)).getD .utf8

def pairUp (bigEndian : Bool) : List UInt8 → List (Option Nat)
  | a :: b :: s =>
    some (if bigEndian then 256 * a.toNat + b.toNat else 256 * b.toNat + a.toNat) ::
      pairUp bigEndian s
  | [_] => [none]
  | [] => []

/-- The characters of sixteen-bit units. -/
def ofUnits : List (Option Nat) → List Char
  | some a :: some b :: s =>
    if 0xD800 ≤ a && a < 0xDC00 && 0xDC00 ≤ b && b < 0xE000 then
      Char.ofNat (0x10000 + (a - 0xD800) * 0x400 + (b - 0xDC00)) :: ofUnits s
    else unit a :: ofUnits (some b :: s)
  | some a :: s => unit a :: ofUnits s
  | none :: s => '\uFFFD' :: ofUnits s
  | [] => []
where
  unit (n : Nat) : Char := if 0xD800 ≤ n && n < 0xE000 then '\uFFFD' else Char.ofNat n

/-- A byte order mark decides the order of bytes that is not given. -/
def decodeUtf16 (bigEndian : Option Bool) (bytes : List UInt8) : List Char :=
  match bigEndian, bytes with
  | some order, bytes => ofUnits (pairUp order bytes)
  | none, 0xFF :: 0xFE :: bytes => ofUnits (pairUp false bytes)
  | none, 0xFE :: 0xFF :: bytes => ofUnits (pairUp true bytes)
  | none, bytes => ofUnits (pairUp false bytes)

/-- The text of bytes. -/
def decode : Encoding → List UInt8 → List Char
  | .utf8, bytes => Utf8.decodeLossy bytes
  | .utf8Marked, bytes =>
    match bytes with
    | 0xEF :: 0xBB :: 0xBF :: rest => Utf8.decodeLossy rest
    | bytes => Utf8.decodeLossy bytes
  | .latin1, bytes => bytes.map fun b => Char.ofNat b.toNat
  | .ascii, bytes => bytes.map fun b => if b < 0x80 then Char.ofNat b.toNat else '\uFFFD'
  | .utf16 order, bytes => decodeUtf16 order bytes

end Encoding

end HttpScript.Text
