import HttpScript.Decimal.Binary
import HttpScript.Text.Blank
import HttpScript.Text.DecimalDigit

/-!
# Reading numbers

A number may have a sign, digits of any script with single low lines between them, one point and an
exponent; infinity and the value that is not a number have names. Blanks around it do not count.
-/
namespace HttpScript.Decimal

/-- Blanks around a number. The information separators are none of them. -/
def isPadding (c : Char) : Bool := Text.isBlank c && !(0x1C ≤ c.toNat && c.toNat ≤ 0x1F)

def trimPadding (s : List Char) : List Char :=
  Text.dropRightWhile isPadding (s.dropWhile isPadding)

/-- The digit 0 to 9 with the value of a digit; other characters stay. -/
def plainDigit (c : Char) : Char :=
  match Text.digitValue? c with
  | some n => Char.ofNat (48 + n)
  | none => c

/-- Leave out the low lines, each of which must stand between two digits. -/
def joinDigits : Char → List Char → Option (List Char)
  | _, [] => some []
  | before, '_' :: c :: s =>
    if before.isDigit && c.isDigit then joinDigits '_' (c :: s) else none
  | _, ['_'] => none
  | _, c :: s => (joinDigits c s).map (c :: ·)

/-- A sign, and what follows it. -/
def splitSign : List Char → Bool × List Char
  | '-' :: s => (true, s)
  | '+' :: s => (false, s)
  | s => (false, s)

def naturalOf (digits : List Char) : Nat := digits.foldl (fun n c => 10 * n + (c.toNat - 48)) 0

/-- The exponent that the end of a number has. -/
def exponentOf? : List Char → Option Int
  | [] => some 0
  | c :: s =>
    let (negative, digits) := splitSign s
    if (c == 'e' || c == 'E') && !digits.isEmpty && digits.all Char.isDigit then
      let n : Int := naturalOf digits
      some (if negative then -n else n)
    else none

/-- Digits with at most one point among them. -/
def magnitude? (negative : Bool) (s : List Char) : Option Float := do
  let whole := s.takeWhile Char.isDigit
  let (places, rest) := match s.dropWhile Char.isDigit with
    | '.' :: s => (s.takeWhile Char.isDigit, s.dropWhile Char.isDigit)
    | s => ([], s)
  if whole.isEmpty && places.isEmpty then none
  let exponent ← exponentOf? rest
  return nearest negative (naturalOf (whole ++ places)) (exponent - places.length)

def named? (negative : Bool) (s : List Char) : Option Float :=
  let word := String.ofList (s.map Char.toLower)
  if word == "inf" || word == "infinity" then some (if negative then -1.0 / 0.0 else 1.0 / 0.0)
  else if word == "nan" then some (0.0 / 0.0)
  else none

/-- The number that a text is. -/
def ofText? (s : List Char) : Option Float := do
  let s ← joinDigits ' ' ((trimPadding s).map plainDigit)
  let (negative, s) := splitSign s
  match named? negative s with
  | some x => some x
  | none => magnitude? negative s

end HttpScript.Decimal
