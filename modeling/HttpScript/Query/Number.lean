import HttpScript.Decimal.Layout

/-!
# Numbers of a query

A number that was written down keeps its decimal digits until something is computed with it; every
other number is a floating-point number. So a number that a query only passes on is written as it
was, and two written numbers are compared exactly.
-/
namespace HttpScript.Query

inductive Number where
  /-- The number `digits * 10 ^ exponent` as it was written. -/
  | written (negative : Bool) (digits : Nat) (exponent : Int)
  | computed (x : Float)
  deriving Repr

namespace Number

def ofInt (n : Int) : Number := .written (n < 0) n.natAbs 0

def ofNat (n : Nat) : Number := .written false n 0

/-- The digits that a computation takes over from a written number. -/
def workingDigits : Nat := 17

/-- Round `digits * 10 ^ exponent` to so many digits, a half away from zero. -/
def roundDigits (count digits : Nat) (exponent : Int) : Nat × Int :=
  let extra := (Nat.toDigits 10 digits).length - count
  let unit := Nat.pow 10 extra
  ((digits + unit / 2) / unit, exponent + extra)

def toFloat : Number → Float
  | .written negative digits exponent =>
    let (digits, exponent) := roundDigits workingDigits digits exponent
    Decimal.nearest negative digits exponent
  | .computed x => x

def isNaN (n : Number) : Bool := n.toFloat.isNaN

/-- Computed numbers: positional up to fifteen places beyond the digits, without a fraction when it
is zero. What JSON cannot express is written as null or as the largest number. -/
def computedLayout : Decimal.Layout where
  positional count point := -4 < point && point ≤ count + 15
  pointZero := false
  notANumber := "null"
  infinity := "1.7976931348623157e+308"
  negativeInfinity := "-1.7976931348623157e+308"

/-- The exponent of a written number, with its sign. -/
def exponentText (e : Int) : List Char :=
  (if e < 0 then '-' else '+') :: Nat.toDigits 10 e.natAbs

/-- A written number is positional unless it has a positive exponent or more than five zeros after
the point. -/
def writtenText (digits : List Char) (exponent : Int) : List Char :=
  let point : Int := digits.length + exponent
  if exponent ≤ 0 && -6 < point then
    if exponent == 0 then digits
    else if 0 < point then digits.take point.toNat ++ '.' :: digits.drop point.toNat
    else '0' :: '.' :: (Decimal.zeros (-point).toNat ++ digits)
  else
    match digits with
    | [] => []
    | [d] => d :: 'E' :: exponentText (point - 1)
    | d :: rest => d :: '.' :: (rest ++ 'E' :: exponentText (point - 1))

def text : Number → String
  | .written negative digits exponent =>
    let s := writtenText (Nat.toDigits 10 digits) exponent
    .ofList (if negative then '-' :: s else s)
  | .computed x => computedLayout.write x

def neg : Number → Number
  | .written negative digits exponent => .written (!negative) digits exponent
  | .computed x => .computed (-x)

def abs : Number → Number
  | .written _ digits exponent => .written false digits exponent
  | .computed x => .computed x.abs

/-- Compare two magnitudes. The places of their first digits decide unless they are the same, and
then the exponents differ by less than the numbers of digits. -/
def compareMagnitudes (a : Nat) (i : Int) (b : Nat) (j : Int) : Ordering :=
  if a == 0 || b == 0 then compare a b
  else
    let first := (Nat.toDigits 10 a).length + i
    let second := (Nat.toDigits 10 b).length + j
    (compare first second).then
      (compare (a * Nat.pow 10 (i - j).toNat) (b * Nat.pow 10 (j - i).toNat))

/-- The order of two numbers other than NaN. -/
def compareNumbers : Number → Number → Ordering
  | .written s a i, .written t b j =>
    match s && a != 0, t && b != 0 with
    | false, false => compareMagnitudes a i b j
    | true, true => compareMagnitudes b j a i
    | true, false => .lt
    | false, true => .gt
  | a, b =>
    let x := a.toFloat
    let y := b.toFloat
    if x < y then .lt else if x == y then .eq else .gt

/-- An optional sign. -/
def signed (s : List Char) : Bool × List Char :=
  match s with
  | '-' :: rest => (true, rest)
  | '+' :: rest => (false, rest)
  | _ => (false, s)

def natOf (digits : List Char) : Nat := digits.foldl (fun n c => 10 * n + (c.toNat - 48)) 0

/-- The exponent at the end of a number: nothing, or `e` with at least one digit. -/
def exponent? (s : List Char) : Option Int :=
  match s with
  | [] => some 0
  | c :: rest =>
    let (negative, digits) := signed rest
    if (c == 'e' || c == 'E') && !digits.isEmpty && digits.all Char.isDigit then
      some (if negative then -(natOf digits : Int) else natOf digits)
    else none

/-- The number that a text is: digits with at most one point, and an exponent; or a name of a value
that has no digits. -/
def ofText? (s : List Char) : Option Number :=
  let (negative, rest) := signed s
  let lower := String.ofList (rest.map Char.toLower)
  if lower == "nan" then some (.computed (0.0 / 0.0))
  else if lower == "inf" || lower == "infinity" then
    some (.computed (if negative then -1.0 / 0.0 else 1.0 / 0.0))
  else
    let whole := rest.takeWhile Char.isDigit
    let (fraction, tail) := match rest.dropWhile Char.isDigit with
      | '.' :: more => (more.takeWhile Char.isDigit, more.dropWhile Char.isDigit)
      | other => ([], other)
    if whole.isEmpty && fraction.isEmpty then none
    else
      (exponent? tail).map fun e => .written negative (natOf (whole ++ fraction)) (e - fraction.length)

end Number

end HttpScript.Query
