import HttpScript.Decimal.Shortest

/-!
# How digits are laid out

A layout collects the decisions that remain once the digits of a number are chosen: when it is
written positionally, how the exponent is marked, and what stands for the special values.
-/
namespace HttpScript.Decimal

structure Layout where
  /-- Written positionally, given the number of digits and the place of the point among them. -/
  positional : (count : Nat) → (point : Int) → Bool
  /-- A whole number written positionally ends in `.0`. -/
  pointZero : Bool
  notANumber : String
  infinity : String
  negativeInfinity : String

def zeros (n : Nat) : List Char := List.replicate n '0'

/-- At least two digits of an exponent, after its sign. -/
def exponentText (e : Int) : List Char :=
  let digits := Nat.toDigits 10 e.natAbs
  (if e < 0 then '-' else '+') :: (zeros (2 - digits.length) ++ digits)

/-- A magnitude whose digits are `digits` and whose point stands after `point` of them. -/
def Layout.place (style : Layout) (digits : List Char) (point : Int) : List Char :=
  if style.positional digits.length point then
    if point ≤ 0 then '0' :: '.' :: (zeros (-point).toNat ++ digits)
    else if point.toNat < digits.length then
      digits.take point.toNat ++ '.' :: digits.drop point.toNat
    else
      digits ++ zeros (point.toNat - digits.length) ++ (if style.pointZero then ['.', '0'] else [])
  else
    match digits with
    | [] => []
    | [d] => d :: 'e' :: exponentText (point - 1)
    | d :: rest => d :: '.' :: (rest ++ 'e' :: exponentText (point - 1))

/-- The text of a number. -/
def Layout.write (style : Layout) (x : Float) : String :=
  match Real64.ofFloat x with
  | .notANumber => style.notANumber
  | .infinite negative => if negative then style.negativeInfinity else style.infinity
  | .finite negative b =>
    let d := b.shortest
    let digits := Nat.toDigits 10 d.digits
    let text := style.place digits (digits.length + d.exponent)
    String.ofList (if negative then '-' :: text else text)

/-- Plain numbers: positional from 0.0001 up to sixteen places before the point, and always told
apart from an integer. -/
def plain : Layout where
  positional _ point := -4 < point && point ≤ 16
  pointZero := true
  notANumber := "nan"
  infinity := "inf"
  negativeInfinity := "-inf"

end HttpScript.Decimal
