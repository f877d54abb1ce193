import HttpScript.Decimal.Binary

/-!
# The fewest digits that read back

Among the decimals that round to a given binary64 number, the one with the fewest digits, and of
those the nearest. The search tests the two neighbours of the value on ever finer decimal grids, in
exact arithmetic.
-/
namespace HttpScript.Decimal

/-- The number `digits * 10 ^ exponent`. -/
structure Digits where
  digits : Nat
  exponent : Int
  deriving Repr, DecidableEq

/-- Compare `a * 10 ^ i` with `n * 2 ^ j`. -/
def compareScaled (a : Nat) (i : Int) (n : Nat) (j : Int) : Ordering :=
  compare (a * Nat.pow 10 i.toNat * Nat.pow 2 (-j).toNat)
    (n * Nat.pow 2 j.toNat * Nat.pow 10 (-i).toNat)

/-- `d` lies among the reals that round to `x`: to nearest, ties to even. -/
def Binary.readsBack (x : Binary) (d : Digits) : Bool :=
  let low := if x.narrowBelow then 4 * x.m - 1 else 4 * x.m - 2
  let high := 4 * x.m + 2
  let closed := x.m % 2 == 0
  let atLow := compareScaled d.digits d.exponent low (x.q - 2)
  let atHigh := compareScaled d.digits d.exponent high (x.q - 2)
  (atLow == .gt || (closed && atLow == .eq)) && (atHigh == .lt || (closed && atHigh == .eq))

/-- The least `k` with `x < 10 ^ k`, for `x` other than zero: an estimate from the binary length,
which falls short by at most two, corrected by exact comparison. -/
def Binary.scale (x : Binary) : Int :=
  let estimate := Int.fdiv (((x.m.log2 : Int) + x.q) * 30103) 100000
  let below (k : Int) : Bool := compareScaled 1 k x.m x.q == .gt
  if below (estimate - 1) then estimate - 1
  else if below estimate then estimate
  else if below (estimate + 1) then estimate + 1
  else estimate + 2

/-- The largest point of the grid of multiples of `10 ^ e` that is not above `x`. -/
def Binary.gridFloor (x : Binary) (e : Int) : Nat :=
  (x.m * Nat.pow 2 x.q.toNat * Nat.pow 10 (-e).toNat) /
    (Nat.pow 10 e.toNat * Nat.pow 2 (-x.q).toNat)

/-- The neighbour of `x` on the grid of multiples of `10 ^ e` that reads back; of two, the nearer,
and at equal distance the even one. -/
def Binary.onGrid? (x : Binary) (e : Int) : Option Digits :=
  let n := x.gridFloor e
  let lower : Digits := ⟨n, e⟩
  let upper : Digits := ⟨n + 1, e⟩
  match x.readsBack lower, x.readsBack upper with
  | true, true =>
    match compareScaled (2 * n + 1) e (2 * x.m) x.q with
    | .lt => some upper
    | .gt => some lower
    | .eq => some (if n % 2 == 0 then lower else upper)
  | true, false => some lower
  | false, true => some upper
  | false, false => none

/-- Move factors of ten from the digits to the exponent, at most `fuel` of them. -/
def Digits.strip : Nat → Digits → Digits
  | 0, d => d
  | fuel + 1, d =>
    if d.digits != 0 && d.digits % 10 == 0 then strip fuel ⟨d.digits / 10, d.exponent + 1⟩ else d

/-- The exact value, for the case that no short decimal was found. -/
def Binary.exact (x : Binary) : Digits :=
  if 0 ≤ x.q then ⟨x.m * Nat.pow 2 x.q.toNat, 0⟩ else ⟨x.m * Nat.pow 5 (-x.q).toNat, x.q⟩

/-- The shortest decimal that reads back as `x`, without trailing zeros. -/
def Binary.shortest (x : Binary) : Digits :=
  if x.m == 0 then ⟨0, 0⟩
  else
    let k := x.scale
    let found := (List.range 17).findSome? fun (n : Nat) => x.onGrid? (k - (n + 1))
    (found.getD x.exact).strip 400

end HttpScript.Decimal
