/-!
# Floating-point numbers as exact values

A finite binary64 number is a sign and a natural number times a power of two. All decisions about
its decimal text, and about whether it is a whole number, are made on these naturals.
-/
namespace HttpScript.Decimal

/-- The magnitude `m * 2 ^ q` of a finite binary64 number. -/
structure Binary where
  m : Nat
  q : Int
  /-- The gap to the value below is half the gap to the value above. -/
  narrowBelow : Bool
  deriving Repr, DecidableEq

/-- What a binary64 number stands for. -/
inductive Real64 where
  | notANumber
  | infinite (negative : Bool)
  | finite (negative : Bool) (magnitude : Binary)
  deriving Repr, DecidableEq

def Binary.ofBits (bits : UInt64) : Binary :=
  let e := ((bits >>> 52) &&& 0x7FF).toNat
  let f := (bits &&& 0xFFFFFFFFFFFFF).toNat
  if e == 0 then ⟨f, -1074, false⟩ else ⟨0x10000000000000 + f, (e : Int) - 1075, f == 0 && e > 1⟩

def Real64.ofFloat (x : Float) : Real64 :=
  let bits := x.toBits
  let negative := bits >>> 63 == 1
  if (bits >>> 52) &&& 0x7FF == 0x7FF then
    if bits &&& 0xFFFFFFFFFFFFF == 0 then .infinite negative else .notANumber
  else .finite negative (.ofBits bits)

/-- The whole number `m * 2 ^ q` is, if it is one. -/
def Binary.toNat? (x : Binary) : Option Nat :=
  if 0 ≤ x.q then some (x.m * Nat.pow 2 x.q.toNat)
  else if x.m % Nat.pow 2 (-x.q).toNat == 0 then some (x.m / Nat.pow 2 (-x.q).toNat)
  else none

/-- The integer part of `m * 2 ^ q`. -/
def Binary.floor (x : Binary) : Nat :=
  if 0 ≤ x.q then x.m * Nat.pow 2 x.q.toNat else x.m / Nat.pow 2 (-x.q).toNat

/-- The integer that a number is equal to, if there is one. Both zeros are the integer 0. -/
def toInt? (x : Float) : Option Int :=
  match Real64.ofFloat x with
  | .finite negative b => b.toNat?.map fun n => if negative then -n else n
  | _ => none

/-- The integer part of a finite number, towards zero. -/
def truncate? (x : Float) : Option Int :=
  match Real64.ofFloat x with
  | .finite negative b => some (if negative then -b.floor else b.floor)
  | _ => none

def isFinite (x : Float) : Bool :=
  match Real64.ofFloat x with
  | .finite _ _ => true
  | _ => false

/-- The number nearest to `digits * 10 ^ exponent`. Values beyond the largest finite number become
infinite, values below half the least one become zero. -/
def nearest (negative : Bool) (digits : Nat) (exponent : Int) : Float :=
  let x : Float :=
    if digits == 0 then 0.0
    else
      let leading := (Nat.toDigits 10 digits).length + exponent
      if leading > 400 then 1.0 / 0.0
      else if leading < -400 then 0.0
      else Float.ofScientific digits (exponent < 0) exponent.natAbs
  if negative then -x else x

/-- The number nearest to an integer, or `none` if that lies beyond the finite numbers. -/
def ofInt? (n : Int) : Option Float :=
  let x := nearest (n < 0) n.natAbs 0
  if isFinite x then some x else none

end HttpScript.Decimal
