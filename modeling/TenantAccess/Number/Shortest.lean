import TenantAccess.Number.Digit

/-! # Shortest decimals

A finite double stands for every real number that rounds to it. The shortest decimal of
the double is the one with the fewest digits in that interval, and the nearest to the
double among those; a tie goes to the even digit.

Doubles are read as `m · 2 ^ q`, and all comparisons are made between natural numbers.
-/

namespace TenantAccess.Number

/-- A finite positive double, `mantissa * 2 ^ exponent`. -/
structure Binary where
  mantissa : Nat
  exponent : Int
  deriving Repr, DecidableEq

/-- A decimal, `digits * 10 ^ exponent`. -/
structure Decimal where
  digits : Nat
  exponent : Int
  deriving Repr, DecidableEq

/-- What a double is, apart from its sign. -/
inductive Magnitude where
  | notANumber
  | infinite
  | zero
  | finite (b : Binary)
  deriving Repr, DecidableEq

def signBit (x : Float) : Bool := x.toBits.toNat / twoTo 63 == 1

def magnitude (x : Float) : Magnitude :=
  let bits : Nat := x.toBits.toNat % twoTo 63
  let fraction : Nat := bits % twoTo 52
  let biased : Nat := bits / twoTo 52
  if biased = 2047 then (if fraction = 0 then .infinite else .notANumber)
  else if biased = 0 then
    (if fraction = 0 then .zero else .finite ⟨fraction, -1074⟩)
  else .finite ⟨fraction + twoTo 52, (biased : Int) - 1075⟩

namespace Binary

/-- Numerator of four times the value; the factor leaves room for half units. -/
def numerator (b : Binary) : Nat := 4 * b.mantissa * twoTo b.exponent.toNat

/-- Denominator that belongs to `numerator`. -/
def denominator (b : Binary) : Nat := 4 * twoTo (-b.exponent).toNat

/-- Half the gap to the next double, over `denominator`. -/
def halfUp (b : Binary) : Nat := 2 * twoTo b.exponent.toNat

/-- Half the gap to the previous double, over `denominator`; smaller at a power of two. -/
def halfDown (b : Binary) : Nat :=
  if b.mantissa = twoTo 52 && b.exponent > -1074 then twoTo b.exponent.toNat
  else 2 * twoTo b.exponent.toNat

/-- Whether a decimal rounds to this double. -/
def contains (b : Binary) (d : Decimal) : Bool :=
  let up := tenTo d.exponent.toNat
  let down := tenTo (-d.exponent).toNat
  let candidate := d.digits * up * b.denominator
  let low := (b.numerator - b.halfDown) * down
  let high := (b.numerator + b.halfUp) * down
  if b.mantissa % 2 = 0 then low ≤ candidate && candidate ≤ high
  else low < candidate && candidate < high

/-- The largest grid point of `10 ^ exponent` that is not above the value. -/
def gridFloor (b : Binary) (exponent : Int) : Nat :=
  b.numerator * tenTo (-exponent).toNat / (b.denominator * tenTo exponent.toNat)

/-- Twice the distance from a grid point to the value, as a comparison with the next one. -/
def compareToMiddle (b : Binary) (exponent : Int) (floor : Nat) : Ordering :=
  compare (2 * b.numerator * tenTo (-exponent).toNat)
    ((2 * floor + 1) * b.denominator * tenTo exponent.toNat)

/-- Of the two grid points around the value, the nearest that rounds to the double. -/
def onGrid? (b : Binary) (exponent : Int) : Option Decimal :=
  let floor := b.gridFloor exponent
  let below : Decimal := ⟨floor, exponent⟩
  let above : Decimal := ⟨floor + 1, exponent⟩
  match b.contains below, b.contains above with
  | true, true =>
    match b.compareToMiddle exponent floor with
    | .lt => some below
    | .gt => some above
    | .eq => some (if floor % 2 = 0 then below else above)
  | true, false => some below
  | false, true => some above
  | false, false => none

/-- The exponent of the leading decimal digit, searched downwards for values below one. -/
def leadingBelowOne (b : Binary) : Nat → Nat → Int
  | 0, k => -(k : Int)
  | fuel + 1, k =>
    if b.denominator ≤ b.numerator * tenTo k then -(k : Int) else leadingBelowOne b fuel (k + 1)

def leadingExponent (b : Binary) : Int :=
  let whole := b.numerator / b.denominator
  if whole = 0 then b.leadingBelowOne 330 1 else ((Nat.toDigits 10 whole).length : Int) - 1

/-- Try one digit more at a time, at most seventeen in all. -/
def searchFrom (b : Binary) (exponent : Int) : Nat → Option Decimal
  | 0 => b.onGrid? exponent
  | more + 1 =>
    match b.onGrid? exponent with
    | some d => some d
    | none => b.searchFrom (exponent - 1) more

end Binary

/-- Move trailing zeros of the digits into the exponent. -/
def Decimal.trimZeros (d : Decimal) : Decimal := go 800 d
where
  go : Nat → Decimal → Decimal
    | 0, d => d
    | fuel + 1, d =>
      if d.digits ≠ 0 && d.digits % 10 = 0 then go fuel ⟨d.digits / 10, d.exponent + 1⟩ else d

/-- The shortest decimal of a finite positive double. -/
def shortest (b : Binary) : Decimal :=
  let first := b.leadingExponent
  ((b.searchFrom first 17).getD ⟨b.gridFloor (first - 16), first - 16⟩).trimZeros

end TenantAccess.Number
