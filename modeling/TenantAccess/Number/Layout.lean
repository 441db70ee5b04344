import TenantAccess.Number.Digit
import TenantAccess.Number.Shortest

/-! # How numbers are laid out

A double is written with its shortest digits, a decimal point and at least one digit
after it; exponents are written for numbers of at least `10 ^ 16` or below `10 ^ -4`,
with a sign and two or more digits. Fixed and scientific layouts round the exact value,
a half going to the even neighbour.
-/

namespace TenantAccess.Number

open TenantAccess.Text

/-- Round a quotient to the nearest integer, a half to the even one. -/
def roundHalfEven (num den : Nat) : Nat :=
  let q := num / den
  let twice := 2 * (num % den)
  if twice < den then q else if den < twice then q + 1 else if q % 2 = 0 then q else q + 1

def signText (negative : Bool) : List Char := if negative then ['-'] else []

/-- An exponent with its sign and at least two digits. -/
def exponentText (e : Int) : List Char :=
  (if e < 0 then '-' else '+') :: padZeros 2 (digitsIn 10 e.natAbs)

/-- Digits with a point after the first `whole` of them, zeros filled in where needed. -/
def pointed (digits : List Char) (whole : Int) : List Char :=
  if whole ≤ 0 then '0' :: '.' :: (List.replicate (-whole).toNat '0' ++ digits)
  else
    let whole := whole.toNat
    if digits.length ≤ whole then
      digits ++ List.replicate (whole - digits.length) '0' ++ ['.', '0']
    else digits.take whole ++ '.' :: digits.drop whole

/-- One digit, a point and the rest, where there is a rest. -/
def mantissaText : List Char → List Char
  | [] => ['0']
  | [d] => [d]
  | d :: rest => d :: '.' :: rest

def Decimal.layout (d : Decimal) : List Char :=
  let digits := digitsIn 10 d.digits
  let whole := (digits.length : Int) + d.exponent
  if whole ≤ -4 || whole > 16 then mantissaText digits ++ 'e' :: exponentText (whole - 1)
  else pointed digits whole

def floatText (x : Float) : String :=
  match magnitude x with
  | .notANumber => "nan"
  | .infinite => String.ofList (signText (signBit x) ++ ['i', 'n', 'f'])
  | .zero => String.ofList (signText (signBit x) ++ ['0', '.', '0'])
  | .finite b => String.ofList (signText (signBit x) ++ (shortest b).layout)

/-- A natural number of units of `10 ^ -places`, written with that many places. -/
def placed (places units : Nat) : List Char :=
  let digits := padZeros (places + 1) (digitsIn 10 units)
  let whole := digits.length - places
  if places = 0 then digits else digits.take whole ++ '.' :: digits.drop whole

/-- The magnitude of a double with a fixed number of places. -/
def fixedMagnitude (places : Nat) : Magnitude → List Char
  | .notANumber => ['n', 'a', 'n']
  | .infinite => ['i', 'n', 'f']
  | .zero => placed places 0
  | .finite b => placed places (roundHalfEven (b.numerator * tenTo places) b.denominator)

/-- A double with a fixed number of places. -/
def fixedText (places : Nat) (x : Float) : String :=
  match magnitude x with
  | .notANumber => "nan"
  | m => String.ofList (signText (signBit x) ++ fixedMagnitude places m)

/-- A positive number rounded to `places + 1` significant digits: digits and exponent. -/
def significant (places : Nat) (b : Binary) : List Char × Int :=
  let lead := b.leadingExponent
  let grid := lead - places
  let units := roundHalfEven (b.numerator * tenTo (-grid).toNat)
    (b.denominator * tenTo grid.toNat)
  let digits := digitsIn 10 units
  if places + 1 < digits.length then (digits.take (places + 1), lead + 1) else (digits, lead)

/-- The magnitude of a double in scientific layout. -/
def scientificMagnitude (places : Nat) : Magnitude → List Char
  | .notANumber => ['n', 'a', 'n']
  | .infinite => ['i', 'n', 'f']
  | .zero => mantissaText (List.replicate (places + 1) '0') ++ ['e', '+', '0', '0']
  | .finite b =>
    let (digits, e) := significant places b
    mantissaText digits ++ 'e' :: exponentText e

/-- Drop zeros after the last significant place, and a point left bare. -/
def dropTrailingZeros (cs : List Char) : List Char :=
  if cs.contains '.' then
    let kept := (cs.reverse.dropWhile (· = '0')).reverse
    if kept.getLast? = some '.' then kept.dropLast else kept
  else cs

/-- The magnitude of a double in the shorter of the two layouts. -/
def generalMagnitude (precision : Nat) (keepZeros : Bool) : Magnitude → List Char
  | .notANumber => ['n', 'a', 'n']
  | .infinite => ['i', 'n', 'f']
  | .zero => if keepZeros && precision > 1 then placed (precision - 1) 0 else ['0']
  | .finite b =>
    let precision := if precision = 0 then 1 else precision
    let (digits, e) := significant (precision - 1) b
    let trimmed (cs : List Char) := if keepZeros then cs else dropTrailingZeros cs
    if e < -4 || e ≥ (precision : Int) then
      trimmed (mantissaText digits) ++ 'e' :: exponentText e
    else if e < 0 then trimmed (pointed digits (e + 1))
    else
      let whole := (e + 1).toNat
      trimmed (if whole < digits.length then digits.take whole ++ '.' :: digits.drop whole
        else digits)

end TenantAccess.Number
