import TenantAccess.Number.Digit
import TenantAccess.Text.Blank

/-! # Number literals

Two grammars for numbers written as text. The generous one trims blanks, accepts the
digits of every script and a single underscore between two digits. The plain one accepts
ASCII digits; its underscores are dropped when none leads, trails or is doubled. Neither reads
integers of more than a few thousand digits.
-/

namespace TenantAccess.Number

open TenantAccess.Text

/-- Blank around a number: every blank character but the separator controls. -/
def isNumberBlank (c : Char) : Bool := isBlank c && !(0x1c ≤ c.toNat && c.toNat ≤ 0x1f)

def trimNumber (text : String) : List Char :=
  (((text.toList.dropWhile isNumberBlank).reverse).dropWhile isNumberBlank).reverse

/-- Read digits that single underscores may separate; the text may not be empty. -/
def digitGroups? : List Char → Option (List Nat)
  | [] => none
  | [c] => (digitValue? c).map ([·])
  | c :: '_' :: rest => do
    let d ← digitValue? c
    let ds ← digitGroups? rest
    return d :: ds
  | c :: rest => do
    let d ← digitValue? c
    let ds ← digitGroups? rest
    return d :: ds

def ofDigits (digits : List Nat) : Nat := digits.foldl (fun n d => 10 * n + d) 0

/-- Split off a leading sign; `true` means negative. -/
def splitSign : List Char → Bool × List Char
  | '-' :: rest => (true, rest)
  | '+' :: rest => (false, rest)
  | cs => (false, cs)

def withSign (negative : Bool) (n : Nat) : Int := if negative then -(n : Int) else n

/-- The greatest number of digits of an integer that is read. -/
def mostDigits : Nat := 4300

/-- Why a text is not read as an integer. -/
inductive IntegerFlaw where
  | malformed
  | overlong (digits : Nat)
  deriving Repr, DecidableEq

/-- The digits at the front, which single underscores may separate. -/
def leadingDigits? (cs : List Char) : Option (List Nat) :=
  digitGroups? (cs.takeWhile fun c => (digitValue? c).isSome || c = '_')

/-- Read an integer in the generous grammar. Too many digits are noticed before what follows
them. -/
def generousInt (text : String) : Except IntegerFlaw Int :=
  let (negative, body) := splitSign (trimNumber text)
  match leadingDigits? body with
  | none => .error .malformed
  | some digits =>
    if mostDigits < digits.length then .error (.overlong digits.length)
    else if body.all fun c => (digitValue? c).isSome || c = '_' then
      .ok (withSign negative (ofDigits digits))
    else .error .malformed

/-- The double nearest to `digits * 10 ^ exponent`; far exponents are settled by size. -/
def scaled (digits : List Nat) (exponent : Int) : Float :=
  let digits := digits.dropWhile (· = 0)
  let size := (digits.length : Int) + exponent
  if digits.isEmpty || size < -400 then 0.0
  else if size > 400 then 1.0 / 0.0
  else if exponent ≥ 0 then Float.ofScientific (ofDigits digits * tenTo exponent.toNat) false 0
  else Float.ofScientific (ofDigits digits) true (-exponent).toNat

def signed (negative : Bool) (x : Float) : Float := if negative then -x else x

/-- The texts of numbers that have no digits. -/
def namedFloat? (body : List Char) : Option Float :=
  match String.ofList (body.map Char.toLower) with
  | "inf" => some (1.0 / 0.0)
  | "infinity" => some (1.0 / 0.0)
  | "nan" => some (0.0 / 0.0)
  | _ => none

/-- Split at the first character that passes a test, which is dropped. -/
def splitAtFirst (test : Char → Bool) (cs : List Char) : List Char × Option (List Char) :=
  let (before, rest) := cs.span (!test ·)
  (before, rest.tail?)

/-- Read an unsigned decimal with the given reader of digit runs. -/
def decimalWith? (digits? : List Char → Option (List Nat)) (body : List Char) : Option Float := do
  let (mantissa, exponentPart) := splitAtFirst (fun c => c = 'e' || c = 'E') body
  let exponent ← match exponentPart with
    | none => some 0
    | some cs =>
      let (negative, run) := splitSign cs
      (digits? run).map fun ds => withSign negative (ofDigits ds)
  let (whole, fraction) := splitAtFirst (· = '.') mantissa
  let part (cs : List Char) : Option (List Nat) := if cs.isEmpty then some [] else digits? cs
  let wholeDigits ← part whole
  let fractionDigits ← part (fraction.getD [])
  if wholeDigits.isEmpty && fractionDigits.isEmpty then none
  else some (scaled (wholeDigits ++ fractionDigits) (exponent - fractionDigits.length))

/-- Read a double with the given reader of digit runs. -/
def floatWith? (digits? : List Char → Option (List Nat)) (cs : List Char) : Option Float :=
  let (negative, body) := splitSign cs
  match namedFloat? body with
  | some x => some (signed negative x)
  | none => (decimalWith? digits? body).map (signed negative)

/-- Read a double in the generous grammar. -/
def generousFloat? (text : String) : Option Float :=
  floatWith? digitGroups? (trimNumber text)

/-- Digits of ASCII, none of them missing. -/
def plainDigits? (cs : List Char) : Option (List Nat) :=
  if cs.isEmpty then none
  else cs.mapM fun c => if c.isDigit then some (c.toNat - 48) else none

def hasDoubledUnderscore : List Char → Bool
  | '_' :: '_' :: _ => true
  | _ :: rest => hasDoubledUnderscore rest
  | [] => false

/-- Drop underscores, unless one leads, trails or is doubled. -/
def dropUnderscores? (cs : List Char) : Option (List Char) :=
  if cs.head? = some '_' || cs.getLast? = some '_' || hasDoubledUnderscore cs then none
  else some (cs.filter (· ≠ '_'))

/-- Read a double in the plain grammar. Blanks may be around it or underscores inside it, not
both. -/
def plainFloat? (text : String) : Option Float :=
  match floatWith? plainDigits? (trimNumber text) with
  | some x => some x
  | none => (dropUnderscores? text.toList).bind (floatWith? plainDigits?)

/-- Read an integer that has no blanks, no underscores and no needless zeros. -/
def strictInt? (cs : List Char) : Option Int :=
  let (negative, body) := match cs with
    | '-' :: rest => (true, rest)
    | _ => (false, cs)
  if body.length > 1 && body.head? = some '0' || mostDigits < body.length then none
  else (plainDigits? body).map fun digits => withSign negative (ofDigits digits)

/-- The number of digits at the front, if the first is not zero. -/
def leadingLength (cs : List Char) : Nat :=
  let body := match cs with
    | '-' :: rest => rest
    | _ => cs
  if body.head? = some '0' then 0 else (body.takeWhile Char.isDigit).length

/-- Whether a character may begin a number without needless zeros. -/
def beginsNumber (c : Char) : Bool := ('1' ≤ c && c ≤ '9') || c = '-'

/-- Drop zeros and underscores that follow a zero, up to where a number begins. Where none does,
the last of them stays, and so it does in front of a point. -/
def afterZeros? (last : Char) : List Char → Option (List Char)
  | [] => some [last]
  | c :: rest =>
    if c = '0' || c = '_' then afterZeros? c rest
    else if beginsNumber c then some (c :: rest)
    else if c = '.' then some (last :: c :: rest)
    else none

/-- Drop needless zeros at the front. -/
def dropLeadingZeros? : List Char → Option (List Char)
  | [] => none
  | c :: rest =>
    if c = '0' then afterZeros? c rest
    else if beginsNumber c then some (c :: rest)
    else none

/-- Drop a plus sign at the front; a minus sign may not follow it. -/
def dropPlus? : List Char → Option (List Char)
  | '+' :: '-' :: _ => none
  | '+' :: rest => some rest
  | cs => some cs

/-- Drop a point followed by zeros only, of which there is at least one. -/
def dropZeroFraction (cs : List Char) : List Char :=
  match splitAtFirst (· = '.') cs with
  | (whole, some (c :: fraction)) => if (c :: fraction).all (· = '0') then whole else cs
  | _ => cs

/-- Drop what is needless in an integer. The sign is set apart; then needless zeros, a fraction
of zeros and underscores are dropped, in this order. -/
def cleanedInt? (cs : List Char) : Option (List Char) := do
  let body ← dropPlus? cs
  let (negative, body) := match body with
    | '-' :: rest => (true, rest)
    | body => (false, body)
  let digits ← dropUnderscores? (dropZeroFraction (← dropLeadingZeros? body))
  return if negative then '-' :: digits else digits

/-- Read an integer in the plain grammar, as it stands or with what is needless dropped. -/
def plainInt (text : String) : Except IntegerFlaw Int :=
  if mostDigits < leadingLength text.toList then .error (.overlong (leadingLength text.toList))
  else
    match (strictInt? text.toList).or ((cleanedInt? (trimNumber text)).bind strictInt?) with
    | some n => .ok n
    | none => .error .malformed

end TenantAccess.Number
