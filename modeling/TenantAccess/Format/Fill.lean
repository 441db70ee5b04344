import TenantAccess.Format.Place
import TenantAccess.Misuse
import TenantAccess.Settings.Check

/-! # Filling formats

The places of a format are filled in order, each with the next argument or, where the arguments
are one record, with the field that it names. The first flaw ends the filling, and so does an
argument that is left over.
-/

namespace TenantAccess.Format

open TenantAccess.Number TenantAccess.Text

/-- What places are filled with. -/
structure Supply where
  /-- The record whose fields places may name. A list may stand here too; it has none. -/
  record? : Option Value
  rest : List Value
  deriving Repr

namespace Supply

/-- The supply of a list of arguments: a single record that is not empty stands for its fields. -/
def ofArguments : List Value → Supply
  | [.record (field :: fields)] => ⟨some (.record (field :: fields)), [.record (field :: fields)]⟩
  | arguments => ⟨none, arguments⟩

/-- The supply of one value: a record or a list need not be used up. -/
def ofValue : Value → Supply
  | .record fields => ⟨some (.record fields), [.record fields]⟩
  | .list items => ⟨some (.list items), [.list items]⟩
  | v => ⟨none, [v]⟩

def next (s : Supply) : Except Misuse (Value × Supply) :=
  match s.rest with
  | [] => .error (.format .tooFewArguments)
  | v :: rest => .ok (v, { s with rest := rest })

/-- Turn to the field that a place names. -/
def turnTo (s : Supply) (key : Key) : Except Misuse Supply :=
  match key, s.record? with
  | .absent, _ => .ok s
  | _, none => .error (.format .recordExpected)
  | .unclosed, some _ => .error (.format .unfinishedKey)
  | .named _, some (.list _) => .error (.noFields "list")
  | .named name, some r =>
    match r.field? name with
    | some v => .ok { s with rest := [v] }
    | none => .error (.fieldMissing name)

/-- The bound on widths, or on precisions. -/
def bound (isWidth : Bool) : Nat := if isWidth then twoTo 63 else twoTo 31

def bounded (isWidth : Bool) (flaw : FormatFlaw) (n : Int) : Except Misuse (Option Int) :=
  if -(bound isWidth : Int) ≤ n ∧ n < bound isWidth then .ok (some n) else .error (.format flaw)

/-- A width or a precision, which may come from the next argument. -/
def amount (s : Supply) (isWidth : Bool) : Amount → Except Misuse (Option Int × Supply)
  | .absent => .ok (none, s)
  | .given n => do return (← bounded isWidth (.amountTooLarge isWidth) n, s)
  | .fromArgument => do
    let (v, s) ← s.next
    match v with
    | .int n => return (← bounded isWidth (.argumentTooLarge isWidth) n, s)
    | .bool b => return (some (if b then 1 else 0), s)
    | _ => .error (.format .widthExpected)

/-- Whether all arguments have been used; fields of a record need not be. -/
def isUsedUp (s : Supply) : Bool := s.record?.isSome || s.rest.isEmpty

end Supply

/-- A place with its width and precision settled. -/
structure Settled where
  isLeft : Bool
  plus : List Char
  isAlternate : Bool
  isZeroFilled : Bool
  /-- How many characters it has at least. -/
  width : Nat
  /-- How many digits or characters count. -/
  precision : Option Nat
  conversion : Char

/-- Settle the width and the precision of a place; a width below zero fills from the left. -/
def Settled.ofPlace (p : Place) (conversion : Char) (width precision : Option Int) : Settled where
  isLeft := p.flags.contains '-' || width.any (· < 0)
  plus := if p.flags.contains '+' then ['+'] else if p.flags.contains ' ' then [' '] else []
  isAlternate := p.flags.contains '#'
  isZeroFilled := p.flags.contains '0'
  width := (width.map Int.natAbs).getD 0
  precision := precision.map Int.toNat
  conversion := conversion

/-- What a place is filled with. -/
inductive Content where
  | plain (cs : List Char)
  /-- A number: whether it is negative, what stands before its digits, and the digits. -/
  | number (negative : Bool) (base digits : List Char)

namespace Settled

/-- What stands before the digits of a base. -/
def basePrefix (s : Settled) : List Char :=
  if s.isAlternate then
    match s.conversion with
    | 'o' => ['0', 'o']
    | 'x' => ['0', 'x']
    | 'X' => ['0', 'X']
    | _ => []
  else []

/-- The digits of an integer, as many as the precision asks for. -/
def wholeDigits (s : Settled) (n : Nat) : List Char :=
  let digits := match s.conversion with
    | 'o' => digitsIn 8 n
    | 'x' => digitsIn 16 n
    | 'X' => (digitsIn 16 n).map Char.toUpper
    | _ => digitsIn 10 n
  padZeros (s.precision.getD 0) digits

def whole (s : Settled) (n : Int) : Content := .number (n < 0) s.basePrefix (s.wholeDigits n.natAbs)

/-- Whether the letter asks for digits in a base other than ten. -/
def isBased (s : Settled) : Bool := "oxX".toList.contains s.conversion

def truncated (x : Float) : Except Misuse Int :=
  match magnitude x with
  | .notANumber => .error (.format .notANumber)
  | .infinite => .error (.format .infinite)
  | .zero => .ok 0
  | .finite b => .ok (withSign (signBit x) (b.numerator / b.denominator))

/-- An integer from an argument. -/
def wholeOf (s : Settled) (v : Value) : Except Misuse Content :=
  match v with
  | .int n => .ok (s.whole n)
  | .bool b => .ok (s.whole (if b then 1 else 0))
  | .float x =>
    if s.isBased then .error (.format (.wholeExpected s.conversion v.typeName))
    else (truncated x).map s.whole
  | v =>
    .error (.format (if s.isBased then .wholeExpected s.conversion v.typeName
      else .numberExpected s.conversion v.typeName))

/-- Put in a point where there is none: at the end, or before the exponent. -/
def withPoint (cs : List Char) : List Char :=
  if cs.contains '.' then cs
  else
    let isDigit (c : Char) : Bool := isDigit c
    cs.takeWhile isDigit ++ '.' :: cs.dropWhile isDigit

/-- The magnitude of a double in the layout of the letter. -/
def layout (s : Settled) (m : Magnitude) : List Char :=
  let precision := s.precision.getD 6
  let cs := match s.conversion.toLower with
    | 'e' => scientificMagnitude precision m
    | 'f' => fixedMagnitude precision m
    | _ => generalMagnitude precision s.isAlternate m
  let isFinite := match m with
    | .notANumber => false
    | .infinite => false
    | _ => true
  let cs := if s.isAlternate && isFinite then withPoint cs else cs
  if s.conversion.isUpper then cs.map Char.toUpper else cs

def real (s : Settled) (x : Float) : Content :=
  match magnitude x with
  | .notANumber => .number false [] (s.layout .notANumber)
  | m => .number (signBit x) [] (s.layout m)

/-- A double from an argument. -/
def realOf (s : Settled) (v : Value) : Except Misuse Content :=
  match v with
  | .float x => .ok (s.real x)
  | .bool b => .ok (s.real (if b then 1.0 else 0.0))
  | .int n =>
    let x := Setting.ofInteger n
    if Setting.isFinite x then .ok (s.real x) else .error (.format .tooLarge)
  | v => .error (.format (.realExpected v.typeName))

/-- A single character from an argument: itself, or by its code. -/
def characterOf (v : Value) : Except Misuse Content :=
  let ofCode (n : Int) : Except Misuse Content :=
    if 0 ≤ n ∧ n < 0x110000 then .ok (.plain [Char.ofNat n.toNat])
    else .error (.format .codeTooLarge)
  match v with
  | .text t => if t.length = 1 then .ok (.plain t.toList) else .error (.format .characterExpected)
  | .int n => ofCode n
  | .bool b => ofCode (if b then 1 else 0)
  | _ => .error (.format .characterExpected)

def cut (s : Settled) (text : String) : Content :=
  .plain ((s.precision.map text.toList.take).getD text.toList)

/-- What an argument is written as; `index` is where the letter stands. -/
def contentOf (s : Settled) (v : Value) (index : Nat) : Except Misuse Content :=
  match s.conversion with
  | 's' => .ok (s.cut v.shown)
  | 'r' => .ok (s.cut v.literal)
  | 'a' => .ok (s.cut (asciiOnly v.literal))
  | 'c' => characterOf v
  | c =>
    if "diuoxX".toList.contains c then s.wholeOf v
    else if "eEfFgG".toList.contains c then s.realOf v
    else .error (.format (.unknownConversion c index))

def fill (s : Settled) : Content → List Char
  | .plain cs => padded cs
  | .number negative base digits =>
    let sign := if negative then ['-'] else s.plus
    if s.isZeroFilled && !s.isLeft then
      sign ++ base ++ padZeros (s.width - sign.length - base.length) digits
    else padded (sign ++ base ++ digits)
where
  padded (cs : List Char) : List Char :=
    let spaces := List.replicate (s.width - cs.length) ' '
    if s.isLeft then cs ++ spaces else spaces ++ cs

end Settled

def fillPlace (p : Place) (index : Nat) (s : Supply) : Except Misuse (List Char × Supply) := do
  let s ← s.turnTo p.key
  let (width, s) ← s.amount true p.width
  let (precision, s) ← s.amount false p.precision
  match p.conversion with
  | none => .error (.format .unfinished)
  | some conversion =>
    let (v, s) ← s.next
    let settled := Settled.ofPlace p conversion width precision
    return (settled.fill (← settled.contentOf v index), s)

def fillParts : List Part → Supply → Except Misuse (List Char × Supply)
  | [], s => .ok ([], s)
  | .literal c :: rest, s => do
    let (cs, s) ← fillParts rest s
    return (c :: cs, s)
  | .place p index :: rest, s => do
    let (filled, s) ← fillPlace p index s
    let (cs, s) ← fillParts rest s
    return (filled ++ cs, s)

def fill (format : String) (supply : Supply) : Except Misuse String := do
  let (cs, s) ← fillParts (parts format.toList) supply
  if s.isUsedUp then return String.ofList cs else .error (.format .tooManyArguments)

end TenantAccess.Format
