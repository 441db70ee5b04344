import TenantAccess.Number.Literal
import TenantAccess.Value.Basic

/-! # Checking settings

Settings arrive as plain data. A field that is missing takes its default; one that is there
is read leniently (numbers may be texts, truth values may be words) and then has to lie in
its bounds. All fields are checked, and every flaw is reported with the path to its field.
-/

namespace TenantAccess

open TenantAccess.Number

/-- What is wrong with a setting. -/
inductive Flaw where
  | numberType
  | numberText
  | integerType
  | integerText
  | integerFraction
  | integerSize
  | integerInfinite
  | truthType
  | truthText
  | textType
  | groupType
  /-- Above the greatest allowed value. -/
  | aboveMost
  | belowLeast
  /-- Not above the excluded lower bound. -/
  | notAbove
  | undeclared
  /-- A rule that the setting breaks, in words. -/
  | refused (message : String)
  deriving Repr, DecidableEq

namespace Flaw

def label : Flaw → String
  | numberType => "float_type"
  | numberText => "float_parsing"
  | integerType => "int_type"
  | integerText => "int_parsing"
  | integerFraction => "int_from_float"
  | integerSize => "int_parsing_size"
  | integerInfinite => "finite_number"
  | truthType => "bool_type"
  | truthText => "bool_parsing"
  | textType => "string_type"
  | groupType => "model_type"
  | aboveMost => "less_than_equal"
  | belowLeast => "greater_than_equal"
  | notAbove => "greater_than"
  | undeclared => "extra_forbidden"
  | refused _ => "value_error"

/-- What is said about a flaw beside its name. -/
def message? : Flaw → Option String
  | refused message => some ("Value error, " ++ message)
  | _ => none

end Flaw

/-- A flaw and where it is. -/
structure Problem where
  /-- The names of the fields that lead to it, outermost first. -/
  path : List String
  flaw : Flaw
  deriving Repr, DecidableEq

/-- Settings, or everything that is wrong with them. -/
abbrev Checked (α : Type) : Type := Except (List Problem) α

namespace Checked

variable {α β : Type}

def problems : Checked α → List Problem
  | .ok _ => []
  | .error problems => problems

/-- Check two things; what is wrong with the first comes first. -/
def both (a : Checked α) (b : Checked β) : Checked (α × β) :=
  match a, b with
  | .ok a, .ok b => .ok (a, b)
  | a, b => .error (a.problems ++ b.problems)

def flawed (name : String) (flaw : Flaw) : Checked α := .error [⟨[name], flaw⟩]

/-- Put the problems of a group under the name of the group. -/
def under (name : String) : Checked α → Checked α
  | .ok a => .ok a
  | .error problems => .error (problems.map fun p => { p with path := name :: p.path })

end Checked

abbrev Fields := List (String × Value)

namespace Fields

/-- The value that a field has, if it is there. -/
def value? (fields : Fields) (name : String) : Option Value :=
  (fields.find? fun f => f.1 == name).map (·.2)

/-- Read a field, or take its default. -/
def read {α : Type} (fields : Fields) (name : String) (standard : α)
    (reader : Value → Except Flaw α) : Checked α :=
  match fields.value? name with
  | none => .ok standard
  | some v =>
    match reader v with
    | .ok a => .ok a
    | .error flaw => Checked.flawed name flaw

/-- Refuse fields that nobody declared, in the order in which they came. -/
def declaredOnly (fields : Fields) (names : List String) : Checked Unit :=
  match fields.filter fun f => !names.contains f.1 with
  | [] => .ok ()
  | others => .error (others.map fun f => ⟨[f.1], .undeclared⟩)

end Fields

namespace Setting

def isFinite (x : Float) : Bool := !(x.isInf || x.isNaN)

def ofInteger (n : Int) : Float := signed (n < 0) (Float.ofScientific n.natAbs false 0)

/-- Read a number leniently: truth values count as zero and one. -/
def number : Value → Except Flaw Float
  | .float x => .ok x
  | .int n => if isFinite (ofInteger n) then .ok (ofInteger n) else .error .numberType
  | .bool b => .ok (if b then 1.0 else 0.0)
  | .text s =>
    match plainFloat? s with
    | some x => .ok x
    | none => .error .numberText
  | _ => .error .numberType

/-- The integer that a finite double without a fraction is. -/
def wholeNumber? (x : Float) : Option Int :=
  match magnitude x with
  | .zero => some 0
  | .finite b =>
    if b.numerator % b.denominator = 0 then
      some (withSign (signBit x) (b.numerator / b.denominator))
    else none
  | _ => none

/-- Read a double as an integer. -/
def integerOfFloat (x : Float) : Except Flaw Int :=
  if !isFinite x then .error .integerInfinite
  else
    match wholeNumber? x with
    | none => .error .integerFraction
    | some n => if n.natAbs < twoTo 63 then .ok n else .error .integerSize

/-- Read an integer leniently: truth values count as zero and one. -/
def integer : Value → Except Flaw Int
  | .int n => .ok n
  | .bool b => .ok (if b then 1 else 0)
  | .float x => integerOfFloat x
  | .text s =>
    match plainInt s with
    | .ok n => .ok n
    | .error .malformed => .error .integerText
    | .error (.overlong _) => .error .integerSize
  | _ => .error .integerType

def yesWords : List String := ["1", "on", "t", "true", "y", "yes"]

def noWords : List String := ["0", "off", "f", "false", "n", "no"]

/-- Read a word for a truth value; capital letters of ASCII count as small ones. -/
def truthOfWord (word : String) : Except Flaw Bool :=
  let word := String.ofList (word.toList.map Char.toLower)
  if yesWords.contains word then .ok true
  else if noWords.contains word then .ok false
  else .error .truthText

/-- Read an integer as a truth value. -/
def truthOfInteger (n : Int) : Except Flaw Bool :=
  if n = 1 then .ok true else if n = 0 then .ok false else .error .truthText

/-- Read a truth value leniently: zero and one count, and so do a dozen words. -/
def truth : Value → Except Flaw Bool
  | .bool b => .ok b
  | .text s => truthOfWord s
  | .int n =>
    if fitsInto 64 n then truthOfInteger n else .error .truthType
  | .float x =>
    match integerOfFloat x with
    | .ok n => truthOfInteger n
    | .error _ => .error .truthType
  | _ => .error .truthType

def textOrNone : Value → Except Flaw (Option String)
  | .null => .ok none
  | .text s => .ok (some s)
  | _ => .error .textType

/-- Refuse a number that is not at most a bound. -/
def atMost (most x : Float) : Except Flaw Float := if x ≤ most then .ok x else .error .aboveMost

/-- Refuse a number that is not at least a bound. -/
def atLeast (least x : Float) : Except Flaw Float := if least ≤ x then .ok x else .error .belowLeast

/-- Refuse a number that is not above zero. -/
def positive (x : Float) : Except Flaw Float := if 0.0 < x then .ok x else .error .notAbove

/-- Refuse an integer outside closed bounds; the upper bound is looked at first. -/
def integerWithin (least most n : Int) : Except Flaw Int :=
  if most < n then .error .aboveMost else if n < least then .error .belowLeast else .ok n

/-- Refuse an integer that is not above zero. -/
def positiveInteger (n : Int) : Except Flaw Int := if 0 < n then .ok n else .error .notAbove

end Setting

end TenantAccess
