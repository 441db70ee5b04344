import TenantAccess.Fault
import TenantAccess.Format.Flaw
import TenantAccess.Log.Clock
import TenantAccess.Number.Literal
import TenantAccess.Redaction.Flaw
import TenantAccess.Scope

/-! # Misuse

Mistakes of the caller rather than of the data: a value that is not what the call takes.
They are kept apart from faults because nothing in the library handles them.
-/

namespace TenantAccess

open TenantAccess.Number TenantAccess.Redaction TenantAccess.Text

/-- The kinds of mistakes. -/
inductive MisuseKind where
  | badValue
  | badType
  | missingKey
  | badIndex
  | badRange
  | badState
  | badTemplate
  | badAttribute
  | badSystem
  deriving Repr, DecidableEq

/-- What the caller got wrong. -/
inductive Misuse where
  /-- A value, shown by its literal, names no member of a vocabulary. -/
  | notAMember (title literal : String)
  | notATier (text : String)
  | negativeLimit (limit : String) (value : Int)
  | unknownResource (shown : String)
  | unknownAction (shown : String)
  | unknownPair (resource action : String)
  | duplicateRole (id : String)
  | notComparable (comparison : Comparison) (typeName : String)
  | danglingParent (id : String)
  | trailClosed
  | waitTooLong
  | notAnInteger (text : String) (flaw : IntegerFlaw)
  | notANumber (text : String)
  /-- An integer lies beyond the doubles. -/
  | beyondDoubles
  | template (flaw : TemplateFlaw) (text : String) (position : Nat)
  | unknownGroup (name : String)
  | format (flaw : FormatFlaw)
  | fieldMissing (name : String)
  | fieldTaken (name : String)
  | noFields (typeName : String)
  | noAttribute (typeName name : String)
  /-- A value of some type is asked for an item, and has none. -/
  | noItems (typeName : String)
  | itemMissing (place : Nat)
  | pastTheEnd (isText : Bool)
  /-- A part of a line, counted from zero, is no text. -/
  | partNotText (place : Nat) (typeName : String)
  | clock (flaw : ClockFlaw)
  | notAPair (parts : Nat)
  | detailTaken (category : Category) (name : String)
  | secondDenialCode
  deriving Repr, DecidableEq

namespace Misuse

/-- The kind of a flaw of a format. -/
def kindOfFormat : FormatFlaw → MisuseKind
  | .unfinished | .unfinishedKey | .unknownConversion _ _ | .notANumber
  | .amountTooLarge _ => .badValue
  | .tooLarge | .infinite | .codeTooLarge | .argumentTooLarge _ => .badRange
  | .tooFewArguments | .tooManyArguments | .numberExpected _ _ | .wholeExpected _ _
  | .realExpected _ | .characterExpected | .recordExpected | .widthExpected => .badType

/-- The kind of a flaw of an instant. -/
def kindOfClock : ClockFlaw → MisuseKind
  | .numberExpected _ => .badType
  | .notANumber => .badValue
  | .beyondSeconds | .beyondYears => .badRange
  | .beyondCalendar => .badSystem

def kind : Misuse → MisuseKind
  | notAMember _ _ | notATier _ | negativeLimit _ _ | unknownResource _ | unknownAction _
  | unknownPair _ _ | duplicateRole _ | notAnInteger _ _ | notANumber _ | notAPair _ => .badValue
  | beyondDoubles | waitTooLong => .badRange
  | notComparable _ _ | noFields _ | noItems _ | partNotText _ _ | detailTaken _ _
  | secondDenialCode => .badType
  | danglingParent _ | fieldMissing _ | fieldTaken _ | itemMissing _ => .missingKey
  | trailClosed => .badState
  | unknownGroup _ | pastTheEnd _ => .badIndex
  | clock flaw => kindOfClock flaw
  | noAttribute _ _ => .badAttribute
  | template _ _ _ => .badTemplate
  | format flaw => kindOfFormat flaw

def message : Misuse → String
  | notAMember title literal => literal ++ " is not a valid " ++ title
  | notATier text => "Invalid subscription tier: " ++ text
  | negativeLimit limit value => limit ++ " must be non-negative, got " ++ toString value
  | unknownResource shown => "Unknown resource: " ++ shown
  | unknownAction shown => "Unknown action: " ++ shown
  | unknownPair resource action => "Unknown resource/action pair: " ++ resource ++ ", " ++ action
  | duplicateRole id => "Duplicate role id: " ++ id
  | notComparable comparison typeName =>
    "'" ++ comparison.sign ++ "' not supported between instances of 'Scope' and '" ++ typeName ++ "'"
  | danglingParent id => quoted id
  | trailClosed => "cannot schedule new futures after shutdown"
  | waitTooLong => "timestamp too large to convert to C _PyTime_t"
  | notAnInteger text .malformed =>
    "invalid literal for int() with base 10: " ++ String.ofList ((quoted text).toList.take 200)
  | notAnInteger _ (.overlong digits) =>
    let most := toString mostDigits
    "Exceeds the limit (" ++ most ++ " digits) for integer string conversion: value has " ++
      toString digits ++ " digits; use sys.set_int_max_str_digits() to increase the limit"
  | notANumber text => "could not convert string to float: " ++ quoted text
  | beyondDoubles => "int too large to convert to float"
  | template flaw text position => flaw.messageAt text position
  | unknownGroup name => "unknown group name " ++ quoted name
  | format flaw => flaw.message
  | fieldMissing name => quoted name
  | fieldTaken name => quoted ("Attempt to overwrite " ++ quoted name ++ " in LogRecord")
  | noFields "list" => "list indices must be integers or slices, not str"
  | noFields typeName => "'" ++ typeName ++ "' object does not support item assignment"
  | noAttribute typeName name =>
    "'" ++ typeName ++ "' object has no attribute " ++ quoted name
  | noItems typeName => "'" ++ typeName ++ "' object is not subscriptable"
  | itemMissing place => toString place
  | pastTheEnd isText => (if isText then "string" else "list") ++ " index out of range"
  | partNotText place typeName =>
    "sequence item " ++ toString place ++ ": expected str instance, " ++ typeName ++ " found"
  | clock flaw => flaw.message
  | notAPair parts =>
    if parts < 2 then
      "not enough values to unpack (expected 2, got " ++ toString parts ++ ")"
    else "too many values to unpack (expected 2)"
  | detailTaken category name =>
    category.label ++ ".__init__() got multiple values for argument " ++ quoted name
  | secondDenialCode =>
    "authzcore.exceptions.AuthzError.__init__() got multiple values for keyword argument " ++
      quoted "denial_code"

end Misuse

/-- Why a call gives no result. -/
inductive Failure where
  | fault (f : Fault)
  | misuse (m : Misuse)
  deriving Repr, Inhabited

/-- Read a member of a vocabulary by its exact name; what is no text names none. -/
def Vocabulary.read {α : Type} [Vocabulary α] (v : Value) : Except Misuse α :=
  match Offered.denoted? (.raw v) with
  | some a => .ok a
  | none => .error (.notAMember (Vocabulary.title α) v.literal)

namespace Tier

/-- Read a tier name, whatever its case and the blanks around it. -/
def parse (text : String) : Except Misuse Tier :=
  match parse? text with
  | some tier => .ok tier
  | none => .error (.notATier text)

end Tier

namespace Quota

/-- A limit that must not be below zero. -/
def checkLimit (name : String) : Option Int → Except Misuse (Option Nat)
  | none => .ok none
  | some value =>
    if value < 0 then .error (.negativeLimit name value) else .ok (some value.toNat)

/-- A quota from limits that have not been checked; the bound on items is checked first. -/
def make (maxItems rateLimit : Option Int) (features : List String) : Except Misuse Quota := do
  let maxItems ← checkLimit "max_items" maxItems
  let rateLimit ← checkLimit "rate_limit" rateLimit
  return ⟨maxItems, rateLimit, NameSet.ofList features⟩

end Quota

end TenantAccess
