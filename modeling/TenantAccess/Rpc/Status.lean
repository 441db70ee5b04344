import TenantAccess.Fault

/-! # Call statuses

The statuses with which remote calls end, and which fault or refusal ends a call with which.
-/

namespace TenantAccess

/-- How a remote call that fails is reported to its caller. -/
inductive CallStatus where
  | invalidArgument
  | notFound
  /-- A race was lost; the caller may try again. -/
  | aborted
  | unavailable
  | failedPrecondition
  | permissionDenied
  | resourceExhausted
  | unauthenticated
  | internal
  deriving Repr, DecidableEq, Inhabited

namespace CallStatus

def name : CallStatus → String
  | .invalidArgument => "INVALID_ARGUMENT"
  | .notFound => "NOT_FOUND"
  | .aborted => "ABORTED"
  | .unavailable => "UNAVAILABLE"
  | .failedPrecondition => "FAILED_PRECONDITION"
  | .permissionDenied => "PERMISSION_DENIED"
  | .resourceExhausted => "RESOURCE_EXHAUSTED"
  | .unauthenticated => "UNAUTHENTICATED"
  | .internal => "INTERNAL"

/-- The status of a refusal. -/
def ofDenial : DenialCode → CallStatus
  | .insufficientRole | .subscriptionTierTooLow | .outOfScope => .permissionDenied
  | .quotaExceeded => .resourceExhausted
  | .resolutionError => .unavailable

/-- The status of a refusal whose code is given by name; an unknown code is a plain refusal. -/
def ofDenialName (code : String) : CallStatus :=
  ((Vocabulary.ofName? code).map ofDenial).getD .permissionDenied

/-- The status of a stable code. -/
def ofCode (code : String) : CallStatus :=
  if code = Category.validation.code then .invalidArgument
  else if code = Category.notFound.code then .notFound
  else if code = Category.conflict.code then .aborted
  else if code = Category.unavailable.code then .unavailable
  else if code = Category.configuration.code then .failedPrecondition
  else if code = Category.denied.code then .permissionDenied
  else .internal

/-- The status of a fault: a refusal goes by the code of its decision, if that has one, and all
else by its own code. -/
def ofFault (f : Fault) : CallStatus :=
  match f with
  | .refused ⟨_, _, _, some code, _⟩ _ _ => ofDenial code
  | f => ofCode f.code

end CallStatus

end TenantAccess
