import TenantAccess.Log.Entry
import TenantAccess.Rpc.Status

/-! # Replies

What the caller of a remote method gets: its result, or an end with a status, a message and
trailing metadata. A fault shows its code and its message; of anything unforeseen the caller
learns nothing.
-/

namespace TenantAccess

structure CallEnd where
  status : CallStatus
  message : String
  trailing : List (String × String)
  deriving Repr, DecidableEq

/-- What stops a method. -/
inductive Raised where
  | fault (f : Fault)
  | unforeseen (kind message : String)
  deriving Repr, Inhabited

namespace Raised

def message : Raised → String
  | fault f => f.message
  | unforeseen _ message => message

/-- The text under which log lines show it. -/
def text : Raised → String
  | fault f => "authzcore.exceptions." ++ f.category.label ++ ": " ++ f.message
  | unforeseen kind "" => kind
  | unforeseen kind message => kind ++ ": " ++ message

end Raised

namespace CallEnd

def logger : String := "authzcore.exceptions"

def faultText (f : Fault) : String := "[" ++ f.code ++ "] " ++ f.message

/-- The denial code that is sent along with a refusal. -/
def denialField (f : Fault) : List (String × String) :=
  match f with
  | .refused d _ _ => [("denial-code", Fault.refusalCode d)]
  | _ => []

def ofFault (f : Fault) : CallEnd :=
  ⟨.ofFault f, faultText f, ("error-code", f.code) :: denialField f⟩

def unforeseen : CallEnd := ⟨.internal, "Unexpected internal error", []⟩

def ofRaised : Raised → CallEnd
  | .fault f => ofFault f
  | .unforeseen _ _ => unforeseen

def entry (method : String) : Raised → LogEntry
  | .fault f => ⟨.error, logger, method ++ " failed: " ++ faultText f,
      [("error_code", .text f.code), ("error_details", .record f.details)]⟩
  | .unforeseen _ message => .plain .error logger (method ++ " unexpected error: " ++ message)

end CallEnd

/-- Answer a call with what its method came to. -/
def replyTo {α : Type} (method : String) : Except Raised α → Logged (Except CallEnd α)
  | .ok a => .quiet (.ok a)
  | .error r => ⟨.error (.ofRaised r), [CallEnd.entry method r]⟩

end TenantAccess
