import TenantAccess.Log.Entry
import TenantAccess.Request
import TenantAccess.Decision
import TenantAccess.Tenancy

/-! # Audit events

One event per decision: who asked for what, on which target, and what was decided.
-/

namespace TenantAccess

/-- A decision for the record. -/
structure AuditEvent where
  actor : String
  resource : Resource
  action : Action
  decision : Decision
  /-- Where the thing belongs, if one was named. -/
  target : Option Target
  deriving Repr, DecidableEq, Inhabited

namespace AuditEvent

/-- Whether the event is about a change; such events must be written before the change. -/
def isMutating (e : AuditEvent) : Bool := e.action.isMutating

def pair (e : AuditEvent) : Pair := ⟨e.resource, e.action⟩

def text (e : AuditEvent) : String := e.actor ++ " " ++ e.pair.text

def standardLogger : String := "authzcore.audit.trail"

/-- The entry of an event in a log that serves as audit trail. -/
def entry (logger timestamp : String) (e : AuditEvent) : LogEntry where
  level := .info
  logger := logger
  message := e.text ++ (if e.decision.isAllowed then " allowed" else " denied")
  extra :=
    [("actor_id", .text e.actor),
      ("organization_id", Value.ofText? (e.target.bind (·.organizationId))),
      ("denial_code", Value.ofText? (e.decision.code.map DenialCode.name)),
      ("audit_timestamp", .text timestamp)]

end AuditEvent

end TenantAccess
