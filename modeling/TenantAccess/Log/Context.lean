import TenantAccess.Decision
import TenantAccess.Log.Entry
import TenantAccess.Misuse
import TenantAccess.Tenancy

/-! # Log contexts

The actor, request and organization that the entries of one request share. They are stamped
on the extra fields of an entry, each only if it is there.
-/

namespace TenantAccess

/-- What the entries of one request have in common. -/
structure LogContext where
  actorId : Value
  requestId : Value
  organizationId : Value
  deriving Repr, Inhabited

namespace LogContext

def empty : LogContext := ⟨.null, .null, .null⟩

/-- Set a field: one that is there keeps its place. -/
def setField (extra : List (String × Value)) (name : String) (v : Value) : List (String × Value) :=
  if extra.any (·.1 == name) then
    extra.map fun f => if f.1 == name then (name, v) else f
  else extra ++ [(name, v)]

/-- The field for the code of a refusal. -/
def codeField (decision : Option Decision) : List (String × Value) :=
  match decision.bind (·.code) with
  | some code => [("denial_code", .text code.name)]
  | none => []

/-- Who acts: the actor of the context, or else the user. -/
def actor (c : LogContext) (user : Option User) : Value :=
  if c.actorId.isPresent then c.actorId
  else
    match user with
    | some u => .text u.id
    | none => c.actorId

/-- The fields that a context stamps on an entry about a user and a decision. -/
def fields (c : LogContext) (user : Option User) (decision : Option Decision) :
    List (String × Value) :=
  codeField decision ++
    ([("actor_id", c.actor user), ("request_id", c.requestId),
      ("organization_id", c.organizationId)].filter (·.2.isPresent))

/-- Stamp a context on the extra fields of an entry. -/
def stamp (c : LogContext) (user : Option User) (decision : Option Decision)
    (extra : List (String × Value)) : List (String × Value) :=
  (c.fields user decision).foldl (fun extra f => setField extra f.1 f.2) extra

/-- Stamp a context on what a caller gave as extra fields; without fields there is nothing to
stamp, and anything may stand there. -/
def stampOn (c : LogContext) (user : Option User) (decision : Option Decision) (extra : Value) :
    Except Misuse Value :=
  match extra with
  | .record fields => .ok (.record (c.stamp user decision fields))
  | v => if (c.fields user decision).isEmpty then .ok v else .error (.noFields v.typeName)

/-- Put the fields of a single entry in place of those of the context. -/
def override (c : LogContext) (actorId requestId organizationId : Option Value) : LogContext :=
  ⟨actorId.getD c.actorId, requestId.getD c.requestId, organizationId.getD c.organizationId⟩

end LogContext

end TenantAccess
