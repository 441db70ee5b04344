import TenantAccess.Audit.Event
import TenantAccess.Credentials
import TenantAccess.Matrix.Writer
import TenantAccess.OrgTree.Edit
import TenantAccess.Plain.Read
import TenantAccess.Rpc.Reply

/-! # Reading commands

What callers do, from plain data: edits of a tree, writes to the matrix, events for the record,
metadata of a call.
-/

namespace TenantAccess

def RowWrite.ofPlain (v : Value) : Except Misuse RowWrite := do
  let kind ← Vocabulary.ofPlain (v.part "entity_type")
  let rules ← Submission.ofPlain (v.part "permissions")
  return ⟨kind, v.textAt "entity_id", v.textAt "organization_id", v.textAt "role", rules,
    v.integerAt? "expected_version", v.truthAt? "allow_child_override"⟩

def RuleWrite.ofPlain (v : Value) : Except Misuse RuleWrite := do
  let kind ← Vocabulary.ofPlain (v.part "entity_type")
  let rule ← OfferedRule.ofPlain (v.part "rule")
  return ⟨kind, v.textAt "entity_id", v.textAt "organization_id", v.textAt "role",
    Offered.ofPlain (v.part "resource"), Offered.ofPlain (v.part "action"), rule.given?,
    v.integerAt? "expected_version"⟩

def RowKey.ofPlain (v : Value) : Except Misuse RowKey := do
  let kind ← Vocabulary.ofPlain (v.part "entity_type")
  return ⟨kind, v.textAt "entity_id", v.textAt "role"⟩

/-- An edit of a tree, by its name. -/
def Edit.ofPlain? (v : Value) : Option Edit :=
  let id := v.textAt "id"
  match v.textAt "do" with
  | "create" => some (.create id (v.textAt? "parent_department_id") (v.textAt "name")
      (v.part "compliance_settings").parts)
  | "move" => some (.move id (v.textAt? "parent"))
  | "delete" => some (.delete id)
  | "add_member" => some (.addMember id (v.textAt "user"))
  | "remove_member" => some (.removeMember id (v.textAt "user"))
  | "add_team" => some (.addTeam id (v.textAt? "department_id"))
  | "move_team" => some (.moveTeam id (v.textAt? "department_id"))
  | "remove_team" => some (.removeTeam id)
  | _ => none

/-- An event; the actor is a name, or a user. -/
def AuditEvent.ofPlain (v : Value) : Except Misuse AuditEvent := do
  let actor ←
    if v.hasPart "user" then (User.ofPlain (v.part "user")).map (·.id)
    else .ok (v.textAt "actor")
  let pair ← Pair.ofPlain (v.part "resource") (v.part "action")
  let decision ← Decision.ofPlain (v.part "decision")
  let target ← Value.optional Target.ofPlain (v.part "target")
  return ⟨actor, pair.resource, pair.action, decision, target⟩

/-- The metadata of a call, as a record or as a list of names and texts. -/
def Metadata.ofPlain (v : Value) : Metadata :=
  Table.ofList <| (v.parts.map fun f => (f.1, f.2.shown)) ++ v.items.filterMap fun
    | .list [name, w] => some (name.shown, w.shown)
    | _ => none

namespace Fault

/-- Refuse details that have a name which faults of the category use for themselves. -/
def checkDetails (category : Category) (names : List String) (details : List (String × Value)) :
    Except Misuse Unit :=
  match details.find? fun d => names.contains d.1 with
  | some d => .error (.detailTaken category d.1)
  | none => .ok ()

/-- A refusal raised as a fault. Its decision gives the message and the denial code, so the
details may not; a code among them becomes that of the fault. -/
def ofRefusal (decision : Decision) (details : List (String × Value)) : Except Misuse Fault := do
  checkDetails .denied ["self", "decision"] details
  if details.any fun d => d.1 == "denial_code" then throw .secondDenialCode
  checkDetails .internal ["message"] details
  let code := (details.find? fun d => d.1 == "code").bind fun d =>
    if d.2.isPresent then some d.2.shown else none
  return .refused decision code (details.filter fun d => d.1 != "code")

/-- A fault in somebody else's words. -/
def ofReport (category : Category) (message code : Option String)
    (details : List (String × Value)) : Except Misuse Fault := do
  checkDetails .internal ["self", "message", "code"] details
  return .reported category message code details

end Fault

/-- What stops a method: a fault of some category, or something else by the name of its kind. -/
def Raised.ofPlain (v : Value) : Except Misuse Raised := do
  let name := v.textAt "class"
  let details := (v.part "details").parts
  match Category.ofLabel? name with
  | some .denied =>
    let decision ← Decision.ofPlain (v.part "decision")
    return .fault (← Fault.ofRefusal decision details)
  | some c => return .fault (← Fault.ofReport c (v.textAt? "message") (v.textAt? "code") details)
  | none => return .unforeseen name (v.textAt "message")

end TenantAccess
