import TenantAccess.Audit.Event
import TenantAccess.Hierarchy.Draft
import TenantAccess.Log.Entry
import TenantAccess.OrgTree.Edit
import TenantAccess.Plain.Field
import TenantAccess.Plan.Entitlements
import TenantAccess.Rpc.Reply
import TenantAccess.Settings.Basic

/-! # Writing plain data

Every type of the domain as plain data, with all its fields. Tables by pair are written in the
order of their names, other tables in their own.
-/

namespace TenantAccess

open TenantAccess.Number

def Vocabulary.plain {α : Type} [Vocabulary α] (a : α) : Value := .text (Vocabulary.name a)

def plainLimit (limit : Option Nat) : Value := Value.ofInt? (limit.map Int.ofNat)

/-- A double, by its text. -/
def plainFloat (x : Float) : Value := .text (floatText x)

mutual

def Value.plain : Value → Value
  | .float x => plainFloat x
  | .list items => .list (Value.plainItems items)
  | .record fields => .record (Value.plainFields fields)
  | v => v

def Value.plainItems : List Value → List Value
  | [] => []
  | v :: rest => v.plain :: Value.plainItems rest

def Value.plainFields : List (String × Value) → List (String × Value)
  | [] => []
  | (name, v) :: rest => (name, v.plain) :: Value.plainFields rest

end

def Quota.plain (q : Quota) : Value :=
  .record [("max_items", plainLimit q.maxItems), ("rate_limit", plainLimit q.rateLimit),
    ("features", Value.ofTexts q.features.names)]

def Override.plain (o : Override) : Value :=
  .record [("effect", Vocabulary.plain o.effect), ("scope", Value.ofOption Vocabulary.plain o.scope),
    ("quota", Value.ofOption Quota.plain o.quota)]

def Offered.plain {α : Type} [Vocabulary α] : Offered α → Value
  | .member a => Vocabulary.plain a
  | .raw v => v

def KeyPart.plain {α : Type} [Vocabulary α] : KeyPart α → Value
  | .member a => Vocabulary.plain a
  | .text s | .other s => .text s
  | .number n => .int n
  | .nothing => .null

/-- A row of a table by pair: the two halves of its key, and what it holds. -/
structure KeyedRow where
  resource : Value
  action : Value
  rest : List Value

namespace KeyedRow

/-- Whether the key of one row comes before that of another, by the texts of its halves. -/
def isBefore (x y : KeyedRow) : Bool :=
  x.resource.shown < y.resource.shown ||
    (x.resource.shown == y.resource.shown && x.action.shown ≤ y.action.shown)

/-- Rows in the order of their keys. -/
def plainList (rows : List KeyedRow) : Value :=
  .list ((rows.mergeSort isBefore).map fun row => .list (row.resource :: row.action :: row.rest))

def ofPairs {ν : Type} (write : ν → List Value) (t : Table Pair ν) : List KeyedRow :=
  t.rows.map fun row =>
    ⟨Vocabulary.plain row.1.resource, Vocabulary.plain row.1.action, write row.2⟩

/-- The rows of a table by any key. -/
def ofKeys {ν : Type} (write : ν → List Value) (t : Table PairKey ν) : List KeyedRow :=
  t.rows.map fun row => ⟨row.1.resource.plain, row.1.action.plain, write row.2⟩

end KeyedRow

def Row.plainWith (rules : List KeyedRow) (r : Row) : Value :=
  .record [("entity_type", Vocabulary.plain r.kind), ("entity_id", .text r.entityId),
    ("organization_id", .text r.organizationId), ("role", .text r.role),
    ("permissions", KeyedRow.plainList rules),
    ("version", .int r.version), ("allow_child_override", .bool r.allowsChildren)]

def Row.plain (r : Row) : Value := r.plainWith (KeyedRow.ofPairs (fun o => [o.plain]) r.rules)

/-- A rule as plain data; what is neither an override nor nothing has no plain form. -/
def OfferedRule.plain : OfferedRule → Except Misuse Value
  | .override o => .ok o.plain
  | .other .null => .ok .null
  | .other v => .error (.noAttribute v.typeName "effect")

/-- The two halves of a key as plain data; a text of two characters falls into halves too. -/
def RuleKey.halves : RuleKey → Except Misuse (Value × Value)
  | .pair r a => .ok (r.plain, a.plain)
  | .other v =>
    match v.shown.toList with
    | [r, a] => .ok (.text r.toString, .text a.toString)
    | parts => .error (.notAPair parts.length)

def DraftRow.plain (r : DraftRow) : Except Misuse Value := do
  let rules ← r.written.mapM fun (key, rule) => do
    let (resource, action) ← key.halves
    return ⟨resource, action, [← rule.plain]⟩
  return r.row.plainWith rules

def Department.plain (d : Department) : Value :=
  .record [("id", .text d.id), ("organization_id", .text d.organizationId),
    ("parent_department_id", Value.ofText? d.parentId), ("name", .text d.name),
    ("compliance_settings", .record d.compliance)]

def Team.plain (t : Team) : Value :=
  .record [("id", .text t.id), ("organization_id", .text t.organizationId),
    ("department_id", Value.ofText? t.departmentId)]

def Membership.plain (m : Membership) : Value :=
  .record [("subject_id", .text m.subjectId), ("scope_kind", Vocabulary.plain m.kind),
    ("scope_id", .text m.scopeId), ("role_in_scope", .text m.roleInScope)]

def User.plain (u : User) : Value :=
  .record [("user_id", .text u.id), ("role", .text u.role), ("tier", Vocabulary.plain u.tier),
    ("memberships", .list (u.memberships.map Membership.plain))]

def Target.plain (t : Target) : Value :=
  .record [("owner_id", .text t.ownerId), ("visibility", Vocabulary.plain t.sharing),
    ("team_id", Value.ofText? t.teamId), ("organization_id", Value.ofText? t.organizationId)]

def Privilege.plain (p : Privilege) : Value :=
  .record [("name", .text p.name), ("tier", Vocabulary.plain p.tier),
    ("quota", Value.ofOption Quota.plain p.quota)]

def Decision.plain (d : Decision) : Value :=
  .record [("is_allowed", .bool d.isAllowed), ("scope", Value.ofOption Vocabulary.plain d.scope),
    ("privilege", Value.ofOption Privilege.plain d.privilege),
    ("code", Value.ofOption Vocabulary.plain d.code), ("reason", .text d.reason)]

def Grant.plain (g : Grant) : Value :=
  .record [("max_scope", Vocabulary.plain g.maxScope), ("tier_exempt", .bool g.tierExempt)]

/-- Grants as plain data: of pairs, and under keys that are no pairs. -/
def GrantTable.plain (t : GrantTable) (strays : Table PairKey Grant) : Value :=
  KeyedRow.plainList (KeyedRow.ofPairs write t ++ KeyedRow.ofKeys write strays)
where
  write (g : Grant) : List Value := [Vocabulary.plain g.maxScope, .bool g.tierExempt]

def Role.plain (r : Role) : Value :=
  .record [("id", .text r.id), ("name", .text r.name), ("level", .int r.level),
    ("grants", GrantTable.plain r.grants r.strays)]

def QuotaTable.plain (t : Table PairKey (Option Quota)) : Value :=
  KeyedRow.plainList (KeyedRow.ofKeys (fun q => [Value.ofOption Quota.plain q]) t)

def ChainStep.plain (s : ChainStep) : Value :=
  .record [("entity_type", Vocabulary.plain s.level.kind), ("entity_id", .text s.level.entityId),
    ("status", .text s.status.name), ("role", Value.ofText? s.role),
    ("version", Value.ofInt? s.version), ("locks_children", .bool s.locksChildren)]

def DraftResolution.plain (r : DraftResolution) : Except Misuse Value := do
  let walk ← r.finished
  let override ← walk.override.mapM OfferedRule.plain
  return .record [("override", override.getD .null),
    ("steps", .list (walk.steps.map ChainStep.plain)),
    ("locked_at", Value.ofOption ChainStep.plain walk.lockedAt)]

def Draft.plain (d : Draft) : Except Misuse Value := do
  let s := d.snapshot
  let rows ← s.rows.values.mapM fun row => (d.draftRow row).plain
  return .record [("organization_id", .text s.organization.id),
    ("organization_name", .text s.organization.name),
    ("departments", .list (s.departments.values.map Department.plain)),
    ("teams", .list (s.teams.values.map Team.plain)),
    ("entries", .list rows)]

/-- A matrix row without its rules. -/
def Row.plainSummary (r : Row) : Value :=
  .list [Vocabulary.plain r.kind, .text r.entityId, .text r.role, .text r.organizationId,
    .int r.version, .bool r.allowsChildren]

def Department.plainMembers? (members : Table String NameSet) (d : Department) : Option Value :=
  match ((members.get? d.id).map (·.names)).getD [] with
  | [] => none
  | names => some (.list [.text d.id, Value.ofTexts names])

/-- A tree as plain data: departments, teams and who belongs where. -/
def OrgTree.plain (t : OrgTree) : Except Fault Value := do
  let s ← t.snapshot []
  let departments := s.departments.values
  return .record
    [("departments", .list (departments.map fun d =>
        .list [.text d.id, Value.ofText? d.parentId, .text d.name])),
      ("teams", .list (s.teams.values.map fun x => .list [.text x.id, Value.ofText? x.departmentId])),
      ("members", .list (departments.filterMap (Department.plainMembers? t.members))),
      ("organization_members", Value.ofTexts t.unattached.names)]

def Removal.plain (r : Removal) : Value :=
  .record [("department", r.department.plain), ("new_parent_id", Value.ofText? r.newParentId),
    ("departments", Value.ofTexts r.departments), ("teams", Value.ofTexts r.teams),
    ("members", Value.ofTexts r.members.names)]

def EditAnswer.plain : EditAnswer → Value
  | .department d => d.plain
  | .removal r => r.plain
  | .team t => t.plain
  | .done => .null

def AuditEvent.plain (e : AuditEvent) : Value :=
  .record [("actor", .text e.actor), ("resource", Vocabulary.plain e.resource),
    ("action", Vocabulary.plain e.action), ("decision", e.decision.summary),
    ("target", Value.ofOption Target.plain e.target)]

def LogEntry.plainData (e : LogEntry) : Value :=
  .record [("level", .text e.level.name), ("logger", .text e.logger), ("message", .text e.message),
    ("extra", (Value.record e.extra).plain)]

/-- The end of a call, as the parts of a record. -/
def CallEnd.plainFields (e : CallEnd) : List (String × Value) :=
  [("status", .text e.status.name), ("message", .text e.message),
    ("trailing", .list (e.trailing.map fun field => Value.ofTexts [field.1, field.2]))]

def Fault.plain (f : Fault) : Value :=
  .record [("error", .text f.category.label), ("message", .text f.message), ("code", .text f.code),
    ("details", (Value.record f.details).plain)]

namespace CacheSettings

/-- The fields of the settings of a cache. -/
def plainFields (c : CacheSettings) : List (String × Value) :=
  [("ttl_seconds", plainFloat c.ttl), ("refresh_timeout_ms", .int c.refreshTimeout),
    ("staleness_ceiling_seconds", plainFloat c.staleCeiling)]

def plain (c : CacheSettings) : Except Misuse Value := do
  let seconds ← c.refreshSeconds
  return .record (c.plainFields ++ [("refresh_timeout_seconds", plainFloat seconds)])

end CacheSettings

def HierarchySettings.plain (h : HierarchySettings) : Value :=
  .record [("max_department_depth", .int h.maxDepth),
    ("default_allow_child_override", .bool h.openByDefault)]

def AuditSettings.plain (a : AuditSettings) : Value :=
  .record [("flush_timeout_seconds", plainFloat a.flushTimeout)]

def Settings.plain (s : Settings) : Value :=
  .record [("log_level", Vocabulary.plain s.logLevel), ("log_json", .bool s.logJson),
    ("service_name", Value.ofText? s.serviceName), ("cache", .record s.cache.plainFields),
    ("hierarchy", s.hierarchy.plain), ("audit", s.audit.plain)]

def Problem.plain (p : Problem) : Value :=
  .record ([("type", .text p.flaw.label), ("loc", Value.ofTexts p.path)] ++
    (p.flaw.message?.map fun m => [("msg", Value.text m)]).getD [])

end TenantAccess
