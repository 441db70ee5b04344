import TenantAccess.Hierarchy.Draft
import TenantAccess.Plain.Field
import TenantAccess.Plan.Sheet

/-! # Reading plain data

The types of the domain from plain data. Fields that are missing take their defaults. A name
that no member of a vocabulary has, or a limit below zero, is a mistake of the caller. Where a
caller may hand over plain data instead of a member of a vocabulary, a name that no member has
stands for itself, and a record with the part `raw` stands for that part.
-/

namespace TenantAccess

namespace Vocabulary

variable {α : Type} [Vocabulary α]

def ofPlain (v : Value) : Except Misuse α := read v

def ofPlain? : Value → Except Misuse (Option α)
  | .null => .ok none
  | v => (ofPlain v).map some

/-- The member that a part names, or what holds where the part is missing. -/
def ofPart (v : Value) (name : String) (standard : α) : Except Misuse α :=
  match v.field? name with
  | none => .ok standard
  | some w => ofPlain w

end Vocabulary

/-- Something that may be missing. -/
def Value.optional {α : Type} (read : Value → Except Misuse α) : Value → Except Misuse (Option α)
  | .null => .ok none
  | v => (read v).map some

def Value.many {α : Type} (read : Value → Except Misuse α) (v : Value) : Except Misuse (List α) :=
  v.items.mapM read

def Value.manyAt {α : Type} (read : Value → Except Misuse α) (v : Value) (name : String) :
    Except Misuse (List α) := (v.part name).many read

def Quota.ofPlain (v : Value) : Except Misuse Quota :=
  Quota.make (v.integerAt? "max_items") (v.integerAt? "rate_limit") (v.textsAt "features")

def Override.ofPlain (v : Value) : Except Misuse Override := do
  let effect ← Vocabulary.ofPart v "effect" Effect.allow
  let scope ← Vocabulary.ofPlain? (v.part "scope")
  let quota ← Value.optional Quota.ofPlain (v.part "quota")
  return ⟨effect, scope, quota⟩

/-- A department; `organizationId` is the organization of one that names none. -/
def Department.ofPlain (v : Value) (organizationId : String) : Department :=
  ⟨v.textAt "id", v.textAtOr "organization_id" organizationId, v.textAt? "parent_department_id",
    v.textAt "name", (v.part "compliance_settings").parts⟩

def Team.ofPlain (v : Value) : Team :=
  ⟨v.textAt "id", v.textAt "organization_id", v.textAt? "department_id"⟩

def Organization.ofPlain (v : Value) : Organization := ⟨v.textAt "id", v.textAt "name"⟩

def Membership.ofPlain (v : Value) : Except Misuse Membership := do
  let kind ← Vocabulary.ofPlain (v.part "scope_kind")
  return ⟨v.textAt "subject_id", kind, v.textAt "scope_id", v.textAtOr "role_in_scope" "member"⟩

def Target.ofPlain (v : Value) : Except Misuse Target := do
  let sharing ← Vocabulary.ofPart v "visibility" Sharing.personal
  return ⟨v.textAt "owner_id", sharing, v.textAt? "team_id", v.textAt? "organization_id"⟩

def User.ofPlain (v : Value) : Except Misuse User := do
  let tier ← Vocabulary.ofPart v "tier" Tier.free
  let memberships ← v.manyAt Membership.ofPlain "memberships"
  return ⟨v.textAt "user_id", v.textAt "role", tier, memberships⟩

def Privilege.ofPlain (v : Value) : Except Misuse Privilege := do
  let tier ← Vocabulary.ofPart v "tier" Tier.free
  let quota ← Value.optional Quota.ofPlain (v.part "quota")
  return ⟨v.textAt "name", tier, quota⟩

def Decision.ofPlain (v : Value) : Except Misuse Decision := do
  let scope ← Vocabulary.ofPlain? (v.part "scope")
  let privilege ← Value.optional Privilege.ofPlain (v.part "privilege")
  let code ← Vocabulary.ofPlain? (v.part "code")
  return ⟨v.truthAtOr "is_allowed" false, scope, privilege, code, v.textAt "reason"⟩

def Usage.ofPlain (v : Value) : Usage :=
  ⟨v.integerAtOr "items" 0, v.integerAtOr "requests_in_window" 0⟩

def Pair.ofPlain (r a : Value) : Except Misuse Pair := do
  let r ← Vocabulary.ofPlain r
  let a ← Vocabulary.ofPlain a
  return ⟨r, a⟩

/-- Something handed over where a member belongs. -/
def Offered.ofPlain {α : Type} [Vocabulary α] : Value → Offered α
  | .text s => ((Vocabulary.ofName? s).map .member).getD (.raw (.text s))
  | .record fields => .raw (Value.part (.record fields) "raw")
  | v => .raw v

/-- A row of a table by pair: the two halves of its key, and what `read` makes of the rest. -/
def Value.keyedRow {ν : Type} (read : List Value → Except Misuse ν) (v : Value) :
    Except Misuse (Offered Resource × Offered Action × ν) := do
  return (Offered.ofPlain (v.items.headD .null), Offered.ofPlain ((v.items.drop 1).headD .null),
    ← read (v.items.drop 2))

/-- A grant: a scope, and whether it is exempt from plans. -/
def Grant.ofPlain (items : List Value) : Except Misuse Grant := do
  let scope ← Vocabulary.ofPlain (items.headD .null)
  return ⟨scope, ((items.drop 1).headD .null).isPresent⟩

/-- Grants under any keys. -/
def GrantTable.ofPlain (v : Value) : Except Misuse (Table PairKey Grant) := do
  let rows ← v.many (Value.keyedRow Grant.ofPlain)
  return Table.ofList (rows.map fun (r, a, grant) => (PairKey.ofOffered r a, grant))

def QuotaSheet.ofPlain (v : Value) : Except Misuse QuotaSheet := do
  let rows ← v.many (Value.keyedRow fun items => Value.optional Quota.ofPlain (items.headD .null))
  return rows.map fun (r, a, quota) => ⟨r, a, quota⟩

/-- A rule; a record with the part `bad` stands for that part, which is no override. -/
def OfferedRule.ofPlain (v : Value) : Except Misuse OfferedRule :=
  match v with
  | .null => .ok (.other .null)
  | w => if w.hasPart "bad" then .ok (.other (w.part "bad")) else (Override.ofPlain w).map .override

/-- A rule with its key; a key that is no pair is the part `badkey` of a record. -/
def Submission.ruleOfPlain (v : Value) : Except Misuse (RuleKey × OfferedRule) :=
  match v with
  | .list (r :: a :: rest) => do
    return (.pair (Offered.ofPlain r) (Offered.ofPlain a), ← OfferedRule.ofPlain (rest.headD .null))
  | w => do return (.other (w.part "badkey"), ← OfferedRule.ofPlain (w.part "override"))

def Submission.ofPlain (v : Value) : Except Misuse Submission := do
  return Submission.ofList (← v.items.mapM Submission.ruleOfPlain)

/-- A matrix row that nobody has vetted. -/
def DraftRow.ofPlain (v : Value) : Except Misuse DraftRow := do
  let kind ← Vocabulary.ofPlain (v.part "entity_type")
  let written ← Submission.ofPlain (v.part "permissions")
  return {
    row := ⟨kind, v.textAt "entity_id", v.textAt "organization_id", v.textAt "role", written.sound,
      v.integerAtOr "version" 1, v.truthAtOr "allow_child_override" true⟩
    written }

/-- A snapshot with rows that nobody has vetted; one that is `direct` is taken on trust. -/
def Draft.ofPlain (v : Value) : Except Failure Draft := do
  let organization := Organization.ofPlain (v.part "organization")
  let departments := (v.itemsAt "departments").map fun d => Department.ofPlain d ""
  let teams := (v.itemsAt "teams").map Team.ofPlain
  let drafts ← (v.manyAt DraftRow.ofPlain "entries").mapError .misuse
  let rows := drafts.map (·.row)
  let snapshot ←
    if v.truthAtOr "direct" false then
      .ok (Snapshot.gather organization departments teams rows)
    else (Snapshot.build organization departments teams rows).mapError .fault
  return .ofRows snapshot drafts

def Role.ofPlain (v : Value) : Except Misuse Role := do
  let grants ← GrantTable.ofPlain (v.part "grants")
  return .ofKeyed (v.textAt "id") (v.textAt "name") (v.integerAtOr "level" 0) grants

end TenantAccess
