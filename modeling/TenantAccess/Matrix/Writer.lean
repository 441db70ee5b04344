import TenantAccess.Log.Entry
import TenantAccess.Matrix.Store
import TenantAccess.Matrix.Submission

/-! # Matrix writes

What writers do to the matrix: replace a row, change one rule, delete a row, purge all rows
of an entity. A write that succeeds says which organization's snapshot is out of date; the
snapshot has to be dropped before the writer is answered.
-/

namespace TenantAccess

/-- The outcome of a write. -/
structure Written (α : Type) where
  answer : Except Fault α
  store : MatrixStore
  /-- The organization whose snapshot is out of date. -/
  outdated : Option String
  entries : List LogEntry

/-- A row as a writer submits it. -/
structure RowWrite where
  kind : EntityKind
  entityId : String
  organizationId : String
  role : String
  rules : Submission
  /-- The version that the writer has read; none for a row that is not there. -/
  expected : Option Int
  /-- Whether rules further down may differ, if the writer says. -/
  allowsChildren : Option Bool

/-- One rule as a writer submits it; none takes the rule back. -/
structure RuleWrite where
  kind : EntityKind
  entityId : String
  organizationId : String
  role : String
  resource : Offered Resource
  action : Offered Action
  rule : Option OfferedRule
  expected : Option Int

namespace MatrixStore

def logger : String := "authzcore.matrix"

/-- A write that changed nothing. -/
def unchanged {α : Type} (s : MatrixStore) (f : Fault) : Written α := ⟨.error f, s, none, []⟩

/-- The entity of a row as entries show it. -/
def entityText (kind : EntityKind) (entityId : String) : String :=
  "Permission matrix " ++ kind.name ++ " " ++ entityId

def storedEntry (row : Row) : LogEntry :=
  .plain .info logger (entityText row.kind row.entityId ++ " role=" ++ row.role ++
    " now at version " ++ toString row.version)

def deletedEntry (key : RowKey) : LogEntry :=
  .plain .info logger (entityText key.kind key.entityId ++ " role=" ++ key.role ++ " deleted")

def purgedEntry (kind : EntityKind) (entityId : String) (count : Nat) : LogEntry :=
  .plain .info logger (entityText kind entityId ++ " purged: " ++ toString count ++ " rows")

/-- What is wrong with the identifiers of a row. -/
def checkIds (w : RowWrite) : Except Fault Unit :=
  if w.entityId = "" ∨ w.organizationId = "" ∨ w.role = "" then .error .rowIncomplete
  else if w.kind = .organization ∧ w.entityId ≠ w.organizationId then
    .error .rowNotOfOrganization
  else .ok ()

/-- The row that a writer submits, once vetted. `openByDefault` fills in what the writer does
not say about rules further down. -/
def vetRow (openByDefault : Bool) (w : RowWrite) : Except Fault Row := do
  checkIds w
  let rules ← Submission.vet w.rules
  return ⟨w.kind, w.entityId, w.organizationId, w.role, rules, w.expected.getD 0,
    w.allowsChildren.getD openByDefault⟩

def upsert (s : MatrixStore) (openByDefault : Bool) (w : RowWrite) : Written Row :=
  match vetRow openByDefault w with
  | .error f => s.unchanged f
  | .ok row =>
    match s.compareAndSet row w.expected with
    | .error f => s.unchanged f
    | .ok (next, stored) => ⟨.ok stored, next, some w.organizationId, [storedEntry stored]⟩

/-- The rules of a row after one of them changed. -/
def editedRules (current : Option Row) (key : RuleKey) (rule : Option OfferedRule) : Submission :=
  let rules := (current.map fun row => Submission.ofRules row.rules).getD []
  match rule with
  | none => Submission.remove key rules
  | some rule => Submission.put key rule rules

/-- Change one rule of a row and keep the others; the row's word on rules further down stays. -/
def setRule (s : MatrixStore) (openByDefault : Bool) (w : RuleWrite) : Written Row :=
  let current := s.get? ⟨w.kind, w.entityId, w.role⟩
  s.upsert openByDefault
    { kind := w.kind
      entityId := w.entityId
      organizationId := w.organizationId
      role := w.role
      rules := editedRules current (.pair w.resource w.action) w.rule
      expected := w.expected
      allowsChildren := current.map (·.allowsChildren) }

def remove (s : MatrixStore) (key : RowKey) (expected : Option Int) : Written Row :=
  match s.delete key expected with
  | .error f => s.unchanged f
  | .ok (next, removed) => ⟨.ok removed, next, some removed.organizationId, [deletedEntry key]⟩

end MatrixStore

/-- A purge under way: the rows it listed and has not deleted, and those it has deleted. -/
structure Purge where
  kind : EntityKind
  entityId : String
  organizationId : String
  /-- Rows still to be deleted, as they were listed. -/
  pending : List Row
  removed : List Row

namespace Purge

/-- List the rows of an entity. -/
def start (s : MatrixStore) (kind : EntityKind) (entityId organizationId : String) : Purge :=
  ⟨kind, entityId, organizationId,
    (s.listFor organizationId).filter fun row => row.kind = kind ∧ row.entityId = entityId, []⟩

/-- Delete the next row at the version at which it was listed. -/
def deleteNext (p : Purge) (row : Row) (rest : List Row) (s : MatrixStore) :
    Except Fault (Purge × MatrixStore) :=
  (s.delete ⟨p.kind, p.entityId, row.role⟩ (some row.version)).map fun (next, removed) =>
    ({ p with pending := rest, removed := p.removed ++ [removed] }, next)

/-- Delete the listed rows one after another; the first that fails ends the purge. -/
def deleteAll (p : Purge) (s : MatrixStore) : List Row → Except Fault Purge × MatrixStore
  | [] => (.ok { p with pending := [] }, s)
  | row :: rest =>
    match p.deleteNext row rest s with
    | .error f => (.error f, s)
    | .ok (p, s) => p.deleteAll s rest

/-- The organization whose snapshot a finished purge makes out of date. -/
def outdated (p : Purge) : Option String :=
  if p.removed.isEmpty then none else some p.organizationId

def entries (p : Purge) : List LogEntry :=
  if p.removed.isEmpty then []
  else [MatrixStore.purgedEntry p.kind p.entityId p.removed.length]

end Purge

namespace MatrixStore

/-- Delete all rows of an entity. A purge that fails midway has dropped rows and does not say
that a snapshot is out of date. -/
def purge (s : MatrixStore) (kind : EntityKind) (entityId organizationId : String) :
    Written (List Row) :=
  let p := Purge.start s kind entityId organizationId
  match p.deleteAll s p.pending with
  | (.error f, next) => ⟨.error f, next, none, []⟩
  | (.ok done, next) => ⟨.ok done.removed, next, done.outdated, done.entries⟩

end MatrixStore

end TenantAccess
