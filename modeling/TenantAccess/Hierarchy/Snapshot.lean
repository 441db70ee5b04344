import TenantAccess.Fault
import TenantAccess.Hierarchy.Row

/-! # Snapshots

A snapshot is all that is known about one organization at one moment: its departments, its
teams and its matrix rows. Building one refuses records of other organizations.
-/

namespace TenantAccess

/-- One organization at one moment. -/
structure Snapshot where
  organization : Organization
  departments : Table String Department
  teams : Table String Team
  rows : Table RowKey Row
  deriving Repr

namespace Snapshot

/-- File records under their own identifiers, unchecked; a later record replaces an earlier. -/
def gather (organization : Organization) (departments : List Department) (teams : List Team)
    (rows : List Row) : Snapshot where
  organization := organization
  departments := Table.ofList (departments.map fun d => (d.id, d))
  teams := Table.ofList (teams.map fun t => (t.id, t))
  rows := Table.ofList (rows.map fun r => (r.key, r))

/-- A record that another organization owns, departments first, then teams, then rows. -/
def foreignRecord? (organizationId : String) (departments : List Department)
    (teams : List Team) (rows : List Row) : Option Fault :=
  match departments.find? (·.organizationId ≠ organizationId) with
  | some d => some (.departmentOfOther d.id)
  | none =>
    match teams.find? (·.organizationId ≠ organizationId) with
    | some t => some (.teamOfOther t.id)
    | none => (rows.find? (·.organizationId ≠ organizationId)).map fun _ => .rowOfOther

/-- A snapshot of records that all belong to the organization. -/
def build (organization : Organization) (departments : List Department) (teams : List Team)
    (rows : List Row) : Except Fault Snapshot :=
  match foreignRecord? organization.id departments teams rows with
  | some f => .error f
  | none => .ok (gather organization departments teams rows)

/-- A department that must be there. -/
def department (s : Snapshot) (id : String) : Except Fault Department :=
  match s.departments.get? id with
  | some d => .ok d
  | none => .error (.departmentNotFound id)

def team (s : Snapshot) (id : String) : Except Fault Team :=
  match s.teams.get? id with
  | some t => .ok t
  | none => .error (.teamNotFound id)

def row? (s : Snapshot) (kind : EntityKind) (entityId role : String) : Option Row :=
  s.rows.get? ⟨kind, entityId, role⟩

/-- The matrix rows of one entity, in order. -/
def rowsAt (s : Snapshot) (kind : EntityKind) (entityId : String) : List Row :=
  (s.rows.filter fun key _ => key.kind = kind && key.entityId = entityId).values

/-- Equality of snapshots; the order of records does not matter. -/
def alike (a b : Snapshot) : Bool :=
  a.organization == b.organization && a.departments.sameContents Department.alike b.departments &&
    a.teams.sameContents (· == ·) b.teams && a.rows.sameContents Row.alike b.rows

end Snapshot

end TenantAccess
