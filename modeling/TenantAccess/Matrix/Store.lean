import TenantAccess.Fault
import TenantAccess.Hierarchy.Row

/-! # The matrix store

Matrix rows under an optimistic lock: a write names the version it has read and succeeds
only if the row is still at that version. A row is created at version one, and every write
after that counts one up.
-/

namespace TenantAccess

structure MatrixStore where
  rows : Table RowKey Row
  deriving Repr

namespace MatrixStore

def empty : MatrixStore := ⟨.empty⟩

def get? (s : MatrixStore) (key : RowKey) : Option Row := s.rows.get? key

/-- The rows of an organization, oldest first. -/
def listFor (s : MatrixStore) (organizationId : String) : List Row :=
  s.rows.values.filter (·.organizationId = organizationId)

/-- The version after the next write. -/
def nextVersion : Option Row → Int
  | none => 1
  | some current => current.version + 1

/-- Store a row if the stored version is the expected one; none means that there is no row. -/
def compareAndSet (s : MatrixStore) (row : Row) (expected : Option Int) :
    Except Fault (MatrixStore × Row) :=
  let current := s.get? row.key
  let currentVersion := current.map (·.version)
  if currentVersion ≠ expected then .error (.versionConflict expected currentVersion)
  else
    let stored := { row with version := nextVersion current }
    .ok (⟨s.rows.put row.key stored⟩, stored)

/-- Remove a row that is at the expected version. -/
def delete (s : MatrixStore) (key : RowKey) (expected : Option Int) :
    Except Fault (MatrixStore × Row) :=
  match s.get? key with
  | none => .error .rowNotFound
  | some current =>
    if some current.version ≠ expected then
      .error (.versionConflict expected (some current.version))
    else .ok (⟨s.rows.erase key⟩, current)

end MatrixStore

end TenantAccess
