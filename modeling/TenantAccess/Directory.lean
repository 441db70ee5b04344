import TenantAccess.Cache.Basic
import TenantAccess.Matrix.Writer
import TenantAccess.OrgTree.Basic

/-! # Directories

A directory holds the organization trees and the permission matrix, and reads snapshots out
of them. A write to the matrix drops the cached snapshot of its organization before the
writer is answered, so that the next read sees the write.
-/

namespace TenantAccess

/-- The trees of all organizations, with the matrix. -/
structure Directory where
  trees : Table String OrgTree
  matrix : MatrixStore
  deriving Repr

namespace Directory

def empty : Directory := ⟨.empty, .empty⟩

def tree (d : Directory) (organizationId : String) : Except Fault OrgTree :=
  match d.trees.get? organizationId with
  | some t => .ok t
  | none => .error (.organizationNotFound organizationId)

/-- Put a tree in, in place of an earlier one of its organization. -/
def putTree (d : Directory) (t : OrgTree) : Directory :=
  { d with trees := d.trees.put t.organization.id t }

def removeTree (d : Directory) (organizationId : String) : Directory :=
  { d with trees := d.trees.erase organizationId }

/-- The snapshot of an organization as it is now. -/
def snapshot (d : Directory) (organizationId : String) : Except Fault Snapshot := do
  let t ← d.tree organizationId
  t.snapshot (d.matrix.listFor organizationId)

end Directory

namespace Written

variable {α : Type}

/-- Finish a write: drop the snapshot that is out of date, and then note the write. -/
def settle (w : Written α) (snapshots : Cache Snapshot) : Logged (Cache Snapshot) :=
  match w.outdated with
  | none => ⟨snapshots, w.entries⟩
  | some organizationId =>
    ⟨snapshots.drop organizationId, snapshots.droppedEntry organizationId :: w.entries⟩

end Written

end TenantAccess
