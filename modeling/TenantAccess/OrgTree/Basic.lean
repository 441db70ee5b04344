import TenantAccess.Hierarchy.Snapshot
import TenantAccess.Misuse

/-! # Organization trees

The tree of departments and teams that one organization maintains, with the members of its
departments. Here are the tree itself and the questions about it; changes are in
`TenantAccess.OrgTree.Edit`.
-/

namespace TenantAccess

/-- The departments, teams and members of one organization. -/
structure OrgTree where
  organization : Organization
  /-- The greatest number of departments on a path from a root. -/
  maxDepth : Int
  departments : Table String Department
  teams : Table String Team
  members : Table String NameSet
  unattached : NameSet
  /-- Identifiers of deleted departments; they are never used again. -/
  retired : NameSet
  deriving Repr

namespace OrgTree

def empty (organization : Organization) (maxDepth : Int) : OrgTree :=
  ⟨organization, maxDepth, .empty, .empty, .empty, .empty, .empty⟩

/-- A department that must be there. -/
def department (t : OrgTree) (id : String) : Except Fault Department :=
  match t.departments.get? id with
  | some d => .ok d
  | none => .error (.departmentNotFound id)

/-- The departments directly under another one, or the roots. -/
def childrenOf (t : OrgTree) (parent : Option String) : List Department :=
  t.departments.values.filter (·.parentId = parent)

/-- Walk upwards from `current`, collecting identifiers. `seen` are those collected so far,
and `fuel` is more than the walk can need while it meets no department twice. -/
def climb (t : OrgTree) (start : String) :
    Nat → List String → Option String → Except Failure (List String)
  | _, seen, none => .ok seen.reverse
  | 0, _, some _ => .error (.fault (.departmentCycle start))
  | fuel + 1, seen, some current =>
    if current = start ∨ current ∈ seen then .error (.fault (.departmentCycle start))
    else
      match t.departments.get? current with
      | none => .error (.misuse (.danglingParent current))
      | some d => t.climb start fuel (current :: seen) d.parentId

/-- The departments above another one, the nearest first. -/
def ancestors (t : OrgTree) (id : String) : Except Failure (List String) :=
  match t.department id with
  | .error f => .error (.fault f)
  | .ok d => t.climb id (t.departments.size + 1) [] d.parentId

/-- The number of departments from the root down to and including this one. -/
def depthOf (t : OrgTree) (id : String) : Except Failure Nat :=
  (t.ancestors id).map (·.length + 1)

/-- The largest of some numbers, zero if there are none. -/
def largest (ns : List Nat) : Nat := ns.foldl max 0

/-- The height of a subtree, looking at most `fuel` departments down. -/
def heightWithin (t : OrgTree) : Nat → String → Nat
  | 0, _ => 0
  | fuel + 1, id => 1 + largest ((t.childrenOf (some id)).map fun d => t.heightWithin fuel d.id)

/-- The largest number of departments on a path downwards, this one included. -/
def subtreeHeight (t : OrgTree) (id : String) : Nat := t.heightWithin t.departments.size id

def membersOf (t : OrgTree) (id : String) : Except Fault NameSet :=
  (t.department id).map fun _ => (t.members.get? id).getD .empty

/-- Everything that is known about the organization, with some matrix rows. -/
def snapshot (t : OrgTree) (rows : List Row) : Except Fault Snapshot :=
  Snapshot.build t.organization t.departments.values t.teams.values rows

end OrgTree

end TenantAccess
