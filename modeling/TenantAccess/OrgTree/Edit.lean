import TenantAccess.Log.Entry
import TenantAccess.OrgTree.Editing

/-! # Tree edits

What changes an organization tree. An edit asks all its questions before it writes, so a refusal
finds the tree as it was. Creating and moving keep the tree free of cycles and within its
depth, and keep the names of siblings apart. Deleting hands children, teams and members to
the parent and retires the identifier.
-/

namespace TenantAccess

/-- What a deletion moved, and where to. -/
structure Removal where
  department : Department
  /-- Its parent, who takes over; the organization itself where there is none. -/
  newParentId : Option String
  departments : List String
  teams : List String
  members : NameSet
  deriving Repr

namespace OrgTree

open Editing

/-! ## What edits ask -/

/-- A department that an edit is about. -/
def existing (t : OrgTree) (id : String) : Except Failure Department :=
  (t.department id).mapError .fault

/-- Refuse an identifier that a department bears or bore. -/
def checkUnused (t : OrgTree) (id : String) : Except Failure Unit :=
  if t.departments.contains id then .error (.fault (.departmentExists id))
  else if id ∈ t.retired then .error (.fault (.departmentRetired id))
  else .ok ()

/-- Whether another department under a parent bears a name. -/
def nameTaken (t : OrgTree) (name : String) (parent exclude : Option String) : Bool :=
  name ≠ "" && (t.childrenOf parent).any fun d => some d.id ≠ exclude && d.name = name

/-- Refuse a name that a sibling bears. -/
def checkName (t : OrgTree) (name : String) (parent exclude : Option String) :
    Except Failure Unit :=
  if t.nameTaken name parent exclude then .error (.fault (.siblingNameTaken name)) else .ok ()

/-- Refuse some departments under a new parent, where one bears the name of a sibling there. -/
def checkNames (t : OrgTree) (parent exclude : Option String) :
    List Department → Except Failure Unit
  | [] => .ok ()
  | d :: rest => do
    t.checkName d.name parent exclude
    t.checkNames parent exclude rest

def checkDepth (t : OrgTree) (depth : Nat) : Except Failure Unit :=
  if t.maxDepth < depth then .error (.fault (.treeTooDeep t.maxDepth)) else .ok ()

/-- The depth of a parent; no parent has depth zero. -/
def parentDepth (t : OrgTree) : Option String → Except Failure Nat
  | none => .ok 0
  | some id => t.depthOf id

/-- Refuse to put a department under itself. -/
def checkNotUnder (t : OrgTree) (id : String) : Option String → Except Failure Unit
  | none => .ok ()
  | some parent =>
    if parent = id then .error (.fault (.moveUnderDescendant id))
    else do
      let above ← t.ancestors parent
      if id ∈ above then .error (.fault (.moveUnderDescendant id)) else .ok ()

/-- Refuse a department that is named and not there. -/
def checkDepartment (t : OrgTree) : Option String → Except Failure Unit
  | none => .ok ()
  | some id => (t.existing id).map fun _ => ()

/-- Refuse the identifier of a team that is there. -/
def checkNewTeam (t : OrgTree) (id : String) : Except Failure Unit :=
  if t.teams.contains id then .error (.fault (.teamExists id)) else .ok ()

def checkTeam (t : OrgTree) (id : String) : Except Failure Unit :=
  if t.teams.contains id then .ok () else .error (.fault (.teamNotFound id))

def teamsOf (t : OrgTree) (id : String) : List Team :=
  t.teams.values.filter (·.departmentId = some id)

/-- The member set of a department; nobody where none is kept. -/
def memberSet (t : OrgTree) (id : String) : NameSet := (t.members.get? id).getD .empty

/-! ## What edits write -/

def putDepartment (t : OrgTree) (id : String) (d : Department) : OrgTree :=
  { t with departments := t.departments.put id d }

def putTeam (t : OrgTree) (id : String) (team : Team) : OrgTree :=
  { t with teams := t.teams.put id team }

def dropTeam (t : OrgTree) (id : String) : OrgTree := { t with teams := t.teams.erase id }

def putMembers (t : OrgTree) (id : String) (set : NameSet) : OrgTree :=
  { t with members := t.members.put id set }

/-- Hand what belongs to one department to its parent. -/
def handOver (id : String) (parent : Option String) (owner : Option String) : Option String :=
  if owner = some id then parent else owner

/-- Put the children of a department under its parent. -/
def handOverChildren (t : OrgTree) (id : String) (parent : Option String) : OrgTree :=
  { t with departments := t.departments.mapValues fun _ d =>
    { d with parentId := handOver id parent d.parentId } }

/-- Put the teams of a department into its parent. -/
def handOverTeams (t : OrgTree) (id : String) (parent : Option String) : OrgTree :=
  { t with teams := t.teams.mapValues fun _ team =>
    { team with departmentId := handOver id parent team.departmentId } }

/-- Make the members of a department members of its parent; without a parent they stay with the
organization. -/
def handOverMembers (t : OrgTree) (id : String) : Option String → OrgTree
  | none =>
    { t with members := t.members.erase id, unattached := t.unattached.union (t.memberSet id) }
  | some parent =>
    let left := { t with members := t.members.erase id }
    left.putMembers parent ((left.memberSet parent).union (t.memberSet id))

/-- Take a department out, never to come back. -/
def retire (t : OrgTree) (id : String) : OrgTree :=
  { t with departments := t.departments.erase id, retired := t.retired.insert id }

/-! ## Edits -/

/-- Add a department under a parent, or as a root. -/
def create (id : String) (parent : Option String) (name : String)
    (compliance : List (String × Value)) : Editing Department := do
  check (·.checkUnused id)
  let depth ← check (·.parentDepth parent)
  check (·.checkDepth (depth + 1))
  check (·.checkName name parent none)
  let organization ← look OrgTree.organization
  let d : Department := ⟨id, organization.id, parent, name, compliance⟩
  write (·.putDepartment id d)
  return d

/-- Put a department and all below it under another parent, or make it a root. -/
def move (id : String) (parent : Option String) : Editing Department := do
  let d ← check (·.existing id)
  check (·.checkNotUnder id parent)
  let depth ← check (·.parentDepth parent)
  check fun t => t.checkDepth (depth + t.subtreeHeight id)
  check (·.checkName d.name parent (some id))
  let moved := { d with parentId := parent }
  write (·.putDepartment id moved)
  return moved

/-- Remove a department; its parent takes over children, teams and members. -/
def delete (id : String) : Editing Removal := do
  let d ← check (·.existing id)
  let children ← look (·.childrenOf (some id))
  check (·.checkNames d.parentId (some id) children)
  write (·.handOverChildren id d.parentId)
  let teams ← look (·.teamsOf id)
  write (·.handOverTeams id d.parentId)
  let members ← look (·.memberSet id)
  write (·.handOverMembers id d.parentId)
  write (·.retire id)
  return ⟨d, d.parentId, children.map (·.id), teams.map (·.id), members⟩

/-- Make a user a member of a department. -/
def addMember (id user : String) : Editing Unit := do
  let _ ← check (·.existing id)
  let set ← look (·.memberSet id)
  write (·.putMembers id (set.insert user))

/-- Take a user out of a department; nothing happens where there is nothing to take out. -/
def removeMember (id user : String) : Editing Unit := do
  match ← look (·.members.get? id) with
  | none => return ()
  | some set => write (·.putMembers id (set.erase user))

/-- Put a team into a department, or directly under the organization, if its identifier passes a
question. -/
def fileTeam (question : OrgTree → String → Except Failure Unit) (id : String)
    (department : Option String) : Editing Team := do
  check fun t => question t id
  check (·.checkDepartment department)
  let organization ← look OrgTree.organization
  let team : Team := ⟨id, organization.id, department⟩
  write (·.putTeam id team)
  return team

def addTeam (id : String) (department : Option String) : Editing Team :=
  fileTeam checkNewTeam id department

/-- Put a team into another department, or directly under the organization. -/
def moveTeam (id : String) (department : Option String) : Editing Team :=
  fileTeam checkTeam id department

def removeTeam (id : String) : Editing Unit := do
  check (·.checkTeam id)
  write (·.dropTeam id)

/-- Put a department into the tree as it is, unchecked: for data that comes from elsewhere. -/
def inject (t : OrgTree) (d : Department) : OrgTree :=
  { t with departments := t.departments.put d.id d }

end OrgTree

/-- A change of an organization tree. -/
inductive Edit where
  | create (id : String) (parent : Option String) (name : String)
      (compliance : List (String × Value))
  | move (id : String) (parent : Option String)
  | delete (id : String)
  | addMember (id user : String)
  | removeMember (id user : String)
  | addTeam (id : String) (department : Option String)
  | moveTeam (id : String) (department : Option String)
  | removeTeam (id : String)
  deriving Repr

/-- What a change of a tree answers. -/
inductive EditAnswer where
  | department (d : Department)
  | removal (r : Removal)
  | team (t : Team)
  | done
  deriving Repr

namespace Edit

def steps : Edit → Editing EditAnswer
  | create id parent name compliance =>
    return .department (← OrgTree.create id parent name compliance)
  | move id parent => return .department (← OrgTree.move id parent)
  | delete id => return .removal (← OrgTree.delete id)
  | addMember id user => do
    OrgTree.addMember id user
    return .done
  | removeMember id user => do
    OrgTree.removeMember id user
    return .done
  | addTeam id department => return .team (← OrgTree.addTeam id department)
  | moveTeam id department => return .team (← OrgTree.moveTeam id department)
  | removeTeam id => do
    OrgTree.removeTeam id
    return .done

/-- Carry out a change, or refuse it. -/
def apply (e : Edit) (t : OrgTree) : Except Failure (OrgTree × EditAnswer) :=
  match e.steps.on t with
  | (.ok answer, next) => .ok (next, answer)
  | (.error f, _) => .error f

/-- The tree that a change leaves, carried out or refused. -/
def after (t : OrgTree) (e : Edit) : OrgTree := (e.steps.on t).2

def logger : String := "authzcore.permissions.departments"

/-- An identifier, or the word for no value. -/
def idOrNone (id : Option String) : String := id.getD "None"

/-- The entry of a change that was carried out, where it has one. -/
def entries : Edit → EditAnswer → List LogEntry
  | create id parent _ _, _ =>
    [.plain .info logger ("Created department " ++ id ++ " (parent=" ++ idOrNone parent ++ ")")]
  | move id parent, _ =>
    [.plain .info logger ("Moved department " ++ id ++ " under " ++ idOrNone parent)]
  | delete id, .removal r =>
    [.plain .info logger ("Deleted department " ++ id ++ ": " ++
      toString r.departments.length ++ " departments, " ++ toString r.teams.length ++ " teams, " ++
      toString r.members.size ++ " members moved to " ++
      (given? r.newParentId).getD "organization")]
  | _, _ => []

end Edit

end TenantAccess
