import TenantAccess.Hierarchy.Snapshot

/-! # Chains

The levels that a request passes through: the organization, the departments from the
outermost inwards, and the team. Departments are found by walking upwards; the walk ends at
a department without a parent, or at the first obstacle.
-/

namespace TenantAccess

/-- The greatest number of departments on a path unless someone sets another. -/
def standardMaxDepth : Int := 32

/-- One level of a hierarchy. -/
structure Level where
  kind : EntityKind
  entityId : String
  deriving Repr, DecidableEq

namespace Snapshot

/-- Walk upwards from `current`. `seen` are the departments visited, `below` those collected,
outermost first, and `room` is how many more may be collected. -/
def climb (s : Snapshot) (start : String) :
    Nat → List String → List Department → String → Except Fault (List Department)
  | room, seen, below, current =>
    if current ∈ seen then .error (.departmentCycle current)
    else
      match room with
      | 0 => .error (.chainTooDeep start)
      | room + 1 =>
        match s.departments.get? current with
        | none => .error (.departmentNotFound current)
        | some d =>
          if d.organizationId ≠ s.organization.id then .error (.departmentOutside current)
          else
            match d.parentId with
            | none => .ok (d :: below)
            | some parent => climb s start room (current :: seen) (d :: below) parent

/-- The departments from the outermost ancestor down to the given one. -/
def departmentChain (s : Snapshot) (maxDepth : Int) (id : String) :
    Except Fault (List Department) :=
  s.climb id maxDepth.toNat [] [] id

/-- The department that a request stands in: the given one, which must be the team's if the
team has one, or else the team's. -/
def standingIn (s : Snapshot) (organizationId : String) (departmentId teamId : Option String) :
    Except Fault (Option String) :=
  match teamId with
  | none => .ok departmentId
  | some id => do
    let team ← s.team id
    if team.organizationId ≠ organizationId then .error (.teamOutside id)
    else
      match departmentId with
      | none => .ok team.departmentId
      | some d =>
        if team.departmentId.isSome ∧ team.departmentId ≠ some d then
          .error (.teamNotInDepartment id)
        else .ok (some d)

/-- The levels of the departments above and including the given one. -/
def departmentLevels (s : Snapshot) (maxDepth : Int) :
    Option String → Except Fault (List Level)
  | none => .ok []
  | some id => (s.departmentChain maxDepth id).map (·.map fun d => ⟨.department, d.id⟩)

def teamLevels : Option String → List Level
  | none => []
  | some id => [⟨.team, id⟩]

/-- The levels that a request passes through, outermost first. -/
def levels (s : Snapshot) (maxDepth : Int) (organizationId : String)
    (departmentId teamId : Option String) : Except Fault (List Level) :=
  if s.organization.id ≠ organizationId then .error .snapshotMismatch
  else do
    let department ← s.standingIn organizationId departmentId teamId
    let departments ← s.departmentLevels maxDepth department
    return ⟨.organization, organizationId⟩ :: (departments ++ teamLevels teamId)

end Snapshot

end TenantAccess
