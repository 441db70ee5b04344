import TenantAccess.Hierarchy.Chain

/-! # What levels depend on

The levels that a request passes through are read off the organization, the departments and the
teams of a snapshot, and of a department only its identifier, its organization and its parent
matter. The matrix rows have no say in the levels, and neither has the order in which departments
and teams are listed.
-/

namespace TenantAccess

/-- What a walk upwards reads off a department. -/
def Department.frame (d : Department) : String × String × Option String :=
  (d.id, d.organizationId, d.parentId)

namespace Snapshot

variable {s s' : Snapshot}

theorem climb_congr (organization : s'.organization = s.organization)
    (departments : ∀ id, (s'.departments.get? id).map Department.frame =
      (s.departments.get? id).map Department.frame) (start : String)
    (room : Nat) (seen : List String) {below below' : List Department}
    (collected : below'.map (·.id) = below.map (·.id)) (current : String) :
    (s'.climb start room seen below' current).map (List.map (·.id)) =
      (s.climb start room seen below current).map (List.map (·.id)) := by
  induction room generalizing seen below below' current with
  | zero => rw [climb, climb]
  | succ room ih =>
      have same := departments current
      rw [climb, climb, organization]
      split
      · rfl
      cases held : s.departments.get? current with
      | none =>
          rw [held, Option.map_none, Option.map_eq_none_iff] at same
          simp only [same]
      | some d =>
          rw [held, Option.map_some] at same
          obtain ⟨d', held', framed⟩ := Option.map_eq_some_iff.mp same
          obtain ⟨id, organizationId, parentId⟩ :
              d'.id = d.id ∧ d'.organizationId = d.organizationId ∧ d'.parentId = d.parentId := by
            simpa [Department.frame] using framed
          have longer : (d' :: below').map (·.id) = (d :: below).map (·.id) := by
            rw [List.map_cons, List.map_cons, id, collected]
          simp only [held', organizationId, parentId]
          split
          · rfl
          · cases d.parentId with
            | none => exact congrArg Except.ok longer
            | some parent => exact ih (current :: seen) longer parent

theorem levels_congr (organization : s'.organization = s.organization)
    (departments : ∀ id, (s'.departments.get? id).map Department.frame =
      (s.departments.get? id).map Department.frame)
    (teams : ∀ id, s'.teams.get? id = s.teams.get? id) (maxDepth : Int) (organizationId : String)
    (departmentId teamId : Option String) :
    s'.levels maxDepth organizationId departmentId teamId =
      s.levels maxDepth organizationId departmentId teamId := by
  have standing : s'.standingIn organizationId departmentId teamId =
      s.standingIn organizationId departmentId teamId := by
    unfold standingIn team
    cases teamId with
    | none => rfl
    | some id => simp only [teams id]
  have chains (id : Option String) :
      s'.departmentLevels maxDepth id = s.departmentLevels maxDepth id := by
    cases id with
    | none => rfl
    | some id =>
        have named (chain : Except Fault (List Department)) :
            chain.map (·.map fun d => (⟨.department, d.id⟩ : Level)) =
              (chain.map (List.map (·.id))).map (List.map fun id => ⟨.department, id⟩) := by
          cases chain <;> simp [Except.map]
        rw [departmentLevels, departmentLevels, named, named, departmentChain, departmentChain,
          climb_congr organization departments id maxDepth.toNat [] rfl id]
  unfold levels
  rw [organization, standing]
  simp only [chains]

end Snapshot

end TenantAccess
