import TenantAccess.Proofs.OrgTree.Runs

/-! # Deleting a department

Deleting a department rewires four collections, one after another: the departments below it, the
teams in it, the member sets, and the departments themselves. Here is what each of them is like
afterwards. What belonged to the department belongs to its parent, or to the organization where there
is none; whatever else there was is where it was, and the answer lists what has moved.
-/

namespace TenantAccess.OrgTree

open Editing

/-- Those who belong to a department, or to the organization and no department. -/
def membersAt (t : OrgTree) : Option String → NameSet
  | none => t.unattached
  | some id => t.memberSet id

/-- How a tree goes on without a department, when all that it had goes to an heir. -/
structure HandsOver (t : OrgTree) (id : String) (heir : Option String) (next : OrgTree) :
    Prop where
  live : next.departments.keys = t.departments.keys.filter fun other => other ≠ id
  children : ∀ child d, t.departments.get? child = some d → d.parentId = some id →
    next.departments.get? child = some { d with parentId := heir }
  departments : ∀ other d, other ≠ id → t.departments.get? other = some d → d.parentId ≠ some id →
    next.departments.get? other = some d
  /-- Every other department is under those that it was under, but for the one that is gone. -/
  ancestors : ∀ other, other ≠ id → t.departments.contains other = true →
    ∃ above, t.ancestors other = .ok above ∧
      next.ancestors other = .ok (above.filter fun higher => higher ≠ id)
  teamKeys : next.teams.keys = t.teams.keys
  teamsWithin : ∀ key team, t.teams.get? key = some team → team.departmentId = some id →
    next.teams.get? key = some { team with departmentId := heir }
  teams : ∀ key team, t.teams.get? key = some team → team.departmentId ≠ some id →
    next.teams.get? key = some team
  heirMembers : ∀ user, user ∈ next.membersAt heir ↔
    user ∈ t.membersAt heir ∨ user ∈ t.membersAt (some id)
  members : ∀ owner, owner ≠ heir → owner ≠ some id → next.membersAt owner = t.membersAt owner
  noMembers : next.members.get? id = none
  organization : next.organization = t.organization
  maxDepth : next.maxDepth = t.maxDepth
  retired : ∀ other, other ∈ next.retired ↔ other = id ∨ other ∈ t.retired

/-- What an answer says about a department that is taken out of a tree. -/
structure Lists (t : OrgTree) (id : String) (removal : Removal) : Prop where
  department : t.departments.get? id = some removal.department
  newParent : removal.newParentId = removal.department.parentId
  departments : removal.departments.Nodup ∧ ∀ child, child ∈ removal.departments ↔
    ∃ d, t.departments.get? child = some d ∧ d.parentId = some id
  teams : removal.teams.Nodup ∧ ∀ key, key ∈ removal.teams ↔
    ∃ team, t.teams.get? key = some team ∧ team.departmentId = some id
  members : ∀ user, user ∈ removal.members ↔ user ∈ t.membersAt (some id)

variable {t : OrgTree} {id : String} {parent owner : Option String} {d : Department}

/-! ## Departments and teams -/

theorem keys_departments_without :
    (t.without id parent).departments.keys = t.departments.keys.filter fun other => other ≠ id := by
  rw [departments_without, Table.keys_erase, handOverChildren, Table.keys_mapValues]

theorem keys_teams_without : (t.without id parent).teams.keys = t.teams.keys := by
  rw [teams_without, handOverTeams, Table.keys_mapValues]

theorem WellFormed.ancestors_without (wf : t.WellFormed) {other : String}
    (gone : t.departments.get? id = some d) (differs : other ≠ id)
    (live : t.departments.contains other = true) :
    ∃ above, t.ancestors other = .ok above ∧
      (t.without id d.parentId).ancestors other =
        .ok (above.filter fun higher => higher ≠ id) := by
  obtain ⟨found, held⟩ := Table.contains_iff.mp live
  obtain ⟨above, h, -, -⟩ := wf.lineage_of_held held
  have shorter := lineage_without gone differs h
  rw [List.filter_cons_of_pos (by simpa using differs)] at shorter
  exact ⟨above, ancestors_of_lineage h, ancestors_of_lineage shorter⟩

/-! ## Members -/

theorem membersAt_without (beside : owner ≠ parent) (differs : owner ≠ some id) :
    (t.without id parent).membersAt owner = t.membersAt owner := by
  cases owner with
  | none =>
      cases parent with
      | none => exact absurd rfl beside
      | some above => rfl
  | some other =>
      have differs : other ≠ id := fun same => differs (congrArg some same)
      rw [membersAt, memberSet, get?_members_without_of_ne beside differs]
      rfl

theorem mem_membersAt_without {user : String} (other : parent ≠ some id) :
    user ∈ (t.without id parent).membersAt parent ↔
      user ∈ t.membersAt parent ∨ user ∈ t.membersAt (some id) := by
  cases parent with
  | none => exact NameSet.mem_union
  | some above =>
      have differs : above ≠ id := fun same => other (congrArg some same)
      have stored : (t.without id (some above)).members.get? above =
          some ((((t.members.erase id).get? above).getD .empty).union (t.memberSet id)) :=
        Table.get?_put_self _ _ _
      change user ∈ ((t.without id (some above)).members.get? above).getD .empty ↔ _
      rw [stored, Option.getD_some, NameSet.mem_union, Table.get?_erase, if_neg differs]
      rfl

/-! ## The tree and the answer -/

theorem WellFormed.handsOver (wf : t.WellFormed) (gone : t.departments.get? id = some d) :
    t.HandsOver id d.parentId (t.without id d.parentId) := by
  have other : d.parentId ≠ some id := wf.not_own_parent gone
  refine
    { live := keys_departments_without
      children := fun child found held under => ?children
      departments := fun other found differs held stays => ?departments
      ancestors := fun other differs live => wf.ancestors_without gone differs live
      teamKeys := keys_teams_without
      teamsWithin := fun key team held within => ?teamsWithin
      teams := fun key team held stays => ?teams
      heirMembers := fun user => mem_membersAt_without other
      members := fun owner beside differs => membersAt_without beside differs
      noMembers := get?_members_without_self other
      organization := organization_without
      maxDepth := maxDepth_without
      retired := fun other => mem_retired_without }
  case children =>
    have differs : child ≠ id := by
      rintro rfl
      exact wf.not_own_parent held under
    rw [department_without d.parentId differs held, under, handOver_self]
  case departments =>
    rw [department_without d.parentId differs held, handOver_of_ne stays]
  case teamsWithin =>
    refine team_without_eq_some_iff.mpr ⟨team, held, ?_⟩
    rw [within, handOver_self]
  case teams =>
    refine team_without_eq_some_iff.mpr ⟨team, held, ?_⟩
    rw [handOver_of_ne stays]

theorem Filed.lists (filed : t.Filed) (held : t.departments.get? id = some d) :
    t.Lists id ⟨d, d.parentId, (t.childrenOf (some id)).map (·.id), (t.teamsOf id).map (·.id),
      t.memberSet id⟩ := by
  have departments := fun key d held => (filed.department key d held).1
  have teams := fun key team held => (filed.team key team held).1
  refine ⟨held, rfl, ⟨Table.nodup_map_filter_values departments _, fun child => ?_⟩,
    ⟨Table.nodup_map_filter_values teams _, fun key => ?_⟩, fun user => Iff.rfl⟩
  · refine (Table.mem_map_filter_values_iff departments).trans ?_
    simp only [decide_eq_true_eq]
  · refine (Table.mem_map_filter_values_iff teams).trans ?_
    simp only [decide_eq_true_eq]

/-- In a tree that starts empty, whatever edits came before: where a department is deleted, all that
it had goes to its parent, or to the organization where it had none, everything else stays where it
was, and the answer lists what has gone over. -/
theorem delete_hands_over (organization : Organization) (maxDepth : Int) (edits : List Edit) :
    let t := (empty organization maxDepth).afterAll edits
    ∀ id answer, ((Edit.delete id).steps.on t).1 = .ok answer →
      ∃ removal, answer = .removal removal ∧ t.Lists id removal ∧
        t.HandsOver id removal.newParentId (Edit.after t (.delete id)) := by
  intro t id answer accepted
  have wf : t.WellFormed := (wellFormed_empty organization maxDepth).afterAll edits
  have done : (Edit.delete id).steps.on t = (.ok answer, Edit.after t (.delete id)) :=
    Prod.ext accepted rfl
  obtain ⟨removal, deleted, rfl⟩ := on_bind_pure_eq_ok_iff.mp done
  obtain ⟨d, held, -, rfl, left⟩ := delete_eq_ok_iff.mp deleted
  exact ⟨_, rfl, wf.lists held, left ▸ wf.handsOver held⟩

end TenantAccess.OrgTree

namespace TenantAccess

namespace Sample

/-- Three departments below one another, with a team and a member in the middle one and a member in
two. -/
def manned : List Edit :=
  [.create "d-1" none "North" [], .create "d-2" (some "d-1") "Harbour" [],
    .create "d-3" (some "d-2") "Pier" [], .addTeam "t-1" (some "d-2"), .addMember "d-1" "u-1",
    .addMember "d-2" "u-1", .addMember "d-2" "u-2"]

def mannedRemoval : Removal :=
  ⟨⟨"d-2", "org-1", some "d-1", "Harbour", []⟩, some "d-1", ["d-3"], ["t-1"],
    .ofList ["u-1", "u-2"]⟩

end Sample

theorem OrgTree.delete_hands_over_manned :
    let t := (empty ⟨"org-1", "Org"⟩ 3).afterAll Sample.manned
    ((Edit.delete "d-2").steps.on t).1 = .ok (.removal Sample.mannedRemoval) ∧
      t.Lists "d-2" Sample.mannedRemoval ∧
      t.HandsOver "d-2" (some "d-1") (Edit.after t (.delete "d-2")) := by
  intro t
  have accepted : ((Edit.delete "d-2").steps.on t).1 = .ok (.removal Sample.mannedRemoval) := rfl
  obtain ⟨removal, same, lists, handsOver⟩ :=
    delete_hands_over ⟨"org-1", "Org"⟩ 3 Sample.manned "d-2" _ accepted
  cases same
  exact ⟨accepted, lists, handsOver⟩

end TenantAccess
