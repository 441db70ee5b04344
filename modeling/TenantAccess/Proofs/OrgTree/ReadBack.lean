import TenantAccess.Proofs.Decision.Conditions
import TenantAccess.Proofs.Hierarchy.Chains
import TenantAccess.Proofs.Hierarchy.Walk
import TenantAccess.Proofs.OrgTree.Runs

/-! # Reading a tree back

Trees are written by edits and read through snapshots, and either side walks up the departments in
its own way, with its own limits and its own refusals. Here the two are compared: both walks follow
the lineage of a department, which a well-formed tree has, so a reader whose bound is no less than
the tree's finds what the tree answers, and no request on such a snapshot fails to be resolved.
-/

namespace TenantAccess

namespace OrgTree

variable {t : OrgTree} {rows : List Row} {bound : Int} {place teamId : Option String}

/-- The snapshot that shows the departments and teams of a tree as they are filed. -/
def view (t : OrgTree) (rows : List Row) : Snapshot where
  organization := t.organization
  departments := t.departments
  teams := t.teams
  rows := Table.ofList (rows.map fun r => (r.key, r))

theorem snapshot_of_filed (filed : t.Filed)
    (ours : ∀ row ∈ rows, row.organizationId = t.organization.id) :
    t.snapshot rows = .ok (t.view rows) := by
  have departments : t.departments.values.find? (·.organizationId ≠ t.organization.id) = none := by
    refine List.find?_eq_none.mpr fun d member => ?_
    obtain ⟨id, held⟩ := Table.mem_values_iff.mp member
    simp [(filed.department id d held).2]
  have teams : t.teams.values.find? (·.organizationId ≠ t.organization.id) = none := by
    refine List.find?_eq_none.mpr fun team member => ?_
    obtain ⟨id, held⟩ := Table.mem_values_iff.mp member
    simp [(filed.team id team held).2]
  have matrix : rows.find? (·.organizationId ≠ t.organization.id) = none := by
    refine List.find?_eq_none.mpr fun row member => ?_
    simp [ours row member]
  simp only [snapshot, Snapshot.build, Snapshot.foreignRecord?, departments, teams, matrix,
    Option.map_none, Snapshot.gather, view,
    Table.ofList_values Department.id fun id d held => (filed.department id d held).1,
    Table.ofList_values Team.id fun id team held => (filed.team id team held).1]

/-- What a reader within whose bound a tree lies finds in a snapshot of it. -/
structure ReadBack (t : OrgTree) (s : Snapshot) : Prop where
  /-- A chain ends at its department and goes through the ancestors, farthest first. -/
  chain : ∀ bound id, t.maxDepth ≤ bound → t.departments.contains id = true →
    ∃ above chain, t.ancestors id = .ok above ∧ s.departmentChain bound id = .ok chain ∧
      chain.map (·.id) = above.reverse ++ [id] ∧
      chain.map some = (above.reverse ++ [id]).map t.departments.get? ∧
      t.depthOf id = .ok chain.length
  /-- The steps to a team are the organization, the chain of its department, and the team. -/
  steps : ∀ bound roles role pair id team, t.maxDepth ≤ bound → t.teams.get? id = some team →
    ∃ inner r, s.departmentLevels bound team.departmentId = .ok inner ∧
      s.resolve roles bound t.organization.id none (some id) role pair = .ok r ∧
      r.steps.map (·.level) = ⟨.organization, t.organization.id⟩ :: (inner ++ [⟨.team, id⟩])
  /-- A target in the organization, and in one of its teams if in any, can be resolved. -/
  resolved : ∀ (e : Engine) user pair target, t.maxDepth ≤ e.maxDepth →
    target.validate = .ok () → target.organizationId = some t.organization.id →
    (∀ id, target.teamId = some id → t.teams.contains id = true) →
    (e.decide user pair (some target) (some s)).code ≠ some .resolutionError

namespace WellFormed

theorem named_view (wf : t.WellFormed) (rows : List Row) :
    ∀ id d, (t.view rows).departments.get? id = some d → d.id = id :=
  fun id d held => (wf.department id d held).1

theorem owns_view (wf : t.WellFormed) (rows : List Row) (line : List String) :
    (t.view rows).Owns line :=
  fun id _ d held => (wf.department id d held).2

theorem chain_view (wf : t.WellFormed) (rows : List Row) (within : t.maxDepth ≤ bound) {id : String}
    (live : t.departments.contains id = true) :
    ∃ above chain, t.ancestors id = .ok above ∧ (t.view rows).departmentChain bound id = .ok chain ∧
      chain.map (·.id) = above.reverse ++ [id] ∧
      chain.map some = (above.reverse ++ [id]).map t.departments.get? ∧
      t.depthOf id = .ok chain.length := by
  obtain ⟨d, held⟩ := Table.contains_iff.mp live
  obtain ⟨above, h, -, enough⟩ := wf.lineage_of_held held
  have seen : Lineage (t.view rows).departments (some id) (id :: above) := h
  refine ⟨above, (t.view rows).inwards (id :: above), ancestors_of_lineage h, ?_, ?_, ?_, ?_⟩
  · exact Snapshot.departmentChain_eq_ok_iff.mpr
      ⟨id :: above, seen, wf.owns_view rows _, by omega, rfl⟩
  · rw [Snapshot.map_id_inwards (wf.named_view rows) seen, List.reverse_cons]
  · rw [Snapshot.map_some_inwards seen, List.reverse_cons]
    rfl
  · rw [Snapshot.length_inwards seen]
    exact depthOf_of_lineage h

/-- A place in a well-formed tree has a lineage within the bound of the reader. -/
theorem lineage_within (wf : t.WellFormed) (within : t.maxDepth ≤ bound)
    (live : ∀ id, place = some id → t.departments.contains id = true) :
    ∃ line, Lineage t.departments place line ∧ line.length ≤ bound.toNat := by
  cases place with
  | none => exact ⟨[], .top, Nat.zero_le _⟩
  | some id =>
      obtain ⟨d, held⟩ := Table.contains_iff.mp (live id rfl)
      obtain ⟨line, h, enough⟩ := wf.rooted id d held
      exact ⟨line, h, by omega⟩

/-- The walk to where a request stands passes through the levels that a reader finds. -/
theorem resolve_view (wf : t.WellFormed) (rows : List Row) (within : t.maxDepth ≤ bound)
    (standing : (t.view rows).standingIn t.organization.id none teamId = .ok place)
    (live : ∀ id, place = some id → t.departments.contains id = true)
    (roles : RoleTable) (role : String) (pair : Pair) :
    ∃ inner r, (t.view rows).departmentLevels bound place = .ok inner ∧
      (t.view rows).resolve roles bound t.organization.id none teamId role pair = .ok r ∧
      r.steps.map (·.level) =
        ⟨.organization, t.organization.id⟩ :: (inner ++ Snapshot.teamLevels teamId) := by
  obtain ⟨line, h, enough⟩ := wf.lineage_within within live
  have named := wf.named_view rows
  have owns := wf.owns_view rows line
  have levels := (Snapshot.levels_eq_ok_iff named).mpr
    ⟨rfl, place, line, standing, h, owns, enough, rfl⟩
  refine ⟨Snapshot.levelsOn line, _, ?_, Snapshot.resolve_eq_ok_iff.mpr ⟨_, levels, rfl⟩,
    Resolution.map_level_steps _ _ _⟩
  exact (Snapshot.departmentLevels_eq_ok_iff named).mpr ⟨line, h, owns, enough, rfl⟩

theorem standingIn_view (wf : t.WellFormed) (rows : List Row) {id : String} {team : Team}
    (held : t.teams.get? id = some team) :
    (t.view rows).standingIn t.organization.id none (some id) = .ok team.departmentId := by
  have own : ¬ team.organizationId ≠ t.organization.id := by simpa using (wf.team id team held).2
  have found : (t.view rows).team id = .ok team := by simp only [Snapshot.team, view, held]
  simp only [Snapshot.standingIn, found, bind, Except.bind, if_neg own]

/-- Nothing stands in the way of a target in the organization. -/
theorem consulted_view (wf : t.WellFormed) (rows : List Row) {e : Engine} (user : User) (pair : Pair)
    {target : Target} (within : t.maxDepth ≤ e.maxDepth) (valid : target.validate = .ok ())
    (ours : target.organizationId = some t.organization.id)
    (team : ∀ id, target.teamId = some id → t.teams.contains id = true) :
    ∃ o, e.Consulted user pair (some (t.view rows)) (some target) o := by
  cases named : given? target.organizationId with
  | none => exact ⟨none, .outside valid named⟩
  | some organizationId =>
      have same : t.organization.id = organizationId := by
        rw [ours, given?, Option.filter_eq_some_iff] at named
        exact Option.some.inj named.1
      subst same
      have walked : ∃ r, (t.view rows).resolve e.roles e.maxDepth t.organization.id none
          target.teamId user.role pair = .ok r := by
        cases asked : target.teamId with
        | none =>
            have standing : (t.view rows).standingIn t.organization.id none none = .ok none := rfl
            obtain ⟨-, r, -, walked, -⟩ :=
              wf.resolve_view rows within standing nofun e.roles user.role pair
            exact ⟨r, walked⟩
        | some id =>
            obtain ⟨team, held⟩ := Table.contains_iff.mp (team id asked)
            obtain ⟨-, r, -, walked, -⟩ := wf.resolve_view rows within
              (wf.standingIn_view rows held) (wf.teamLive id team · held) e.roles user.role pair
            exact ⟨r, walked⟩
      obtain ⟨r, walked⟩ := walked
      exact ⟨_, .inside valid named rfl rfl walked⟩

theorem readBack (wf : t.WellFormed) (rows : List Row) : t.ReadBack (t.view rows) where
  chain bound id within live := wf.chain_view rows within live
  steps bound roles role pair id team within held :=
    wf.resolve_view rows within (wf.standingIn_view rows held) (wf.teamLive id team · held)
      roles role pair
  resolved e user pair target within valid ours team := by
    obtain ⟨o, consulted⟩ := wf.consulted_view rows user pair within valid ours team
    by_cases admin : user.role = Role.systemAdminId
    · simp [Engine.decide, Engine.deliberate, admin, Engine.letThrough, Decision.allow]
    · rcases Engine.decide_cases e pair (some target) (some (t.view rows)) admin with
        ⟨_, scope, privilege, -, -, -, allowed⟩ | ⟨code, reason, failing, denied⟩
      · simp [allowed, Decision.allow]
      · rw [denied]
        rintro ⟨⟩
        cases failing with
        | unresolved h => exact h ⟨o, consulted⟩

end WellFormed

/-- Whatever edits made a tree, a snapshot of it with rows of the organization can be taken, and a
reader whose bound is no less than the tree's finds in it what the tree answers. -/
theorem readBack_afterAll (organization : Organization) (maxDepth : Int) (edits : List Edit)
    (rows : List Row) (ours : ∀ row ∈ rows, row.organizationId = organization.id) :
    let t := (empty organization maxDepth).afterAll edits
    t.organization = organization ∧ t.maxDepth = maxDepth ∧
      ∃ s, t.snapshot rows = .ok s ∧ t.ReadBack s := by
  intro t
  have wf : t.WellFormed := (wellFormed_empty organization maxDepth).afterAll edits
  obtain ⟨same, bound⟩ : t.organization = organization ∧ t.maxDepth = maxDepth :=
    frame_afterAll _ edits
  refine ⟨same, bound, t.view rows, snapshot_of_filed wf.toFiled ?_, wf.readBack rows⟩
  rwa [same]

end OrgTree

namespace Sample

/-- Two departments, one under the other, a move that is refused, and a team at the bottom. -/
def edits : List Edit :=
  [.create "d-1" none "North" [], .create "d-2" (some "d-1") "Harbour" [],
    .move "d-1" (some "d-2"), .addTeam "t-1" (some "d-2")]

def tree : OrgTree := (OrgTree.empty ⟨"org-1", "Org"⟩ 2).afterAll edits

end Sample

theorem OrgTree.readBack_sample :
    Sample.tree.departments.keys = ["d-1", "d-2"] ∧ Sample.tree.teams.keys = ["t-1"] ∧
      (∀ row ∈ [Sample.teamRule], row.organizationId = "org-1") ∧
      ∃ s, Sample.tree.snapshot [Sample.teamRule] = .ok s ∧ Sample.tree.ReadBack s :=
  have ours : ∀ row ∈ [Sample.teamRule], row.organizationId = "org-1" := by decide
  ⟨by decide, by decide, ours,
    (readBack_afterAll ⟨"org-1", "Org"⟩ 2 Sample.edits [Sample.teamRule] ours).2.2⟩

end TenantAccess
