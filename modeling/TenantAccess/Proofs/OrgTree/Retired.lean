import TenantAccess.Proofs.Hierarchy.Differences
import TenantAccess.Proofs.OrgTree.ReadBack

/-! # Retired identifiers

The identifier of a deleted department is out of use for good. Edits only ever add to the retired
identifiers, and in a well-formed tree a retired identifier names no department, is nobody's parent
and holds no team. So a walk through a snapshot never comes to its level, and rows that are left over
for it in the matrix are never listened to.
-/

namespace TenantAccess

namespace OrgTree

open Editing

variable {t : OrgTree} {id : String} {rows : List Row}

/-! ## Once retired, always retired -/

theorem retired_after (retired : id ∈ t.retired) (e : Edit) : id ∈ (Edit.after t e).retired := by
  rcases after_cases t e with same | ⟨answer, done⟩
  · rwa [same]
  · obtain ⟨-, -, retires⟩ := frame_steps done
    exact (retires id).mpr (.inr retired)

theorem retired_afterAll (retired : id ∈ t.retired) (edits : List Edit) :
    id ∈ (t.afterAll edits).retired := by
  induction edits generalizing t with
  | nil => exact retired
  | cons e rest ih => exact ih (retired_after retired e)

theorem retired_of_deleted {answer : EditAnswer}
    (deleted : ((Edit.delete id).steps.on t).1 = .ok answer) :
    id ∈ (Edit.after t (.delete id)).retired := by
  have done : (Edit.delete id).steps.on t = (.ok answer, Edit.after t (.delete id)) :=
    Prod.ext deleted rfl
  obtain ⟨-, -, retires⟩ := frame_steps done
  exact (retires id).mpr (.inl rfl)

/-! ## What a tree no longer does with an identifier -/

/-- Rows without those for the department of an identifier. -/
def rowsWithout (id : String) (rows : List Row) : List Row :=
  rows.filter fun row => !row.standsAt ⟨.department, id⟩

/-- An identifier that a tree has no use for. -/
structure Dead (t : OrgTree) (id : String) : Prop where
  /-- It names no department. -/
  absent : t.departments.contains id = false
  /-- No department can be created under it. -/
  refused : ∀ parent name compliance, (Edit.create id parent name compliance).steps.on t =
    (.error (.fault (.departmentRetired id)), t)
  /-- It is no department's parent. -/
  childless : ∀ other d, t.departments.get? other = some d → d.parentId ≠ some id
  /-- No team is in it. -/
  teamless : ∀ other team, t.teams.get? other = some team → team.departmentId ≠ some id
  /-- With rows for it or without them, a request is resolved alike, or fails alike. -/
  unheard : ∀ rows, (∀ row ∈ rows, row.organizationId = t.organization.id) →
    ∃ s s', t.snapshot rows = .ok s ∧ t.snapshot (rowsWithout id rows) = .ok s' ∧
      ∀ roles bound organizationId departmentId teamId role pair,
        s'.resolve roles bound organizationId departmentId teamId role pair =
          s.resolve roles bound organizationId departmentId teamId role pair

theorem create_of_retired (absent : t.departments.get? id = none) (retired : id ∈ t.retired)
    (parent : Option String) (name : String) (compliance : List (String × Value)) :
    (Edit.create id parent name compliance).steps.on t =
      (.error (.fault (.departmentRetired id)), t) := by
  have unused : t.checkUnused id = .error (.fault (.departmentRetired id)) := by
    simp [checkUnused, Table.contains, absent, retired]
  rw [Edit.steps, on_bind, create, on_bind]
  simp only [on, check, unused]

theorem filed_view (t : OrgTree) (rows : List Row) :
    ∀ key row, (t.view rows).rows.get? key = some row → row.key = key :=
  fun _ _ held => Table.keyOf_of_get?_ofList held

/-- Rows are left out of a list as they are left out of the snapshot. -/
theorem rows_view_without (t : OrgTree) (id : String) (rows : List Row) :
    (t.view (rowsWithout id rows)).rows = (t.view rows).rows.filter fun key _ =>
      !(key.kind = .department && key.entityId = id) := by
  rw [view, view, ← Table.ofList_filter, List.filter_map]
  rfl

/-- Where a department is not there, no way leads through its level. -/
theorem WellFormed.aside (wf : t.WellFormed) (absent : t.departments.get? id = none) {row : Row}
    (there : row.standsAt ⟨.department, id⟩ = true) {bound : Int} {organizationId : String}
    {departmentId teamId : Option String} {levels : List Level}
    (way : (t.view rows).levels bound organizationId departmentId teamId = .ok levels) :
    ∀ level ∈ levels, row.standsAt level = false := by
  intro level member
  obtain ⟨-, place, line, -, lineage, -, -, rfl⟩ :=
    (Snapshot.levels_eq_ok_iff (wf.named_view rows)).mp way
  refine Bool.eq_false_iff.mpr fun here => ?_
  obtain rfl : level = ⟨.department, id⟩ :=
    (Row.standsAt_iff.mp here).trans (Row.standsAt_iff.mp there).symm
  have met : id ∈ line := by
    cases teamId <;> simpa [Snapshot.levelsOn, Snapshot.teamLevels] using member
  obtain ⟨d, held⟩ := lineage.held id met
  cases absent.symm.trans held

theorem WellFormed.resolve_without (wf : t.WellFormed) (absent : t.departments.get? id = none)
    (rows : List Row) (roles : RoleTable) (bound : Int) (organizationId : String)
    (departmentId teamId : Option String) (role : String) (pair : Pair) :
    (t.view (rowsWithout id rows)).resolve roles bound organizationId departmentId teamId role pair =
      (t.view rows).resolve roles bound organizationId departmentId teamId role pair := by
  apply Snapshot.resolve_of_differ
  case organization | departments | teams => rfl
  case filed => exact t.filed_view rows
  case filed' => exact t.filed_view (rowsWithout id rows)
  case differ =>
    rw [rows_view_without]
    apply DifferIn.values_filter
    intro key row held out levels way
    have named : row.key = key := t.filed_view rows key row held
    subst named
    rw [Bool.not_eq_false', Bool.and_eq_true, decide_eq_true_eq, decide_eq_true_eq] at out
    obtain ⟨kind, entity⟩ := out
    have there : row.standsAt ⟨.department, id⟩ = true := by
      rw [Row.standsAt_iff, Level.mk.injEq]
      exact ⟨kind.symm, entity.symm⟩
    exact wf.aside absent there way

theorem WellFormed.dead (wf : t.WellFormed) (retired : id ∈ t.retired) : t.Dead id := by
  have absent : t.departments.get? id = none := wf.retiredDead id retired
  have gone : t.departments.contains id = false := by
    rw [Table.contains, absent]
    rfl
  refine ⟨gone, create_of_retired absent retired, ?childless, ?teamless, ?unheard⟩
  case childless =>
    intro other d held under
    rw [wf.parent_live held under] at gone
    cases gone
  case teamless =>
    intro other team held within
    rw [wf.teamLive other team id held within] at gone
    cases gone
  case unheard =>
    intro rows ours
    have fewer : ∀ row ∈ rowsWithout id rows, row.organizationId = t.organization.id :=
      fun row member => ours row (List.mem_of_mem_filter member)
    exact ⟨_, _, snapshot_of_filed wf.toFiled ours, snapshot_of_filed wf.toFiled fewer,
      wf.resolve_without absent rows⟩

/-- Once a department was deleted from a tree that started empty, its identifier is dead, whatever
edits come after. -/
theorem dead_afterAll (organization : Organization) (maxDepth : Int) (before after : List Edit)
    (id : String) (answer : EditAnswer)
    (deleted : ((Edit.delete id).steps.on ((empty organization maxDepth).afterAll before)).1 =
      .ok answer) :
    ((empty organization maxDepth).afterAll (before ++ .delete id :: after)).Dead id := by
  have wf := (wellFormed_empty organization maxDepth).afterAll (before ++ .delete id :: after)
  refine wf.dead ?_
  rw [afterAll, List.foldl_append]
  exact retired_afterAll (retired_of_deleted deleted) after

end OrgTree

namespace Sample

/-- What deleting the lower of the two departments hands to the upper one. -/
def harbourRemoval : Removal :=
  ⟨⟨"d-2", "org-1", some "d-1", "Harbour", []⟩, some "d-1", [], ["t-1"], .empty⟩

/-- The lower department is asked for again, and its team is to go back to it. -/
def lateEdits : List Edit :=
  [.create "d-2" none "Harbour" [], .moveTeam "t-1" (some "d-2"), .create "d-3" (some "d-1") "Port" []]

end Sample

theorem OrgTree.dead_afterAll_harbour :
    ((Edit.delete "d-2").steps.on Sample.tree).1 = .ok (.removal Sample.harbourRemoval) ∧
      ((empty ⟨"org-1", "Org"⟩ 2).afterAll
        (Sample.edits ++ .delete "d-2" :: Sample.lateEdits)).Dead "d-2" :=
  have deleted : ((Edit.delete "d-2").steps.on Sample.tree).1 =
      .ok (.removal Sample.harbourRemoval) := rfl
  ⟨deleted, dead_afterAll ⟨"org-1", "Org"⟩ 2 Sample.edits Sample.lateEdits "d-2" _ deleted⟩

end TenantAccess
