import Mathlib.Data.List.Induction
import Mathlib.Order.Bounds.Defs
import TenantAccess.Proofs.OrgTree.Accepted

/-! # How far the walks of a tree go

A tree is walked upwards by following parents and downwards by asking each department for its
children. Neither walk has a limit of its own: the walk upwards stops at a root, at a department
that it has met or at one that is not there, and the walk downwards stops where there are no
children. The two are described here as they go, without a count of their steps. In a tree that
edits have made they come to an end, the first one at a root only, and between them they measure the
tree: a longest path downwards from a department ends where the depth is greatest.
-/

namespace TenantAccess.OrgTree

open Relation

variable {t : OrgTree} {start id : String} {place : Option String} {d : Department}
  {above below path seen : List String} {fuel : Nat}
  {outcome outcome' : Except Failure (List String)}

/-! ## Upwards -/

/-- How the walk upwards goes on from a place, having met some departments, the last one first. -/
inductive Climbs (t : OrgTree) (start : String) :
    List String → Option String → Except Failure (List String) → Prop where
  /-- Above a root there is nothing, and the walk has ended. -/
  | root {seen : List String} : t.Climbs start seen none (.ok seen.reverse)
  /-- A department is met again. -/
  | cycle {seen : List String} {current : String} (again : current = start ∨ current ∈ seen) :
      t.Climbs start seen (some current) (.error (.fault (.departmentCycle start)))
  /-- A parent is looked up and not there. -/
  | missing {seen : List String} {current : String} (new : ¬ (current = start ∨ current ∈ seen))
      (absent : t.departments.get? current = none) :
      t.Climbs start seen (some current) (.error (.misuse (.danglingParent current)))
  /-- The walk goes on with the parent of a department. -/
  | parent {seen : List String} {current : String} {d : Department}
      {outcome : Except Failure (List String)} (new : ¬ (current = start ∨ current ∈ seen))
      (held : t.departments.get? current = some d)
      (rest : t.Climbs start (current :: seen) d.parentId outcome) :
      t.Climbs start seen (some current) outcome

theorem Climbs.unique (h : t.Climbs start seen place outcome)
    (h' : t.Climbs start seen place outcome') : outcome = outcome' := by
  induction h with
  | root =>
      cases h'
      rfl
  | cycle again =>
      cases h' with
      | cycle => rfl
      | missing new | parent new => exact absurd again new
  | missing new absent =>
      cases h' with
      | cycle again => exact absurd again new
      | missing => rfl
      | parent _ held => cases absent.symm.trans held
  | parent new held rest ih =>
      cases h' with
      | cycle again => exact absurd again new
      | missing _ absent => cases absent.symm.trans held
      | parent _ held' rest' =>
          cases held.symm.trans held'
          exact ih rest'

theorem climbs_climb (distinct : seen.Nodup)
    (held : ∀ id ∈ seen, ∃ d, t.departments.get? id = some d)
    (room : t.departments.size < seen.length + fuel) :
    t.Climbs start seen place (t.climb start fuel seen place) := by
  induction fuel generalizing seen place with
  | zero =>
      -- Out of steps, the walk would have met more departments than there are.
      have few := Table.length_le_size distinct held
      omega
  | succ fuel ih =>
      cases place with
      | none => exact .root
      | some current =>
          rw [climb]
          split
          · next again => exact .cycle again
          · next new =>
              split
              · next absent => exact .missing new absent
              · next d found =>
                  obtain ⟨-, fresh⟩ := not_or.mp new
                  refine .parent new found (ih (List.nodup_cons.mpr ⟨fresh, distinct⟩) ?_ ?_)
                  · exact List.forall_mem_cons.mpr ⟨⟨d, found⟩, held⟩
                  · rw [List.length_cons]
                    omega

/-- In any tree, the ancestors of a department are what the walk upwards comes to. -/
theorem climbs_ancestors (held : t.departments.get? id = some d) :
    t.Climbs id [] d.parentId (t.ancestors id) := by
  simp only [ancestors, department, held]
  exact climbs_climb List.nodup_nil (List.forall_mem_nil _) (by simp)

/-! ## Downwards -/

/-- What the walk downwards from a department counts when it has come back from all children. -/
inductive Counts (t : OrgTree) : String → Nat → Prop where
  /-- One more than the most that is counted from a child, if there are children. -/
  | children {id : String} (heights : String → Nat)
      (each : ∀ d ∈ t.childrenOf (some id), t.Counts d.id (heights d.id)) :
      t.Counts id (1 + largest ((t.childrenOf (some id)).map fun d => heights d.id))

theorem Counts.unique {n m : Nat} (h : t.Counts id n) (h' : t.Counts id m) : n = m := by
  induction h generalizing m with
  | @children id heights each ih =>
      cases h' with
      | children heights' each' =>
          have same : ∀ d ∈ t.childrenOf (some id), heights d.id = heights' d.id :=
            fun d child => ih d child (each' d child)
          rw [List.map_congr_left same]

/-- A path leads downwards from a department, each one standing directly below the one before. -/
def LeadsDown (t : OrgTree) (id : String) (path : List String) : Prop :=
  List.IsChain (fun parent child => Below t.departments child parent) (id :: path)

theorem LeadsDown.nil (t : OrgTree) (id : String) : t.LeadsDown id [] := .singleton id

theorem leadsDown_cons_iff {child : String} :
    t.LeadsDown id (child :: path) ↔ Below t.departments child id ∧ t.LeadsDown child path :=
  List.isChain_cons_cons

/-- A path downwards is read upwards on the lineage of its last department. -/
theorem LeadsDown.lineage (down : t.LeadsDown id path)
    (h : Lineage t.departments (some id) (id :: above)) :
    ∃ bottom, Lineage t.departments (some bottom) (path.reverse ++ id :: above) := by
  induction path generalizing id above with
  | nil => exact ⟨id, h⟩
  | cons child path ih =>
      obtain ⟨⟨d, held, under⟩, down⟩ := leadsDown_cons_iff.mp down
      have longer : Lineage t.departments (some child) (child :: id :: above) :=
        .step held (under ▸ h)
      obtain ⟨bottom, way⟩ := ih down longer
      exact ⟨bottom, by simpa using way⟩

theorem leadsDown_of_lineage (h : Lineage t.departments place (below ++ id :: above)) :
    t.LeadsDown id below.reverse := by
  induction below using List.reverseRecOn generalizing id above with
  | nil => exact .nil t id
  | append_singleton lower child ih =>
      rw [List.append_assoc] at h
      rw [List.reverse_append, List.reverse_singleton, List.singleton_append]
      exact leadsDown_cons_iff.mpr ⟨parentId_of_lineage h, ih h⟩

/-- The walk downwards counts the departments on a longest path, if it may look as far as that. -/
theorem counts_heightWithin (filed : t.Filed)
    (room : ∀ path, t.LeadsDown id path → path.length + 1 ≤ fuel) :
    t.Counts id (t.heightWithin fuel id) := by
  induction fuel generalizing id with
  | zero => exact absurd (room [] (.nil t id)) (Nat.not_succ_le_zero 0)
  | succ fuel ih =>
      refine .children (t.heightWithin fuel) fun d child => ih fun path down => ?_
      obtain ⟨⟨key, held⟩, under⟩ := mem_childrenOf_iff.mp child
      obtain rfl : d.id = key := (filed.department key d held).1
      -- A path from a child is the rest of a path from here.
      have longer := room (d.id :: path) (leadsDown_cons_iff.mpr ⟨⟨d, held, under⟩, down⟩)
      rw [List.length_cons] at longer
      omega

theorem counts_subtreeHeight (filed : t.Filed)
    (h : Lineage t.departments (some id) (id :: above)) : t.Counts id (t.subtreeHeight id) := by
  refine counts_heightWithin filed fun path down => ?_
  obtain ⟨bottom, way⟩ := down.lineage h
  have few := Table.length_le_size way.nodup way.held
  rw [List.length_append, List.length_reverse, List.length_cons] at few
  omega

theorem isGreatest_subtreeHeight (filed : t.Filed)
    (h : Lineage t.departments (some id) (id :: above)) :
    IsGreatest {n | ∃ path, t.LeadsDown id path ∧ (id :: path).length = n}
      (t.subtreeHeight id) := by
  constructor
  · obtain ⟨bottom, below, way, high⟩ := subtreeHeight_attained filed h
    refine ⟨below.reverse, leadsDown_of_lineage way, ?_⟩
    rw [high, List.length_cons, List.length_reverse]
  · rintro n ⟨path, down, rfl⟩
    obtain ⟨bottom, way⟩ := down.lineage h
    have high := length_le_subtreeHeight filed way
    rwa [List.length_reverse] at high

/-! ## Depth and height -/

/-- What stands at or below a department has the department on its lineage. -/
theorem lineage_of_under {other : String} (under : ReflTransGen (Below t.departments) other id)
    (h : Lineage t.departments (some id) (id :: above)) :
    ∃ below, Lineage t.departments (some other) (below ++ id :: above) := by
  induction under using ReflTransGen.head_induction_on with
  | refl => exact ⟨[], h⟩
  | @head first next step _ ih =>
      obtain ⟨below, way⟩ := ih
      obtain ⟨d, held, under⟩ := step
      exact ⟨first :: below, .step held (under ▸ way)⟩

/-- The greatest depth at or below a department is where a longest path downwards from it ends. -/
theorem isGreatest_depth (filed : t.Filed) (h : Lineage t.departments (some id) (id :: above)) :
    IsGreatest {n | ∃ other, ReflTransGen (Below t.departments) other id ∧ t.depthOf other = .ok n}
      (above.length + t.subtreeHeight id) := by
  constructor
  · obtain ⟨bottom, below, way, high⟩ := subtreeHeight_attained filed h
    obtain ⟨other, ⟨⟩, under⟩ := way.reflTransGen fun _ _ => rfl
    refine ⟨bottom, under, (parentDepth_of_lineage way).trans (congrArg Except.ok ?_)⟩
    rw [high, List.length_append, List.length_cons]
    omega
  · rintro n ⟨other, under, deep⟩
    obtain ⟨below, way⟩ := lineage_of_under under h
    cases (parentDepth_of_lineage way).symm.trans deep
    have high := length_le_subtreeHeight filed way
    rw [List.length_append, List.length_cons]
    omega

/-- What the walks from a department find, and how its depth and its height go together. -/
structure Measured (t : OrgTree) (id : String) (parent : Option String) (above : List String)
    (depth : Nat) : Prop where
  /-- The walk upwards ends, and in one way only: nothing is met again, and nothing is missing. -/
  climbs : ∀ outcome, t.Climbs id [] parent outcome ↔ outcome = .ok above
  ancestors : t.ancestors id = .ok above
  /-- It has followed the parents to the root. -/
  upwards : Lineage t.departments parent above
  distinct : (id :: above).Nodup
  /-- The walk downwards ends, and counts the height. -/
  counts : ∀ n, t.Counts id n ↔ n = t.subtreeHeight id
  /-- The height is the number of departments on a longest path downwards. -/
  longest : IsGreatest {n | ∃ path, t.LeadsDown id path ∧ (id :: path).length = n}
    (t.subtreeHeight id)
  deep : t.depthOf id = .ok depth
  /-- Depth and height, less the department that both count, are the greatest depth below. -/
  deepest : IsGreatest
    {n | ∃ other, ReflTransGen (Below t.departments) other id ∧ t.depthOf other = .ok n}
    (depth + t.subtreeHeight id - 1)
  within : ((depth + t.subtreeHeight id - 1 : Nat) : Int) ≤ t.maxDepth

theorem WellFormed.measured (wf : t.WellFormed) (held : t.departments.get? id = some d) :
    ∃ above depth, t.Measured id d.parentId above depth := by
  obtain ⟨above, h, up, -⟩ := wf.lineage_of_held held
  have found : t.ancestors id = .ok above := ancestors_of_lineage h
  have climbed : t.Climbs id [] d.parentId (.ok above) := found ▸ climbs_ancestors held
  have counted : t.Counts id (t.subtreeHeight id) := counts_subtreeHeight wf.toFiled h
  have sum : (id :: above).length + t.subtreeHeight id - 1 = above.length + t.subtreeHeight id := by
    rw [List.length_cons]
    omega
  have deepest := isGreatest_depth wf.toFiled h
  refine ⟨above, (id :: above).length, ?climbs, found, up, h.nodup, ?counts,
    isGreatest_subtreeHeight wf.toFiled h, depthOf_of_lineage h, sum ▸ deepest, ?within⟩
  case climbs =>
    intro outcome
    constructor
    · exact fun h => h.unique climbed
    · rintro rfl
      exact climbed
  case counts =>
    intro n
    constructor
    · exact fun h => h.unique counted
    · rintro rfl
      exact counted
  case within =>
    obtain ⟨bottom, below, way, high⟩ := subtreeHeight_attained wf.toFiled h
    have bounded := wf.orderly.within bottom _ way
    rw [List.length_append, List.length_cons] at bounded
    rw [sum, high]
    omega

/-- In a tree that starts empty, whatever edits came before: from each department the walk upwards
ends at a root and meets nothing twice, the walk downwards ends and counts the departments on a
longest path, and the two together give the greatest depth below, which the bound allows. -/
theorem measured_afterAll (organization : Organization) (maxDepth : Int) (edits : List Edit) :
    let t := (empty organization maxDepth).afterAll edits
    t.maxDepth = maxDepth ∧
      ∀ id d, t.departments.get? id = some d →
        ∃ above depth, t.Measured id d.parentId above depth := by
  intro t
  have wf : t.WellFormed := (wellFormed_empty organization maxDepth).afterAll edits
  exact ⟨(frame_afterAll _ edits).2, fun id d held => wf.measured held⟩

/-- The upper one of two departments is as high as the tree may be deep. -/
theorem measured_afterAll_harbour :
    Sample.tree.departments.get? "d-1" = some Sample.north ∧
      Sample.tree.departments.get? "d-2" = some Sample.harbour ∧
      Sample.tree.subtreeHeight "d-1" = 2 ∧ Sample.tree.ancestors "d-2" = .ok ["d-1"] ∧
      (∃ above depth, Sample.tree.Measured "d-1" none above depth) ∧
      ∃ above depth, Sample.tree.Measured "d-2" (some "d-1") above depth := by
  obtain ⟨-, measured⟩ := measured_afterAll ⟨"org-1", "Org"⟩ 2 Sample.edits
  have upper : Sample.tree.departments.get? "d-1" = some Sample.north := rfl
  have lower : Sample.tree.departments.get? "d-2" = some Sample.harbour := rfl
  exact ⟨upper, lower, by decide, rfl, measured _ _ upper, measured _ _ lower⟩

end TenantAccess.OrgTree
