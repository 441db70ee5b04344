import TenantAccess.OrgTree.Edit
import TenantAccess.Proofs.Place

/-! # Lineages

The lineage of a place in a department table: the departments that are met when parents are
followed upwards from there, to the root. A place that has a lineage lies on no cycle, has no
dangling parent above it, and has one lineage only. What filing, moving and dropping a department
do to lineages is said here; that the walks of a tree find them is in
`TenantAccess.Proofs.OrgTree.Measure`.
-/

namespace TenantAccess

namespace OrgTree

theorem handOver_self (id : String) (parent : Option String) :
    handOver id parent (some id) = parent := if_pos rfl

theorem handOver_of_ne {id : String} {parent owner : Option String} (stays : owner ≠ some id) :
    handOver id parent owner = owner := if_neg stays

end OrgTree

/-- Following parents upwards from a department, or from above all of them, meets these
departments, the nearest first, and ends at a root. -/
inductive Lineage (departments : Table String Department) : Option String → List String → Prop where
  /-- Nothing is above a root. -/
  | top : Lineage departments none []
  /-- A department comes before what is above it. -/
  | step {id : String} {d : Department} {above : List String}
      (held : departments.get? id = some d) (up : Lineage departments d.parentId above) :
      Lineage departments (some id) (id :: above)

namespace Lineage

variable {departments departments' : Table String Department} {place parent : Option String}
  {id : String} {line line' above : List String}

theorem unique (h : Lineage departments place line) (h' : Lineage departments place line') :
    line = line' := by
  induction h generalizing line' with
  | top =>
      cases h'
      rfl
  | step held up ih =>
      cases h' with
      | step held' up' =>
          cases held.symm.trans held'
          rw [ih up']

theorem held (h : Lineage departments place line) :
    ∀ id ∈ line, ∃ d, departments.get? id = some d := by
  induction h with
  | top => nofun
  | step held up ih =>
      intro other member
      rcases List.mem_cons.mp member with rfl | member
      · exact ⟨_, held⟩
      · exact ih other member

theorem place_eq (h : Lineage departments place (id :: above)) : place = some id := by
  cases h
  rfl

/-- The lineage of a department that is met is the rest of the way. -/
theorem rest {below : List String} (h : Lineage departments place (below ++ id :: above)) :
    Lineage departments (some id) (id :: above) := by
  induction below generalizing place with
  | nil => exact h.place_eq ▸ h
  | cons first below ih =>
      cases h with
      | step held up => exact ih up

/-- No department is met twice. -/
theorem nodup (h : Lineage departments place line) : line.Nodup := by
  induction h with
  | top => exact List.nodup_nil
  | @step id d above held up ih =>
      refine List.nodup_cons.mpr ⟨fun again => ?_, ih⟩
      -- Met again, the department would have a second lineage, shorter than its own.
      obtain ⟨below, above', split⟩ := List.append_of_mem again
      have same := (Lineage.step held up).unique (split ▸ up).rest
      have lengths := congrArg List.length split
      rw [(List.cons.inj same).2, List.length_append, List.length_cons] at lengths
      omega

/-- A department that has a lineage is not its own parent. -/
theorem not_own_parent {d : Department} (held : departments.get? id = some d)
    (up : Lineage departments d.parentId above) : d.parentId ≠ some id := by
  intro loop
  have distinct := (Lineage.step held up).nodup
  rw [loop] at up
  cases up
  simp at distinct

/-- A lineage depends on the departments that are met, and on nothing else. -/
theorem congr (h : Lineage departments place line)
    (same : ∀ id ∈ line, departments'.get? id = departments.get? id) :
    Lineage departments' place line := by
  induction h with
  | top => exact .top
  | @step id d above held up ih =>
      refine .step ((same id List.mem_cons_self).trans held) (ih fun other member => ?_)
      exact same other (List.mem_cons_of_mem _ member)

/-- A department that is filed anew does not change the lineages on which it does not lie. -/
theorem put_of_not_mem (h : Lineage departments place line) (absent : id ∉ line)
    (d : Department) : Lineage (departments.put id d) place line := by
  refine h.congr fun other member => Table.get?_put_of_ne _ ?_ d
  rintro rfl
  exact absent member

/-- Below a department that is filed under another parent, lineages go on with that parent's. -/
theorem put_of_mem {below : List String} {d : Department}
    (h : Lineage departments place (below ++ id :: above))
    (new : Lineage departments d.parentId line) (absent : id ∉ line) :
    Lineage (departments.put id d) place (below ++ id :: line) := by
  induction below generalizing place with
  | nil =>
      cases h with
      | step held up => exact .step (Table.get?_put_self _ _ _) (new.put_of_not_mem absent d)
  | cons first below ih =>
      have distinct := h.nodup
      cases h with
      | step held up =>
          have other : id ≠ first := by
            rintro rfl
            exact (List.nodup_cons.mp distinct).1 (by simp)
          exact .step ((Table.get?_put_of_ne _ other d).trans held) (ih up)

/-- When a department is dropped and its parent takes over what is below, lineages lose the
department and stay as they are otherwise. -/
theorem handOver {d : Department} (h : Lineage departments place line)
    (gone : departments.get? id = some d) :
    Lineage ((departments.mapValues fun _ child =>
        { child with parentId := OrgTree.handOver id d.parentId child.parentId }).erase id)
      (OrgTree.handOver id d.parentId place) (line.filter (· ≠ id)) := by
  induction h with
  | top => exact .top
  | @step other child above found up ih =>
      by_cases here : other = id
      · subst here
        cases found.symm.trans gone
        rw [OrgTree.handOver_of_ne (not_own_parent gone up)] at ih
        rw [OrgTree.handOver_self, List.filter_cons_of_neg (by simp)]
        exact ih
      · have kept : ((departments.mapValues fun _ child =>
            { child with parentId := OrgTree.handOver id d.parentId child.parentId }).erase
              id).get? other =
            some { child with parentId := OrgTree.handOver id d.parentId child.parentId } := by
          rw [Table.get?_erase, if_neg here, Table.get?_mapValues, found, Option.map_some]
        have place : OrgTree.handOver id d.parentId (some other) = some other :=
          OrgTree.handOver_of_ne (by simpa using here)
        rw [place, List.filter_cons_of_pos (by simpa using here)]
        exact .step kept ih

end Lineage

end TenantAccess
