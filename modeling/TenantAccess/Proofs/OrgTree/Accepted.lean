import Mathlib.Logic.Relation
import TenantAccess.Proofs.OrgTree.ReadBack

/-! # Which edits are accepted

Creating, moving and deleting a department each propose a tree, whether or not the edit is carried
out. What a tree must be like is said of the proposed tree as a whole: its departments stand in no
circle, no path of them from a root is longer than the bound, and no siblings have one name. An edit
asks something else, about the tree as it is and a few departments in it. In a tree that edits have
made, the two come to the same.
-/

namespace TenantAccess

/-- A department stands directly below another one. -/
def Below (departments : Table String Department) (child parent : String) : Prop :=
  ∃ d, departments.get? child = some d ∧ d.parentId = some parent

section

open Relation

variable {departments departments' : Table String Department} {place : Option String}
  {id child other : String} {below above : List String}

theorem Lineage.mem_of_below (h : Lineage departments (some child) (child :: above))
    (step : Below departments child other) : other ∈ above := by
  obtain ⟨d, held, under⟩ := step
  cases h with
  | step found up =>
      cases found.symm.trans held
      rw [under] at up
      cases up
      exact List.mem_cons_self

/-- Whatever stands above a department, however far, is on its lineage. -/
theorem Lineage.mem_of_transGen (h : Lineage departments (some id) (id :: above))
    (higher : TransGen (Below departments) id other) : other ∈ above := by
  induction higher with
  | single step => exact h.mem_of_below step
  | @tail middle top _ step ih =>
      obtain ⟨before, after, rfl⟩ := List.append_of_mem ih
      have whole : Lineage departments (some id) ((id :: before) ++ middle :: after) := h
      have member : top ∈ after := whole.rest.mem_of_below step
      exact List.mem_append_right before (List.mem_cons_of_mem middle member)

theorem Lineage.acyclic (h : Lineage departments (some id) (id :: above)) :
    ¬ TransGen (Below departments) id id := by
  intro circle
  exact (List.nodup_cons.mp h.nodup).1 (h.mem_of_transGen circle)

/-- A lineage leads up to a department on it, also where others above that one have changed. -/
theorem Lineage.reflTransGen (h : Lineage departments place (below ++ id :: above))
    (same : ∀ other ∈ below, departments'.get? other = departments.get? other) :
    ∃ start, place = some start ∧ ReflTransGen (Below departments') start id := by
  induction below generalizing place with
  | nil => exact ⟨id, h.place_eq, .refl⟩
  | cons first below ih =>
      have first_same := same first List.mem_cons_self
      cases h with
      | step held up =>
          have later : ∀ other ∈ below, departments'.get? other = departments.get? other :=
            fun other member => same other (List.mem_cons_of_mem first member)
          obtain ⟨next, under, way⟩ := ih up later
          exact ⟨first, rfl, .head ⟨_, first_same.trans held, under⟩ way⟩

end

namespace OrgTree

open Editing Relation

/-- What the departments of a tree must be like. -/
structure Orderly (t : OrgTree) : Prop where
  /-- No department stands above itself. -/
  acyclic : ∀ id, ¬ TransGen (Below t.departments) id id
  /-- No path from a root is longer than the bound. -/
  within : ∀ id line, Lineage t.departments (some id) line → (line.length : Int) ≤ t.maxDepth
  /-- Siblings have different names, or empty ones. -/
  apart : ∀ id d other d', t.departments.get? id = some d → t.departments.get? other = some d' →
    d.parentId = d'.parentId → d.name = d'.name → d.name ≠ "" → id = other

/-- An edit of the departments that are there, and the tree that results where it is performed. -/
inductive Proposes (t : OrgTree) : Edit → OrgTree → Prop where
  /-- A department of a new identifier goes under one that is there, or under none. -/
  | create {id : String} {parent : Option String} (name : String)
      (compliance : List (String × Value)) (absent : t.departments.get? id = none)
      (unretired : id ∉ t.retired)
      (live : ∀ above, parent = some above → t.departments.contains above = true) :
      t.Proposes (.create id parent name compliance)
        (t.putDepartment id ⟨id, t.organization.id, parent, name, compliance⟩)
  /-- A department goes under another parent, or under none. -/
  | move {id : String} {parent : Option String} {d : Department}
      (held : t.departments.get? id = some d)
      (live : ∀ above, parent = some above → t.departments.contains above = true) :
      t.Proposes (.move id parent) (t.putDepartment id { d with parentId := parent })
  /-- A department goes, and what is below it goes under its parent. -/
  | delete {id : String} {d : Department} (held : t.departments.get? id = some d) :
      t.Proposes (.delete id) (t.without id d.parentId)

/-- One department is under another parent, and nothing else has changed. -/
structure MovedOnly (t next : OrgTree) (id : String) (parent : Option String) : Prop where
  moved : ∃ d, t.departments.get? id = some d ∧
    next.departments.get? id = some { d with parentId := parent }
  others : ∀ other, other ≠ id → next.departments.get? other = t.departments.get? other
  keys : next.departments.keys = t.departments.keys
  rest : next = { t with departments := next.departments }

variable {t next left : OrgTree} {id name : String} {parent : Option String} {line : List String}
  {d : Department} {e : Edit} {answer : EditAnswer}

/-! ## Carried out, so orderly -/

theorem WellFormed.orderly (wf : t.WellFormed) : t.Orderly where
  acyclic id circle := by
    obtain ⟨_, ⟨d, held, -⟩, -⟩ := TransGen.head'_iff.mp circle
    obtain ⟨above, h, -, -⟩ := wf.lineage_of_held held
    exact h.acyclic circle
  within id line h := by
    cases h with
    | step held up =>
        obtain ⟨above, own, -, bounded⟩ := wf.lineage_of_held held
        rwa [(Lineage.step held up).unique own]
  apart := wf.named

/-- Where an edit is carried out, it leaves the tree that it proposes. -/
theorem Proposes.left_eq (h : t.Proposes e next) (done : e.steps.on t = (.ok answer, left)) :
    left = next := by
  cases h with
  | create name compliance absent unretired live =>
      obtain ⟨d, done, -⟩ := on_bind_pure_eq_ok_iff.mp done
      obtain ⟨-, -, -, rfl, rfl⟩ := create_eq_ok_iff.mp done
      rfl
  | move held live =>
      obtain ⟨_, done, -⟩ := on_bind_pure_eq_ok_iff.mp done
      obtain ⟨d, held', -, -, -, rfl, rfl⟩ := move_eq_ok_iff.mp done
      cases held.symm.trans held'
      rfl
  | delete held =>
      obtain ⟨_, done, -⟩ := on_bind_pure_eq_ok_iff.mp done
      obtain ⟨d, held', -, -, rfl⟩ := delete_eq_ok_iff.mp done
      cases held.symm.trans held'
      rfl

/-! ## Orderly, so carried out -/

theorem WellFormed.lineage_of_live (wf : t.WellFormed)
    (live : ∀ above, parent = some above → t.departments.contains above = true) :
    ∃ line, Lineage t.departments parent line := by
  cases parent with
  | none => exact ⟨[], .top⟩
  | some above =>
      obtain ⟨d, held⟩ := Table.contains_iff.mp (live above rfl)
      obtain ⟨_, h, -, -⟩ := wf.lineage_of_held held
      exact ⟨_, h⟩

/-- Where a department is filed in an orderly tree, it is not above its parent. -/
theorem Orderly.not_above (orderly : (t.putDepartment id d).Orderly)
    (up : Lineage t.departments d.parentId line) : id ∉ line := by
  intro met
  obtain ⟨below, above, rfl⟩ := List.append_of_mem met
  have kept : ∀ other ∈ below,
      (t.putDepartment id d).departments.get? other = t.departments.get? other := by
    intro other member
    refine Table.get?_put_of_ne _ ?_ d
    rintro rfl
    have distinct := up.nodup
    rw [List.nodup_append] at distinct
    exact distinct.2.2 id member id List.mem_cons_self rfl
  obtain ⟨start, under, way⟩ := up.reflTransGen kept
  exact orderly.acyclic id (.head' ⟨d, Table.get?_put_self _ _ _, under⟩ way)

/-- It leaves room for all that is below it. -/
theorem Orderly.room (orderly : (t.putDepartment id d).Orderly) {bottom : String}
    {below above : List String} (up : Lineage t.departments d.parentId line)
    (h : Lineage t.departments (some bottom) (below ++ id :: above)) :
    ((line.length + (below.length + 1) : Nat) : Int) ≤ t.maxDepth := by
  have lower := h.put_of_mem up (orderly.not_above up)
  have bounded : ((below ++ id :: line).length : Int) ≤ t.maxDepth := orderly.within bottom _ lower
  rw [List.length_append, List.length_cons] at bounded
  omega

/-- And no other department beside it bears its name. -/
theorem Orderly.nameFree (filed : t.Filed) (orderly : (t.putDepartment id d).Orderly) :
    t.NameFree d.name d.parentId (some id) := by
  intro named other d' held siblings differs same
  rw [(filed.department other d' held).1] at differs
  have apart : id ≠ other := fun here => differs (congrArg some here.symm)
  have beside : (t.putDepartment id d).departments.get? other = some d' :=
    (Table.get?_put_of_ne _ apart d).trans held
  exact apart (orderly.apart id d other d' (Table.get?_put_self _ _ _) beside siblings.symm
    same.symm named)

theorem create_of_orderly (wf : t.WellFormed) {compliance : List (String × Value)}
    (absent : t.departments.get? id = none) (unretired : id ∉ t.retired)
    (live : ∀ above, parent = some above → t.departments.contains above = true)
    (orderly : (t.putDepartment id ⟨id, t.organization.id, parent, name, compliance⟩).Orderly) :
    t.checkUnused id = .ok () ∧
      (∃ depth, t.parentDepth parent = .ok depth ∧ t.checkDepth (depth + 1) = .ok ()) ∧
      t.checkName name parent none = .ok () := by
  obtain ⟨line, up⟩ := wf.lineage_of_live live
  refine ⟨checkUnused_eq_ok_iff.mpr ⟨absent, unretired⟩,
    ⟨line.length, parentDepth_of_lineage up, checkDepth_eq_ok_iff.mpr ?_⟩,
    checkName_eq_ok_iff.mpr ?_⟩
  · have outside := orderly.not_above up
    have path := Lineage.step (Table.get?_put_self _ _ _)
      (up.put_of_not_mem outside ⟨id, t.organization.id, parent, name, compliance⟩)
    exact orderly.within id _ path
  · intro named other d' held siblings _
    refine orderly.nameFree wf.toFiled named other d' held siblings ?_
    rw [(wf.department other d' held).1]
    rintro ⟨⟩
    cases absent.symm.trans held

theorem move_of_orderly (wf : t.WellFormed) (held : t.departments.get? id = some d)
    (live : ∀ above, parent = some above → t.departments.contains above = true)
    (orderly : (t.putDepartment id { d with parentId := parent }).Orderly) :
    t.checkNotUnder id parent = .ok () ∧
      (∃ depth, t.parentDepth parent = .ok depth ∧
        t.checkDepth (depth + t.subtreeHeight id) = .ok ()) ∧
      t.checkName d.name parent (some id) = .ok () := by
  obtain ⟨line, up⟩ := wf.lineage_of_live live
  obtain ⟨above, own, -, -⟩ := wf.lineage_of_held held
  obtain ⟨bottom, below, lowest, high⟩ := subtreeHeight_attained wf.toFiled own
  refine ⟨(checkNotUnder_eq_ok_iff up).mpr (orderly.not_above up),
    ⟨line.length, parentDepth_of_lineage up, checkDepth_eq_ok_iff.mpr ?_⟩,
    checkName_eq_ok_iff.mpr (orderly.nameFree wf.toFiled)⟩
  rw [high]
  exact orderly.room up lowest

theorem delete_of_orderly (wf : t.WellFormed) (held : t.departments.get? id = some d)
    (orderly : (t.without id d.parentId).Orderly) :
    t.checkNames d.parentId (some id) (t.childrenOf (some id)) = .ok () := by
  have self : d.parentId ≠ some id := wf.not_own_parent held
  refine checkNames_eq_ok_iff.mpr fun child member named other d' held' siblings differs same => ?_
  obtain ⟨⟨key, found⟩, under⟩ := mem_childrenOf_iff.mp member
  rw [(wf.department other d' held').1] at differs
  have key_differs : key ≠ id := by
    rintro rfl
    exact wf.not_own_parent found under
  -- Both are under the parent when the department is gone.
  have handed := department_without d.parentId key_differs found
  have stayed := department_without d.parentId
    (fun here => differs (congrArg some here)) held'
  have beside : handOver id d.parentId child.parentId = handOver id d.parentId d'.parentId := by
    simp [handOver, under, siblings, self]
  obtain rfl : key = other :=
    orderly.apart key _ other _ handed stayed beside same.symm named
  cases found.symm.trans held'
  exact self (siblings.symm.trans under)

/-- Where the tree that an edit proposes is orderly, the edit is carried out. -/
theorem Proposes.carried_out (h : t.Proposes e next) (wf : t.WellFormed) (orderly : next.Orderly) :
    ∃ answer, e.steps.on t = (.ok answer, next) := by
  cases h with
  | create name compliance absent unretired live =>
      obtain ⟨unused, fits, free⟩ := create_of_orderly wf absent unretired live orderly
      exact ⟨_, on_bind_pure_eq_ok_iff.mpr
        ⟨_, create_eq_ok_iff.mpr ⟨unused, fits, free, rfl, rfl⟩, rfl⟩⟩
  | move held live =>
      obtain ⟨outside, fits, free⟩ := move_of_orderly wf held live orderly
      exact ⟨_, on_bind_pure_eq_ok_iff.mpr
        ⟨_, move_eq_ok_iff.mpr ⟨_, held, outside, fits, free, rfl, rfl⟩, rfl⟩⟩
  | delete held =>
      have free := delete_of_orderly wf held orderly
      exact ⟨_, on_bind_pure_eq_ok_iff.mpr
        ⟨_, delete_eq_ok_iff.mpr ⟨_, held, free, rfl, rfl⟩, rfl⟩⟩

theorem movedOnly_of_move (done : (move id parent).on t = (.ok d, next)) :
    t.MovedOnly next id parent := by
  obtain ⟨old, held, -, -, -, rfl, rfl⟩ := move_eq_ok_iff.mp done
  refine ⟨⟨old, held, Table.get?_put_self _ _ _⟩, fun other differs => ?_,
    Table.keys_put_of_get? _ held, rfl⟩
  exact Table.get?_put_of_ne _ (Ne.symm differs) _

/-! ## Exactly the edits that leave an orderly tree -/

/-- In a tree that starts empty, whatever edits came before: creating, moving or deleting a department
is accepted exactly where the tree that results is orderly, and then leaves that tree; otherwise the
tree stays as it was. Where a move is accepted, the parent of one department is all that changes. -/
theorem accepted_iff_orderly (organization : Organization) (maxDepth : Int) (edits : List Edit) :
    let t := (empty organization maxDepth).afterAll edits
    (∀ e next, t.Proposes e next →
      ((∃ answer, (e.steps.on t).1 = .ok answer) ↔ next.Orderly) ∧
      (next.Orderly → Edit.after t e = next) ∧ (¬ next.Orderly → Edit.after t e = t)) ∧
    ∀ id parent answer, ((Edit.move id parent).steps.on t).1 = .ok answer →
      t.MovedOnly (Edit.after t (.move id parent)) id parent := by
  intro t
  have wf : t.WellFormed := (wellFormed_empty organization maxDepth).afterAll edits
  refine ⟨fun e next proposed => ?_, fun id parent answer accepted => ?_⟩
  · have orderly_of_accepted {answer : EditAnswer} (accepted : (e.steps.on t).1 = .ok answer) :
        next.Orderly := by
      have done : e.steps.on t = (.ok answer, Edit.after t e) := Prod.ext accepted rfl
      exact proposed.left_eq done ▸ (wf.steps done).orderly
    refine ⟨⟨fun ⟨answer, accepted⟩ => orderly_of_accepted accepted, ?accepted⟩, ?left, ?stays⟩
    case accepted =>
      intro orderly
      obtain ⟨answer, done⟩ := proposed.carried_out wf orderly
      exact ⟨answer, congrArg Prod.fst done⟩
    case left =>
      intro orderly
      obtain ⟨answer, done⟩ := proposed.carried_out wf orderly
      exact congrArg Prod.snd done
    case stays =>
      intro disorderly
      rcases after_cases t e with same | ⟨answer, done⟩
      · exact same
      · exact absurd (orderly_of_accepted (congrArg Prod.fst done)) disorderly
  · have done : (Edit.move id parent).steps.on t = (.ok answer, Edit.after t (.move id parent)) :=
      Prod.ext accepted rfl
    obtain ⟨d, moved, -⟩ := on_bind_pure_eq_ok_iff.mp done
    exact movedOnly_of_move moved

end OrgTree

namespace Sample

def north : Department := ⟨"d-1", "org-1", none, "North", []⟩

def harbour : Department := ⟨"d-2", "org-1", some "d-1", "Harbour", []⟩

/-- The upper department under the lower one. -/
def circle : OrgTree := tree.putDepartment "d-1" { north with parentId := some "d-2" }

/-- The two departments side by side. -/
def sideBySide : OrgTree := tree.putDepartment "d-2" { harbour with parentId := none }

end Sample

theorem OrgTree.accepted_iff_orderly_harbour :
    Sample.tree.Proposes (.move "d-1" (some "d-2")) Sample.circle ∧ ¬ Sample.circle.Orderly ∧
      ((Edit.move "d-1" (some "d-2")).steps.on Sample.tree).1 =
        .error (.fault (.moveUnderDescendant "d-1")) ∧
      Sample.tree.Proposes (.move "d-2" none) Sample.sideBySide ∧ Sample.sideBySide.Orderly ∧
      Edit.after Sample.tree (.move "d-2" none) = Sample.sideBySide ∧
      Sample.tree.MovedOnly Sample.sideBySide "d-2" none := by
  obtain ⟨decided, moved⟩ := accepted_iff_orderly ⟨"org-1", "Org"⟩ 2 Sample.edits
  have under : Sample.tree.Proposes (.move "d-1" (some "d-2")) Sample.circle := by
    refine .move (d := Sample.north) rfl fun above same => ?_
    cases same
    rfl
  have refused : ((Edit.move "d-1" (some "d-2")).steps.on Sample.tree).1 =
      .error (.fault (.moveUnderDescendant "d-1")) := rfl
  have beside : Sample.tree.Proposes (.move "d-2" none) Sample.sideBySide :=
    .move (d := Sample.harbour) rfl nofun
  have accepted : ((Edit.move "d-2" none).steps.on Sample.tree).1 =
      .ok (.department { Sample.harbour with parentId := none }) := rfl
  have orderly := (decided _ _ beside).1.mp ⟨_, accepted⟩
  have left := (decided _ _ beside).2.1 orderly
  refine ⟨under, fun ordered => ?_, refused, beside, orderly, left, ?_⟩
  · obtain ⟨answer, accepted⟩ := (decided _ _ under).1.mpr ordered
    cases refused.symm.trans accepted
  · exact left ▸ moved "d-2" none _ accepted

end TenantAccess
