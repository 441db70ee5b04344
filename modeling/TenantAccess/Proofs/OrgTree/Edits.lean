import TenantAccess.Proofs.OrgTree.Measure

/-! # What edits need and what they leave

For each edit there is one lemma that says when it is carried out and which tree it then leaves.
A refused edit leaves the tree as it was: every edit asks all its questions before it writes, and
no question writes.
-/

namespace TenantAccess

namespace Editing

variable {α β : Type} {t next : OrgTree} {b : β}

theorem on_check_bind_eq_ok_iff {question : OrgTree → Except Failure α} {rest : α → Editing β} :
    (check question >>= rest).on t = (.ok b, next) ↔
      ∃ a, question t = .ok a ∧ (rest a).on t = (.ok b, next) := by
  rw [on_bind]
  simp only [on, check]
  cases question t with
  | error f => simp
  | ok a => simp

theorem on_bind_pure_eq_ok_iff {x : Editing α} {g : α → β} :
    (x >>= fun a => pure (g a)).on t = (.ok b, next) ↔
      ∃ a, x.on t = (.ok a, next) ∧ g a = b := by
  rw [on_bind]
  rcases x.on t with ⟨answer, left⟩
  cases answer with
  | error f => simp
  | ok a => simp [and_comm]

/-- Every answer of an edit is an answer; it is never refused. -/
def Settled (x : Editing α) : Prop := ∀ t, ∃ a, (x.on t).1 = .ok a

/-- Where an edit is refused, it has not written. -/
def Guarded (x : Editing α) : Prop := ∀ t f, (x.on t).1 = .error f → (x.on t).2 = t

theorem settled_pure (a : α) : Settled (pure a : Editing α) := fun _ => ⟨a, rfl⟩

theorem settled_write (change : OrgTree → OrgTree) : Settled (write change) := fun _ => ⟨(), rfl⟩

theorem Settled.look {question : OrgTree → α} {rest : α → Editing β}
    (h : ∀ a, Settled (rest a)) : Settled (look question >>= rest) := fun t => h (question t) t

theorem Settled.write {rest : Unit → Editing β} (change : OrgTree → OrgTree)
    (h : Settled (rest ())) : Settled (write change >>= rest) := fun t => h (change t)

theorem Settled.guarded {x : Editing α} (h : Settled x) : Guarded x := by
  intro t f refused
  obtain ⟨a, answered⟩ := h t
  cases answered.symm.trans refused

theorem Guarded.look {question : OrgTree → α} {rest : α → Editing β}
    (h : ∀ a, Guarded (rest a)) : Guarded (look question >>= rest) := fun t => h (question t) t

theorem Guarded.check {question : OrgTree → Except Failure α} {rest : α → Editing β}
    (h : ∀ a, Guarded (rest a)) : Guarded (check question >>= rest) := by
  intro t f
  rw [on_bind]
  simp only [on, Editing.check]
  cases question t with
  | error g => exact fun _ => rfl
  | ok a => exact h a t f

/-- Putting an answer into other words writes nothing. -/
theorem Guarded.map {x : Editing α} (h : Guarded x) (g : α → β) :
    Guarded (x >>= fun a => pure (g a)) := by
  intro t f
  have before := h t
  rw [on_bind]
  rcases ran : x.on t with ⟨answer, left⟩
  rw [ran] at before
  cases answer with
  | error e => exact fun _ => before e rfl
  | ok a => exact nofun

end Editing

namespace OrgTree

open Editing

/-! ## Refusals -/

variable {id name user : String} {parent department : Option String}
  {compliance : List (String × Value)}

theorem guarded_create : Guarded (create id parent name compliance) := by
  refine .check fun _ => .check fun depth => .check fun _ => .check fun _ => .look fun owner => ?_
  refine Settled.guarded (.write _ ?_)
  exact settled_pure _

theorem guarded_move : Guarded (move id parent) := by
  refine .check fun d => .check fun _ => .check fun depth => .check fun _ => .check fun _ => ?_
  refine Settled.guarded (.write _ ?_)
  exact settled_pure _

theorem guarded_delete : Guarded (delete id) := by
  refine .check fun d => .look fun children => .check fun _ => ?_
  refine Settled.guarded (.write _ ?_)
  refine .look fun teams => .write _ ?_
  refine .look fun members => .write _ (.write _ ?_)
  exact settled_pure _

theorem guarded_addMember : Guarded (addMember id user) := by
  refine .check fun d => .look fun set => Settled.guarded ?_
  exact settled_write _

theorem guarded_removeMember : Guarded (removeMember id user) := by
  refine .look fun held => Settled.guarded ?_
  cases held with
  | none => exact settled_pure ()
  | some set => exact settled_write _

theorem guarded_fileTeam {question : OrgTree → String → Except Failure Unit} :
    Guarded (fileTeam question id department) := by
  refine .check fun _ => .check fun _ => .look fun owner => ?_
  refine Settled.guarded (.write _ ?_)
  exact settled_pure _

theorem guarded_removeTeam : Guarded (removeTeam id) := by
  refine .check fun _ => Settled.guarded ?_
  exact settled_write _

/-! ## What the questions find -/

variable {t next : OrgTree}

theorem existing_eq_ok_iff {d : Department} :
    t.existing id = .ok d ↔ t.departments.get? id = some d := by
  unfold existing department
  cases t.departments.get? id <;> simp [Except.mapError]

theorem checkUnused_eq_ok_iff :
    t.checkUnused id = .ok () ↔ t.departments.get? id = none ∧ id ∉ t.retired := by
  unfold checkUnused Table.contains
  cases t.departments.get? id with
  | some d => simp
  | none =>
      by_cases retired : id ∈ t.retired <;> simp [retired]

theorem checkDepth_eq_ok_iff {depth : Nat} :
    t.checkDepth depth = .ok () ↔ (depth : Int) ≤ t.maxDepth := by
  unfold checkDepth
  by_cases deep : t.maxDepth < depth
  · simp [deep]
  · simp [deep, Int.not_lt.mp deep]

/-- No other department under a parent bears a name, unless the name is empty. -/
def NameFree (t : OrgTree) (name : String) (parent exclude : Option String) : Prop :=
  name ≠ "" → ∀ id d, t.departments.get? id = some d → d.parentId = parent →
    some d.id ≠ exclude → d.name ≠ name

theorem checkName_eq_ok_iff {exclude : Option String} :
    t.checkName name parent exclude = .ok () ↔ t.NameFree name parent exclude := by
  have taken : t.nameTaken name parent exclude = true ↔ ¬ t.NameFree name parent exclude := by
    simp only [nameTaken, NameFree, Bool.and_eq_true, decide_eq_true_eq, List.any_eq_true,
      mem_childrenOf_iff]
    push Not
    constructor
    · rintro ⟨named, d, ⟨⟨key, held⟩, under⟩, other, same⟩
      exact ⟨named, key, d, held, under, other, same⟩
    · rintro ⟨named, key, d, held, under, other, same⟩
      exact ⟨named, d, ⟨⟨key, held⟩, under⟩, other, same⟩
  unfold checkName
  by_cases free : t.NameFree name parent exclude
  · have untaken : ¬ t.nameTaken name parent exclude = true := fun h => taken.mp h free
    simp [free, untaken]
  · simp [free, taken.mpr free]

theorem checkNames_eq_ok_iff {exclude : Option String} {ds : List Department} :
    t.checkNames parent exclude ds = .ok () ↔
      ∀ d ∈ ds, t.NameFree d.name parent exclude := by
  induction ds with
  | nil => simp [checkNames]
  | cons d rest ih =>
      rw [List.forall_mem_cons, ← ih, ← checkName_eq_ok_iff, checkNames]
      cases t.checkName d.name parent exclude <;> simp [bind, Except.bind]

theorem checkNotUnder_eq_ok_iff {line : List String}
    (h : Lineage t.departments parent line) :
    t.checkNotUnder id parent = .ok () ↔ id ∉ line := by
  cases h with
  | top => simp [checkNotUnder]
  | @step top d above held up =>
      simp only [checkNotUnder, ancestors_of_lineage (.step held up), bind, Except.bind,
        List.mem_cons, not_or]
      by_cases same : top = id
      · simp [same]
      · by_cases under : id ∈ above <;> simp [same, Ne.symm same, under]

theorem checkDepartment_eq_ok_iff :
    t.checkDepartment department = .ok () ↔
      ∀ id, department = some id → ∃ d, t.departments.get? id = some d := by
  cases department with
  | none => simp [checkDepartment]
  | some id =>
      simp only [checkDepartment, existing, OrgTree.department]
      cases held : t.departments.get? id <;> simp [held, Except.mapError, Except.map]

/-! ## Outcomes -/

theorem create_eq_ok_iff {d : Department} :
    (create id parent name compliance).on t = (.ok d, next) ↔
      t.checkUnused id = .ok () ∧
      (∃ depth, t.parentDepth parent = .ok depth ∧ t.checkDepth (depth + 1) = .ok ()) ∧
      t.checkName name parent none = .ok () ∧
      d = ⟨id, t.organization.id, parent, name, compliance⟩ ∧ next = t.putDepartment id d := by
  simp only [create, on_check_bind_eq_ok_iff, on_look_bind, on_write_bind, on_pure]
  constructor
  · rintro ⟨_, unused, depth, deep, _, fits, _, free, ⟨⟩⟩
    exact ⟨unused, ⟨depth, deep, fits⟩, free, rfl, rfl⟩
  · rintro ⟨unused, ⟨depth, deep, fits⟩, free, rfl, rfl⟩
    exact ⟨_, unused, depth, deep, _, fits, _, free, rfl⟩

theorem move_eq_ok_iff {moved : Department} :
    (move id parent).on t = (.ok moved, next) ↔
      ∃ d, t.departments.get? id = some d ∧ t.checkNotUnder id parent = .ok () ∧
        (∃ depth, t.parentDepth parent = .ok depth ∧
          t.checkDepth (depth + t.subtreeHeight id) = .ok ()) ∧
        t.checkName d.name parent (some id) = .ok () ∧
        moved = { d with parentId := parent } ∧ next = t.putDepartment id moved := by
  simp only [move, on_check_bind_eq_ok_iff, on_write_bind, on_pure, existing_eq_ok_iff]
  constructor
  · rintro ⟨d, held, _, outside, depth, deep, _, fits, _, free, ⟨⟩⟩
    exact ⟨d, held, outside, ⟨depth, deep, fits⟩, free, rfl, rfl⟩
  · rintro ⟨d, held, outside, ⟨depth, deep, fits⟩, free, rfl, rfl⟩
    exact ⟨d, held, _, outside, depth, deep, _, fits, _, free, rfl⟩

/-- The tree without a department; what was in it belongs to the parent. -/
def without (t : OrgTree) (id : String) (parent : Option String) : OrgTree :=
  (((t.handOverChildren id parent).handOverTeams id parent).handOverMembers id parent).retire id

theorem delete_eq_ok_iff {removal : Removal} :
    (delete id).on t = (.ok removal, next) ↔
      ∃ d, t.departments.get? id = some d ∧
        t.checkNames d.parentId (some id) (t.childrenOf (some id)) = .ok () ∧
        removal = ⟨d, d.parentId, (t.childrenOf (some id)).map (·.id),
          (t.teamsOf id).map (·.id), t.memberSet id⟩ ∧
        next = t.without id d.parentId := by
  simp only [delete, on_check_bind_eq_ok_iff, on_look_bind, on_write_bind, on_pure,
    existing_eq_ok_iff]
  constructor
  · rintro ⟨d, held, _, free, ⟨⟩⟩
    exact ⟨d, held, free, rfl, rfl⟩
  · rintro ⟨d, held, free, rfl, rfl⟩
    exact ⟨d, held, _, free, rfl⟩

theorem addMember_eq_ok_iff :
    (addMember id user).on t = (.ok (), next) ↔
      (∃ d, t.departments.get? id = some d) ∧
        next = t.putMembers id ((t.memberSet id).insert user) := by
  simp only [addMember, on_check_bind_eq_ok_iff, on_look_bind, existing_eq_ok_iff]
  constructor
  · rintro ⟨d, held, ⟨⟩⟩
    exact ⟨⟨d, held⟩, rfl⟩
  · rintro ⟨⟨d, held⟩, rfl⟩
    exact ⟨d, held, rfl⟩

/-- Taking a user out leaves the tree as it is, or keeps a smaller set for the department. -/
theorem removeMember_cases (h : (removeMember id user).on t = (.ok (), next)) :
    next = t ∨ ∃ set, t.members.get? id = some set ∧ next = t.putMembers id (set.erase user) := by
  rw [removeMember, on_look_bind] at h
  cases held : t.members.get? id with
  | none =>
      rw [held] at h
      cases h
      exact .inl rfl
  | some set =>
      rw [held] at h
      cases h
      exact .inr ⟨set, rfl, rfl⟩

theorem fileTeam_eq_ok_iff {question : OrgTree → String → Except Failure Unit} {team : Team} :
    (fileTeam question id department).on t = (.ok team, next) ↔
      question t id = .ok () ∧ t.checkDepartment department = .ok () ∧
        team = ⟨id, t.organization.id, department⟩ ∧ next = t.putTeam id team := by
  simp only [fileTeam, on_check_bind_eq_ok_iff, on_look_bind, on_write_bind, on_pure]
  constructor
  · rintro ⟨_, passed, _, live, ⟨⟩⟩
    exact ⟨passed, live, rfl, rfl⟩
  · rintro ⟨passed, live, rfl, rfl⟩
    exact ⟨_, passed, _, live, rfl⟩

theorem removeTeam_eq_ok_iff :
    (removeTeam id).on t = (.ok (), next) ↔ t.checkTeam id = .ok () ∧ next = t.dropTeam id := by
  simp only [removeTeam, on_check_bind_eq_ok_iff]
  constructor
  · rintro ⟨_, there, ⟨⟩⟩
    exact ⟨there, rfl⟩
  · rintro ⟨there, rfl⟩
    exact ⟨_, there, rfl⟩

end OrgTree

theorem Edit.guarded_steps (e : Edit) : Editing.Guarded e.steps := by
  cases e with
  | create => exact OrgTree.guarded_create.map _
  | move => exact OrgTree.guarded_move.map _
  | delete => exact OrgTree.guarded_delete.map _
  | addMember => exact OrgTree.guarded_addMember.map _
  | removeMember => exact OrgTree.guarded_removeMember.map _
  | addTeam => exact OrgTree.guarded_fileTeam.map _
  | moveTeam => exact OrgTree.guarded_fileTeam.map _
  | removeTeam => exact OrgTree.guarded_removeTeam.map _

end TenantAccess
