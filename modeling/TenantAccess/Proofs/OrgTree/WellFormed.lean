import TenantAccess.Proofs.OrgTree.Edits

/-! # Well-formed trees

In a well-formed tree the departments are a forest within the bound, siblings have different
names, teams and member sets are with departments that are there, and retired identifiers are out
of use.

Two changes rearrange departments. Filing a department, new or moved, puts it and what is below it
under another lineage; dropping one takes it out of the lineages below it. When they keep a tree
well-formed is said in `WellFormed.putDepartment` and `WellFormed.without`.
-/

namespace TenantAccess.OrgTree

/-- What holds of a tree after any edits. -/
structure WellFormed (t : OrgTree) : Prop extends t.Filed where
  /-- Following parents ends at a root within the bound. -/
  rooted : ∀ id d, t.departments.get? id = some d →
    ∃ line, Lineage t.departments (some id) line ∧ (line.length : Int) ≤ t.maxDepth
  /-- Departments with the same parent have different names, or empty ones. -/
  named : ∀ id d other d', t.departments.get? id = some d → t.departments.get? other = some d' →
    d.parentId = d'.parentId → d.name = d'.name → d.name ≠ "" → id = other
  /-- A team's department is there. -/
  teamLive : ∀ id team department, t.teams.get? id = some team →
    team.departmentId = some department → t.departments.contains department = true
  /-- A member set belongs to a department that is there. -/
  memberLive : ∀ id set, t.members.get? id = some set → t.departments.contains id = true
  /-- A retired identifier is not in use. -/
  retiredDead : ∀ id ∈ t.retired, t.departments.get? id = none

variable {t : OrgTree} {id : String} {parent : Option String} {line : List String}

theorem wellFormed_empty (organization : Organization) (maxDepth : Int) :
    (empty organization maxDepth).WellFormed where
  department := nofun
  team := nofun
  rooted := nofun
  named := nofun
  teamLive := nofun
  memberLive := nofun
  retiredDead := by simp [empty]

namespace WellFormed

theorem lineage_of_held (wf : t.WellFormed) {d : Department}
    (held : t.departments.get? id = some d) :
    ∃ above, Lineage t.departments (some id) (id :: above) ∧
      Lineage t.departments d.parentId above ∧ ((id :: above).length : Int) ≤ t.maxDepth := by
  obtain ⟨line, h, bounded⟩ := wf.rooted id d held
  cases h with
  | step found up =>
      cases found.symm.trans held
      exact ⟨_, .step held up, up, bounded⟩

theorem not_own_parent (wf : t.WellFormed) {d : Department}
    (held : t.departments.get? id = some d) : d.parentId ≠ some id := by
  obtain ⟨_, _, up, _⟩ := wf.lineage_of_held held
  exact Lineage.not_own_parent held up

theorem parent_live (wf : t.WellFormed) {d : Department} {above : String}
    (held : t.departments.get? id = some d) (under : d.parentId = some above) :
    t.departments.contains above = true := by
  obtain ⟨_, _, up, _⟩ := wf.lineage_of_held held
  rw [under] at up
  cases up with
  | step there _ => exact Table.contains_iff.mpr ⟨_, there⟩

/-- The place that a walk upwards may start from has a lineage if the depth of it is known. -/
theorem lineage_of_parentDepth (wf : t.WellFormed) {depth : Nat}
    (deep : t.parentDepth parent = .ok depth) :
    ∃ line, Lineage t.departments parent line ∧ line.length = depth := by
  cases parent with
  | none =>
      cases deep
      exact ⟨[], .top, rfl⟩
  | some above =>
      cases held : t.departments.get? above with
      | none => simp [parentDepth, depthOf, ancestors, department, held, Except.map] at deep
      | some d =>
          obtain ⟨_, h, -, -⟩ := wf.lineage_of_held held
          rw [parentDepth_of_lineage h] at deep
          cases deep
          exact ⟨_, h, rfl⟩

/-! ## Filing a department -/

/-- A department may be filed where its lineage leaves room for all that is below it and where no
other department bears its name. -/
theorem putDepartment (wf : t.WellFormed) {d : Department} {height : Nat} (own : d.id = id)
    (ours : d.organizationId = t.organization.id) (up : Lineage t.departments d.parentId line)
    (outside : id ∉ line) (some_height : 1 ≤ height)
    (high : ∀ place below above, Lineage t.departments place (below ++ id :: above) →
      below.length + 1 ≤ height)
    (room : ((line.length + height : Nat) : Int) ≤ t.maxDepth)
    (free : t.NameFree d.name d.parentId (some id)) (unused : id ∉ t.retired) :
    (t.putDepartment id d).WellFormed := by
  have kept {other : String} (differs : id ≠ other) :
      (t.putDepartment id d).departments.get? other = t.departments.get? other :=
    Table.get?_put_of_ne _ differs d
  have stays {other : String} (live : t.departments.contains other = true) :
      (t.putDepartment id d).departments.contains other = true := by
    obtain ⟨found, held⟩ := Table.contains_iff.mp live
    by_cases here : id = other
    · subst here
      exact Table.contains_iff.mpr ⟨d, Table.get?_put_self _ _ _⟩
    · exact Table.contains_iff.mpr ⟨found, (kept here).trans held⟩
  have cases_held {other : String} {found : Department}
      (held : (t.putDepartment id d).departments.get? other = some found) :
      (id = other ∧ found = d) ∨ (id ≠ other ∧ t.departments.get? other = some found) := by
    by_cases here : id = other
    · subst here
      exact .inl ⟨rfl, Option.some.inj (held.symm.trans (Table.get?_put_self _ _ _))⟩
    · exact .inr ⟨here, (kept here).symm.trans held⟩
  -- The only new name among siblings is that of the department itself.
  have alone {other : String} {found : Department} (held : t.departments.get? other = some found)
      (differs : id ≠ other) (siblings : found.parentId = d.parentId)
      (named : d.name ≠ "") : found.name ≠ d.name := by
    refine free named other found held siblings fun same => differs ?_
    rw [← Option.some.inj same, (wf.department other found held).1]
  refine ⟨⟨?department, wf.team⟩, ?rooted, ?named, ?teamLive, ?memberLive, ?retiredDead⟩
  case department =>
    intro other found held
    rcases cases_held held with ⟨rfl, rfl⟩ | ⟨-, held⟩
    · exact ⟨own, ours⟩
    · exact wf.department other found held
  case rooted =>
    intro other found held
    rcases cases_held held with ⟨rfl, rfl⟩ | ⟨-, held⟩
    · refine ⟨id :: line, .step (Table.get?_put_self _ _ _) (up.put_of_not_mem outside found), ?_⟩
      change ((line.length + 1 : Nat) : Int) ≤ t.maxDepth
      omega
    · obtain ⟨old, h, bounded⟩ := wf.rooted other found held
      by_cases met : id ∈ old
      · obtain ⟨below, above, rfl⟩ := List.append_of_mem met
        have short := high _ _ _ h
        refine ⟨below ++ id :: line, h.put_of_mem up outside, ?_⟩
        change ((below ++ id :: line).length : Int) ≤ t.maxDepth
        rw [List.length_append, List.length_cons]
        omega
      · exact ⟨old, h.put_of_not_mem met d, bounded⟩
  case named =>
    intro first d₁ second d₂ filed₁ filed₂ siblings same named
    rcases cases_held filed₁ with ⟨rfl, rfl⟩ | ⟨differs₁, held₁⟩
    · rcases cases_held filed₂ with ⟨rfl, -⟩ | ⟨differs₂, held₂⟩
      · rfl
      · exact absurd same.symm (alone held₂ differs₂ siblings.symm named)
    · rcases cases_held filed₂ with ⟨rfl, rfl⟩ | ⟨-, held₂⟩
      · exact absurd same (alone held₁ differs₁ siblings (same ▸ named))
      · exact wf.named first d₁ second d₂ held₁ held₂ siblings same named
  case teamLive =>
    intro other team department held within
    exact stays (wf.teamLive other team department held within)
  case memberLive =>
    intro other set held
    exact stays (wf.memberLive other set held)
  case retiredDead =>
    intro other retired
    have differs : id ≠ other := by
      rintro rfl
      exact unused retired
    exact (kept differs).trans (wf.retiredDead other retired)

end WellFormed

/-! ## Dropping a department -/

section

variable {d : Department} {other : String}

@[simp] theorem organization_without : (t.without id parent).organization = t.organization := by
  cases parent <;> rfl

@[simp] theorem maxDepth_without : (t.without id parent).maxDepth = t.maxDepth := by
  cases parent <;> rfl

theorem departments_without :
    (t.without id parent).departments = (t.handOverChildren id parent).departments.erase id := by
  cases parent <;> rfl

theorem teams_without : (t.without id parent).teams = (t.handOverTeams id parent).teams := by
  cases parent <;> rfl

theorem mem_retired_without :
    other ∈ (t.without id parent).retired ↔ other = id ∨ other ∈ t.retired := by
  have same : (t.without id parent).retired = t.retired.insert id := by
    cases parent <;> rfl
  rw [same, NameSet.mem_insert]

theorem department_without_eq_some_iff {found : Department} :
    (t.without id parent).departments.get? other = some found ↔
      other ≠ id ∧ ∃ old, t.departments.get? other = some old ∧
        { old with parentId := handOver id parent old.parentId } = found := by
  rw [departments_without, Table.get?_erase, handOverChildren, Table.get?_mapValues]
  by_cases here : other = id <;> simp [here]

theorem department_without {old : Department} (parent : Option String) (differs : other ≠ id)
    (held : t.departments.get? other = some old) :
    (t.without id parent).departments.get? other =
      some { old with parentId := handOver id parent old.parentId } :=
  department_without_eq_some_iff.mpr ⟨differs, old, held, rfl⟩

theorem team_without_eq_some_iff {found : Team} :
    (t.without id parent).teams.get? other = some found ↔
      ∃ old, t.teams.get? other = some old ∧
        { old with departmentId := handOver id parent old.departmentId } = found := by
  rw [teams_without, handOverTeams, Table.get?_mapValues, Option.map_eq_some_iff]

theorem get?_members_without_self (beside : parent ≠ some id) :
    (t.without id parent).members.get? id = none := by
  cases parent with
  | none => exact Table.get?_erase_self _ _
  | some above =>
      have differs : above ≠ id := fun same => beside (congrArg some same)
      exact (Table.get?_put_of_ne _ differs _).trans (Table.get?_erase_self _ _)

theorem get?_members_without_of_ne (beside : some other ≠ parent) (differs : other ≠ id) :
    (t.without id parent).members.get? other = t.members.get? other := by
  have erased : (t.members.erase id).get? other = t.members.get? other := by
    rw [Table.get?_erase, if_neg differs]
  cases parent with
  | none => exact erased
  | some above =>
      have apart : above ≠ other := fun same => beside (congrArg some same.symm)
      exact (Table.get?_put_of_ne _ apart _).trans erased

/-- Whoever has a member set after a department was dropped had one before, or is its parent. -/
theorem members_without {set : NameSet}
    (held : (t.without id parent).members.get? other = some set) :
    parent = some other ∨ other ≠ id ∧ ∃ before, t.members.get? other = some before := by
  by_cases heir : parent = some other
  · exact .inl heir
  · have differs : other ≠ id := by
      rintro rfl
      cases (get?_members_without_self heir).symm.trans held
    rw [get?_members_without_of_ne (Ne.symm heir) differs] at held
    exact .inr ⟨differs, set, held⟩

theorem contains_without (differs : other ≠ id) (live : t.departments.contains other = true) :
    (t.without id parent).departments.contains other = true := by
  obtain ⟨found, held⟩ := Table.contains_iff.mp live
  exact Table.contains_iff.mpr ⟨_, department_without parent differs held⟩

/-- When a department is gone, the lineages of the others are without it and otherwise the same. -/
theorem lineage_without (gone : t.departments.get? id = some d) (differs : other ≠ id)
    (h : Lineage t.departments (some other) line) :
    Lineage (t.without id d.parentId).departments (some other) (line.filter (· ≠ id)) := by
  have place : handOver id d.parentId (some other) = some other :=
    handOver_of_ne (by simpa using differs)
  have shorter := h.handOver gone
  rw [place] at shorter
  rw [departments_without]
  exact shorter

namespace WellFormed

/-- The parent of a department is another one, and it is there when the department is gone. -/
theorem parent_stays (wf : t.WellFormed) (gone : t.departments.get? id = some d)
    (under : d.parentId = some other) :
    (t.without id d.parentId).departments.contains other = true := by
  refine contains_without ?_ (wf.parent_live gone under)
  rintro rfl
  exact wf.not_own_parent gone under

theorem rooted_without (wf : t.WellFormed) (gone : t.departments.get? id = some d)
    {found : Department} (filed : (t.without id d.parentId).departments.get? other = some found) :
    ∃ line, Lineage (t.without id d.parentId).departments (some other) line ∧
      (line.length : Int) ≤ t.maxDepth := by
  obtain ⟨differs, old, held, -⟩ := department_without_eq_some_iff.mp filed
  obtain ⟨line, h, bounded⟩ := wf.rooted other old held
  have fewer : (line.filter (· ≠ id)).length ≤ line.length := List.length_filter_le _ _
  exact ⟨line.filter (· ≠ id), lineage_without gone differs h, by omega⟩

theorem named_without (wf : t.WellFormed)
    (free : ∀ child ∈ t.childrenOf (some id), t.NameFree child.name d.parentId (some id))
    {first second : String} {d₁ d₂ : Department}
    (filed₁ : (t.without id d.parentId).departments.get? first = some d₁)
    (filed₂ : (t.without id d.parentId).departments.get? second = some d₂)
    (siblings : d₁.parentId = d₂.parentId) (same : d₁.name = d₂.name) (named : d₁.name ≠ "") :
    first = second := by
  obtain ⟨differs₁, old₁, held₁, rfl⟩ := department_without_eq_some_iff.mp filed₁
  obtain ⟨differs₂, old₂, held₂, rfl⟩ := department_without_eq_some_iff.mp filed₂
  -- A child that is handed over and a department already under the parent differ in name.
  have apart {child beside : String} {d₁ d₂ : Department}
      (held₁ : t.departments.get? child = some d₁) (held₂ : t.departments.get? beside = some d₂)
      (under : d₁.parentId = some id) (siblings : d₂.parentId = d.parentId)
      (differs : beside ≠ id) (named : d₁.name ≠ "") : d₂.name ≠ d₁.name := by
    have member : d₁ ∈ t.childrenOf (some id) := mem_childrenOf_iff.mpr ⟨⟨child, held₁⟩, under⟩
    refine free d₁ member named beside d₂ held₂ siblings ?_
    rw [(wf.department beside d₂ held₂).1]
    exact fun same => differs (Option.some.inj same)
  simp only [handOver] at siblings same named
  by_cases under₁ : old₁.parentId = some id <;> by_cases under₂ : old₂.parentId = some id
  · exact wf.named first old₁ second old₂ held₁ held₂ (under₁.trans under₂.symm) same named
  · rw [if_pos under₁, if_neg under₂] at siblings
    exact absurd same.symm (apart held₁ held₂ under₁ siblings.symm differs₂ named)
  · rw [if_neg under₁, if_pos under₂] at siblings
    exact absurd same (apart held₂ held₁ under₂ siblings differs₁ (same ▸ named))
  · rw [if_neg under₁, if_neg under₂] at siblings
    exact wf.named first old₁ second old₂ held₁ held₂ siblings same named

/-- A department may be dropped where no child bears the name of a department beside it. -/
theorem without (wf : t.WellFormed) (gone : t.departments.get? id = some d)
    (free : ∀ child ∈ t.childrenOf (some id), t.NameFree child.name d.parentId (some id)) :
    (t.without id d.parentId).WellFormed where
  department other found filed := by
    obtain ⟨-, old, held, rfl⟩ := department_without_eq_some_iff.mp filed
    rw [organization_without]
    exact wf.department other old held
  team other found filed := by
    obtain ⟨old, held, rfl⟩ := team_without_eq_some_iff.mp filed
    rw [organization_without]
    exact wf.team other old held
  rooted other found filed := by
    rw [maxDepth_without]
    exact wf.rooted_without gone filed
  named first d₁ second d₂ filed₁ filed₂ := wf.named_without free filed₁ filed₂
  teamLive other found department filed within := by
    obtain ⟨old, held, rfl⟩ := team_without_eq_some_iff.mp filed
    simp only [handOver] at within
    split at within
    · exact wf.parent_stays gone within
    · next stays =>
        refine contains_without ?_ (wf.teamLive other old department held within)
        rintro rfl
        exact stays within
  memberLive other set filed := by
    rcases members_without filed with under | ⟨differs, old, held⟩
    · exact wf.parent_stays gone under
    · exact contains_without differs (wf.memberLive other old held)
  retiredDead other retired := by
    refine Option.eq_none_iff_forall_ne_some.mpr fun found filed => ?_
    obtain ⟨differs, old, held, -⟩ := department_without_eq_some_iff.mp filed
    rcases mem_retired_without.mp retired with same | retired
    · exact differs same
    · rw [wf.retiredDead other retired] at held
      cases held

end WellFormed

end

end TenantAccess.OrgTree
