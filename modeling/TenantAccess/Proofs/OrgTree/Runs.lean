import TenantAccess.Proofs.OrgTree.WellFormed

/-! # Runs of edits

Whatever edits are asked of a tree that starts empty, carried out or refused, the tree stays
well-formed within its bound. Each edit is a change that keeps a tree well-formed, under conditions
that its questions make sure of.
-/

namespace TenantAccess.OrgTree

open Editing

variable {t next : OrgTree} {id : String} {parent : Option String}

/-! ## Single edits -/

namespace WellFormed

variable {name user : String} {department : Option String} {compliance : List (String × Value)}

theorem create (wf : t.WellFormed) {d : Department}
    (h : (create id parent name compliance).on t = (.ok d, next)) : next.WellFormed := by
  obtain ⟨unused, ⟨depth, deep, fits⟩, free, rfl, rfl⟩ := create_eq_ok_iff.mp h
  obtain ⟨absent, unretired⟩ := checkUnused_eq_ok_iff.mp unused
  obtain ⟨line, up, rfl⟩ := wf.lineage_of_parentDepth deep
  have unmet {place : Option String} {line : List String}
      (h : Lineage t.departments place line) : id ∉ line := by
    intro met
    obtain ⟨d, held⟩ := h.held id met
    rw [absent] at held
    cases held
  refine wf.putDepartment rfl rfl up (unmet up) (Nat.le_refl 1) ?_
    (checkDepth_eq_ok_iff.mp fits) ?_ unretired
  · intro place below above h
    exact absurd (by simp) (unmet h)
  · intro named other d' held siblings _
    exact checkName_eq_ok_iff.mp free named other d' held siblings nofun

theorem move (wf : t.WellFormed) {d : Department}
    (h : (move id parent).on t = (.ok d, next)) : next.WellFormed := by
  obtain ⟨old, held, outside, ⟨depth, deep, fits⟩, free, rfl, rfl⟩ := move_eq_ok_iff.mp h
  obtain ⟨line, up, rfl⟩ := wf.lineage_of_parentDepth deep
  obtain ⟨above, own, -, -⟩ := wf.lineage_of_held held
  have unretired : id ∉ t.retired := by
    intro retired
    rw [wf.retiredDead id retired] at held
    cases held
  have some_height : 1 ≤ t.subtreeHeight id := by
    have h : Lineage t.departments (some id) ([] ++ id :: above) := own
    exact length_le_subtreeHeight wf.toFiled h
  obtain ⟨sameId, ours⟩ := wf.department id old held
  exact wf.putDepartment sameId ours up ((checkNotUnder_eq_ok_iff up).mp outside) some_height
    (fun _ _ _ h => length_le_subtreeHeight wf.toFiled h) (checkDepth_eq_ok_iff.mp fits)
    (checkName_eq_ok_iff.mp free) unretired

theorem delete (wf : t.WellFormed) {removal : Removal}
    (h : (delete id).on t = (.ok removal, next)) : next.WellFormed := by
  obtain ⟨d, held, free, -, rfl⟩ := delete_eq_ok_iff.mp h
  exact wf.without held (checkNames_eq_ok_iff.mp free)

theorem putMembers (wf : t.WellFormed) (live : t.departments.contains id = true) (set : NameSet) :
    (t.putMembers id set).WellFormed where
  department := wf.department
  team := wf.team
  rooted := wf.rooted
  named := wf.named
  teamLive := wf.teamLive
  memberLive other set' held := by
    by_cases here : id = other
    · exact here ▸ live
    · exact wf.memberLive other set' ((Table.get?_put_of_ne _ here set).symm.trans held)
  retiredDead := wf.retiredDead

theorem addMember (wf : t.WellFormed) (h : (addMember id user).on t = (.ok (), next)) :
    next.WellFormed := by
  obtain ⟨live, rfl⟩ := addMember_eq_ok_iff.mp h
  exact wf.putMembers (Table.contains_iff.mpr live) _

theorem removeMember (wf : t.WellFormed) (h : (removeMember id user).on t = (.ok (), next)) :
    next.WellFormed := by
  rcases removeMember_cases h with rfl | ⟨set, held, rfl⟩
  · exact wf
  · exact wf.putMembers (wf.memberLive id set held) _

theorem putTeam (wf : t.WellFormed) (live : t.checkDepartment department = .ok ()) :
    (t.putTeam id ⟨id, t.organization.id, department⟩).WellFormed where
  department := wf.department
  team other team held := by
    by_cases here : id = other
    · subst here
      cases (Table.get?_put_self _ _ _).symm.trans held
      exact ⟨rfl, rfl⟩
    · exact wf.team other team ((Table.get?_put_of_ne _ here _).symm.trans held)
  rooted := wf.rooted
  named := wf.named
  teamLive other team within held inside := by
    by_cases here : id = other
    · subst here
      cases (Table.get?_put_self _ _ _).symm.trans held
      exact Table.contains_iff.mpr (checkDepartment_eq_ok_iff.mp live within inside)
    · exact wf.teamLive other team within ((Table.get?_put_of_ne _ here _).symm.trans held) inside
  memberLive := wf.memberLive
  retiredDead := wf.retiredDead

theorem dropTeam (wf : t.WellFormed) : (t.dropTeam id).WellFormed := by
  have kept {other : String} {team : Team} (held : (t.dropTeam id).teams.get? other = some team) :
      t.teams.get? other = some team := by
    rw [OrgTree.dropTeam, Table.get?_erase] at held
    split at held
    · cases held
    · exact held
  exact
    { department := wf.department
      team := fun other team held => wf.team other team (kept held)
      rooted := wf.rooted
      named := wf.named
      teamLive := fun other team within held => wf.teamLive other team within (kept held)
      memberLive := wf.memberLive
      retiredDead := wf.retiredDead }

end WellFormed

/-! ## One step, and all steps -/

theorem WellFormed.steps (wf : t.WellFormed) {e : Edit} {answer : EditAnswer}
    (h : e.steps.on t = (.ok answer, next)) : next.WellFormed := by
  cases e with
  | create =>
      obtain ⟨d, done, -⟩ := on_bind_pure_eq_ok_iff.mp h
      exact wf.create done
  | move =>
      obtain ⟨d, done, -⟩ := on_bind_pure_eq_ok_iff.mp h
      exact wf.move done
  | delete =>
      obtain ⟨removal, done, -⟩ := on_bind_pure_eq_ok_iff.mp h
      exact wf.delete done
  | addMember =>
      obtain ⟨_, done, -⟩ := on_bind_pure_eq_ok_iff.mp h
      exact wf.addMember done
  | removeMember =>
      obtain ⟨_, done, -⟩ := on_bind_pure_eq_ok_iff.mp h
      exact wf.removeMember done
  | addTeam | moveTeam =>
      obtain ⟨team, done, -⟩ := on_bind_pure_eq_ok_iff.mp h
      obtain ⟨-, live, rfl, rfl⟩ := fileTeam_eq_ok_iff.mp done
      exact wf.putTeam live
  | removeTeam =>
      obtain ⟨_, done, -⟩ := on_bind_pure_eq_ok_iff.mp h
      obtain ⟨-, rfl⟩ := removeTeam_eq_ok_iff.mp done
      exact wf.dropTeam

/-- Edits leave the organization and the bound as they are, and what an edit retires is what it
deletes. -/
theorem frame_steps {e : Edit} {answer : EditAnswer} (h : e.steps.on t = (.ok answer, next)) :
    next.organization = t.organization ∧ next.maxDepth = t.maxDepth ∧
      ∀ other, other ∈ next.retired ↔ e = .delete other ∨ other ∈ t.retired := by
  have kept (alive : ∀ other, e ≠ .delete other) :
      ∀ other, other ∈ t.retired ↔ e = .delete other ∨ other ∈ t.retired :=
    fun other => ⟨.inr, fun either => either.resolve_left (alive other)⟩
  cases e with
  | create =>
      obtain ⟨d, done, -⟩ := on_bind_pure_eq_ok_iff.mp h
      obtain ⟨-, -, -, -, rfl⟩ := create_eq_ok_iff.mp done
      exact ⟨rfl, rfl, kept nofun⟩
  | move =>
      obtain ⟨d, done, -⟩ := on_bind_pure_eq_ok_iff.mp h
      obtain ⟨old, -, -, -, -, -, rfl⟩ := move_eq_ok_iff.mp done
      exact ⟨rfl, rfl, kept nofun⟩
  | delete id =>
      obtain ⟨removal, done, -⟩ := on_bind_pure_eq_ok_iff.mp h
      obtain ⟨d, -, -, -, rfl⟩ := delete_eq_ok_iff.mp done
      refine ⟨organization_without, maxDepth_without, fun other => ?_⟩
      rw [mem_retired_without, Edit.delete.injEq, eq_comm]
  | addMember =>
      obtain ⟨_, done, -⟩ := on_bind_pure_eq_ok_iff.mp h
      obtain ⟨-, rfl⟩ := addMember_eq_ok_iff.mp done
      exact ⟨rfl, rfl, kept nofun⟩
  | removeMember =>
      obtain ⟨_, done, -⟩ := on_bind_pure_eq_ok_iff.mp h
      rcases removeMember_cases done with rfl | ⟨set, -, rfl⟩ <;> exact ⟨rfl, rfl, kept nofun⟩
  | addTeam | moveTeam =>
      obtain ⟨team, done, -⟩ := on_bind_pure_eq_ok_iff.mp h
      obtain ⟨-, -, -, rfl⟩ := fileTeam_eq_ok_iff.mp done
      exact ⟨rfl, rfl, kept nofun⟩
  | removeTeam =>
      obtain ⟨_, done, -⟩ := on_bind_pure_eq_ok_iff.mp h
      obtain ⟨-, rfl⟩ := removeTeam_eq_ok_iff.mp done
      exact ⟨rfl, rfl, kept nofun⟩

/-- A refused edit leaves the tree as it was. -/
theorem after_of_refused {e : Edit} {f : Failure} (refused : (e.steps.on t).1 = .error f) :
    Edit.after t e = t := e.guarded_steps t f refused

/-- After an edit the tree is as it was, or as the edit leaves it when it is carried out. -/
theorem after_cases (t : OrgTree) (e : Edit) :
    Edit.after t e = t ∨ ∃ answer, e.steps.on t = (.ok answer, Edit.after t e) := by
  cases answered : (e.steps.on t).1 with
  | error f => exact .inl (after_of_refused answered)
  | ok answer => exact .inr ⟨answer, Prod.ext answered rfl⟩

theorem WellFormed.after (wf : t.WellFormed) (e : Edit) : (Edit.after t e).WellFormed := by
  rcases after_cases t e with same | ⟨answer, done⟩
  · rwa [same]
  · exact wf.steps done

theorem frame_after (t : OrgTree) (e : Edit) :
    (Edit.after t e).organization = t.organization ∧ (Edit.after t e).maxDepth = t.maxDepth := by
  rcases after_cases t e with same | ⟨answer, done⟩
  · rw [same]
    exact ⟨rfl, rfl⟩
  · obtain ⟨organization, bound, -⟩ := frame_steps done
    exact ⟨organization, bound⟩

/-- The tree that some edits leave, one after another. -/
def afterAll (t : OrgTree) (edits : List Edit) : OrgTree := edits.foldl Edit.after t

theorem WellFormed.afterAll (wf : t.WellFormed) (edits : List Edit) :
    (t.afterAll edits).WellFormed := by
  induction edits generalizing t with
  | nil => exact wf
  | cons e rest ih => exact ih (wf.after e)

theorem frame_afterAll (t : OrgTree) (edits : List Edit) :
    (t.afterAll edits).organization = t.organization ∧
      (t.afterAll edits).maxDepth = t.maxDepth := by
  induction edits generalizing t with
  | nil => exact ⟨rfl, rfl⟩
  | cons e rest ih =>
      obtain ⟨organization, bound⟩ := frame_after t e
      exact ⟨(ih _).1.trans organization, (ih _).2.trans bound⟩

/-- A tree that starts empty is well-formed after any edits, carried out or refused, within the
bound that it started with; and an edit that is refused leaves every part of it as it was. -/
theorem wellFormed_afterAll (organization : Organization) (maxDepth : Int) (edits : List Edit) :
    let t := (empty organization maxDepth).afterAll edits
    t.WellFormed ∧ t.maxDepth = maxDepth ∧
      (∀ id d parent, t.departments.get? id = some d → d.parentId = some parent →
        t.departments.contains parent = true) ∧
      ∀ e f, (e.steps.on t).1 = .error f → Edit.after t e = t := by
  intro t
  have wf : t.WellFormed := (wellFormed_empty organization maxDepth).afterAll edits
  refine ⟨wf, (frame_afterAll _ edits).2, ?_, fun e f refused => after_of_refused refused⟩
  exact fun id d parent held under => wf.parent_live held under

end TenantAccess.OrgTree
