import TenantAccess.Proofs.Decision.Conditions
import TenantAccess.Proofs.Hierarchy.Walk

/-! # Passage through the levels

What a decision takes from the hierarchy is the walk through the levels of the target, with whoever
speaks at each of them for the user's role.
-/

namespace TenantAccess.Engine

/-- The levels that a request on a target passes through. -/
inductive Passes (e : Engine) (s : Snapshot) : Target → List Level → Prop where
  | through {t : Target} {organizationId : String} {levels : List Level}
      (named : given? t.organizationId = some organizationId)
      (found : s.levels e.maxDepth organizationId none t.teamId = .ok levels) :
      Passes e s t levels

/-- Who speaks at a level for a user's role and a pair. -/
def speaker (e : Engine) (user : User) (pair : Pair) (s : Snapshot) :
    Level → Option (Governing Override) :=
  s.governing? e.roles user.role (.ofPair pair)

variable {e : Engine} {user : User} {pair : Pair} {s s' : Snapshot}

theorem resolve_of_levels (user : User) (pair : Pair) {organizationId : String} {teamId : Option String}
    {levels : List Level} (h : s.levels e.maxDepth organizationId none teamId = .ok levels) :
    s.resolve e.roles e.maxDepth organizationId none teamId user.role pair =
      .ok (Resolution.walk (e.speaker user pair s) false none levels) :=
  Snapshot.resolve_eq_ok_iff.mpr ⟨levels, h, rfl⟩

theorem Passes.consulted {t : Target} {levels : List Level} (h : e.Passes s t levels)
    (valid : t.validate = .ok ()) :
    e.Consulted user pair (some s) (some t)
      (Resolution.walk (e.speaker user pair s) false none levels).override := by
  obtain ⟨named, found⟩ := h
  have walked := resolve_of_levels user pair found
  exact .inside valid named rfl (organization_of_resolve walked) walked

theorem Consulted.passes {t : Target} {organizationId : String} {o : Option Override}
    (h : e.Consulted user pair (some s) (some t) o)
    (named : given? t.organizationId = some organizationId) :
    ∃ levels, e.Passes s t levels ∧
      o = (Resolution.walk (e.speaker user pair s) false none levels).override := by
  cases h with
  | outside _ homeless => simp [homeless] at named
  | inside _ named' held _ walked =>
      cases held
      obtain ⟨levels, found, rfl⟩ := Snapshot.resolve_eq_ok_iff.mp walked
      exact ⟨levels, .through named' found, rfl⟩

/-- Snapshots with the same levels let requests pass through the same levels. -/
theorem passes_congr {t : Target} {levels : List Level}
    (same : ∀ organizationId teamId, s'.levels e.maxDepth organizationId none teamId =
      s.levels e.maxDepth organizationId none teamId) :
    e.Passes s' t levels ↔ e.Passes s t levels := by
  constructor
  · rintro ⟨named, found⟩
    exact .through named ((same _ _).symm.trans found)
  · rintro ⟨named, found⟩
    exact .through named ((same _ _).trans found)

theorem decide_of_passes {t : Target} {levels : List Level} (pair : Pair)
    (ordinary : user.role ≠ Role.systemAdminId) (valid : t.validate = .ok ())
    (passes : e.Passes s t levels) :
    e.decide user pair (some t) (some s) = e.decideGiven user pair (some t)
      (Resolution.walk (e.speaker user pair s) false none levels).override :=
  decide_of_consulted ordinary (passes.consulted valid)

/-- What is found out about a target either does not depend on the snapshot, or comes from a
passage through its levels. -/
theorem Consulted.anywhere_or_passes {target : Option Target} {o : Option Override}
    (h : e.Consulted user pair (some s) target o) :
    (∀ s', e.Consulted user pair (some s') target o) ∨
      ∃ t levels, target = some t ∧ t.validate = .ok () ∧ e.Passes s t levels := by
  cases h with
  | list => exact .inl fun _ => .list
  | outside valid homeless => exact .inl fun _ => .outside valid homeless
  | inside valid named held _ walked =>
      cases held
      obtain ⟨levels, found, -⟩ := Snapshot.resolve_eq_ok_iff.mp walked
      exact .inr ⟨_, levels, rfl, valid, .through named found⟩

/-- Where the levels are the same, so is a decision, unless it takes a passage through them. -/
theorem decide_eq_or_passes (user : User) (pair : Pair) (target : Option Target)
    (same : ∀ organizationId teamId, s'.levels e.maxDepth organizationId none teamId =
      s.levels e.maxDepth organizationId none teamId) :
    e.decide user pair target (some s') = e.decide user pair target (some s) ∨
      ∃ t levels, target = some t ∧ user.role ≠ Role.systemAdminId ∧ t.validate = .ok () ∧
        e.Passes s t levels := by
  by_cases ordinary : user.role = Role.systemAdminId
  · left
    rw [decide_of_systemAdmin e pair target _ ordinary, decide_of_systemAdmin e pair target _ ordinary]
  by_cases consulted : ∃ o, e.Consulted user pair (some s) target o
  · obtain ⟨o, ho⟩ := consulted
    rcases ho.anywhere_or_passes with anywhere | ⟨t, levels, named, valid, passes⟩
    · left
      rw [decide_of_consulted ordinary ho, decide_of_consulted ordinary (anywhere s')]
    · exact .inr ⟨t, levels, named, ordinary, valid, passes⟩
  · left
    rw [decide_of_not_consulted ordinary consulted, decide_of_not_consulted ordinary]
    rintro ⟨o, ho⟩
    rcases ho.anywhere_or_passes with anywhere | ⟨t, levels, rfl, valid, passes⟩
    · exact consulted ⟨o, anywhere s⟩
    · exact consulted ⟨_, ((passes_congr same).mp passes).consulted valid⟩

end TenantAccess.Engine
