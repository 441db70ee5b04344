import TenantAccess.Proofs.Guard.Resolution

/-! # Refusals that explain themselves

Whoever acts on a decision may ask it for a code and a reason, and those who do so take a decision
without them for one that gives access. So it matters that every refusal, wherever it is made, carries
both: the engine's, the one for a limit that is reached, and the guard's for what it cannot look up.
-/

namespace TenantAccess

namespace Decision

/-- A decision that gives access or has a code and a reason. -/
def Explained (d : Decision) : Prop :=
  d.isDenied = true → ∃ code, d.code = some code ∧ d.reason ≠ ""

variable {code : DenialCode} {reason : String}

theorem explained_allow (scope : Scope) (privilege : Privilege) :
    (allow scope privilege).Explained := nofun

theorem explained_deny (given : reason ≠ "") : (deny code reason).Explained :=
  fun _ => ⟨code, rfl, given⟩

/-- A limit that is reached is named. -/
theorem Explained.enforceUsage {d : Decision} (h : d.Explained) (usage : Usage) :
    (d.enforceUsage usage).Explained := by
  unfold Decision.enforceUsage
  split
  · exact h
  · cases Quota.checkUsage d.quota usage with
    | none => exact h
    | some limit =>
        apply explained_deny
        simp [String.append_eq_empty_iff]

end Decision

namespace Engine

open Decision

variable (e : Engine) (user : User) (pair : Pair) (target : Option Target)

theorem explained_decideReach (cap : Scope) (privilege : Privilege) :
    (decideReach user target cap privilege).Explained := by
  cases target with
  | none => exact explained_allow _ _
  | some t =>
      simp only [decideReach]
      cases user.reachOf? t with
      | none => exact explained_deny (by decide)
      | some scope =>
          simp only
          split
          · apply explained_deny
            simp [String.append_eq_empty_iff]
          · exact explained_allow _ _

theorem explained_decideGiven (override : Option Override) :
    (e.decideGiven user pair target override).Explained := by
  have byOverride : (deniedByOverride user pair).Explained := by
    apply explained_deny
    simp [String.append_eq_empty_iff]
  have ungranted : (notGranted user pair).Explained := by
    apply explained_deny
    simp [String.append_eq_empty_iff]
  have excluded : (e.notIncluded user pair).Explained := by
    apply explained_deny
    simp [String.append_eq_empty_iff]
  simp only [decideGiven]
  split
  · exact byOverride
  split
  · exact ungranted
  split
  · exact excluded
  · exact explained_decideReach user target _ _

theorem explained_conclude (found : Except Fault (Option (Resolution Override))) :
    (e.conclude user pair target found).decision.Explained := by
  cases found with
  | error f => exact explained_deny (by decide)
  | ok r => exact e.explained_decideGiven user pair target (r.bind (·.override))

theorem explained_decide (snapshot : Option Snapshot) :
    (e.decide user pair target snapshot).Explained := by
  unfold decide deliberate
  split
  · exact explained_allow _ _
  · exact e.explained_conclude user pair target _

end Engine

namespace Guard

theorem Decides.explained {g : Guard} {roles : RoleTable} {s : Sources} {q : AccessRequest}
    {d : Decision} (h : g.Decides roles s q d) : d.Explained := by
  have reasonGiven (f : Fault) : reasonFor f ≠ "" := by
    unfold reasonFor
    split <;> decide
  cases h with
  | systemAdmin => exact Engine.explained_decide _ _ _ _ _
  | withoutMemberships | withoutSnapshot => exact Decision.explained_deny (reasonGiven _)
  | resolved => exact Engine.explained_decide _ _ _ _ _

end Guard

end TenantAccess
