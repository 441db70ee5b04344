import TenantAccess.Proofs.Decision.Upgrades
import TenantAccess.Proofs.Plan.QuotaUse

/-! # The quota that comes with access

Two layers bear on it: the plan's quota, if the plan includes the pair, and the override's. They are
combined once, when the decision is made, and usage is only checked later. It is compared here with
checking each layer by itself, and so are the features.
-/

namespace TenantAccess

namespace Decision

/-- Usage is held against every layer by itself: the decision stands where all let it through, and is
otherwise refused with what one of them reports. -/
structure HeldTo (d : Decision) (layers : List (Option Quota)) (usage : Usage) : Prop where
  stands : d.enforceUsage usage = d ↔ ∀ layer ∈ layers, Quota.checkUsage layer usage = none
  refused : d.enforceUsage usage ≠ d →
    ∃ layer ∈ layers, ∃ limit, Quota.checkUsage layer usage = some limit ∧
      d.enforceUsage usage = .deny .quotaExceeded ("Quota exceeded: " ++ limit.message)

variable {d : Decision} {layers : List (Option Quota)} {usage : Usage}

theorem enforceUsage_of_passes (passes : Quota.checkUsage d.quota usage = none) :
    d.enforceUsage usage = d := by
  rw [enforceUsage, passes, ite_self]

theorem enforceUsage_of_reached {limit : LimitReached} (allowed : d.isAllowed = true)
    (reached : Quota.checkUsage d.quota usage = some limit) :
    d.enforceUsage usage = .deny .quotaExceeded ("Quota exceeded: " ++ limit.message) := by
  have notDenied : ¬ d.isDenied = true := by simp [isDenied, allowed]
  rw [enforceUsage, reached, if_neg notDenied]

theorem heldTo_of_allowed (allowed : d.isAllowed = true) (combined : d.quota = Quota.combine layers)
    (usage : Usage) : d.HeldTo layers usage := by
  cases reported : Quota.checkUsage (Quota.combine layers) usage with
  | none =>
      have kept : d.enforceUsage usage = d := enforceUsage_of_passes (combined ▸ reported)
      exact ⟨iff_of_true kept (Quota.checkUsage_combine_iff.mp reported), fun h => absurd kept h⟩
  | some limit =>
      have refused := enforceUsage_of_reached allowed (combined ▸ reported)
      obtain ⟨layer, member, reports⟩ := Quota.checkUsage_combine reported
      constructor
      · apply iff_of_false
        · intro kept
          have denied : (d.enforceUsage usage).isAllowed = false := congrArg isAllowed refused
          rw [kept, allowed] at denied
          cases denied
        · intro passes
          rw [passes layer member] at reports
          cases reports
      · intro _
        exact ⟨layer, member, limit, reports, refused⟩

end Decision

namespace Engine

variable {e : Engine} {user : User} {pair : Pair} {target : Option Target}
  {snapshot : Option Snapshot}

/-- What the plan limits the pair to, if it includes it, and what the override does. -/
def quotaLayers (e : Engine) (user : User) (pair : Pair) (override : Option Override) :
    List (Option Quota) :=
  [((e.plans.table user.tier).get? pair).join, override.bind (·.quota)]

theorem quota_privilegeFor (e : Engine) (user : User) (pair : Pair) (override : Option Override) :
    (privilegeFor user pair (e.plans.privilege? user.tier pair) override).quota =
      Quota.combine (e.quotaLayers user pair override) := by
  unfold privilegeFor quotaLayers Entitlements.privilege?
  cases (e.plans.table user.tier).get? pair with
  | none => cases override.bind (·.quota) <;> rfl
  | some quota =>
      cases override.bind (·.quota) with
      | none => cases quota <;> rfl
      | some added => rfl

theorem decide_of_admits {o : Option Override} (ordinary : user.role ≠ Role.systemAdminId)
    (consulted : e.Consulted user pair snapshot target o) (admits : e.Admits user pair target o) :
    ∃ scope, e.Reaches user pair target o scope ∧
      e.decide user pair target snapshot =
        .allow scope (privilegeFor user pair (e.plans.privilege? user.tier pair) o) := by
  obtain ⟨scope, reaches, given⟩ := decideGiven_of_admits consulted.valid_all admits
  exact ⟨scope, reaches, (decide_of_consulted ordinary consulted).trans given⟩

/-- What was found out where access is given. -/
theorem decide_of_allowed (ordinary : user.role ≠ Role.systemAdminId)
    (allowed : (e.decide user pair target snapshot).isAllowed = true) :
    ∃ o scope, e.Consulted user pair snapshot target o ∧ e.Admits user pair target o ∧
      e.Reaches user pair target o scope ∧
      e.decide user pair target snapshot =
        .allow scope (privilegeFor user pair (e.plans.privilege? user.tier pair) o) := by
  obtain ⟨o, consulted, admits⟩ := (decide_isAllowed_iff ordinary).mp allowed
  obtain ⟨scope, reaches, given⟩ := decide_of_admits ordinary consulted admits
  exact ⟨o, scope, consulted, admits, reaches, given⟩

/-- Access comes with the quota of both layers combined. Usage and features are held against each of
them by itself, a looser quota lets no less usage through, and less usage is let through where more
is. -/
theorem decide_layered :
    (∀ (e : Engine) (user : User) (pair : Pair) (target : Option Target)
      (snapshot : Option Snapshot), user.role ≠ Role.systemAdminId →
      let d := e.decide user pair target snapshot
      d.isAllowed = true →
        ∃ o p, e.Consulted user pair snapshot target o ∧ d.privilege = some p ∧
          let layers := e.quotaLayers user pair o
          p.quota = Quota.combine layers ∧
          (∀ layer ∈ layers, Quota.isAtLeastAsPermissive layer d.quota = true) ∧
          (∀ usage, d.HeldTo layers usage) ∧
          ∀ feature, p.hasFeature feature = true ↔
            ∀ q : Quota, some q ∈ layers → q.hasFeature feature = true) ∧
    (∀ hi lo usage, Quota.isAtLeastAsPermissive hi lo = true → Quota.checkUsage lo usage = none →
      Quota.checkUsage hi usage = none) ∧
    ∀ quota (usage less : Usage), less.items ≤ usage.items → less.requests ≤ usage.requests →
      Quota.checkUsage quota usage = none → Quota.checkUsage quota less = none := by
  refine ⟨?_, ?_, ?_⟩
  · intro e user pair target snapshot ordinary d allowed
    obtain ⟨o, scope, consulted, -, -, given⟩ := decide_of_allowed ordinary allowed
    have combined := e.quota_privilegeFor user pair o
    have quota : d.quota = Quota.combine (e.quotaLayers user pair o) :=
      (congrArg Decision.quota given).trans combined
    refine ⟨o, _, consulted, congrArg Decision.privilege given, combined, ?_, ?_, ?_⟩
    · intro layer member
      rw [quota]
      exact Quota.atLeast_combine member
    · exact Decision.heldTo_of_allowed allowed quota
    · intro feature
      exact Privilege.hasFeature_combine_iff combined
  · intro hi lo usage looser
    exact Quota.checkUsage_of_atLeast looser
  · intro quota usage less items requests
    exact Quota.checkUsage_of_less items requests

end Engine

open Sample in
/-- Fifty deletions are paid for and the team allows twenty. -/
theorem Engine.decide_layered_promoted :
    let e : Engine := ⟨engine.roles, .layered free proAdditions .empty, 32⟩
    let d := e.decide promoted deletion (some teamTask) (some (snapshot [boundedRule]))
    d.isAllowed = true ∧ d.quota = some ⟨some 20, some 60, .empty⟩ ∧
      ∃ o, e.Consulted promoted deletion (some (snapshot [boundedRule])) (some teamTask) o ∧
        ∀ usage, d.HeldTo (e.quotaLayers promoted deletion o) usage := by
  intro e d
  obtain ⟨o, p, consulted, -, -, -, held, -⟩ :=
    decide_layered.1 e promoted deletion (some teamTask) (some (snapshot [boundedRule]))
      (by decide) (by decide)
  exact ⟨by decide, by decide, o, consulted, held⟩

end TenantAccess
