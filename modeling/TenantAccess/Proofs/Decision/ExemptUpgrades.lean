import TenantAccess.Proofs.Decision.QuotaLayers

/-! # Upgrades of exempt grants

A grant that is exempt from plans gives access on every plan, so access through it survives an
upgrade. Its quota need not: where the plan leaves the pair out only the override limits it, and where
a higher plan includes the pair that plan's quota is laid over it.
-/

namespace TenantAccess

namespace Quota

/-- One more layer tightens nothing exactly where it is as permissive as the rest. -/
theorem combine_atLeast_last_iff {a b : Option Quota} :
    isAtLeastAsPermissive (combine [a, b]) b = true ↔ isAtLeastAsPermissive a b = true := by
  simp only [combine_atLeast_iff, List.forall_mem_cons, List.not_mem_nil, false_implies,
    implies_true, and_true]
  exact and_iff_left (atLeast_refl b)

theorem join_atLeast_iff {granted : Option (Option Quota)} {b : Option Quota} :
    isAtLeastAsPermissive granted.join b = true ↔
      ∀ quota, granted = some quota → isAtLeastAsPermissive quota b = true := by
  cases granted with
  | none => exact iff_of_true (atLeast_none b) nofun
  | some quota =>
      constructor
      · rintro loose _ ⟨⟩
        exact loose
      · intro loose
        exact loose quota rfl

end Quota

namespace Engine

variable {e : Engine} {user : User} {pair : Pair} {target : Option Target}
  {override : Option Override}

theorem Admits.exempt (admits : e.Admits user pair target override)
    (excluded : (e.plans.table user.tier).contains pair = false) :
    ∃ g, RoleTable.grantFor e.roles user.role pair = some g ∧ g.tierExempt := by
  rcases admits.included with included | exempt
  · rw [excluded] at included
    cases included
  · exact exempt

/-- Where the plan leaves the pair out, the override's layer is the only one. -/
theorem combine_quotaLayers_of_excluded
    (excluded : (e.plans.table user.tier).contains pair = false) :
    Quota.combine (e.quotaLayers user pair override) = override.bind (·.quota) := by
  have absent : (e.plans.table user.tier).get? pair = none :=
    Option.isNone_iff_eq_none.mp (Option.isSome_eq_false_iff.mp excluded)
  rw [quotaLayers, absent]
  cases override.bind (·.quota) <;> rfl

/-- Access through an exempt grant is kept on every higher plan, whose quota, if it has one for the
pair, is combined with the one from before. So the upgrade tightens nothing exactly where that plan's
quota is itself at least as permissive. -/
theorem decide_of_exempt (e : Engine) (user : User) (higher : Tier) (pair : Pair)
    (target : Option Target) (snapshot : Option Snapshot)
    (ordinary : user.role ≠ Role.systemAdminId) (up : higher.isAtLeast user.tier = true) :
    let before := e.decide user pair target snapshot
    let after := e.decide { user with tier := higher } pair target snapshot
    before.isAllowed = true → (e.plans.table user.tier).contains pair = false →
      (∃ g, RoleTable.grantFor e.roles user.role pair = some g ∧ g.tierExempt) ∧
      after.isAllowed = true ∧
      after.quota = Quota.combine [((e.plans.table higher).get? pair).join, before.quota] ∧
      (Quota.isAtLeastAsPermissive after.quota before.quota = true ↔
        ∀ quota, (e.plans.table higher).get? pair = some quota →
          Quota.isAtLeastAsPermissive quota before.quota = true) := by
  intro before after allowed excluded
  obtain ⟨o, scope, consulted, admits, -, given⟩ := decide_of_allowed ordinary allowed
  have exempt := admits.exempt excluded
  let better : User := { user with tier := higher }
  have upgrade : user.Upgrades better := ⟨rfl, rfl, up, fun _ => id⟩
  have admits' : e.Admits better pair target o :=
    ⟨admits.granted.of_upgrade upgrade, .inr exempt, admits.visible.of_upgrade upgrade⟩
  have same : better.role ≠ Role.systemAdminId := ordinary
  obtain ⟨scope', -, given'⟩ := decide_of_admits same (consulted.of_upgrade upgrade) admits'
  -- Before, the override's quota is all there is; it is one of the two layers after.
  have quotaBefore : before.quota = o.bind (·.quota) :=
    calc before.quota
      _ = Quota.combine (e.quotaLayers user pair o) :=
        (congrArg Decision.quota given).trans (e.quota_privilegeFor user pair o)
      _ = o.bind (·.quota) := combine_quotaLayers_of_excluded excluded
  have quotaAfter : after.quota =
      Quota.combine [((e.plans.table higher).get? pair).join, before.quota] := by
    rw [quotaBefore]
    exact (congrArg Decision.quota given').trans (e.quota_privilegeFor better pair o)
  refine ⟨exempt, congrArg Decision.isAllowed given', quotaAfter, ?_⟩
  rw [quotaAfter, Quota.combine_atLeast_last_iff]
  exact Quota.join_atLeast_iff

end Engine

/-! ## A profile on three plans

Viewers see their own profile whatever the plan. The paid plan lists it with limits, the plan for
large customers without any. -/

namespace Sample

def profile : Pair := ⟨.user, .view⟩

def ownProfile : Target := ⟨"u-1", .personal, none, none⟩

def profileEngine : Engine where
  roles := Table.ofList
    [("viewer", .ofGrants "viewer" "Viewer" 10 (Table.ofList [(profile, ⟨.own, true⟩)]))]
  plans := .layered .empty (Table.ofList [(profile, some ⟨some 5, some 10, .empty⟩)])
    (Table.ofList [(profile, none)])
  maxDepth := 32

end Sample

open Sample in
/-- Paying for a plan limits what was unlimited without it. -/
theorem Engine.upgrade_limits_exempt :
    let before := profileEngine.decide viewer profile (some ownProfile) none
    let after := profileEngine.decide { viewer with tier := .pro } profile (some ownProfile) none
    RoleTable.grantFor profileEngine.roles viewer.role profile = some ⟨.own, true⟩ ∧
      (profileEngine.plans.table viewer.tier).contains profile = false ∧
      Tier.pro.isAtLeast viewer.tier = true ∧
      before.isAllowed = true ∧ before.quota = none ∧
      after.isAllowed = true ∧ after.quota = some ⟨some 5, some 10, .empty⟩ ∧
      Quota.isAtLeastAsPermissive after.quota before.quota = false := by
  decide

open Sample in
theorem Engine.decide_of_exempt_unlimited :
    let before := profileEngine.decide viewer profile (some ownProfile) none
    let after :=
      profileEngine.decide { viewer with tier := .enterprise } profile (some ownProfile) none
    viewer.role ≠ Role.systemAdminId ∧ Tier.enterprise.isAtLeast viewer.tier = true ∧
      after.isAllowed = true ∧ Quota.isAtLeastAsPermissive after.quota before.quota = true := by
  intro before after
  obtain ⟨-, allowed, -, loose⟩ :=
    decide_of_exempt profileEngine viewer .enterprise profile (some ownProfile) none (by decide)
      (by decide) (by decide) (by decide)
  refine ⟨by decide, by decide, allowed, loose.mpr ?_⟩
  intro quota granted
  have unlimited : (profileEngine.plans.table .enterprise).get? profile = some none := by decide
  rw [unlimited] at granted
  cases granted
  exact Quota.atLeast_none _

end TenantAccess
