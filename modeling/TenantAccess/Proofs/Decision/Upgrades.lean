import TenantAccess.Proofs.Decision.Conditions
import TenantAccess.Proofs.Place
import TenantAccess.Proofs.Plan.Layers

/-! # Upgrades

A user who moves to a higher plan, or joins more circles, and keeps the role loses nothing: what was
allowed stays allowed, from no narrower scope, and with a quota that is no tighter. Each stage of a
decision is compared on its own first.
-/

namespace TenantAccess

theorem Tier.listingCap_mono {lower higher : Tier} (up : higher.isAtLeast lower = true) :
    lower.listingCap ≤ higher.listingCap := by
  revert up
  cases lower <;> cases higher <;> decide

namespace User

/-- The same user in the same role, on a plan and with memberships that are no less. -/
structure Upgrades (user better : User) : Prop where
  id : better.id = user.id
  role : better.role = user.role
  tier : better.tier.isAtLeast user.tier = true
  memberships : ∀ m ∈ user.memberships, m ∈ better.memberships

namespace Upgrades

variable {user better : User}

theorem any_memberships (up : user.Upgrades better) {test : Membership → Bool}
    (h : user.memberships.any test = true) : better.memberships.any test = true := by
  obtain ⟨m, member, passes⟩ := List.any_eq_true.mp h
  exact List.any_eq_true.mpr ⟨m, up.memberships m member, passes⟩

theorem isTeamMember (up : user.Upgrades better) {teamId : String}
    (h : user.isTeamMember teamId = true) : better.isTeamMember teamId = true :=
  up.any_memberships h

theorem isOrganizationMember (up : user.Upgrades better) {organizationId : String}
    (h : user.isOrganizationMember organizationId = true) :
    better.isOrganizationMember organizationId = true :=
  up.any_memberships h

/-- A target is seen from where it was seen before. -/
theorem reachOf? (up : user.Upgrades better) {t : Target} {scope : Scope}
    (seen : user.reachOf? t = some scope) : better.reachOf? t = some scope := by
  unfold User.reachOf? at seen ⊢
  rw [up.id]
  by_cases own : t.ownerId = user.id
  · rwa [if_pos own] at seen ⊢
  · rw [if_neg own] at seen ⊢
    cases sharing : t.sharing with
    | personal => simp [sharing] at seen
    | team =>
        simp only [sharing, true_and, reduceCtorEq, false_and, if_false] at seen ⊢
        split at seen
        · next member => rwa [if_pos (up.isTeamMember member)]
        · cases seen
    | organization =>
        simp only [sharing, true_and, reduceCtorEq, false_and, if_false] at seen ⊢
        split at seen
        · next member => rwa [if_pos (up.isOrganizationMember member)]
        · cases seen

theorem resolveReach (up : user.Upgrades better) {t : Target} {scope : Scope}
    (seen : user.resolveReach t = .ok (some scope)) :
    better.resolveReach t = .ok (some scope) := by
  have valid := valid_of_resolveReach seen
  rw [user.resolveReach_of_valid valid, Except.ok.injEq] at seen
  rw [better.resolveReach_of_valid valid, up.reachOf? seen]

theorem membershipReach_le (up : user.Upgrades better) :
    user.membershipReach ≤ better.membershipReach := by
  unfold membershipReach
  by_cases organization : user.memberships.any (·.kind == .organization) = true
  · rw [if_pos organization, if_pos (up.any_memberships organization)]
    exact Nat.le_refl _
  · rw [if_neg organization]
    by_cases team : user.memberships.any (·.kind == .team) = true
    · rw [if_pos team, if_pos (up.any_memberships team)]
      split <;> decide
    · rw [if_neg team]
      split
      · decide
      · split <;> decide

end Upgrades

end User

namespace Engine

variable {e : Engine} {user better : User} {pair : Pair} {target : Option Target}
  {snapshot : Option Snapshot} {override : Option Override}

/-! ## Stage by stage -/

/-- The hierarchy is asked about a role, whoever has it. -/
theorem Consulted.of_role (same : better.role = user.role)
    (h : e.Consulted user pair snapshot target override) :
    e.Consulted better pair snapshot target override := by
  cases h with
  | list => exact .list
  | outside valid homeless => exact .outside valid homeless
  | inside valid named held own walked =>
      rw [← same] at walked
      exact .inside valid named held own walked

theorem Granted.of_role (same : better.role = user.role) (h : e.Granted user pair override) :
    e.Granted better pair override :=
  ⟨h.notDenied, same ▸ h.given⟩

theorem Consulted.of_upgrade (up : user.Upgrades better)
    (h : e.Consulted user pair snapshot target override) :
    e.Consulted better pair snapshot target override := h.of_role up.role

theorem Granted.of_upgrade (up : user.Upgrades better) (h : e.Granted user pair override) :
    e.Granted better pair override := h.of_role up.role

theorem Included.of_upgrade (rising : e.plans.Rising) (up : user.Upgrades better)
    (h : e.Included user pair) : e.Included better pair := by
  rcases h with included | exempt
  · obtain ⟨quota, granted⟩ := Table.contains_iff.mp included
    obtain ⟨upper, above, -⟩ := rising.holds up.tier pair quota granted
    exact .inl (Table.contains_iff.mpr ⟨upper, above⟩)
  · exact .inr (up.role ▸ exempt)

theorem capOf_of_upgrade (up : user.Upgrades better) :
    e.capOf better pair override = e.capOf user pair override := by
  simp only [capOf, up.role]

theorem Visible.of_upgrade (up : user.Upgrades better)
    (h : e.Visible user pair target override) : e.Visible better pair target override := by
  intro t named
  obtain ⟨scope, seen, within⟩ := h t named
  exact ⟨scope, up.resolveReach seen, (capOf_of_upgrade up).symm ▸ within⟩

theorem Admits.of_upgrade (rising : e.plans.Rising) (up : user.Upgrades better)
    (h : e.Admits user pair target override) : e.Admits better pair target override :=
  ⟨h.granted.of_upgrade up, h.included.of_upgrade rising up, h.visible.of_upgrade up⟩

/-- Lists reach no less far, and targets are reached at the same scope. -/
theorem Reaches.of_upgrade {scope scope' : Scope} (up : user.Upgrades better)
    (h : e.Reaches user pair target override scope)
    (h' : e.Reaches better pair target override scope') :
    scope ≤ scope' ∧ (target ≠ none → scope' = scope) := by
  cases target with
  | some t =>
      have seen := up.resolveReach (h.seen t rfl)
      rw [h'.seen t rfl, Except.ok.injEq, Option.some.injEq] at seen
      subst seen
      exact ⟨Nat.le_refl _, fun _ => rfl⟩
  | none =>
      refine ⟨?_, fun named => absurd rfl named⟩
      have memberships := up.membershipReach_le
      have plan := Tier.listingCap_mono up.tier
      rw [Scope.le_def] at memberships plan ⊢
      rw [h.listed rfl, h'.listed rfl, capOf_of_upgrade up]
      omega

/-- What an override adds tightens a looser quota to a looser one. -/
theorem privilegeFor_atLeast (rising : e.plans.Rising) (up : user.Upgrades better)
    (included : (e.plans.table user.tier).contains pair = true) :
    Quota.isAtLeastAsPermissive
      (privilegeFor better pair (e.plans.privilege? better.tier pair) override).quota
      (privilegeFor user pair (e.plans.privilege? user.tier pair) override).quota = true := by
  obtain ⟨quota, granted⟩ := Table.contains_iff.mp included
  have here : e.plans.privilege? user.tier pair = some (Entitlements.privilegeOf _ _ quota) :=
    congrArg (Option.map _) granted
  obtain ⟨p, above, looser⟩ := rising.privilege? up.tier here
  rw [here, above]
  unfold privilegeFor
  cases override.bind (·.quota) with
  | none => exact looser
  | some added =>
      refine Quota.combine_mono ?_
      simp [looser, Quota.atLeast_refl]

/-! ## The whole decision -/

/-- In layered plans, an upgrade keeps what was allowed, at no narrower a scope, and where the plan
already included it, with a quota that is at least as permissive. -/
theorem decide_of_upgrade (roles : RoleTable) (free proAdditions enterpriseAdditions : QuotaTable)
    (maxDepth : Int) (up : user.Upgrades better) (pair : Pair) (target : Option Target)
    (snapshot : Option Snapshot) :
    let e : Engine := ⟨roles, .layered free proAdditions enterpriseAdditions, maxDepth⟩
    let before := e.decide user pair target snapshot
    let after := e.decide better pair target snapshot
    before.isAllowed = true →
      after.isAllowed = true ∧
      (∃ scope scope', before.scope = some scope ∧ after.scope = some scope' ∧ scope ≤ scope' ∧
        (target ≠ none → scope' = scope)) ∧
      ((e.plans.table user.tier).contains pair = true →
        Quota.isAtLeastAsPermissive after.quota before.quota = true) := by
  intro e before after allowed
  have rising : e.plans.Rising := Entitlements.rising_layered ..
  by_cases admin : user.role = Role.systemAdminId
  · have same : after = before :=
      (decide_of_systemAdmin e pair target snapshot (up.role.trans admin)).trans
        (decide_of_systemAdmin e pair target snapshot admin).symm
    have global : before.scope = some .global := by
      rw [show before = letThrough.decision from decide_of_systemAdmin e pair target snapshot admin]
      rfl
    rw [same]
    exact ⟨allowed, ⟨_, _, global, global, Nat.le_refl _, fun _ => rfl⟩, fun _ => Quota.atLeast_refl _⟩
  · obtain ⟨o, consulted, admits⟩ := (decide_isAllowed_iff admin).mp allowed
    obtain ⟨scope, reaches, hd⟩ := decideGiven_of_admits consulted.valid_all admits
    obtain ⟨scope', reaches', hd'⟩ :=
      decideGiven_of_admits consulted.valid_all (admits.of_upgrade rising up)
    have hb : before = _ := (decide_of_consulted admin consulted).trans hd
    have ha : after = _ :=
      (decide_of_consulted (up.role.symm ▸ admin) (consulted.of_upgrade up)).trans hd'
    obtain ⟨wider, equal⟩ := reaches.of_upgrade up reaches'
    rw [ha, hb]
    refine ⟨rfl, ⟨scope, scope', rfl, rfl, wider, equal⟩, fun included => ?_⟩
    exact privilegeFor_atLeast rising up included

end Engine

namespace Sample

def promoted : User :=
  ⟨"u-1", "viewer", .pro,
    [⟨"u-1", .organization, "org-1", "member"⟩, ⟨"u-1", .team, "t-1", "member"⟩]⟩

/-- Five deletions are free, fifty are paid for. -/
def free : QuotaTable := Table.ofList [(deletion, some ⟨some 5, some 60, .empty⟩)]

def proAdditions : QuotaTable := Table.ofList [(deletion, some ⟨some 50, some 10, .empty⟩)]

/-- The team lets viewers delete up to twenty. -/
def boundedRule : Row :=
  row .team "t-1" "viewer" (.allowing (some .team) (some ⟨some 20, none, .empty⟩)) true

end Sample

open Sample in
theorem Engine.decide_of_upgrade_promoted :
    let e : Engine := ⟨engine.roles, .layered free proAdditions .empty, 32⟩
    let before := e.decide viewer deletion (some teamTask) (some (snapshot [boundedRule]))
    let after := e.decide promoted deletion (some teamTask) (some (snapshot [boundedRule]))
    viewer.Upgrades promoted ∧ before.quota = some ⟨some 5, some 60, .empty⟩ ∧
      after.isAllowed = true ∧ Quota.isAtLeastAsPermissive after.quota before.quota = true := by
  intro e before after
  have up : viewer.Upgrades promoted := ⟨rfl, rfl, rfl, by decide⟩
  have kept := decide_of_upgrade engine.roles free proAdditions .empty 32 up deletion
    (some teamTask) (some (snapshot [boundedRule])) (by decide)
  exact ⟨up, by decide, kept.1, kept.2.2 (by decide)⟩

end TenantAccess
