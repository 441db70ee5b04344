import TenantAccess.Proofs.Decision.Passage
import TenantAccess.Proofs.Decision.QuotaLayers
import TenantAccess.Proofs.Role.Inheritance

/-! # Heirs

A role inherits from another one if its grants are laid over that role's. Where the hierarchy has no
say, the same user is allowed in the heir's role whatever is allowed in the role inherited from, at no
narrower a scope and with the same quota. The role of system administrators stands apart, since its
grants are not looked at: what is allowed in it need not be allowed to its heirs, and in it everything
is reached globally.
-/

namespace TenantAccess

/-- The same user in another role. -/
def User.inRole (u : User) (role : String) : User := { u with role }

namespace Engine

variable {e : Engine} {user : User} {role parentId heirId : String} {pair : Pair}
  {target : Option Target} {snapshot : Option Snapshot}

/-- Whatever the hierarchy finds for a user, it is no override. -/
def Silent (e : Engine) (user : User) (pair : Pair) (target : Option Target)
    (snapshot : Option Snapshot) : Prop :=
  ∀ override, e.Consulted user pair snapshot target override → override = none

/-! ## Stage by stage -/

/-- Whether the hierarchy can be walked does not depend on the role. -/
theorem Consulted.in_role {override : Option Override} (role : String)
    (h : e.Consulted user pair snapshot target override) :
    ∃ override', e.Consulted (user.inRole role) pair snapshot target override' := by
  cases h with
  | list => exact ⟨none, .list⟩
  | outside valid homeless => exact ⟨none, .outside valid homeless⟩
  | inside valid named held own walked =>
      obtain ⟨levels, found, -⟩ := Snapshot.resolve_eq_ok_iff.mp walked
      exact ⟨_, .inside valid named held own (resolve_of_levels (user.inRole role) pair found)⟩

section

variable (inherits : e.roles.Inherits parentId heirId)

include inherits

theorem Granted.of_heir (h : e.Granted (user.inRole parentId) pair none) :
    e.Granted (user.inRole heirId) pair none := by
  refine ⟨nofun, ?_⟩
  cases h.given with
  | inl granted =>
      obtain ⟨grant, found⟩ := Option.isSome_iff_exists.mp granted
      obtain ⟨wider, held, -⟩ := inherits.covers found
      exact .inl (Option.isSome_iff_exists.mpr ⟨wider, held⟩)
  | inr overridden => cases overridden

theorem Included.of_heir (h : e.Included (user.inRole parentId) pair) :
    e.Included (user.inRole heirId) pair := by
  cases h with
  | inl included => exact .inl included
  | inr exempt =>
      obtain ⟨grant, found, exempt⟩ := exempt
      obtain ⟨wider, held, covers⟩ := inherits.covers found
      exact .inr ⟨wider, held, covers.exempt exempt⟩

theorem capOf_of_heir (granted : e.Granted (user.inRole parentId) pair none) :
    e.capOf (user.inRole parentId) pair none ≤ e.capOf (user.inRole heirId) pair none := by
  cases granted.given with
  | inr overridden => cases overridden
  | inl granted =>
      obtain ⟨grant, found⟩ := Option.isSome_iff_exists.mp granted
      obtain ⟨wider, held, covers⟩ := inherits.covers found
      have found : e.roles.grantFor (user.inRole parentId).role pair = some grant := found
      have held : e.roles.grantFor (user.inRole heirId).role pair = some wider := held
      simp only [capOf, found, held]
      exact covers.scope

theorem Visible.of_heir (granted : e.Granted (user.inRole parentId) pair none)
    (h : e.Visible (user.inRole parentId) pair target none) :
    e.Visible (user.inRole heirId) pair target none := by
  intro t named
  obtain ⟨scope, seen, within⟩ := h t named
  exact ⟨scope, seen, Nat.le_trans within (capOf_of_heir inherits granted)⟩

theorem Admits.of_heir (h : e.Admits (user.inRole parentId) pair target none) :
    e.Admits (user.inRole heirId) pair target none :=
  ⟨h.granted.of_heir inherits, h.included.of_heir inherits, h.visible.of_heir inherits h.granted⟩

/-- Lists reach no less far, and targets are reached at the same scope. -/
theorem Reaches.of_heir {scope scope' : Scope}
    (granted : e.Granted (user.inRole parentId) pair none)
    (h : e.Reaches (user.inRole parentId) pair target none scope)
    (h' : e.Reaches (user.inRole heirId) pair target none scope') :
    scope ≤ scope' ∧ (target ≠ none → scope' = scope) := by
  cases target with
  | some t =>
      have seen : user.resolveReach t = .ok (some scope) := h.seen t rfl
      have seen' : user.resolveReach t = .ok (some scope') := h'.seen t rfl
      cases seen.symm.trans seen'
      exact ⟨Nat.le_refl _, fun _ => rfl⟩
  | none =>
      refine ⟨?_, fun named => absurd rfl named⟩
      have cap := capOf_of_heir inherits granted
      have reach : (user.inRole heirId).membershipReach = (user.inRole parentId).membershipReach := rfl
      have tier : (user.inRole heirId).tier = (user.inRole parentId).tier := rfl
      rw [Scope.le_def] at cap ⊢
      rw [h.listed rfl, h'.listed rfl, reach, tier]
      omega

end

/-! ## The whole decision -/

/-- What is allowed in a role is allowed in an heir of it, with what comes along. -/
theorem decide_of_inherits (inherits : e.roles.Inherits parentId heirId)
    (ordinary : parentId ≠ Role.systemAdminId) (ordinary' : heirId ≠ Role.systemAdminId)
    (silent : e.Silent (user.inRole parentId) pair target snapshot)
    (silent' : e.Silent (user.inRole heirId) pair target snapshot)
    (allowed : (e.decide (user.inRole parentId) pair target snapshot).isAllowed = true) :
    ∃ scope scope' privilege, scope ≤ scope' ∧ (target ≠ none → scope' = scope) ∧
      e.decide (user.inRole parentId) pair target snapshot = .allow scope privilege ∧
      e.decide (user.inRole heirId) pair target snapshot = .allow scope' privilege := by
  obtain ⟨o, scope, consulted, admits, reaches, before⟩ := decide_of_allowed ordinary allowed
  cases silent o consulted
  obtain ⟨o', consulted'⟩ := consulted.in_role heirId
  cases silent' o' consulted'
  obtain ⟨scope', reaches', after⟩ :=
    decide_of_admits ordinary' consulted' (admits.of_heir inherits)
  obtain ⟨wider, same⟩ := reaches.of_heir inherits admits.granted reaches'
  exact ⟨scope, scope', _, wider, same, before, after⟩

/-- Grants stay exempt from plans. Where the hierarchy has no say, what is allowed in a role is allowed in
an heir of it, at no narrower a scope; a target is reached at the same scope, and the quota is the same.
Only what is allowed to the system administrator need not be allowed to heirs, and an heir of another
role that is the system administrator reaches everything. -/
theorem decide_of_heir (e : Engine) (user : User) {parentId heirId : String} (pair : Pair)
    (target : Option Target) (snapshot : Option Snapshot)
    (inherits : e.roles.Inherits parentId heirId) :
    (∀ grant, e.roles.grantFor parentId pair = some grant → grant.tierExempt = true →
      ∃ wider, e.roles.grantFor heirId pair = some wider ∧ wider.tierExempt = true) ∧
    ((parentId = Role.systemAdminId → heirId = Role.systemAdminId) →
      e.Silent (user.inRole parentId) pair target snapshot →
      e.Silent (user.inRole heirId) pair target snapshot →
      let before := e.decide (user.inRole parentId) pair target snapshot
      let after := e.decide (user.inRole heirId) pair target snapshot
      before.isAllowed = true →
        after.isAllowed = true ∧
        (∃ scope scope', before.scope = some scope ∧ after.scope = some scope' ∧ scope ≤ scope' ∧
          (heirId = Role.systemAdminId → scope' = .global) ∧
          (target ≠ none → (heirId = Role.systemAdminId → parentId = Role.systemAdminId) →
            scope' = scope)) ∧
        ((parentId = Role.systemAdminId ↔ heirId = Role.systemAdminId) →
          after.quota = before.quota)) := by
  constructor
  · intro grant granted exempt
    obtain ⟨wider, held, covers⟩ := inherits.covers granted
    exact ⟨wider, held, covers.exempt exempt⟩
  · intro ordinary silent silent' before after allowed
    by_cases admin' : heirId = Role.systemAdminId
    · have reached : after = letThrough.decision := decide_of_systemAdmin e pair target snapshot admin'
      by_cases admin : parentId = Role.systemAdminId
      · have same : before = letThrough.decision := decide_of_systemAdmin e pair target snapshot admin
        rw [reached, same]
        exact ⟨rfl, ⟨.global, .global, rfl, rfl, Nat.le_refl _, fun _ => rfl, fun _ _ => rfl⟩,
          fun _ => rfl⟩
      · obtain ⟨o, scope, -, -, -, given⟩ := decide_of_allowed admin allowed
        have reachedAt : before.scope = some scope := congrArg Decision.scope given
        have within : scope ≤ .global := by cases scope <;> decide
        rw [reached]
        refine ⟨rfl, ⟨scope, .global, reachedAt, rfl, within, fun _ => rfl, ?_⟩, ?_⟩
        · exact fun _ both => absurd (both admin') admin
        · exact fun both => absurd (both.mpr admin') admin
    · obtain ⟨scope, scope', privilege, wider, same, given, given'⟩ :=
        decide_of_inherits inherits (mt ordinary admin') admin' silent silent' allowed
      have given : before = _ := given
      have given' : after = _ := given'
      rw [given, given']
      refine ⟨rfl, ⟨scope, scope', rfl, rfl, wider, ?_, ?_⟩, fun _ => rfl⟩
      · exact fun admin => absurd admin admin'
      · exact fun named _ => same named

end Engine

namespace Sample

/-- Owners may delete tasks, in three roles that inherit from one another. -/
def deleters : GrantTable := Table.ofList [(deletion, ⟨.own, false⟩)]

def lineage : Engine where
  roles := Table.ofList [("viewer", .ofGrants "viewer" "Viewer" 10 deleters),
    (Role.systemAdminId, .ofGrants Role.systemAdminId "System Administrator" 100 deleters),
    ("auditor", .ofGrants "auditor" "Auditor" 20 deleters)]
  plans := engine.plans
  maxDepth := 32

def ownTask : Target := ⟨"u-1", .personal, none, none⟩

def viewing : Pair := ⟨.task, .view⟩

def standardEngine : Engine := ⟨.standard, engine.plans, 32⟩

def reading : Pair := ⟨.user, .view⟩

/-- No organization is asked about a personal thing that names none. -/
theorem silent_ownTask (e : Engine) (user : User) (pair : Pair) :
    e.Silent user pair (some ownTask) none := by
  intro override consulted
  cases consulted with
  | outside => rfl
  | inside _ named => cases named

theorem inherits_lineage {parentId heirId : String} (parent heir : Role)
    (found : lineage.roles.get? parentId = some parent)
    (found' : lineage.roles.get? heirId = some heir) (same : heir.grants = parent.grants) :
    lineage.roles.Inherits parentId heirId := ⟨parent, heir, [], found, found', same⟩

end Sample

open Sample in
/-- On the free plan an administrator reads their own profile, as a viewer does, and the administrator's
grant is as exempt from plans as the viewer's. -/
theorem Engine.decide_of_heir_standard :
    let as (role : String) := standardEngine.decide (viewer.inRole role) reading (some ownTask) none
    standardEngine.roles.Inherits "viewer" "admin" ∧
      (∀ role, standardEngine.Silent (viewer.inRole role) reading (some ownTask) none) ∧
      (as "viewer").isAllowed = true ∧ (as "admin").isAllowed = true ∧
      (as "admin").scope = (as "viewer").scope ∧ (as "admin").quota = (as "viewer").quota ∧
      ∃ wider, standardEngine.roles.grantFor "admin" reading = some wider ∧
        wider.tierExempt = true := by
  intro as
  have inherits : standardEngine.roles.Inherits "viewer" "admin" :=
    RoleTable.viewer_inherits_member.trans RoleTable.member_inherits_admin
  have silent : ∀ role, standardEngine.Silent (viewer.inRole role) reading (some ownTask) none :=
    fun role => silent_ownTask standardEngine (viewer.inRole role) reading
  have allowed : (as "viewer").isAllowed = true := by decide
  have granted : standardEngine.roles.grantFor "viewer" reading = some ⟨.own, true⟩ := by decide
  obtain ⟨exempt, kept⟩ := decide_of_heir standardEngine viewer reading (some ownTask) none inherits
  obtain ⟨allowed', ⟨scope, scope', first, second, -, -, same⟩, quota⟩ :=
    kept (by decide) (silent "viewer") (silent "admin") allowed
  cases same nofun (by decide)
  exact ⟨inherits, silent, allowed, allowed', second.trans first.symm, quota (by decide),
    exempt _ granted rfl⟩

open Sample in
/-- The system administrator has a viewer's grants, and reaches globally what a viewer owns. An auditor
has the system administrator's grants, and is refused what the system administrator is allowed. -/
theorem Engine.admin_departs :
    let as (role : String) (pair : Pair) :=
      lineage.decide (viewer.inRole role) pair (some ownTask) none
    (∀ role pair, lineage.Silent (viewer.inRole role) pair (some ownTask) none) ∧
      lineage.roles.Inherits "viewer" Role.systemAdminId ∧
      (as "viewer" deletion).scope = some .own ∧
      (as Role.systemAdminId deletion).scope = some .global ∧
      lineage.roles.Inherits Role.systemAdminId "auditor" ∧
      (as Role.systemAdminId viewing).isAllowed = true ∧
      (as "auditor" viewing).isAllowed = false := by
  refine ⟨?_, ?_, ?_, ?_, ?_, ?_, ?_⟩
  · exact fun role pair => silent_ownTask lineage (viewer.inRole role) pair
  · exact inherits_lineage _ _ rfl rfl rfl
  · decide
  · decide
  · exact inherits_lineage _ _ rfl rfl rfl
  · decide
  · decide

end TenantAccess
