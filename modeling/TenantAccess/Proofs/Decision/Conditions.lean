import TenantAccess.Engine

/-! # The conditions of access

Access rests on four conditions, asked in a fixed order: the hierarchy can be consulted, the
role or an override grants the pair, the plan includes it or the grant is exempt, and the user
sees the target from no further away than the cap allows. The conditions are stated here on
their own; `Engine.decide` gives access exactly when all four hold, and its refusal carries the
code of the first that fails.
-/

namespace TenantAccess

namespace Scope

theorem level_narrower (a b : Scope) : (a.narrower b).level = min a.level b.level := by
  unfold narrower
  split
  · next h => exact (Nat.min_eq_right (Nat.le_of_lt h)).symm
  · next h => exact (Nat.min_eq_left (Nat.le_of_not_lt h)).symm

end Scope

namespace User

theorem level_listReach (u : User) (cap : Scope) (tier : Tier) :
    (u.listReach cap tier).level =
      min u.membershipReach.level (min cap.level tier.listingCap.level) := by
  simp only [listReach, Scope.level_narrower]

theorem membershipReach_le (u : User) : u.membershipReach ≤ .organization := by
  unfold membershipReach
  split
  · decide
  · split <;> decide

theorem resolveReach_of_valid (u : User) {t : Target} (valid : t.validate = .ok ()) :
    u.resolveReach t = .ok (u.reachOf? t) := by
  simp [resolveReach, valid, bind, Except.bind, pure, Except.pure]

theorem valid_of_resolveReach {u : User} {t : Target} {r : Option Scope}
    (h : u.resolveReach t = .ok r) : t.validate = .ok () := by
  cases hv : t.validate with
  | ok => rfl
  | error f => simp [resolveReach, hv, bind, Except.bind] at h

end User

namespace Engine

/-- The hierarchy is consulted for a target without an obstacle, and `override` is what holds.
Lists and targets outside organizations pass no hierarchy. -/
inductive Consulted (e : Engine) (user : User) (pair : Pair) (snapshot : Option Snapshot) :
    Option Target → Option Override → Prop where
  | list : Consulted e user pair snapshot none none
  | outside {t : Target} (valid : t.validate = .ok ())
      (homeless : given? t.organizationId = none) :
      Consulted e user pair snapshot (some t) none
  | inside {t : Target} {organizationId : String} {s : Snapshot} {r : Resolution Override}
      (valid : t.validate = .ok ()) (named : given? t.organizationId = some organizationId)
      (held : snapshot = some s) (own : s.organization.id = organizationId)
      (walked : s.resolve e.roles e.maxDepth organizationId none t.teamId user.role pair = .ok r) :
      Consulted e user pair snapshot (some t) r.override

/-- No override denies the pair, and the role or an override grants it. -/
structure Granted (e : Engine) (user : User) (pair : Pair) (override : Option Override) :
    Prop where
  notDenied : ∀ o, override = some o → o.effect ≠ .deny
  given : (RoleTable.grantFor e.roles user.role pair).isSome ∨ override.isSome

/-- The plan includes the pair, or the role's grant is exempt from plans. -/
def Included (e : Engine) (user : User) (pair : Pair) : Prop :=
  (e.plans.table user.tier).contains pair ∨
    ∃ g, RoleTable.grantFor e.roles user.role pair = some g ∧ g.tierExempt

/-- How far access may reach: as far as the override says, else as the grant, else to what is
the user's own. -/
def capOf (e : Engine) (user : User) (pair : Pair) (override : Option Override) : Scope :=
  let granted := (RoleTable.grantFor e.roles user.role pair).map (·.maxScope)
  ((override.bind (·.scope)).or granted).getD .own

/-- A target is seen from no further away than the cap. -/
def Visible (e : Engine) (user : User) (pair : Pair) (target : Option Target)
    (override : Option Override) : Prop :=
  ∀ t, target = some t →
    ∃ scope, user.resolveReach t = .ok (some scope) ∧ scope ≤ e.capOf user pair override

/-- What access asks for once the hierarchy has been consulted. -/
structure Admits (e : Engine) (user : User) (pair : Pair) (target : Option Target)
    (override : Option Override) : Prop where
  granted : e.Granted user pair override
  included : e.Included user pair
  visible : e.Visible user pair target override

section

variable {e : Engine} {user : User} {pair : Pair} {target : Option Target}
  {snapshot : Option Snapshot} {override : Option Override}

theorem organization_of_resolve {s : Snapshot} {roles : RoleTable} {maxDepth : Int}
    {organizationId role : String} {departmentId teamId : Option String}
    {r : Resolution Override}
    (h : s.resolve roles maxDepth organizationId departmentId teamId role pair = .ok r) :
    s.organization.id = organizationId := by
  by_cases same : s.organization.id = organizationId
  · exact same
  · simp [Snapshot.resolve, Snapshot.levels, same, bind, Except.bind] at h

theorem consult_of_invalid {ρ : Type} {t : Target} {f : Fault}
    (walk? : Option (String → Option String → Except Fault ρ)) (h : t.validate = .error f) :
    consult (some t) walk? = .error f := by
  simp [consult, h, bind, Except.bind]

theorem consult_of_homeless {ρ : Type} {t : Target}
    (walk? : Option (String → Option String → Except Fault ρ)) (valid : t.validate = .ok ())
    (homeless : given? t.organizationId = none) : consult (some t) walk? = .ok none := by
  simp [consult, valid, homeless, bind, Except.bind, pure, Except.pure]

theorem consult_of_named {ρ : Type} {t : Target} {organizationId : String}
    (walk : String → Option String → Except Fault ρ) (valid : t.validate = .ok ())
    (named : given? t.organizationId = some organizationId) :
    consult (some t) (some walk) = (walk organizationId t.teamId).map some := by
  simp only [consult, valid, named, bind, Except.bind, pure, Except.pure]
  cases walk organizationId t.teamId <;> rfl

theorem consult_without_snapshot {ρ : Type} {t : Target} {organizationId : String}
    (valid : t.validate = .ok ()) (named : given? t.organizationId = some organizationId) :
    consult (some t) (none : Option (String → Option String → Except Fault ρ)) =
      .error (.snapshotMissing organizationId) := by
  simp [consult, valid, named, bind, Except.bind]

/-- The walk that decisions rest on is made exactly where the hierarchy can be consulted. -/
theorem consulted_iff :
    e.Consulted user pair snapshot target override ↔
      ∃ r, e.overrideFor user pair target snapshot = .ok r ∧ r.bind (·.override) = override := by
  constructor
  · intro h
    cases h with
    | list => exact ⟨none, rfl, rfl⟩
    | outside valid homeless => exact ⟨none, consult_of_homeless _ valid homeless, rfl⟩
    | inside valid named held own walked =>
        subst held
        refine ⟨some _, ?_, rfl⟩
        simp only [overrideFor, Option.map_some, consult_of_named _ valid named, walked, Except.map]
  · rintro ⟨r, hr, rfl⟩
    cases target with
    | none =>
        cases hr
        exact .list
    | some t =>
        cases valid : t.validate with
        | error f => simp [overrideFor, consult_of_invalid _ valid] at hr
        | ok =>
            cases named : given? t.organizationId with
            | none =>
                rw [overrideFor, consult_of_homeless _ valid named] at hr
                cases hr
                exact .outside valid named
            | some organizationId =>
                cases snapshot with
                | none => simp [overrideFor, consult_without_snapshot valid named] at hr
                | some s =>
                    simp only [overrideFor, Option.map_some, consult_of_named _ valid named] at hr
                    cases walked : s.resolve e.roles e.maxDepth organizationId none t.teamId
                        user.role pair with
                    | error f => simp [walked, Except.map] at hr
                    | ok w =>
                        simp only [walked, Except.map, Except.ok.injEq] at hr
                        subst hr
                        exact .inside valid named rfl (organization_of_resolve walked) walked

theorem Consulted.unique {other : Option Override}
    (h : e.Consulted user pair snapshot target override)
    (h' : e.Consulted user pair snapshot target other) : override = other := by
  obtain ⟨r, hr, rfl⟩ := consulted_iff.mp h
  obtain ⟨r', hr', rfl⟩ := consulted_iff.mp h'
  rw [hr] at hr'
  cases hr'
  rfl

theorem Consulted.valid {t : Target} (h : e.Consulted user pair snapshot (some t) override) :
    t.validate = .ok () := by
  cases h <;> assumption

theorem decide_of_systemAdmin (e : Engine) (pair : Pair) (target : Option Target)
    (snapshot : Option Snapshot) (admin : user.role = Role.systemAdminId) :
    e.decide user pair target snapshot = letThrough.decision := by
  simp only [Engine.decide, deliberate, if_pos admin]

theorem decide_of_consulted (ordinary : user.role ≠ Role.systemAdminId)
    (h : e.Consulted user pair snapshot target override) :
    e.decide user pair target snapshot = e.decideGiven user pair target override := by
  obtain ⟨r, hr, rfl⟩ := consulted_iff.mp h
  simp only [Engine.decide, deliberate, if_neg ordinary, hr, conclude]

theorem decide_of_not_consulted (ordinary : user.role ≠ Role.systemAdminId)
    (h : ¬ ∃ o, e.Consulted user pair snapshot target o) :
    e.decide user pair target snapshot = notResolved := by
  cases hr : e.overrideFor user pair target snapshot with
  | error f => simp only [Engine.decide, deliberate, if_neg ordinary, hr, conclude]
  | ok r => exact absurd ⟨_, consulted_iff.mpr ⟨r, hr, rfl⟩⟩ h

/-! ## One condition after the other -/

theorem isDeny_iff (o : Override) : o.isDeny = true ↔ o.effect = .deny := by
  simp [Override.isDeny]

theorem decideGiven_of_not_granted (target : Option Target) (h : ¬ e.Granted user pair override) :
    ∃ reason, e.decideGiven user pair target override = .deny .insufficientRole reason := by
  unfold decideGiven
  cases override with
  | none =>
      cases grant : RoleTable.grantFor e.roles user.role pair with
      | none => exact ⟨_, rfl⟩
      | some g => exact absurd ⟨nofun, .inl (by rw [grant]; rfl)⟩ h
  | some o =>
      by_cases denied : o.isDeny = true
      · simp only [Option.map_some, Option.getD_some, if_pos denied]
        exact ⟨_, rfl⟩
      · refine absurd ⟨?_, .inr rfl⟩ h
        rintro _ ⟨⟩ effect
        exact denied ((isDeny_iff o).mpr effect)

theorem scopeCap_eq_capOf :
    scopeCap (RoleTable.grantFor e.roles user.role pair) override =
      e.capOf user pair override := by
  unfold scopeCap capOf
  cases override.bind (·.scope) <;> cases RoleTable.grantFor e.roles user.role pair <;> rfl

theorem decideGiven_of_granted (h : e.Granted user pair override) :
    e.decideGiven user pair target override =
      if (e.plans.privilege? user.tier pair).isNone &&
          !((RoleTable.grantFor e.roles user.role pair).map (·.tierExempt)).getD false then
        e.notIncluded user pair
      else
        decideReach user target (e.capOf user pair override)
          (privilegeFor user pair (e.plans.privilege? user.tier pair) override) := by
  have passes : ¬ (override.map Override.isDeny).getD false = true := by
    cases override with
    | none => simp
    | some o => simpa [isDeny_iff] using h.notDenied o rfl
  have given : ¬ ((RoleTable.grantFor e.roles user.role pair).isNone && override.isNone) = true := by
    rcases h.given with hg | hg
    · simp [Option.isNone_eq_false_iff.mpr hg]
    · simp [Option.isNone_eq_false_iff.mpr hg]
  simp only [decideGiven, if_neg passes, if_neg given, scopeCap_eq_capOf]

theorem included_iff :
    e.Included user pair ↔
      ((e.plans.privilege? user.tier pair).isNone &&
        !((RoleTable.grantFor e.roles user.role pair).map (·.tierExempt)).getD false) = false := by
  unfold Included Table.contains Entitlements.privilege?
  cases (e.plans.table user.tier).get? pair <;>
    cases RoleTable.grantFor e.roles user.role pair <;> simp

theorem decideGiven_of_not_included (granted : e.Granted user pair override)
    (h : ¬ e.Included user pair) :
    e.decideGiven user pair target override = e.notIncluded user pair := by
  rw [included_iff, Bool.not_eq_false] at h
  rw [decideGiven_of_granted granted, if_pos h]

theorem decideGiven_of_included (granted : e.Granted user pair override)
    (h : e.Included user pair) :
    e.decideGiven user pair target override =
      decideReach user target (e.capOf user pair override)
        (privilegeFor user pair (e.plans.privilege? user.tier pair) override) := by
  rw [included_iff] at h
  rw [decideGiven_of_granted granted, h, if_neg Bool.false_ne_true]

theorem decideReach_list (cap : Scope) (privilege : Privilege) :
    decideReach user none cap privilege = .allow (user.listReach cap user.tier) privilege := rfl

theorem decideReach_visible {t : Target} {cap scope : Scope} (privilege : Privilege)
    (seen : user.reachOf? t = some scope) (within : scope ≤ cap) :
    decideReach user (some t) cap privilege = .allow scope privilege := by
  have near : ¬ cap < scope := Nat.not_lt.mpr within
  simp only [decideReach, seen, if_neg near]

theorem decideReach_hidden {t : Target} {cap : Scope} (privilege : Privilege)
    (h : ¬ ∃ scope, user.reachOf? t = some scope ∧ scope ≤ cap) :
    ∃ reason, decideReach user (some t) cap privilege = .deny .outOfScope reason := by
  cases seen : user.reachOf? t with
  | none =>
      simp only [decideReach, seen]
      exact ⟨_, rfl⟩
  | some scope =>
      have far : cap < scope := Nat.lt_of_not_le fun within => h ⟨scope, seen, within⟩
      simp only [decideReach, seen, if_pos far]
      exact ⟨_, rfl⟩

theorem visible_iff (valid : ∀ t, target = some t → t.validate = .ok ()) :
    e.Visible user pair target override ↔
      ∀ t, target = some t →
        ∃ scope, user.reachOf? t = some scope ∧ scope ≤ e.capOf user pair override := by
  constructor
  · intro h t ht
    obtain ⟨scope, seen, within⟩ := h t ht
    rw [user.resolveReach_of_valid (valid t ht), Except.ok.injEq] at seen
    exact ⟨scope, seen, within⟩
  · intro h t ht
    obtain ⟨scope, seen, within⟩ := h t ht
    exact ⟨scope, by rw [user.resolveReach_of_valid (valid t ht), seen], within⟩

end

/-! ## All conditions together -/

/-- How far access reaches: to the target from where the user sees it, and in a list as far as
memberships, cap and plan all allow. -/
structure Reaches (e : Engine) (user : User) (pair : Pair) (target : Option Target)
    (override : Option Override) (scope : Scope) : Prop where
  seen : ∀ t, target = some t → user.resolveReach t = .ok (some scope)
  listed : target = none →
    scope.level = min user.membershipReach.level
      (min (e.capOf user pair override).level user.tier.listingCap.level)

/-- The first condition that fails has this code. -/
inductive FirstFailing (e : Engine) (user : User) (pair : Pair) (target : Option Target)
    (snapshot : Option Snapshot) : DenialCode → Prop where
  | unresolved (h : ¬ ∃ o, e.Consulted user pair snapshot target o) :
      FirstFailing e user pair target snapshot .resolutionError
  | ungranted {o : Option Override} (consulted : e.Consulted user pair snapshot target o)
      (h : ¬ e.Granted user pair o) :
      FirstFailing e user pair target snapshot .insufficientRole
  | excluded {o : Option Override} (consulted : e.Consulted user pair snapshot target o)
      (granted : e.Granted user pair o) (h : ¬ e.Included user pair) :
      FirstFailing e user pair target snapshot .subscriptionTierTooLow
  | hidden {o : Option Override} (consulted : e.Consulted user pair snapshot target o)
      (granted : e.Granted user pair o) (included : e.Included user pair)
      (h : ¬ e.Visible user pair target o) :
      FirstFailing e user pair target snapshot .outOfScope

section

variable {e : Engine} {user : User} {pair : Pair} {target : Option Target}
  {snapshot : Option Snapshot} {override : Option Override}

theorem decideGiven_of_admits (valid : ∀ t, target = some t → t.validate = .ok ())
    (h : e.Admits user pair target override) :
    ∃ scope, e.Reaches user pair target override scope ∧
      e.decideGiven user pair target override = .allow scope
        (privilegeFor user pair (e.plans.privilege? user.tier pair) override) := by
  rw [decideGiven_of_included h.granted h.included]
  cases target with
  | none => exact ⟨_, ⟨nofun, fun _ => user.level_listReach _ _⟩, decideReach_list _ _⟩
  | some t =>
      obtain ⟨scope, seen, within⟩ := (visible_iff valid).mp h.visible t rfl
      refine ⟨scope, ⟨?_, nofun⟩, decideReach_visible _ seen within⟩
      rintro _ ⟨⟩
      rw [user.resolveReach_of_valid (valid t rfl), seen]

theorem decideGiven_of_not_visible (valid : ∀ t, target = some t → t.validate = .ok ())
    (granted : e.Granted user pair override) (included : e.Included user pair)
    (h : ¬ e.Visible user pair target override) :
    ∃ reason, e.decideGiven user pair target override = .deny .outOfScope reason := by
  rw [decideGiven_of_included granted included]
  cases target with
  | none => exact absurd (fun t ht => nomatch ht) h
  | some t =>
      refine decideReach_hidden _ fun ⟨scope, seen, within⟩ => h ?_
      refine (visible_iff valid).mpr ?_
      rintro _ ⟨⟩
      exact ⟨scope, seen, within⟩

theorem Consulted.valid_all (h : e.Consulted user pair snapshot target override) :
    ∀ t, target = some t → t.validate = .ok () := by
  rintro t rfl
  exact h.valid

theorem decide_cases (e : Engine) (pair : Pair) (target : Option Target)
    (snapshot : Option Snapshot) (ordinary : user.role ≠ Role.systemAdminId) :
    (∃ o scope privilege, e.Consulted user pair snapshot target o ∧
      e.Admits user pair target o ∧ e.Reaches user pair target o scope ∧
      e.decide user pair target snapshot = .allow scope privilege) ∨
    (∃ code reason, e.FirstFailing user pair target snapshot code ∧
      e.decide user pair target snapshot = .deny code reason) := by
  by_cases consulted : ∃ o, e.Consulted user pair snapshot target o
  · obtain ⟨o, ho⟩ := consulted
    rw [decide_of_consulted ordinary ho]
    by_cases granted : e.Granted user pair o
    · by_cases included : e.Included user pair
      · by_cases visible : e.Visible user pair target o
        · have admits : e.Admits user pair target o := ⟨granted, included, visible⟩
          obtain ⟨scope, reaches, hd⟩ := decideGiven_of_admits ho.valid_all admits
          exact .inl ⟨o, scope, _, ho, admits, reaches, hd⟩
        · obtain ⟨reason, hd⟩ :=
            decideGiven_of_not_visible ho.valid_all granted included visible
          exact .inr ⟨_, reason, .hidden ho granted included visible, hd⟩
      · exact .inr ⟨_, _, .excluded ho granted included, decideGiven_of_not_included granted included⟩
    · obtain ⟨reason, hd⟩ := decideGiven_of_not_granted target granted
      exact .inr ⟨_, reason, .ungranted ho granted, hd⟩
  · exact .inr ⟨_, _, .unresolved consulted, decide_of_not_consulted ordinary consulted⟩

theorem FirstFailing.not_admits {code : DenialCode}
    (h : e.FirstFailing user pair target snapshot code) :
    ¬ ∃ o, e.Consulted user pair snapshot target o ∧ e.Admits user pair target o := by
  rintro ⟨o, ho, granted, included, visible⟩
  cases h with
  | unresolved h => exact h ⟨o, ho⟩
  | ungranted consulted h => exact h (consulted.unique ho ▸ granted)
  | excluded _ _ h => exact h included
  | hidden consulted _ _ h => exact h (consulted.unique ho ▸ visible)

theorem FirstFailing.unique {code other : DenialCode}
    (h : e.FirstFailing user pair target snapshot code)
    (h' : e.FirstFailing user pair target snapshot other) : code = other := by
  cases h with
  | unresolved h =>
      cases h' with
      | unresolved => rfl
      | ungranted ho | excluded ho | hidden ho => exact absurd ⟨_, ho⟩ h
  | ungranted ho h =>
      cases h' with
      | unresolved h' => exact absurd ⟨_, ho⟩ h'
      | ungranted => rfl
      | excluded ho' granted | hidden ho' granted => exact absurd (ho'.unique ho ▸ granted) h
  | excluded ho granted h =>
      cases h' with
      | unresolved h' => exact absurd ⟨_, ho⟩ h'
      | ungranted ho' h' => exact absurd (ho.unique ho' ▸ granted) h'
      | excluded => rfl
      | hidden _ _ included => exact absurd included h
  | hidden ho granted included h =>
      cases h' with
      | unresolved h' => exact absurd ⟨_, ho⟩ h'
      | ungranted ho' h' => exact absurd (ho.unique ho' ▸ granted) h'
      | excluded _ _ h' => exact absurd included h'
      | hidden => rfl

theorem decide_isAllowed_iff (ordinary : user.role ≠ Role.systemAdminId) :
    (e.decide user pair target snapshot).isAllowed = true ↔
      ∃ o, e.Consulted user pair snapshot target o ∧ e.Admits user pair target o := by
  rcases decide_cases e pair target snapshot ordinary with
    ⟨o, scope, privilege, ho, admits, -, hd⟩ | ⟨code, reason, failing, hd⟩
  · rw [hd]
    exact iff_of_true rfl ⟨o, ho, admits⟩
  · rw [hd]
    exact iff_of_false Bool.false_ne_true failing.not_admits

/-- A refusal has the code of the first condition that fails. -/
theorem code_eq_some_iff (ordinary : user.role ≠ Role.systemAdminId) {code : DenialCode} :
    (e.decide user pair target snapshot).code = some code ↔
      e.FirstFailing user pair target snapshot code := by
  rcases decide_cases e pair target snapshot ordinary with
    ⟨o, scope, privilege, ho, admits, -, hd⟩ | ⟨code', reason, failing, hd⟩
  · rw [hd]
    exact iff_of_false nofun fun failing => failing.not_admits ⟨o, ho, admits⟩
  · rw [hd]
    constructor
    · rintro ⟨⟩
      exact failing
    · intro failing'
      exact congrArg some (failing.unique failing')

end

end Engine

/-! ## A small organization

One team in one department, two roles without grants, and a plan that includes deletion. -/

namespace Sample

def deletion : Pair := ⟨.task, .delete⟩

def engine : Engine where
  roles := Table.ofList [("viewer", .ofGrants "viewer" "Viewer" 10 .empty),
    ("member", .ofGrants "member" "Member" 20 .empty)]
  plans := Entitlements.layered (Table.ofList [(deletion, none)]) .empty .empty
  maxDepth := 32

def viewer : User := ⟨"u-1", "viewer", .free, [⟨"u-1", .team, "t-1", "member"⟩]⟩

def teamTask : Target := ⟨"u-2", .team, some "t-1", some "org-1"⟩

def row (kind : EntityKind) (entityId role : String) (rule : Override) (allowsChildren : Bool) :
    Row :=
  ⟨kind, entityId, "org-1", role, Table.ofList [(deletion, rule)], 1, allowsChildren⟩

/-- The team lets viewers delete what it shares. -/
def teamRule : Row := row .team "t-1" "viewer" (.allowing (some .team) none) true

/-- The organization forbids its members to delete, once and for all. -/
def orgRule : Row := row .organization "org-1" "member" .denying false

def snapshot (rows : List Row) : Snapshot :=
  .gather ⟨"org-1", "Org"⟩ [⟨"d-1", "org-1", none, "D", []⟩] [⟨"t-1", "org-1", some "d-1"⟩] rows

end Sample

end TenantAccess
