import TenantAccess.Proofs.Decision.Upgrades
import TenantAccess.Proofs.Plan.Verified

/-! # Upgrade hints

A refusal for the plan ends with the plan that the request requires, if there is one. Plans that are
built from tables hold one another, so the plans that include a pair are those from a least one up;
and what is asked before the plan depends on the role alone. So the same request is refused for the
plan on exactly those tiers that lie below the one that is named.
-/

namespace TenantAccess

namespace Tier

/-- The first tier that passes a test is below all others that do. -/
theorem isAtLeast_first {p : Tier → Bool} {tier : Tier} (passes : p tier = true) :
    ∃ least, ordered.find? p = some least ∧ tier.isAtLeast least = true := by
  have member : tier ∈ ordered := by cases tier <;> decide
  have ascending : ordered.Pairwise fun lower higher => higher.isAtLeast lower = true := by decide
  obtain ⟨least, found⟩ := Option.isSome_iff_exists.mp
    (List.find?_isSome.mpr ⟨tier, member, passes⟩)
  obtain ⟨-, before, after, split, fail⟩ := List.find?_eq_some_iff_append.mp found
  refine ⟨least, found, ?_⟩
  rw [split] at member ascending
  rcases List.mem_append.mp member with early | late
  · have failed := fail tier early
    rw [passes] at failed
    cases failed
  · rcases List.mem_cons.mp late with rfl | later
    · exact decide_eq_true (Nat.le_refl _)
    · obtain ⟨-, ascending, -⟩ := List.pairwise_append.mp ascending
      exact (List.pairwise_cons.mp ascending).1 tier later

end Tier

namespace Entitlements

variable {plans : Entitlements} {tier lower higher : Tier} {pair : Pair}

/-- Plans that were made, from tables or from sheets. -/
inductive Built (plans : Entitlements) : Prop where
  /-- From the table of the free plan and the additions of the others. -/
  | tables (free proAdditions enterpriseAdditions : QuotaTable)
      (made : (make free proAdditions enterpriseAdditions).value = .ok plans)
  /-- From sheets, where all keys are spelled as members. -/
  | sheets (free proAdditions enterpriseAdditions : QuotaSheet)
      (made : (ofSheets free proAdditions enterpriseAdditions).value = .ok plans)

theorem Built.rising (built : plans.Built) : plans.Rising := by
  cases built with
  | tables free proAdditions enterpriseAdditions made =>
      cases (make_value ..).symm.trans made
      exact rising_layered ..
  | sheets free proAdditions enterpriseAdditions made =>
      rcases value_ofSheets free proAdditions enterpriseAdditions with ⟨m, refused⟩ | layers
      · cases refused.symm.trans made
      · cases layers.symm.trans made
        exact rising_layered ..

/-- A plan includes a pair exactly where it is no lower than the least plan that does. -/
theorem Rising.contains_iff (rising : plans.Rising) :
    (plans.table tier).contains pair = true ↔
      ∃ least, plans.minimumTier pair = some least ∧ tier.isAtLeast least = true := by
  constructor
  · intro included
    exact Tier.isAtLeast_first (p := fun tier => (plans.table tier).contains pair) included
  · rintro ⟨least, found, up⟩
    have included : (plans.table least).contains pair = true :=
      List.find?_some (p := fun tier => (plans.table tier).contains pair) found
    obtain ⟨quota, granted⟩ := Table.contains_iff.mp included
    obtain ⟨upper, above, -⟩ := rising.holds up pair quota granted
    exact Table.contains_iff.mpr ⟨upper, above⟩

theorem lookup_eq_some_iff :
    (∃ p, plans.lookup tier (.member pair.resource) (.member pair.action) = .ok (some p)) ↔
      (plans.table tier).contains pair = true := by
  have asked : plans.lookup tier (.member pair.resource) (.member pair.action) =
      .ok (plans.privilege? tier pair) := rfl
  rw [asked, privilege?, Table.contains]
  cases (plans.table tier).get? pair <;> simp

end Entitlements

namespace Engine

variable {e : Engine} {user : User} {pair : Pair} {target : Option Target}
  {snapshot : Option Snapshot} {tier : Tier}

/-! ## Reading a hint -/

/-- A reason that ends with the plan that a request requires. -/
def Requires (reason : String) (tier : Tier) : Prop :=
  ∃ start, reason = start ++ "; requires " ++ tier.name

/-- How a refusal for the plan ends, with a plan to move to or without. -/
def ending : Option Tier → String
  | some tier => "; requires " ++ tier.name
  | none => " plan"

theorem ending_apart : ∀ a b, (ending a).toList <:+ (ending b).toList → a = b := by
  rintro (_ | a) (_ | b)
  · exact fun _ => rfl
  · cases b <;> decide
  · cases a <;> decide
  · cases a <;> cases b <;> decide

/-- Of two ends of one text the shorter is an end of the longer, so a text has one such ending. -/
theorem ending_inj {start start' : String} {a b : Option Tier}
    (same : start ++ ending a = start' ++ ending b) : a = b := by
  have texts := congrArg String.toList same
  rw [String.toList_append, String.toList_append] at texts
  have first : (ending a).toList <:+ start.toList ++ (ending a).toList := List.suffix_append _ _
  have second : (ending b).toList <:+ start.toList ++ (ending a).toList :=
    texts ▸ List.suffix_append _ _
  rcases List.suffix_or_suffix_of_suffix first second with h | h
  · exact ending_apart a b h
  · exact (ending_apart b a h).symm

theorem notIncluded_ends (e : Engine) (user : User) (pair : Pair) :
    ∃ start, (e.notIncluded user pair).reason = start ++ ending (e.plans.minimumTier pair) := by
  simp only [notIncluded, Decision.deny]
  cases e.plans.minimumTier pair with
  | none =>
      refine ⟨pair.text ++ " is not included in the " ++ user.tier.name, ?_⟩
      simp only [ending, String.append_empty]
  | some tier =>
      refine ⟨pair.text ++ " is not included in the " ++ user.tier.name ++ " plan", ?_⟩
      simp only [ending]

theorem requires_iff :
    Requires (e.notIncluded user pair).reason tier ↔ e.plans.minimumTier pair = some tier := by
  obtain ⟨start, ends⟩ := e.notIncluded_ends user pair
  constructor
  · rintro ⟨start', reason⟩
    rw [ends, String.append_assoc] at reason
    exact ending_inj (b := some tier) reason
  · intro least
    rw [least] at ends
    exact ⟨start, ends.trans (String.append_assoc ..).symm⟩

/-! ## The same request on another plan -/

theorem ordinary_of_code {code : DenialCode}
    (refused : (e.decide user pair target snapshot).code = some code) :
    user.role ≠ Role.systemAdminId := by
  intro admin
  rw [decide_of_systemAdmin e pair target snapshot admin] at refused
  cases refused

/-- A refusal for the plan comes from a plan that leaves the pair out and a grant that is not exempt,
and on other plans the request is refused for the plan where they leave the pair out too. -/
theorem excluded_iff
    (refused : (e.decide user pair target snapshot).code = some .subscriptionTierTooLow) :
    e.decide user pair target snapshot = e.notIncluded user pair ∧
      ∀ tier, (e.decide { user with tier } pair target snapshot).code =
          some .subscriptionTierTooLow ↔ ¬ (e.plans.table tier).contains pair = true := by
  have ordinary := ordinary_of_code refused
  cases (code_eq_some_iff ordinary).mp refused with
  | @excluded o consulted granted excluded =>
      refine ⟨?_, fun tier => ?_⟩
      · rw [decide_of_consulted ordinary consulted, decideGiven_of_not_included granted excluded]
      · have same : ({ user with tier } : User).role = user.role := rfl
        rw [code_eq_some_iff (same ▸ ordinary)]
        constructor
        · intro failing included
          cases failing with
          | excluded _ _ h => exact h (.inl included)
        · intro absent
          refine .excluded (consulted.of_role same) (granted.of_role same) ?_
          rintro (included | exempt)
          · exact absent included
          · exact excluded (.inr exempt)

/-- A refusal for the plan names the least plan that includes the pair, where there is one. -/
theorem names_iff
    (refused : (e.decide user pair target snapshot).code = some .subscriptionTierTooLow) :
    Requires (e.decide user pair target snapshot).reason tier ↔
      e.plans.minimumTier pair = some tier := by
  obtain ⟨worded, -⟩ := excluded_iff refused
  rw [worded]
  exact requires_iff

/-- Where plans hold one another, it is refused for the plan on all tiers below that one. -/
theorem refused_elsewhere_iff (rising : e.plans.Rising)
    (refused : (e.decide user pair target snapshot).code = some .subscriptionTierTooLow) :
    (e.decide { user with tier } pair target snapshot).code = some .subscriptionTierTooLow ↔
      ¬ ∃ least, e.plans.minimumTier pair = some least ∧ tier.isAtLeast least = true := by
  obtain ⟨-, elsewhere⟩ := excluded_iff refused
  exact (elsewhere tier).trans (not_congr rising.contains_iff)

/-- In plans that were built, a plan includes a pair exactly from the least one that does upwards. A
request that is refused for the plan names no plan exactly where no higher one would help; a plan that
it names is above the user's, and the request is refused for the plan on exactly those below it. -/
theorem hint_exact (roles : RoleTable) (maxDepth : Int) {plans : Entitlements} (built : plans.Built) :
    (∀ tier pair,
      (∃ p, plans.lookup tier (.member pair.resource) (.member pair.action) = .ok (some p)) ↔
        ∃ least, plans.minimumTier pair = some least ∧ tier.isAtLeast least = true) ∧
    ∀ (user : User) (pair : Pair) (target : Option Target) (snapshot : Option Snapshot),
      let answer (tier : Tier) : Decision :=
        decide ⟨roles, plans, maxDepth⟩ { user with tier } pair target snapshot
      let reason := (answer user.tier).reason
      (answer user.tier).code = some .subscriptionTierTooLow →
        (∀ named, Requires reason named →
          user.tier.level < named.level ∧
          (∀ tier, tier.isAtLeast named = true →
            (answer tier).code ≠ some .subscriptionTierTooLow) ∧
          ∀ tier, tier.level < named.level →
            (answer tier).code = some .subscriptionTierTooLow) ∧
        ((¬ ∃ named, Requires reason named) ↔
          ∀ tier, tier.isAtLeast user.tier = true →
            (answer tier).code = some .subscriptionTierTooLow) := by
  have rising := built.rising
  refine ⟨fun tier pair => Entitlements.lookup_eq_some_iff.trans rising.contains_iff, ?_⟩
  intro user pair target snapshot answer reason refused
  have named_iff (named : Tier) : Requires reason named ↔ plans.minimumTier pair = some named :=
    names_iff refused
  have refused_iff (tier : Tier) : (answer tier).code = some .subscriptionTierTooLow ↔
      ¬ ∃ least, plans.minimumTier pair = some least ∧ tier.isAtLeast least = true :=
    refused_elsewhere_iff (e := ⟨roles, plans, maxDepth⟩) rising refused
  have above {named : Tier} (least : plans.minimumTier pair = some named) :
      user.tier.level < named.level := by
    refine Nat.lt_of_not_le fun up => ?_
    exact (refused_iff user.tier).mp refused ⟨named, least, decide_eq_true up⟩
  have helped {named tier : Tier} (least : plans.minimumTier pair = some named)
      (up : tier.isAtLeast named = true) : (answer tier).code ≠ some .subscriptionTierTooLow :=
    fun again => (refused_iff tier).mp again ⟨named, least, up⟩
  constructor
  · intro named hint
    have least := (named_iff named).mp hint
    refine ⟨above least, fun tier => helped least, fun tier below => ?_⟩
    refine (refused_iff tier).mpr ?_
    rintro ⟨other, least', up⟩
    cases least.symm.trans least'
    exact Nat.not_le_of_lt below (of_decide_eq_true up)
  · constructor
    · intro unnamed tier _
      refine (refused_iff tier).mpr ?_
      rintro ⟨least, found, -⟩
      exact unnamed ⟨least, (named_iff least).mpr found⟩
    · rintro helpless ⟨named, hint⟩
      have least := (named_iff named).mp hint
      have up : named.isAtLeast user.tier = true := decide_eq_true (Nat.le_of_lt (above least))
      exact helped least (decide_eq_true (Nat.le_refl _)) (helpless named up)

end Engine

namespace Sample

/-- Deletion is part of what is paid for. -/
def paidDeletion : Entitlements :=
  .layered .empty (Table.ofList [(deletion, none)]) .empty

end Sample

open Sample in
theorem Engine.hint_exact_deletion :
    let answer (tier : Tier) : Decision := decide ⟨engine.roles, paidDeletion, 32⟩
      { viewer with tier } deletion (some teamTask) (some (snapshot [teamRule]))
    paidDeletion.Built ∧ (answer .free).code = some .subscriptionTierTooLow ∧
      Requires (answer .free).reason .pro ∧
      ∀ tier, tier.isAtLeast .pro = true → (answer tier).code ≠ some .subscriptionTierTooLow := by
  intro answer
  have built : paidDeletion.Built := .tables .empty (Table.ofList [(deletion, none)]) .empty rfl
  have refused : (answer .free).code = some .subscriptionTierTooLow := by decide
  have hint : Requires (answer .free).reason .pro :=
    ⟨"task:delete is not included in the free plan", by decide⟩
  have exact_hint := (hint_exact engine.roles 32 built).2 viewer deletion (some teamTask)
    (some (snapshot [teamRule])) refused
  exact ⟨built, refused, hint, (exact_hint.1 .pro hint).2.1⟩

end TenantAccess
