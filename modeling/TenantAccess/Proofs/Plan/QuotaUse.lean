import TenantAccess.Decision
import TenantAccess.Proofs.Plan.QuotaOrder

/-! # What quotas let through

Among the quotas that a usage stays within one is the tightest, and so it is among those that carry a
feature. A layer lets the usage through, or carries the feature, exactly where it lies above that one.
So the order of quotas alone governs what is let through: layers together let through what each of
them lets through by itself, and a looser layer lets through no less.
-/

namespace TenantAccess

/-- The tightest quota that a usage stays within. -/
def Usage.needs (usage : Usage) : Quota :=
  ⟨some (usage.items + 1).toNat, some (usage.requests + 1).toNat, .empty⟩

/-- The tightest quota that carries a feature. -/
def Quota.carrying (feature : String) : Quota := ⟨some 0, some 0, .ofList [feature]⟩

theorem reaches_eq_none_iff {used : Int} {limit : Option Nat} :
    reaches used limit = none ↔ limitAllows limit (some (used + 1).toNat) = true := by
  cases limit with
  | none => simp only [reaches, limitAllows]
  | some n =>
      simp only [reaches, limitAllows, ite_eq_right_iff, reduceCtorEq, imp_false, decide_eq_true_eq]
      omega

/-- The stricter limit is one of the two. -/
theorem reaches_stricterLimit {used : Int} {a b : Option Nat} {n : Nat}
    (h : reaches used (stricterLimit a b) = some n) :
    reaches used a = some n ∨ reaches used b = some n := by
  cases a with
  | none => exact .inr h
  | some a =>
      cases b with
      | none => exact .inl h
      | some b =>
          rw [stricterLimit] at h
          rcases Nat.le_total a b with le | le
          · rw [Nat.min_eq_left le] at h
            exact .inl h
          · rw [Nat.min_eq_right le] at h
            exact .inr h

namespace Quota

variable {a b : Quota} {hi lo quota : Option Quota} {layers : List (Option Quota)} {usage : Usage}
  {limit : LimitReached} {feature : String}

/-! ## Usage -/

theorem exceeded?_eq_none_iff :
    a.exceeded? usage = none ↔
      reaches usage.items a.maxItems = none ∧ reaches usage.requests a.rateLimit = none := by
  unfold exceeded?
  cases reaches usage.items a.maxItems with
  | none => simp only [Option.map_eq_none_iff, true_and]
  | some n => simp only [reduceCtorEq, false_and]

theorem checkUsage_eq_none_iff :
    checkUsage quota usage = none ↔ isAtLeastAsPermissive quota (some usage.needs) = true := by
  cases quota with
  | none => exact iff_of_true rfl rfl
  | some q =>
      have noFeature : usage.needs.features.subset q.features = true :=
        NameSet.subset_iff.mpr fun name member => absurd member (NameSet.not_mem_empty name)
      rw [atLeast_some_iff, show checkUsage (some q) usage = q.exceeded? usage from rfl,
        exceeded?_eq_none_iff, reaches_eq_none_iff, reaches_eq_none_iff]
      exact ⟨fun ⟨items, rate⟩ => ⟨items, rate, noFeature⟩, fun ⟨items, rate, _⟩ => ⟨items, rate⟩⟩

theorem checkUsage_combine_iff :
    checkUsage (combine layers) usage = none ↔ ∀ layer ∈ layers, checkUsage layer usage = none := by
  simp only [checkUsage_eq_none_iff, combine_atLeast_iff]

theorem checkUsage_of_atLeast (looser : isAtLeastAsPermissive hi lo = true)
    (passes : checkUsage lo usage = none) : checkUsage hi usage = none := by
  rw [checkUsage_eq_none_iff] at passes ⊢
  exact atLeast_trans looser passes

theorem checkUsage_of_less {less : Usage} (items : less.items ≤ usage.items)
    (requests : less.requests ≤ usage.requests) (passes : checkUsage quota usage = none) :
    checkUsage quota less = none := by
  rw [checkUsage_eq_none_iff] at passes ⊢
  apply atLeast_trans passes
  apply atLeast_some_iff.mpr
  refine ⟨?_, ?_, NameSet.subset_refl _⟩
  · simp only [Usage.needs, limitAllows, decide_eq_true_eq]
    omega
  · simp only [Usage.needs, limitAllows, decide_eq_true_eq]
    omega

/-- What both quotas together report, one of them reports. -/
theorem exceeded?_meet (h : (a.meet b).exceeded? usage = some limit) :
    a.exceeded? usage = some limit ∨ b.exceeded? usage = some limit := by
  unfold exceeded? at h ⊢
  cases items : reaches usage.items (a.meet b).maxItems with
  | some n =>
      simp only [items] at h
      rcases reaches_stricterLimit items with here | here
      · simp only [here, h, true_or]
      · simp only [here, h, or_true]
  | none =>
      simp only [items] at h
      obtain ⟨n, rate, rfl⟩ := Option.map_eq_some_iff.mp h
      obtain ⟨free, free'⟩ := limitAllows_stricterLimit_iff.mp (reaches_eq_none_iff.mp items)
      simp only [reaches_eq_none_iff.mpr free, reaches_eq_none_iff.mpr free']
      rcases reaches_stricterLimit rate with here | here
      · simp only [here, Option.map_some, true_or]
      · simp only [here, Option.map_some, or_true]

theorem checkUsage_restrict (h : checkUsage (restrict hi lo) usage = some limit) :
    checkUsage hi usage = some limit ∨ checkUsage lo usage = some limit := by
  cases lo with
  | none =>
      cases hi with
      | none => exact .inl h
      | some hi => exact .inl h
  | some lo =>
      cases hi with
      | none => exact .inr h
      | some hi => exact exceeded?_meet h

/-- Some layer reports what the layers together report. -/
theorem checkUsage_combine (h : checkUsage (combine layers) usage = some limit) :
    ∃ layer ∈ layers, checkUsage layer usage = some limit := by
  -- The order of quotas says that some limit is reached but not which, so this is an induction of
  -- its own, over what the layers so far combine to.
  have go (layers : List (Option Quota)) (acc : Option Quota)
      (h : checkUsage (layers.foldl restrict acc) usage = some limit) :
      checkUsage acc usage = some limit ∨ ∃ layer ∈ layers, checkUsage layer usage = some limit := by
    induction layers generalizing acc with
    | nil => exact .inl h
    | cons layer rest ih =>
        rcases ih (restrict acc layer) h with here | ⟨later, member, reports⟩
        · rcases checkUsage_restrict here with before | now
          · exact .inl before
          · exact .inr ⟨layer, List.mem_cons_self, now⟩
        · exact .inr ⟨later, List.mem_cons_of_mem layer member, reports⟩
  rcases go layers none h with nothing | found
  · cases nothing
  · exact found

/-! ## Features -/

theorem limitAllows_zero (limit : Option Nat) : limitAllows limit (some 0) = true := by
  cases limit with
  | none => rfl
  | some n => exact decide_eq_true (Nat.zero_le n)

theorem hasFeature_iff :
    a.hasFeature feature = true ↔ isAtLeastAsPermissive (some a) (some (carrying feature)) = true := by
  rw [atLeast_some_iff, hasFeature, NameSet.contains_iff]
  constructor
  · intro member
    refine ⟨limitAllows_zero _, limitAllows_zero _, NameSet.subset_iff.mpr fun name given => ?_⟩
    rw [carrying, NameSet.mem_ofList, List.mem_singleton] at given
    exact given ▸ member
  · rintro ⟨-, -, within⟩
    exact NameSet.subset_iff.mp within feature (NameSet.mem_ofList.mpr List.mem_cons_self)

end Quota

theorem Privilege.hasFeature_iff {p : Privilege} {feature : String} :
    p.hasFeature feature = true ↔
      Quota.isAtLeastAsPermissive p.quota (some (Quota.carrying feature)) = true := by
  unfold hasFeature
  cases p.quota with
  | none => exact iff_of_true rfl rfl
  | some q => exact Quota.hasFeature_iff

theorem Privilege.hasFeature_combine_iff {p : Privilege} {layers : List (Option Quota)}
    {feature : String} (combined : p.quota = Quota.combine layers) :
    p.hasFeature feature = true ↔ ∀ q : Quota, some q ∈ layers → q.hasFeature feature = true := by
  rw [hasFeature_iff, combined, Quota.combine_atLeast_iff_quotas]
  simp only [Quota.hasFeature_iff]

end TenantAccess
