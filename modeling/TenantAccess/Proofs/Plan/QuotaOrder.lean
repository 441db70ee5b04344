import TenantAccess.Quota

/-! # The order of quotas

A quota lies below another one that grants everything it grants; the missing quota, which restricts
nothing, lies above all. Combining layers gives their greatest lower bound, and widening the least
upper bound of two.
-/

namespace TenantAccess

namespace NameSet

variable {a b c : NameSet}

theorem subset_refl (a : NameSet) : a.subset a = true := subset_iff.mpr fun _ => id

theorem subset_trans (h : a.subset b = true) (h' : b.subset c = true) : a.subset c = true :=
  subset_iff.mpr fun name member => subset_iff.mp h' name (subset_iff.mp h name member)

theorem subset_antisymm (h : a.subset b = true) (h' : b.subset a = true) : a = b :=
  ext fun name => ⟨subset_iff.mp h name, subset_iff.mp h' name⟩

theorem subset_inter_iff : c.subset (a.inter b) = true ↔ c.subset a = true ∧ c.subset b = true := by
  simp only [subset_iff, mem_inter]
  exact ⟨fun h => ⟨fun n m => (h n m).1, fun n m => (h n m).2⟩, fun h n m => ⟨h.1 n m, h.2 n m⟩⟩

theorem union_subset_iff : (a.union b).subset c = true ↔ a.subset c = true ∧ b.subset c = true := by
  simp only [subset_iff, mem_union]
  exact ⟨fun h => ⟨fun n m => h n (.inl m), fun n m => h n (.inr m)⟩,
    fun h n m => m.elim (h.1 n) (h.2 n)⟩

end NameSet

section

variable {a b c : Option Nat}

theorem limitAllows_refl (a : Option Nat) : limitAllows a a = true := by
  cases a <;> simp [limitAllows]

theorem limitAllows_trans (h : limitAllows a b = true) (h' : limitAllows b c = true) :
    limitAllows a c = true := by
  cases a with
  | none => rfl
  | some a =>
      cases b with
      | none => cases h
      | some b =>
          cases c with
          | none => cases h'
          | some c =>
              simp only [limitAllows, decide_eq_true_eq] at h h' ⊢
              exact Nat.le_trans h' h

theorem limitAllows_antisymm (h : limitAllows a b = true) (h' : limitAllows b a = true) :
    a = b := by
  cases a with
  | none =>
      cases b with
      | none => rfl
      | some b => cases h'
  | some a =>
      cases b with
      | none => cases h
      | some b =>
          simp only [limitAllows, decide_eq_true_eq] at h h'
          exact congrArg some (Nat.le_antisymm h' h)

theorem limitAllows_stricterLimit_iff :
    limitAllows (stricterLimit a b) c = true ↔ limitAllows a c = true ∧ limitAllows b c = true := by
  cases a with
  | none => simp [stricterLimit, limitAllows]
  | some a =>
      cases b with
      | none => simp [stricterLimit, limitAllows]
      | some b =>
          cases c with
          | none => simp [stricterLimit, limitAllows]
          | some c =>
              simp only [stricterLimit, limitAllows, decide_eq_true_eq]
              omega

theorem limitAllows_looserLimit_iff :
    limitAllows c (looserLimit a b) = true ↔ limitAllows c a = true ∧ limitAllows c b = true := by
  cases c with
  | none => simp [limitAllows]
  | some c =>
      cases a with
      | none => simp [looserLimit, limitAllows]
      | some a =>
          cases b with
          | none => simp [looserLimit, limitAllows]
          | some b =>
              simp only [looserLimit, limitAllows, decide_eq_true_eq]
              omega

end

namespace Quota

theorem atLeast_some_iff {hi lo : Quota} :
    isAtLeastAsPermissive (some hi) (some lo) = true ↔
      limitAllows hi.maxItems lo.maxItems = true ∧ limitAllows hi.rateLimit lo.rateLimit = true ∧
        lo.features.subset hi.features = true := by
  simp only [isAtLeastAsPermissive, Bool.and_eq_true, and_assoc]

variable {a b c : Option Quota}

theorem atLeast_none (a : Option Quota) : isAtLeastAsPermissive none a = true := rfl

theorem atLeast_refl (a : Option Quota) : isAtLeastAsPermissive a a = true := by
  cases a with
  | none => rfl
  | some q =>
      exact atLeast_some_iff.mpr ⟨limitAllows_refl _, limitAllows_refl _, NameSet.subset_refl _⟩

theorem atLeast_trans (h : isAtLeastAsPermissive a b = true)
    (h' : isAtLeastAsPermissive b c = true) : isAtLeastAsPermissive a c = true := by
  cases a with
  | none => rfl
  | some a =>
      cases b with
      | none => cases h
      | some b =>
          cases c with
          | none => cases h'
          | some c =>
              obtain ⟨items, rate, features⟩ := atLeast_some_iff.mp h
              obtain ⟨items', rate', features'⟩ := atLeast_some_iff.mp h'
              exact atLeast_some_iff.mpr ⟨limitAllows_trans items items',
                limitAllows_trans rate rate', NameSet.subset_trans features' features⟩

theorem atLeast_antisymm (h : isAtLeastAsPermissive a b = true)
    (h' : isAtLeastAsPermissive b a = true) : a = b := by
  cases a with
  | none =>
      cases b with
      | none => rfl
      | some b => cases h'
  | some a =>
      cases b with
      | none => cases h
      | some b =>
          obtain ⟨items, rate, features⟩ := atLeast_some_iff.mp h
          obtain ⟨items', rate', features'⟩ := atLeast_some_iff.mp h'
          have sameItems := limitAllows_antisymm items items'
          have sameRate := limitAllows_antisymm rate rate'
          have sameFeatures := NameSet.subset_antisymm features' features
          cases a
          cases b
          simp only at sameItems sameRate sameFeatures
          rw [sameItems, sameRate, sameFeatures]

/-- A layer takes the greatest lower bound. -/
theorem restrict_atLeast_iff :
    isAtLeastAsPermissive (restrict a b) c = true ↔
      isAtLeastAsPermissive a c = true ∧ isAtLeastAsPermissive b c = true := by
  cases a with
  | none => cases b <;> simp [restrict, atLeast_none]
  | some a =>
      cases b with
      | none => simp [restrict, atLeast_none]
      | some b =>
          cases c with
          | none => simp [restrict, isAtLeastAsPermissive]
          | some c =>
              simp only [restrict, atLeast_some_iff, meet, limitAllows_stricterLimit_iff,
                NameSet.subset_inter_iff]
              grind

theorem combine_atLeast_iff {layers : List (Option Quota)} :
    isAtLeastAsPermissive (combine layers) c = true ↔
      ∀ layer ∈ layers, isAtLeastAsPermissive layer c = true := by
  have go (layers : List (Option Quota)) (acc : Option Quota) :
      isAtLeastAsPermissive (layers.foldl restrict acc) c = true ↔
        isAtLeastAsPermissive acc c = true ∧
          ∀ layer ∈ layers, isAtLeastAsPermissive layer c = true := by
    induction layers generalizing acc with
    | nil => simp
    | cons layer rest ih =>
        simp only [List.foldl_cons, ih, restrict_atLeast_iff, List.forall_mem_cons, and_assoc]
  simp only [combine, go layers none, atLeast_none, true_and]

/-- A missing layer asks for nothing. -/
theorem combine_atLeast_iff_quotas {layers : List (Option Quota)} :
    isAtLeastAsPermissive (combine layers) c = true ↔
      ∀ q : Quota, some q ∈ layers → isAtLeastAsPermissive (some q) c = true := by
  rw [combine_atLeast_iff]
  constructor
  · intro below q member
    exact below (some q) member
  · intro below layer member
    cases layer with
    | none => exact atLeast_none c
    | some q => exact below q member

theorem atLeast_combine {layers : List (Option Quota)} {layer : Option Quota}
    (member : layer ∈ layers) : isAtLeastAsPermissive layer (combine layers) = true :=
  combine_atLeast_iff.mp (atLeast_refl (combine layers)) layer member

/-- Layers combine to a looser quota where each is at least as loose as one of the others. -/
theorem combine_mono {layers looser : List (Option Quota)}
    (h : ∀ loose ∈ looser, ∃ layer ∈ layers, isAtLeastAsPermissive loose layer = true) :
    isAtLeastAsPermissive (combine looser) (combine layers) = true := by
  apply combine_atLeast_iff.mpr
  intro loose member
  obtain ⟨layer, inside, looser⟩ := h loose member
  exact atLeast_trans looser (atLeast_combine inside)

/-- Widening takes the least upper bound. -/
theorem atLeast_widen_iff :
    isAtLeastAsPermissive c (widen a b) = true ↔
      isAtLeastAsPermissive c a = true ∧ isAtLeastAsPermissive c b = true := by
  cases c with
  | none => simp [atLeast_none]
  | some c =>
      cases a with
      | none => simp [widen, isAtLeastAsPermissive]
      | some a =>
          cases b with
          | none => simp [widen, isAtLeastAsPermissive]
          | some b =>
              simp only [widen, atLeast_some_iff, join, limitAllows_looserLimit_iff,
                NameSet.union_subset_iff]
              grind

theorem widen_atLeast_left (a b : Option Quota) : isAtLeastAsPermissive (widen a b) a = true :=
  (atLeast_widen_iff.mp (atLeast_refl (widen a b))).1

end Quota

end TenantAccess
