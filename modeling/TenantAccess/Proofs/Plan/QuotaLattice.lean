import Mathlib.Data.Option.NAry
import TenantAccess.Misuse
import TenantAccess.Proofs.Plan.QuotaOrder

/-! # Quotas as a lattice

What lies below a quota determines it, so whatever is said of combined layers is read off what lies
below them: neither the order of the layers nor their grouping matters, and neither do repeated or
missing ones. The quotas that combining and widening arrive at are moreover made through the
constructor that refuses limits below zero, and it never refuses them.
-/

namespace TenantAccess

theorem NameSet.ofList_names (s : NameSet) : ofList s.names = s := ext fun _ => mem_ofList

namespace Quota

variable {a b : Option Quota}

/-! ## Quotas by their bounds -/

theorem eq_of_same_below
    (h : ∀ c, isAtLeastAsPermissive a c = true ↔ isAtLeastAsPermissive b c = true) : a = b := by
  apply atLeast_antisymm
  · exact (h b).mpr (atLeast_refl b)
  · exact (h a).mp (atLeast_refl a)

theorem eq_of_same_above
    (h : ∀ c, isAtLeastAsPermissive c a = true ↔ isAtLeastAsPermissive c b = true) : a = b := by
  apply atLeast_antisymm
  · exact (h a).mp (atLeast_refl a)
  · exact (h b).mpr (atLeast_refl b)

/-- Only the quotas among the layers count. -/
theorem combine_congr {layers others : List (Option Quota)}
    (same : ∀ q : Quota, some q ∈ layers ↔ some q ∈ others) :
    combine layers = combine others := by
  apply eq_of_same_below
  intro c
  simp only [combine_atLeast_iff_quotas, same]

theorem combine_flatten (groups : List (List (Option Quota))) :
    combine groups.flatten = combine (groups.map combine) := by
  apply eq_of_same_below
  intro c
  simp only [combine_atLeast_iff, List.mem_flatten, List.forall_mem_map]
  constructor
  · intro below group member layer inside
    exact below layer ⟨group, member, inside⟩
  · rintro below layer ⟨group, member, inside⟩
    exact below group member layer inside

theorem combine_widen_self (a b : Option Quota) : combine [a, widen a b] = a := by
  apply eq_of_same_below
  intro c
  simp only [combine_atLeast_iff, List.forall_mem_cons, List.not_mem_nil, false_implies, implies_true,
    and_true]
  exact ⟨And.left, fun below => ⟨below, atLeast_trans (widen_atLeast_left a b) below⟩⟩

theorem widen_combine_self (a b : Option Quota) : widen a (combine [a, b]) = a := by
  apply eq_of_same_above
  intro c
  rw [atLeast_widen_iff]
  exact ⟨And.left, fun above => ⟨above, atLeast_trans above (atLeast_combine List.mem_cons_self)⟩⟩

/-! ## Quotas through their constructor -/

/-- A limit as the constructor takes it. -/
def asked (limit : Option Nat) : Option Int := limit.map fun n : Nat => (n : Int)

/-- What both quotas allow, made anew. -/
def checkedMeet (a b : Quota) : Except Misuse Quota :=
  make (Option.merge min (asked a.maxItems) (asked b.maxItems))
    (Option.merge min (asked a.rateLimit) (asked b.rateLimit)) (a.features.inter b.features).names

/-- What either quota allows, made anew. -/
def checkedJoin (a b : Quota) : Except Misuse Quota :=
  make (Option.map₂ max (asked a.maxItems) (asked b.maxItems))
    (Option.map₂ max (asked a.rateLimit) (asked b.rateLimit)) (a.features.union b.features).names

def checkedRestrict : Option Quota → Option Quota → Except Misuse (Option Quota)
  | acc, none => .ok acc
  | none, some q => .ok (some q)
  | some acc, some q => (acc.checkedMeet q).map some

/-- All layers combined, with every quota on the way made anew. -/
def checkedCombine (layers : List (Option Quota)) : Except Misuse (Option Quota) :=
  layers.foldlM checkedRestrict none

def checkedWiden : Option Quota → Option Quota → Except Misuse (Option Quota)
  | none, _ => .ok none
  | _, none => .ok none
  | some a, some b => (a.checkedJoin b).map some

theorem checkLimit_asked (name : String) (limit : Option Nat) :
    checkLimit name (asked limit) = .ok limit := by
  cases limit with
  | none => rfl
  | some n =>
      have sound : ¬ ((n : Int) < 0) := by omega
      rw [asked, Option.map_some, checkLimit, if_neg sound]
      rfl

theorem make_asked (q : Quota) :
    make (asked q.maxItems) (asked q.rateLimit) q.features.names = .ok q := by
  simp only [make, checkLimit_asked, NameSet.ofList_names, bind, Except.bind, pure, Except.pure]

theorem merge_asked (a b : Option Nat) :
    Option.merge min (asked a) (asked b) = asked (stricterLimit a b) := by
  cases a with
  | none => cases b <;> rfl
  | some a =>
      cases b with
      | none => rfl
      | some b =>
          have same : min (a : Int) b = (min a b : Nat) := by omega
          exact congrArg some same

theorem map₂_asked (a b : Option Nat) :
    Option.map₂ max (asked a) (asked b) = asked (looserLimit a b) := by
  cases a with
  | none => rfl
  | some a =>
      cases b with
      | none => rfl
      | some b =>
          have same : max (a : Int) b = (max a b : Nat) := by omega
          exact congrArg some same

theorem checkedMeet_eq (a b : Quota) : a.checkedMeet b = .ok (a.meet b) := by
  rw [checkedMeet, merge_asked, merge_asked]
  exact make_asked (a.meet b)

theorem checkedJoin_eq (a b : Quota) : a.checkedJoin b = .ok (a.join b) := by
  rw [checkedJoin, map₂_asked, map₂_asked]
  exact make_asked (a.join b)

theorem checkedRestrict_eq (a b : Option Quota) : checkedRestrict a b = .ok (restrict a b) := by
  cases b with
  | none => cases a <;> rfl
  | some b =>
      cases a with
      | none => rfl
      | some a => exact congrArg (Except.map some) (checkedMeet_eq a b)

theorem checkedCombine_eq (layers : List (Option Quota)) :
    checkedCombine layers = .ok (combine layers) := by
  have go (layers : List (Option Quota)) (acc : Option Quota) :
      layers.foldlM checkedRestrict acc = .ok (layers.foldl restrict acc) := by
    induction layers generalizing acc with
    | nil => rfl
    | cons layer rest ih =>
        rw [List.foldlM_cons, checkedRestrict_eq]
        exact ih (restrict acc layer)
  exact go layers none

theorem checkedWiden_eq (a b : Option Quota) : checkedWiden a b = .ok (widen a b) := by
  cases a with
  | none => rfl
  | some a =>
      cases b with
      | none => rfl
      | some b => exact congrArg (Except.map some) (checkedJoin_eq a b)

/-! ## All laws together -/

/-- Permissiveness orders quotas with the missing one on top. In this order combining takes the
greatest lower bound of any layers and widening the least upper bound of two, each absorbs the
other, and neither is ever refused by the constructor. -/
theorem lattice :
    ((∀ a, isAtLeastAsPermissive a a = true) ∧
      (∀ a b c, isAtLeastAsPermissive a b = true → isAtLeastAsPermissive b c = true →
        isAtLeastAsPermissive a c = true) ∧
      (∀ a b, isAtLeastAsPermissive a b = true → isAtLeastAsPermissive b a = true → a = b) ∧
      ∀ a, isAtLeastAsPermissive none a = true) ∧
    ((∀ layers c, isAtLeastAsPermissive (combine layers) c = true ↔
        ∀ layer ∈ layers, isAtLeastAsPermissive layer c = true) ∧
      (∀ layers others, (∀ q : Quota, some q ∈ layers ↔ some q ∈ others) →
        combine layers = combine others) ∧
      ∀ groups : List (List (Option Quota)),
        combine groups.flatten = combine (groups.map combine)) ∧
    (∀ a b c, isAtLeastAsPermissive c (widen a b) = true ↔
      isAtLeastAsPermissive c a = true ∧ isAtLeastAsPermissive c b = true) ∧
    (∀ a b, combine [a, widen a b] = a ∧ widen a (combine [a, b]) = a) ∧
    (∀ layers, checkedCombine layers = .ok (combine layers)) ∧
    ∀ a b, checkedWiden a b = .ok (widen a b) := by
  refine ⟨⟨atLeast_refl, ?_, ?_, atLeast_none⟩, ⟨?_, ?_, combine_flatten⟩, ?_, ?_,
    checkedCombine_eq, checkedWiden_eq⟩
  · intro a b c h h'
    exact atLeast_trans h h'
  · intro a b h h'
    exact atLeast_antisymm h h'
  · intro layers c
    exact combine_atLeast_iff
  · intro layers others same
    exact combine_congr same
  · intro a b c
    exact atLeast_widen_iff
  · intro a b
    exact ⟨combine_widen_self a b, widen_combine_self a b⟩

/-- Layers in another order, one of them missing. -/
theorem lattice_reordered :
    let paid : Option Quota := some ⟨some 100, some 10, .ofList ["a", "b"]⟩
    let team : Option Quota := some ⟨some 50, none, .ofList ["b"]⟩
    combine [none, paid, team] = combine [team, paid] ∧
      combine [team, paid] = some ⟨some 50, some 10, .ofList ["b"]⟩ ∧
      isAtLeastAsPermissive (widen paid team) (combine [team, paid]) = true := by
  intro paid team
  have order := lattice.1.2.1
  have same := lattice.2.1.2.1 [none, paid, team] [team, paid] fun q => by
    simp only [List.mem_cons, List.not_mem_nil, reduceCtorEq, false_or, or_comm]
  have above : isAtLeastAsPermissive (widen paid team) paid = true := by decide
  have below : isAtLeastAsPermissive paid (combine [team, paid]) = true := by decide
  exact ⟨same, by decide, order _ _ _ above below⟩

end Quota

end TenantAccess
