import TenantAccess.Plan.Entitlements
import TenantAccess.Proofs.Plan.QuotaOrder
import TenantAccess.Proofs.TableOrder

/-! # Layered plans

A table laid over another one takes nothing away and tightens nothing. In plans that are layered so,
a higher tier holds whatever a lower one grants.
-/

namespace TenantAccess

namespace QuotaTable

variable {κ : Type} [DecidableEq κ]

/-- What one table grants the other grants too, as loosely at least. -/
def Holds (higher lower : Table κ (Option Quota)) : Prop :=
  ∀ key quota, lower.get? key = some quota →
    ∃ upper, higher.get? key = some upper ∧ Quota.isAtLeastAsPermissive upper quota = true

theorem Holds.refl (t : Table κ (Option Quota)) : Holds t t :=
  fun _ quota granted => ⟨quota, granted, Quota.atLeast_refl quota⟩

theorem Holds.trans {a b c : Table κ (Option Quota)} (h : Holds a b) (h' : Holds b c) :
    Holds a c := by
  intro key quota granted
  obtain ⟨middle, between, loose⟩ := h' key quota granted
  obtain ⟨upper, above, looser⟩ := h key middle between
  exact ⟨upper, above, Quota.atLeast_trans looser loose⟩

theorem get?_overlay (base additions : Table κ (Option Quota)) (key : κ) :
    (overlay base additions).get? key =
      Option.merge Quota.widen (base.get? key) (additions.get? key) :=
  Table.AddsBy.get?_foldl get?_add base additions key

theorem holds_overlay (base additions : Table κ (Option Quota)) :
    Holds (overlay base additions) base := by
  intro key quota granted
  rw [get?_overlay, granted]
  cases additions.get? key with
  | none => exact ⟨quota, rfl, Quota.atLeast_refl quota⟩
  | some added => exact ⟨_, rfl, Quota.widen_atLeast_left quota added⟩

/-- Tables that hold their lower neighbours hold all tables below them. -/
theorem holds_of_neighbours {tables : Tier → Table κ (Option Quota)} {lower higher : Tier}
    (pro : Holds (tables .pro) (tables .free)) (enterprise : Holds (tables .enterprise) (tables .pro))
    (up : higher.isAtLeast lower = true) : Holds (tables higher) (tables lower) := by
  cases lower with
  | free =>
      cases higher with
      | free => exact .refl _
      | pro => exact pro
      | enterprise => exact enterprise.trans pro
  | pro =>
      cases higher with
      | free => cases up
      | pro => exact .refl _
      | enterprise => exact enterprise
  | enterprise =>
      cases higher with
      | free | pro => cases up
      | enterprise => exact .refl _

end QuotaTable

namespace Entitlements

variable {e : Entitlements} {lower higher : Tier} {pair : Pair}

/-- Each tier holds what the tier below it grants. -/
structure Rising (e : Entitlements) : Prop where
  pro : QuotaTable.Holds e.pro e.free
  enterprise : QuotaTable.Holds e.enterprise e.pro

theorem rising_layered (free proAdditions enterpriseAdditions : QuotaTable) :
    (layered free proAdditions enterpriseAdditions).Rising :=
  ⟨QuotaTable.holds_overlay _ _, QuotaTable.holds_overlay _ _⟩

theorem Rising.holds (h : e.Rising) (up : higher.isAtLeast lower = true) :
    QuotaTable.Holds (e.table higher) (e.table lower) :=
  QuotaTable.holds_of_neighbours h.pro h.enterprise up

/-- What a tier includes, a higher one includes as well, with as loose a quota at least. -/
theorem Rising.privilege? (h : e.Rising) (up : higher.isAtLeast lower = true) {p : Privilege}
    (included : e.privilege? lower pair = some p) :
    ∃ p', e.privilege? higher pair = some p' ∧
      Quota.isAtLeastAsPermissive p'.quota p.quota = true := by
  obtain ⟨quota, granted, rfl⟩ := Option.map_eq_some_iff.mp included
  obtain ⟨upper, above, looser⟩ := h.holds up pair quota granted
  exact ⟨_, by rw [Entitlements.privilege?, above]; rfl, looser⟩

end Entitlements

end TenantAccess
