import TenantAccess.Proofs.Plan.Layers
import TenantAccess.Proofs.Role.Inheritance
import TenantAccess.Proofs.TableOrder

/-! # Layers of quotas and of grants

Plans are layered from tables of quotas, and roles from tables of grants. Either way a layer is laid
over what is there by joins: widening joins quotas in the order of permissiveness, and merging joins
grants in the order of what they cover. So layers may be laid in any order.
-/

namespace TenantAccess

/-- Grants are joined in the order of what they cover. -/
theorem Grant.joinsBy_merge : Table.JoinsBy (fun a b : Grant => b.Covers a) Grant.merge where
  refl := .refl
  trans _ _ _ h h' := h'.trans h
  antisymm _ _ h h' := h'.antisymm h
  join_le_iff _ _ _ := covers_merge_iff

/-- Quotas are joined in the order of permissiveness. -/
theorem Quota.joinsBy_widen :
    Table.JoinsBy (fun a b => isAtLeastAsPermissive b a = true) widen where
  refl := atLeast_refl
  trans _ _ _ h h' := atLeast_trans h' h
  antisymm _ _ h h' := atLeast_antisymm h' h
  join_le_iff _ _ _ := atLeast_widen_iff

/-- As maps, tables of quotas and tables of grants under any keys are joined by laying one over the
other: the outcome is the least table that lies above both, key by key, and so it does not depend on
the order, the grouping or the repetition of layers. -/
theorem Table.layering_joins :
    (∀ (κ : Type) [DecidableEq κ],
      IsJoin (fun a b => Quota.isAtLeastAsPermissive b a = true)
        (QuotaTable.overlay : Table κ (Option Quota) → _ → _)) ∧
    ∀ (κ : Type) [DecidableEq κ],
      IsJoin (fun a b => b.Covers a) (GrantTable.inherit : Table κ Grant → _ → _) := by
  constructor
  · intro κ _
    exact Quota.joinsBy_widen.isJoin QuotaTable.get?_overlay
  · intro κ _
    exact Grant.joinsBy_merge.isJoin GrantTable.get?_inherit

/-- A tighter quota and an unlimited pair laid over a plan, and one grant of a pair over another. -/
theorem Table.layering_joins_reordered :
    let listing : Pair := ⟨.task, .list⟩
    let viewing : Pair := ⟨.task, .view⟩
    let plan : QuotaTable := .ofList [(listing, some ⟨some 100, some 10, .empty⟩)]
    let tighter : QuotaTable := .ofList [(listing, some ⟨some 5, some 50, .empty⟩)]
    let unlimited : QuotaTable := .ofList [(viewing, none)]
    let exempt : GrantTable := .ofList [(listing, ⟨.own, true⟩)]
    let wide : GrantTable := .ofList [(listing, ⟨.team, false⟩)]
    Agrees ([tighter, unlimited].foldl QuotaTable.overlay plan)
        ([unlimited, tighter].foldl QuotaTable.overlay plan) ∧
      (QuotaTable.overlay plan tighter).get? listing = some (some ⟨some 100, some 50, .empty⟩) ∧
      Agrees (GrantTable.inherit exempt wide) (GrantTable.inherit wide exempt) ∧
      (GrantTable.inherit exempt wide).get? listing = some ⟨.team, true⟩ := by
  intro listing viewing plan tighter unlimited exempt wide
  obtain ⟨quotas, grants⟩ := layering_joins
  have either := (List.Perm.swap unlimited tighter []).cons plan
  have layered := (quotas Pair).layered plan [tighter, unlimited] plan [unlimited, tighter]
    fun _ => either.mem_iff
  exact ⟨layered, by decide, (grants Pair).comm exempt wide, by decide⟩

end TenantAccess
