import TenantAccess.Proofs.TableOrder
import TenantAccess.Role.Registry

/-! # Inherited grants

Grants laid over inherited ones narrow nothing: each pair that was granted still is, at no narrower a
scope, and on every plan if it was so before. However many layers are laid over one another, the last
role has what the first one had.
-/

namespace TenantAccess

theorem Scope.level_wider (a b : Scope) : (a.wider b).level = max a.level b.level := by
  unfold wider
  split
  · next h => exact (Nat.max_eq_right (Nat.le_of_lt h)).symm
  · next h => exact (Nat.max_eq_left (Nat.le_of_not_lt h)).symm

theorem Scope.level_inj {a b : Scope} : a.level = b.level → a = b := by
  cases a <;> cases b <;> decide

namespace Grant

/-- A grant gives whatever another one gives. -/
structure Covers (wider narrower : Grant) : Prop where
  scope : narrower.maxScope ≤ wider.maxScope
  exempt : narrower.tierExempt = true → wider.tierExempt = true

theorem Covers.refl (g : Grant) : g.Covers g := ⟨Nat.le_refl _, id⟩

theorem Covers.trans {a b c : Grant} (h : a.Covers b) (h' : b.Covers c) : a.Covers c :=
  ⟨Nat.le_trans h'.scope h.scope, fun exempt => h.exempt (h'.exempt exempt)⟩

theorem Covers.antisymm {a b : Grant} (h : a.Covers b) (h' : b.Covers a) : a = b := by
  have scope : a.maxScope = b.maxScope := Scope.level_inj (Nat.le_antisymm h'.scope h.scope)
  have exempt : a.tierExempt = b.tierExempt := Bool.eq_iff_iff.mpr ⟨h'.exempt, h.exempt⟩
  cases a
  cases b
  simp only at scope exempt
  rw [scope, exempt]

/-- Merging takes the least grant that covers both. -/
theorem covers_merge_iff {a b c : Grant} : c.Covers (a.merge b) ↔ c.Covers a ∧ c.Covers b := by
  have scope : (a.merge b).maxScope ≤ c.maxScope ↔
      a.maxScope ≤ c.maxScope ∧ b.maxScope ≤ c.maxScope := by
    simp only [Scope.le_def, merge, Scope.level_wider, Nat.max_le]
  have exempt : (a.merge b).tierExempt = true ↔ a.tierExempt = true ∨ b.tierExempt = true := by
    rw [merge, Bool.or_eq_true]
  constructor
  · intro h
    obtain ⟨left, right⟩ := scope.mp h.scope
    exact ⟨⟨left, fun given => h.exempt (exempt.mpr (.inl given))⟩,
      ⟨right, fun given => h.exempt (exempt.mpr (.inr given))⟩⟩
  · rintro ⟨h, h'⟩
    exact ⟨scope.mpr ⟨h.scope, h'.scope⟩, fun given => (exempt.mp given).elim h.exempt h'.exempt⟩

theorem covers_merge_left (a b : Grant) : (a.merge b).Covers a :=
  (covers_merge_iff.mp (.refl (a.merge b))).1

end Grant

namespace GrantTable

variable {κ : Type} [DecidableEq κ]

theorem get?_inherit (parent grants : Table κ Grant) (key : κ) :
    (inherit parent grants).get? key =
      Option.merge Grant.merge (parent.get? key) (grants.get? key) :=
  Table.AddsBy.get?_foldl get?_add parent grants key

/-- One table grants what another one grants, and no less of it. -/
def Holds (higher lower : Table κ Grant) : Prop :=
  ∀ key grant, lower.get? key = some grant → ∃ wider, higher.get? key = some wider ∧ wider.Covers grant

theorem Holds.refl (t : Table κ Grant) : Holds t t :=
  fun _ grant granted => ⟨grant, granted, .refl grant⟩

theorem Holds.trans {a b c : Table κ Grant} (h : Holds a b) (h' : Holds b c) : Holds a c := by
  intro key grant granted
  obtain ⟨middle, between, covers⟩ := h' key grant granted
  obtain ⟨upper, above, covers'⟩ := h key middle between
  exact ⟨upper, above, covers'.trans covers⟩

theorem holds_inherit (parent grants : Table κ Grant) : Holds (inherit parent grants) parent := by
  intro key grant granted
  rw [get?_inherit, granted]
  cases grants.get? key with
  | none => exact ⟨grant, rfl, .refl grant⟩
  | some added => exact ⟨_, rfl, grant.covers_merge_left added⟩

theorem holds_layers (layers : List (Table κ Grant)) (parent : Table κ Grant) :
    Holds (layers.foldl inherit parent) parent := by
  induction layers generalizing parent with
  | nil => exact .refl parent
  | cons layer rest ih => exact (ih (inherit parent layer)).trans (holds_inherit parent layer)

end GrantTable

namespace RoleTable

variable {roles : RoleTable} {parentId heirId : String} {pair : Pair} {grant : Grant}

/-- A role has the grants of another one, with layers of grants laid over them. -/
def Inherits (roles : RoleTable) (parentId heirId : String) : Prop :=
  ∃ (parent heir : Role) (layers : List GrantTable), roles.get? parentId = some parent ∧
    roles.get? heirId = some heir ∧ heir.grants = layers.foldl GrantTable.inherit parent.grants

theorem Inherits.trans {middleId : String} (h : roles.Inherits parentId middleId)
    (h' : roles.Inherits middleId heirId) : roles.Inherits parentId heirId := by
  obtain ⟨parent, middle, layers, found, between, given⟩ := h
  obtain ⟨middle', heir, layers', between', found', given'⟩ := h'
  cases between.symm.trans between'
  refine ⟨parent, heir, layers ++ layers', found, found', ?_⟩
  rw [given', given, List.foldl_append]

theorem Inherits.covers (inherits : roles.Inherits parentId heirId)
    (granted : roles.grantFor parentId pair = some grant) :
    ∃ wider, roles.grantFor heirId pair = some wider ∧ wider.Covers grant := by
  obtain ⟨parent, heir, layers, found, found', layered⟩ := inherits
  have given : parent.grants.get? pair = some grant := by
    simpa only [grantFor, found, Option.bind_some, Role.grantFor] using granted
  obtain ⟨wider, held, covers⟩ := GrantTable.holds_layers layers parent.grants pair grant given
  refine ⟨wider, ?_, covers⟩
  simpa only [grantFor, found', Option.bind_some, Role.grantFor, layered] using held

/-! ## Standard roles -/

/-- The table of the standard roles. -/
def standard : RoleTable := Table.ofList (Role.standard.map fun role => (role.id, role))

theorem answer_standard : Registry.table.answer Registry.standard = .ok standard := rfl

theorem viewer_inherits_member : standard.Inherits "viewer" "member" :=
  ⟨_, _, [Role.memberAdditions], rfl, rfl, rfl⟩

theorem member_inherits_admin : standard.Inherits "member" "admin" :=
  ⟨_, _, [Role.adminAdditions], rfl, rfl, rfl⟩

end RoleTable

end TenantAccess
