import Mathlib.Logic.Basic
import Mathlib.Order.Defs.Unbundled
import TenantAccess.Table

/-! # The order of tables

Where values are ordered, tables are ordered key by key, and a key that is not there lies below all
values. A table that is laid over another one, row by row and by a join of values, gives the least
upper bound of the two. Which tables lie above the outcome says all there is to say of it as a map:
neither grouping nor order of the layers matters, nor how often one of them is laid.
-/

namespace TenantAccess.Table

variable {κ ν : Type} [DecidableEq κ] {le : ν → ν → Prop} {join : ν → ν → ν}
  {s t u base : Table κ ν} {layers : List (Table κ ν)}

/-- A partial order of values, and the least upper bound of two values in it. -/
structure JoinsBy (le : ν → ν → Prop) (join : ν → ν → ν) : Prop extends IsPartialOrder ν le where
  join_le_iff : ∀ a b c, le (join a b) c ↔ le a c ∧ le b c

/-- Whatever the first table holds, the second holds as much under the same key. -/
def Within (le : ν → ν → Prop) (s t : Table κ ν) : Prop :=
  ∀ key, Option.le le (s.get? key) (t.get? key)

/-- The tables are one map; their rows may stand in different orders. -/
def Agrees (s t : Table κ ν) : Prop := ∀ key, s.get? key = t.get? key

/-- Laying one table over another one takes their least upper bound. -/
structure IsJoin (le : ν → ν → Prop) (lay : Table κ ν → Table κ ν → Table κ ν) : Prop where
  /-- The values that are joined are partially ordered. -/
  order : IsPartialOrder ν le
  /-- A key holds the least upper bound of what it holds in the two tables; absent is below all. -/
  pointwise : ∀ s t key bound, Option.le le ((lay s t).get? key) bound ↔
    Option.le le (s.get? key) bound ∧ Option.le le (t.get? key) bound
  /-- The keys are those of either table. -/
  keys : ∀ s t key, key ∈ (lay s t).keys ↔ key ∈ s.keys ∨ key ∈ t.keys
  /-- Neither table is narrowed at any key. -/
  upper : ∀ s t, Within le s (lay s t) ∧ Within le t (lay s t)
  /-- No smaller table would do. -/
  least : ∀ s t u, Within le s u → Within le t u → Within le (lay s t) u
  assoc : ∀ s t u, Agrees (lay (lay s t) u) (lay s (lay t u))
  comm : ∀ s t, Agrees (lay s t) (lay t s)
  idem : ∀ s, Agrees (lay s s) s
  /-- Which tables are laid decides the outcome, in whatever order and however often. -/
  layered : ∀ base layers base' layers', (∀ t, t ∈ base :: layers ↔ t ∈ base' :: layers') →
    Agrees (layers.foldl lay base) (layers'.foldl lay base')

/-! ## One key -/

namespace JoinsBy

theorem le_refl (joins : JoinsBy le join) (a : Option ν) : Option.le le a a := by
  cases a with
  | none => trivial
  | some a => exact joins.refl a

theorem le_antisymm (joins : JoinsBy le join) {a b : Option ν} (h : Option.le le a b)
    (h' : Option.le le b a) : a = b := by
  cases a with
  | none =>
      cases b with
      | none => rfl
      | some b => cases h'
  | some a =>
      cases b with
      | none => cases h
      | some b => exact congrArg some (joins.antisymm a b h h')

/-- Where one of the two is absent, the other one is the least upper bound. -/
theorem merge_le_iff (joins : JoinsBy le join) {a b c : Option ν} :
    Option.le le (Option.merge join a b) c ↔ Option.le le a c ∧ Option.le le b c := by
  cases a with
  | none => cases b <;> cases c <;> simp [Option.le]
  | some a =>
      cases b with
      | none => cases c <;> simp [Option.le]
      | some b =>
          cases c with
          | none => simp [Option.le]
          | some c => exact joins.join_le_iff a b c

end JoinsBy

/-! ## All keys -/

theorem Within.refl (joins : JoinsBy le join) (t : Table κ ν) : Within le t t :=
  fun _ => joins.le_refl _

/-- What lies above a table determines it, as a map. -/
theorem agrees_of_same_above (joins : JoinsBy le join)
    (same : ∀ u, Within le s u ↔ Within le t u) : Agrees s t := by
  intro key
  apply joins.le_antisymm
  · exact (same t).mpr (.refl joins t) key
  · exact (same s).mp (.refl joins s) key

/-- A table is laid over another one by joining what the two hold under each key. -/
def LaidBy (join : ν → ν → ν) (lay : Table κ ν → Table κ ν → Table κ ν) : Prop :=
  ∀ s t key, (lay s t).get? key = Option.merge join (s.get? key) (t.get? key)

variable {lay : Table κ ν → Table κ ν → Table κ ν}

theorem LaidBy.within_iff (laid : LaidBy join lay) (joins : JoinsBy le join) :
    Within le (lay s t) u ↔ Within le s u ∧ Within le t u := by
  simp only [Within, laid s t, joins.merge_le_iff, forall_and]

theorem LaidBy.foldl_within_iff (laid : LaidBy join lay) (joins : JoinsBy le join) :
    Within le (layers.foldl lay base) u ↔ ∀ t ∈ base :: layers, Within le t u := by
  induction layers generalizing base with
  | nil => simp
  | cons layer rest ih =>
      rw [List.foldl_cons, ih]
      simp only [List.forall_mem_cons, laid.within_iff joins, and_assoc]

theorem LaidBy.mem_keys_iff (laid : LaidBy join lay) {key : κ} :
    key ∈ (lay s t).keys ↔ key ∈ s.keys ∨ key ∈ t.keys := by
  have absent : (lay s t).get? key = none ↔ s.get? key = none ∧ t.get? key = none := by
    rw [laid]
    cases s.get? key <;> cases t.get? key <;> simp
  simp only [get?_eq_none_iff] at absent
  rw [← not_iff_not, absent, not_or]

/-- A join of values gives least upper bounds of tables, and the laws follow from the bounds. -/
theorem JoinsBy.isJoin (joins : JoinsBy le join) (laid : LaidBy join lay) : IsJoin le lay where
  order := joins.toIsPartialOrder
  pointwise s t key bound := by rw [laid, joins.merge_le_iff]
  keys s t key := laid.mem_keys_iff
  upper s t := (laid.within_iff joins).mp (.refl joins (lay s t))
  least s t u above above' := (laid.within_iff joins).mpr ⟨above, above'⟩
  assoc s t u := by
    apply agrees_of_same_above joins
    intro v
    simp only [laid.within_iff joins, and_assoc]
  comm s t := by
    apply agrees_of_same_above joins
    intro v
    simp only [laid.within_iff joins, and_comm]
  idem s := by
    apply agrees_of_same_above joins
    intro v
    simp only [laid.within_iff joins, and_self]
  layered base layers base' layers' same := by
    apply agrees_of_same_above joins
    intro v
    simp only [laid.foldl_within_iff joins, same]

/-! ## Row by row

The rows of one table are added to another one after the other, each joined with what its key holds
there already. A table has no key twice, so the order of the rows does not matter.
-/

variable {add : Table κ ν → κ → ν → Table κ ν}

/-- A row that is added is joined with what its key holds; no other key is touched. -/
def AddsBy (join : ν → ν → ν) (add : Table κ ν → κ → ν → Table κ ν) : Prop :=
  ∀ t key other value, (add t key value).get? other =
    if key = other then some (((t.get? key).map (join · value)).getD value) else t.get? other

theorem AddsBy.seek_foldl (adds : AddsBy join add) {rows : List (κ × ν)}
    (distinct : (rows.map Prod.fst).Nodup) (t : Table κ ν) (key : κ) :
    (rows.foldl (fun t row => add t row.1 row.2) t).get? key =
      Option.merge join (t.get? key) (seek key rows) := by
  induction rows generalizing t with
  | nil => cases h : t.get? key <;> simp [seek, h]
  | cons row rest ih =>
      obtain ⟨k, v⟩ := row
      obtain ⟨once, distinct⟩ := List.nodup_cons.mp distinct
      rw [List.foldl_cons, ih distinct, adds]
      by_cases here : k = key
      · subst here
        rw [(seek_eq_none_iff k rest).mpr once]
        cases h : t.get? k <;> simp [seek]
      · simp only [seek, if_neg here]

theorem AddsBy.get?_foldl (adds : AddsBy join add) (t u : Table κ ν) (key : κ) :
    (u.rows.foldl (fun t row => add t row.1 row.2) t).get? key =
      Option.merge join (t.get? key) (u.get? key) :=
  adds.seek_foldl u.keys_nodup t key

end TenantAccess.Table
