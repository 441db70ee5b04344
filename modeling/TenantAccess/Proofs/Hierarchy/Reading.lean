import TenantAccess.Hierarchy.Resolution
import TenantAccess.Proofs.Place

/-! # One walk, two readings

Rows can be asked for vetted rules or for what was written. Where every rule of the one kind
stands for a rule of the other and denials stand for denials, the same rows speak and the walk
takes the same steps.
-/

namespace TenantAccess

variable {ρ σ : Type}

def Governing.map (f : ρ → σ) (g : Governing ρ) : Governing σ := ⟨g.row, f g.rule, g.inherited⟩

def HigherDenial.map (f : ρ → σ) (d : HigherDenial ρ) : HigherDenial σ := ⟨d.rank, d.row, f d.rule⟩

def Resolution.map (f : ρ → σ) (r : Resolution ρ) : Resolution σ := ⟨r.override.map f, r.steps⟩

/-- On some rows the rules of a reading stand for those of another. -/
structure Reading.Stands (f : ρ → σ) (plain : Reading ρ) (raw : Reading σ) (rows : List Row) :
    Prop where
  rule? : ∀ row ∈ rows, raw.rule? row = (plain.rule? row).map f
  isDeny : ∀ rule, raw.isDeny (f rule) = plain.isDeny rule

namespace Snapshot

variable {f : ρ → σ} {plain : Reading ρ} {raw : Reading σ} {s : Snapshot} {roles : RoleTable}
  {role : String}

theorem higherDenial?_map {rows : List Row} (stands : plain.Stands f raw rows) (roleLevel : Int)
    {row : Row} (member : row ∈ rows) :
    higherDenial? roles role roleLevel raw row =
      (higherDenial? roles role roleLevel plain row).map (HigherDenial.map f) := by
  unfold higherDenial?
  cases higherRank? roles role roleLevel row with
  | none => rfl
  | some rank =>
      simp only [stands.rule? row member]
      cases plain.rule? row with
      | none => rfl
      | some rule =>
          simp only [Option.map_some, stands.isDeny]
          cases plain.isDeny rule <;> rfl

theorem nearer_map (best next : Option (HigherDenial ρ)) :
    nearer (best.map (HigherDenial.map f)) (next.map (HigherDenial.map f)) =
      (nearer best next).map (HigherDenial.map f) := by
  cases best with
  | none => rfl
  | some b =>
      cases next with
      | none => rfl
      | some n =>
          simp only [nearer, Option.map_some, HigherDenial.map]
          split <;> rfl

theorem nearestDenial_map (roleLevel : Int) {rows : List Row}
    (stands : plain.Stands f raw rows) :
    nearestDenial roles role roleLevel raw rows =
      (nearestDenial roles role roleLevel plain rows).map (HigherDenial.map f) := by
  have go (rest : List Row) (within : ∀ row ∈ rest, row ∈ rows) (best : Option (HigherDenial ρ)) :
      rest.foldl (fun best row => nearer best (higherDenial? roles role roleLevel raw row))
          (best.map (HigherDenial.map f)) =
        (rest.foldl (fun best row => nearer best (higherDenial? roles role roleLevel plain row))
          best).map (HigherDenial.map f) := by
    induction rest generalizing best with
    | nil => rfl
    | cons row rest ih =>
        have member := within row List.mem_cons_self
        rw [List.foldl_cons, List.foldl_cons, higherDenial?_map stands roleLevel member, nearer_map]
        exact ih (fun row later => within row (List.mem_cons_of_mem _ later)) _
  exact go rows (fun _ member => member) none

theorem mem_values_of_row? {kind : EntityKind} {entityId : String} {row : Row}
    (found : s.row? kind entityId role = some row) : row ∈ s.rows.values :=
  List.mem_map_of_mem (Table.mem_rows_of_get? found)

theorem mem_values_of_rowsAt {kind : EntityKind} {entityId : String} {row : Row}
    (found : row ∈ s.rowsAt kind entityId) : row ∈ s.rows.values :=
  (List.filter_sublist.map Prod.snd).subset found

theorem ownRule?_map (stands : plain.Stands f raw s.rows.values) (level : Level) :
    s.ownRule? level role raw = (s.ownRule? level role plain).map (Governing.map f) := by
  unfold ownRule?
  cases found : s.row? level.kind level.entityId role with
  | none => rfl
  | some row =>
      simp only [Option.bind_some, stands.rule? row (mem_values_of_row? found)]
      cases plain.rule? row <;> rfl

/-- The same row speaks, with the rule that stands for the other's. -/
theorem governing?_map (stands : plain.Stands f raw s.rows.values) (level : Level) :
    s.governing? roles role raw level =
      (s.governing? roles role plain level).map (Governing.map f) := by
  simp only [governing?, ownRule?_map stands level]
  cases s.ownRule? level role plain with
  | some g => rfl
  | none =>
      cases RoleTable.levelOf? roles role with
      | none => rfl
      | some roleLevel =>
          have here : plain.Stands f raw (s.rowsAt level.kind level.entityId) :=
            ⟨fun row found => stands.rule? row (mem_values_of_rowsAt found), stands.isDeny⟩
          simp only [Option.map_none, nearestDenial_map roleLevel here, Option.map_map]
          rfl

end Snapshot

namespace Resolution

theorem walk_map {f : ρ → σ} {plain : Level → Option (Governing ρ)}
    {raw : Level → Option (Governing σ)} (same : ∀ level, raw level = (plain level).map (.map f))
    (locked : Bool) (effective : Option ρ) (levels : List Level) :
    walk raw locked (effective.map f) levels = (walk plain locked effective levels).map f := by
  induction levels generalizing locked effective with
  | nil => rfl
  | cons level inner ih =>
      simp only [walk, same level]
      cases plain level with
      | none => simp only [Option.map_none, ih, map]
      | some g =>
          simp only [Option.map_some, Governing.map]
          cases locked with
          | true => simp only [if_true, ih, map]
          | false => simp only [Bool.false_eq_true, if_false, ← Option.map_some, ih, map]

end Resolution

end TenantAccess
