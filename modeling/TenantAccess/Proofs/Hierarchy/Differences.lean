import TenantAccess.Proofs.Hierarchy.Levels
import TenantAccess.Proofs.Hierarchy.Reference

/-! # Rows without a say

Two snapshots may list different rows and still be governed alike. At a level it is enough that the
rows that one of them has and the other has not are mute there, whatever their number and their
places among the others; and of the levels it is enough to compare those down to the first that is
closed, since nothing below it is listened to.
-/

namespace TenantAccess

/-- Two lists differ in items of a kind alone: these are put in or taken out anywhere, and what both
lists have stands in the same order. -/
inductive DifferIn {α : Type} (kind : α → Prop) : List α → List α → Prop where
  | nil : DifferIn kind [] []
  | both {a : α} {as bs : List α} (rest : DifferIn kind as bs) : DifferIn kind (a :: as) (a :: bs)
  | first {a : α} {as bs : List α} (only : kind a) (rest : DifferIn kind as bs) :
      DifferIn kind (a :: as) bs
  | second {b : α} {as bs : List α} (only : kind b) (rest : DifferIn kind as bs) :
      DifferIn kind as (b :: bs)

namespace DifferIn

variable {α β : Type} {kind kind' : α → Prop} {as bs : List α}

theorem imp (weaker : ∀ a, kind a → kind' a) (h : DifferIn kind as bs) : DifferIn kind' as bs := by
  induction h with
  | nil => exact .nil
  | both _ ih => exact .both ih
  | first only _ ih => exact .first (weaker _ only) ih
  | second only _ ih => exact .second (weaker _ only) ih

theorem symm (h : DifferIn kind as bs) : DifferIn kind bs as := by
  induction h with
  | nil => exact .nil
  | both _ ih => exact .both ih
  | first only _ ih => exact .second only ih
  | second only _ ih => exact .first only ih

/-- Whoever takes nothing from items of the kind takes the same from both lists. -/
theorem filterMap_eq {f : α → Option β} (mute : ∀ a, kind a → f a = none)
    (h : DifferIn kind as bs) : as.filterMap f = bs.filterMap f := by
  induction h with
  | nil => rfl
  | both _ ih => rw [List.filterMap_cons, List.filterMap_cons, ih]
  | first only _ ih => rw [List.filterMap_cons_none (mute _ only), ih]
  | second only _ ih => rw [List.filterMap_cons_none (mute _ only), ih]

theorem mem_of_mem {a : α} (h : DifferIn kind as bs) (member : a ∈ as) (other : ¬ kind a) :
    a ∈ bs := by
  induction h with
  | nil => cases member
  | both _ ih =>
      rcases List.mem_cons.mp member with rfl | member
      · exact List.mem_cons_self
      · exact List.mem_cons_of_mem _ (ih member)
  | first only _ ih =>
      rcases List.mem_cons.mp member with rfl | member
      · exact absurd only other
      · exact ih member
  | second _ _ ih => exact List.mem_cons_of_mem _ (ih member)

/-- What a test leaves out of a table differs from the table in what does not pass it. -/
theorem values_filter {κ ν : Type} [DecidableEq κ] {kind : ν → Prop} (t : Table κ ν)
    (keep : κ → ν → Bool)
    (out : ∀ key value, t.get? key = some value → keep key value = false → kind value) :
    DifferIn kind t.values (t.filter keep).values := by
  have go (rows : List (κ × ν)) (out : ∀ row ∈ rows, keep row.1 row.2 = false → kind row.2) :
      DifferIn kind (rows.map Prod.snd)
        ((rows.filter fun row => keep row.1 row.2).map Prod.snd) := by
    induction rows with
    | nil => exact .nil
    | cons row rest ih =>
        have later := ih fun other member => out other (List.mem_cons_of_mem row member)
        cases kept : keep row.1 row.2 with
        | false =>
            rw [List.filter_cons_of_neg (by simp [kept])]
            exact .first (out row List.mem_cons_self kept) later
        | true =>
            rw [List.filter_cons_of_pos (by simp [kept])]
            exact .both later
  exact go t.rows fun row member => out row.1 row.2 (Table.get?_of_mem_rows member)

end DifferIn

namespace Snapshot

variable {ρ : Type} {s s' : Snapshot} {roles : RoleTable} {role : String} {reading : Reading ρ}
  {level : Level}

/-- A row has no say at a level: it stands elsewhere, or it has no rule for its own role and no
denial that binds the role from above. -/
def MuteAt (roles : RoleTable) (role : String) (reading : Reading ρ) (level : Level) (row : Row) :
    Prop :=
  row.standsAt level = true →
    (row.role = role → reading.rule? row = none) ∧
      ∀ roleLevel, RoleTable.levelOf? roles role = some roleLevel →
        higherDenial? roles role roleLevel reading row = none

theorem ownRule?_eq_some_iff (filed : ∀ key row, s.rows.get? key = some row → row.key = key)
    {g : Governing ρ} :
    s.ownRule? level role reading = some g ↔
      g.row ∈ s.rows.values ∧ g.row.key = ⟨level.kind, level.entityId, role⟩ ∧
        reading.rule? g.row = some g.rule ∧ g.inherited = false := by
  constructor
  · intro spoken
    obtain ⟨row, held, rest⟩ := Option.bind_eq_some_iff.mp spoken
    obtain ⟨rule, holds, rfl⟩ := Option.map_eq_some_iff.mp rest
    exact ⟨Table.mem_values_iff.mpr ⟨_, held⟩, filed _ row held, holds, rfl⟩
  · obtain ⟨row, rule, inherited⟩ := g
    rintro ⟨member, named, holds, rfl⟩
    obtain ⟨key, held⟩ := Table.mem_values_iff.mp member
    have own : s.row? level.kind level.entityId role = some row := by
      rw [row?, ← named, filed key row held]
      exact held
    simp only [ownRule?, own, Option.bind_some, holds, Option.map_some]

theorem standsAt_of_key {row : Row} (named : row.key = ⟨level.kind, level.entityId, role⟩) :
    row.standsAt level = true := by
  have kind := congrArg RowKey.kind named
  have entity := congrArg RowKey.entityId named
  simpa [Row.standsAt] using ⟨kind, entity⟩

/-- A rule of the role itself is not lost with rows that are mute. -/
theorem ownRule?_of_differ (filed : ∀ key row, s.rows.get? key = some row → row.key = key)
    (filed' : ∀ key row, s'.rows.get? key = some row → row.key = key)
    (differ : DifferIn (MuteAt roles role reading level) s.rows.values s'.rows.values)
    {g : Governing ρ} (spoken : s.ownRule? level role reading = some g) :
    s'.ownRule? level role reading = some g := by
  obtain ⟨member, named, holds, own⟩ := (ownRule?_eq_some_iff filed).mp spoken
  refine (ownRule?_eq_some_iff filed').mpr ⟨differ.mem_of_mem member fun mute => ?_, named, holds, own⟩
  have silent := (mute (standsAt_of_key named)).1 (congrArg RowKey.role named)
  rw [silent] at holds
  cases holds

theorem denialsOf_differ (filed : ∀ key row, s.rows.get? key = some row → row.key = key)
    (filed' : ∀ key row, s'.rows.get? key = some row → row.key = key) {roleLevel : Int}
    (ranked : RoleTable.levelOf? roles role = some roleLevel)
    (differ : DifferIn (MuteAt roles role reading level) s.rows.values s'.rows.values) :
    denialsOf roles role roleLevel reading (s'.rowsAt level.kind level.entityId) =
      denialsOf roles role roleLevel reading (s.rowsAt level.kind level.entityId) := by
  rw [rowsAt_eq_scan filed, rowsAt_eq_scan filed', denialsOf, denialsOf, scan, scan,
    List.filterMap_filter, List.filterMap_filter]
  refine (differ.filterMap_eq fun row mute => ?_).symm
  split
  · next here => exact (mute here).2 roleLevel ranked
  · rfl

/-- A level is governed alike where two snapshots differ in rows that are mute there. -/
theorem governing?_of_differ (filed : ∀ key row, s.rows.get? key = some row → row.key = key)
    (filed' : ∀ key row, s'.rows.get? key = some row → row.key = key)
    (differ : DifferIn (MuteAt roles role reading level) s.rows.values s'.rows.values) :
    s'.governing? roles role reading level = s.governing? roles role reading level := by
  have own : s'.ownRule? level role reading = s.ownRule? level role reading := by
    refine Option.ext fun g => ⟨fun spoken => ?_, fun spoken => ?_⟩
    · exact ownRule?_of_differ filed' filed differ.symm spoken
    · exact ownRule?_of_differ filed filed' differ spoken
  cases spoken : s.ownRule? level role reading with
  | some g => simp only [governing?, own, spoken]
  | none =>
      rw [governing?_of_unspoken roles spoken, governing?_of_unspoken roles (own.trans spoken)]
      cases ranked : RoleTable.levelOf? roles role with
      | none => rfl
      | some roleLevel =>
          rw [Option.bind_some, Option.bind_some]
          have denials := denialsOf_differ filed filed' ranked differ
          have same : nearestDenial roles role roleLevel reading
              (s'.rowsAt level.kind level.entityId) =
                nearestDenial roles role roleLevel reading
                  (s.rowsAt level.kind level.entityId) := by
            refine Option.ext fun d => ?_
            rw [nearestDenial_eq_some_iff, nearestDenial_eq_some_iff, denials]
          rw [same]

end Snapshot

namespace Resolution

variable {ρ : Type} {governing? governing?' : Level → Option (Governing ρ)}

/-- Two walks come to the same if their speakers agree down to the first closed level. -/
theorem override_of_heard {levels : List Level}
    (same : ∀ outer level inner, levels = outer ++ level :: inner →
      (∀ above ∈ outer, closes governing? above = false ∧ closes governing?' above = false) →
      governing?' level = governing? level) (effective : Option ρ) :
    (walk governing?' false effective levels).override =
      (walk governing? false effective levels).override := by
  induction levels generalizing effective with
  | nil => rfl
  | cons level inner ih =>
      have here : governing?' level = governing? level := same [] level inner rfl nofun
      have below (open_ : closes governing? level = false) (effective : Option ρ) :
          (walk governing?' false effective inner).override =
            (walk governing? false effective inner).override := by
        have open_' : closes governing?' level = false := by rw [closes, here]; exact open_
        refine ih (fun outer next rest split heard => ?_) effective
        refine same (level :: outer) next rest (by rw [split, List.cons_append]) ?_
        intro above member
        rcases List.mem_cons.mp member with rfl | member
        · exact ⟨open_, open_'⟩
        · exact heard above member
      cases speaks : governing? level with
      | none =>
          rw [walk_silent _ _ _ speaks, walk_silent _ _ _ (here.trans speaks)]
          exact below (by simp [closes, speaks]) effective
      | some g =>
          cases opened : g.row.allowsChildren with
          | false => rw [walk_closed _ _ speaks opened, walk_closed _ _ (here.trans speaks) opened]
          | true =>
              rw [walk_open _ _ speaks opened, walk_open _ _ (here.trans speaks) opened]
              exact below (by simp [closes, speaks, opened]) (some g.rule)

end Resolution

/-- Rows that stand at no level that a request passes through have no part in how it is resolved. -/
theorem Snapshot.resolve_of_differ {s s' : Snapshot} (organization : s'.organization = s.organization)
    (departments : s'.departments = s.departments) (teams : s'.teams = s.teams)
    (filed : ∀ key row, s.rows.get? key = some row → row.key = key)
    (filed' : ∀ key row, s'.rows.get? key = some row → row.key = key)
    (roles : RoleTable) (maxDepth : Int) (organizationId : String) (departmentId teamId : Option String)
    (role : String) (pair : Pair)
    (differ : DifferIn (fun row => ∀ levels,
        s.levels maxDepth organizationId departmentId teamId = .ok levels →
        ∀ level ∈ levels, row.standsAt level = false) s.rows.values s'.rows.values) :
    s'.resolve roles maxDepth organizationId departmentId teamId role pair =
      s.resolve roles maxDepth organizationId departmentId teamId role pair := by
  have levels : s'.levels maxDepth organizationId departmentId teamId =
      s.levels maxDepth organizationId departmentId teamId :=
    Snapshot.levels_congr organization (fun _ => by rw [departments]) (fun _ => by rw [teams]) ..
  rw [resolve, resolve, levels]
  cases way : s.levels maxDepth organizationId departmentId teamId with
  | error f => rfl
  | ok levels =>
      refine congrArg Except.ok (Resolution.walk_congr (fun level member => ?_) false none)
      refine Snapshot.governing?_of_differ filed filed' (differ.imp fun row aside here => ?_)
      rw [aside levels way level member] at here
      cases here

end TenantAccess
