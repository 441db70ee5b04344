import TenantAccess.Plan.Sheet
import TenantAccess.Proofs.Place
import TenantAccess.Proofs.Plan.Layers

/-! # Plans that pass the check

The check walks the rows of neighbouring tiers only. Since tables that hold one another do so across
tiers, it refuses exactly where some tier takes back or tightens what any lower one grants. Layered
plans never do, so they are never refused; plans made by hand are refused by a pair that is lost.
-/

namespace TenantAccess

/-- One of three things, by tier. -/
def Tier.choose {α : Type} (free pro enterprise : α) : Tier → α
  | .free => free
  | .pro => pro
  | .enterprise => enterprise

namespace QuotaTable

variable {κ : Type} [DecidableEq κ] {lower higher : Table κ (Option Quota)} {key : κ}

/-- What one table grants the other does not grant, or not as loosely. -/
def Loses (higher lower : Table κ (Option Quota)) (key : κ) : Prop :=
  ∃ quota, lower.get? key = some quota ∧
    ∀ upper, higher.get? key = some upper → Quota.isAtLeastAsPermissive upper quota = false

theorem Loses.not_holds (lost : Loses higher lower key) : ¬ Holds higher lower := by
  intro holds
  obtain ⟨quota, granted, tighter⟩ := lost
  obtain ⟨upper, above, loose⟩ := holds key quota granted
  rw [tighter upper above] at loose
  cases loose

theorem rowHeld_iff {row : κ × Option Quota} :
    rowHeld higher row = true ↔
      ∃ upper, higher.get? row.1 = some upper ∧ Quota.isAtLeastAsPermissive upper row.2 = true := by
  unfold rowHeld
  cases higher.get? row.1 with
  | none => exact iff_of_false Bool.false_ne_true nofun
  | some upper =>
      constructor
      · intro loose
        exact ⟨upper, rfl, loose⟩
      · rintro ⟨_, ⟨⟩, loose⟩
        exact loose

theorem firstLoss?_eq_none_iff : firstLoss? lower higher = none ↔ Holds higher lower := by
  rw [firstLoss?, Option.map_eq_none_iff, List.find?_eq_none]
  simp only [Bool.not_eq_true', Bool.not_eq_false, rowHeld_iff]
  constructor
  · intro kept key quota granted
    exact kept (key, quota) (Table.mem_rows_of_get? granted)
  · intro holds row member
    exact holds row.1 row.2 (Table.get?_of_mem_rows member)

theorem loses_of_firstLoss? (found : firstLoss? lower higher = some key) :
    Loses higher lower key := by
  obtain ⟨row, first, rfl⟩ := Option.map_eq_some_iff.mp found
  refine ⟨row.2, Table.get?_of_mem_rows (List.mem_of_find?_eq_some first), fun upper above => ?_⟩
  have dropped : ¬ rowHeld higher row = true := by simpa using List.find?_some first
  rw [rowHeld_iff] at dropped
  exact Bool.eq_false_iff.mpr fun loose => dropped ⟨upper, above, loose⟩

theorem not_holds_iff : ¬ Holds higher lower ↔ ∃ key, Loses higher lower key := by
  constructor
  · intro dropped
    rw [← firstLoss?_eq_none_iff] at dropped
    obtain ⟨key, found⟩ := Option.ne_none_iff_exists'.mp dropped
    exact ⟨key, loses_of_firstLoss? found⟩
  · rintro ⟨key, lost⟩
    exact lost.not_holds

/-- Where two of three tables lose something, two neighbours do. -/
theorem not_held_iff (tables : Tier → Table κ (Option Quota)) :
    ¬ (Holds (tables .pro) (tables .free) ∧ Holds (tables .enterprise) (tables .pro)) ↔
      ∃ lower higher key, Tier.isAtLeast higher lower = true ∧
        Loses (tables higher) (tables lower) key := by
  constructor
  · intro dropped
    rcases not_and_or.mp dropped with lost | lost
    · obtain ⟨key, loses⟩ := not_holds_iff.mp lost
      exact ⟨.free, .pro, key, rfl, loses⟩
    · obtain ⟨key, loses⟩ := not_holds_iff.mp lost
      exact ⟨.pro, .enterprise, key, rfl, loses⟩
  · -- If neighbours held one another so would all tiers, `lower` and `higher` among them.
    rintro ⟨lower, higher, key, up, loses⟩ ⟨pro, enterprise⟩
    exact loses.not_holds (holds_of_neighbours pro enterprise up)

end QuotaTable

namespace QuotaSheet

/-- A key that is lost has a row that brings it. -/
theorem lossIn?_eq_none_iff (lowerTier higherTier : Tier) (lower higher : QuotaSheet) :
    lossIn? lowerTier higherTier lower higher = none ↔
      QuotaTable.firstLoss? lower.byKey higher.byKey = none := by
  rw [lossIn?, Option.map_eq_none_iff]
  cases found : QuotaTable.firstLoss? lower.byKey higher.byKey with
  | none => exact iff_of_true rfl rfl
  | some key =>
      obtain ⟨quota, granted, -⟩ := QuotaTable.loses_of_firstLoss? found
      obtain ⟨row, member, brings⟩ := List.mem_map.mp (Table.mem_of_get?_ofList granted)
      apply iff_of_false
      · rw [Option.bind_some, first?, List.find?_eq_none]
        intro absent
        exact absent row member (beq_iff_eq.mpr (congrArg Prod.fst brings))
      · nofun

end QuotaSheet

namespace Entitlements

open QuotaTable

variable {e : Entitlements}

/-- The fault names neighbours and a pair that the higher one loses. -/
theorem loses_of_verify {f : Fault} (refused : e.verify = .error f) :
    ∃ lower higher pair, f = .tierNotMonotone higher lower pair ∧
      Tier.isAtLeast higher lower = true ∧ Loses (e.table higher) (e.table lower) pair := by
  unfold verify at refused
  cases first : firstLoss? e.free e.pro with
  | some pair =>
      rw [first] at refused
      cases refused
      exact ⟨.free, .pro, pair, rfl, rfl, loses_of_firstLoss? first⟩
  | none =>
      rw [first] at refused
      cases second : firstLoss? e.pro e.enterprise with
      | some pair =>
          rw [second] at refused
          cases refused
          exact ⟨.pro, .enterprise, pair, rfl, rfl, loses_of_firstLoss? second⟩
      | none =>
          rw [second] at refused
          cases refused

theorem verify_refused_iff :
    (∃ f, e.verify = .error f) ↔ ¬ (Holds e.pro e.free ∧ Holds e.enterprise e.pro) := by
  rw [← firstLoss?_eq_none_iff, ← firstLoss?_eq_none_iff, verify]
  cases firstLoss? e.free e.pro with
  | some pair => simp
  | none => cases firstLoss? e.pro e.enterprise <;> simp

theorem verify_of_rising (h : e.Rising) : e.verify = .ok () := by
  cases checked : e.verify with
  | ok => rfl
  | error f => exact absurd ⟨h.pro, h.enterprise⟩ (verify_refused_iff.mp ⟨f, checked⟩)

theorem make_value (free proAdditions enterpriseAdditions : QuotaTable) :
    (make free proAdditions enterpriseAdditions).value =
      .ok (layered free proAdditions enterpriseAdditions) := by
  simp only [make, verified, verify_of_rising (rising_layered free proAdditions enterpriseAdditions),
    Logged.map, Except.map]

theorem value_ofSheets (free proAdditions enterpriseAdditions : QuotaSheet) :
    (∃ m, (ofSheets free proAdditions enterpriseAdditions).value = .error (.misuse m)) ∨
      (ofSheets free proAdditions enterpriseAdditions).value =
        .ok (layered free.byPair proAdditions.byPair enterpriseAdditions.byPair) := by
  unfold ofSheets
  cases QuotaSheet.check (free ++ proAdditions ++ enterpriseAdditions) with
  | error m => exact .inl ⟨m, rfl⟩
  | ok => exact .inr (congrArg Failure.ofFault (make_value ..))

theorem verifySheets_refused_iff {free pro enterprise : QuotaSheet} :
    (∃ failure, (verifySheets free pro enterprise).value = .error failure) ↔
      ¬ (Holds pro.byKey free.byKey ∧ Holds enterprise.byKey pro.byKey) := by
  rw [← firstLoss?_eq_none_iff, ← firstLoss?_eq_none_iff,
    ← QuotaSheet.lossIn?_eq_none_iff .free .pro free pro,
    ← QuotaSheet.lossIn?_eq_none_iff .pro .enterprise pro enterprise, verifySheets]
  cases QuotaSheet.lossIn? .free .pro free pro with
  | some failure => simp [Logged.quiet]
  | none => cases QuotaSheet.lossIn? .pro .enterprise pro enterprise <;> simp [Logged.quiet]

/-- Layered plans are never refused, and a higher tier grants whatever a lower one does, as loosely at
least. Plans made by hand are refused exactly where some tier loses what a tier below it grants, and
the fault names such a loss; so are sheets, under whatever keys. -/
theorem refused_iff_lost :
    (∀ free proAdditions enterpriseAdditions : QuotaTable,
      let e := layered free proAdditions enterpriseAdditions
      (make free proAdditions enterpriseAdditions).value = .ok e ∧
      ∀ lower higher pair p, Tier.isAtLeast higher lower = true → e.privilege? lower pair = some p →
        ∃ p', e.privilege? higher pair = some p' ∧
          Quota.isAtLeastAsPermissive p'.quota p.quota = true) ∧
    (∀ free proAdditions enterpriseAdditions : QuotaSheet,
      let made := (ofSheets free proAdditions enterpriseAdditions).value
      (∃ m, made = .error (.misuse m)) ∨
        made = .ok (layered free.byPair proAdditions.byPair enterpriseAdditions.byPair)) ∧
    (∀ e : Entitlements,
      ((∃ f, e.verify = .error f) ↔ ∃ lower higher pair, Tier.isAtLeast higher lower = true ∧
        Loses (e.table higher) (e.table lower) pair) ∧
      ∀ f, e.verify = .error f → ∃ lower higher pair, f = .tierNotMonotone higher lower pair ∧
        Tier.isAtLeast higher lower = true ∧ Loses (e.table higher) (e.table lower) pair) ∧
    ∀ free pro enterprise : QuotaSheet,
      let sheet := Tier.choose free pro enterprise
      (∃ failure, (verifySheets free pro enterprise).value = .error failure) ↔
        ∃ lower higher key, Tier.isAtLeast higher lower = true ∧
          Loses (sheet higher).byKey (sheet lower).byKey key := by
  refine ⟨?_, value_ofSheets, ?_, ?_⟩
  · intro free proAdditions enterpriseAdditions e
    have rising : e.Rising := rising_layered ..
    refine ⟨make_value free proAdditions enterpriseAdditions, ?_⟩
    intro lower higher pair p up granted
    exact rising.privilege? up granted
  · intro e
    refine ⟨verify_refused_iff.trans (not_held_iff e.table), ?_⟩
    intro f refused
    exact loses_of_verify refused
  · intro free pro enterprise sheet
    exact verifySheets_refused_iff.trans (not_held_iff fun tier => (sheet tier).byKey)

/-- A tighter addition narrows nothing, and a paid plan without what the free one lists loses it. -/
theorem refused_iff_lost_listing :
    let listing : Pair := ⟨.task, .list⟩
    let quota : Option Quota := some ⟨some 100, some 10, .empty⟩
    let free : QuotaTable := .ofList [(listing, quota)]
    let tighter : QuotaTable := .ofList [(listing, some ⟨some 5, some 1, .empty⟩)]
    let broken : Entitlements := ⟨free, .empty, .empty⟩
    (∃ p, (layered free tighter .empty).privilege? .enterprise listing = some p ∧
      Quota.isAtLeastAsPermissive p.quota quota = true) ∧
    broken.verify = .error (.tierNotMonotone .pro .free listing) ∧
    ∃ lower higher pair, Tier.isAtLeast higher lower = true ∧
      Loses (broken.table higher) (broken.table lower) pair := by
  intro listing quota free tighter broken
  obtain ⟨layers, -, made, -⟩ := refused_iff_lost
  have kept := (layers free tighter .empty).2 .free .enterprise listing _ rfl rfl
  exact ⟨kept, rfl, (made broken).1.mp ⟨_, rfl⟩⟩

end Entitlements

end TenantAccess
