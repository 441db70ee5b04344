import Mathlib.Data.List.Nodup
import TenantAccess.Proofs.Hierarchy.Levels
import TenantAccess.Proofs.Hierarchy.Nearest
import TenantAccess.Proofs.Hierarchy.Walk
import TenantAccess.Proofs.Place

/-! # The order of rows

Snapshots that are equal as mappings may list their rows in different orders. At a level where
several higher roles of the same rank deny, the first of them in that order speaks. Any of them may
be the first: what can speak at a level in some order of the rows is `MaySpeak`, and for every
choice among these, one per level, there is an order in which the chosen ones speak.
-/

namespace TenantAccess

/-- What a row says of a pair to the walks. -/
def Row.gist (pair : Pair) (row : Row) : String × Bool × Option Override :=
  (row.role, row.allowsChildren, row.ruleFor pair)

/-- Equal rows have the same gist. -/
theorem Row.gist_of_alike {a b : Row} (alike : a.alike b = true) (pair : Pair) :
    a.gist pair = b.gist pair := by
  simp only [Row.alike, Bool.and_eq_true, beq_iff_eq] at alike
  obtain ⟨⟨⟨⟨key, -⟩, -⟩, opened⟩, rules⟩ := alike
  have role : a.role = b.role := congrArg RowKey.role key
  have rule : a.ruleFor pair = b.ruleFor pair := by
    have same := Table.map_get?_of_sameContents rules (fun o => o)
      (fun o other equal => by simpa using equal) pair
    simpa [ruleFor] using same.symm
  rw [gist, gist, role, opened, rule]

/-- No two roles share a rank. -/
def RoleTable.RanksApart (roles : RoleTable) : Prop := (roles.values.map (·.level)).Nodup

theorem RoleTable.RanksApart.eq {roles : RoleTable} (apart : roles.RanksApart) {a b : String}
    {rank : Int} (ha : RoleTable.levelOf? roles a = some rank)
    (hb : RoleTable.levelOf? roles b = some rank) : a = b := by
  obtain ⟨first, held, rfl⟩ := Option.map_eq_some_iff.mp ha
  obtain ⟨second, held', same⟩ := Option.map_eq_some_iff.mp hb
  have distinct : (roles.rows.map fun row => row.2.level).Nodup := by
    simpa [RanksApart, Table.values, List.map_map, Function.comp_def] using apart
  have rows := List.inj_on_of_nodup_map distinct (Table.mem_rows_of_get? held)
    (Table.mem_rows_of_get? held') same.symm
  exact congrArg Prod.fst rows

namespace Snapshot

variable {ρ : Type} {s s' : Snapshot} {roles : RoleTable} {role : String} {reading : Reading ρ}
  {pair : Pair} {level : Level}

/-- Who may speak at a level in some order of the rows: the role's own rule if there is one, else any
denial of the lowest rank above the role's, else nobody. -/
inductive MaySpeak (s : Snapshot) (roles : RoleTable) (role : String) (reading : Reading ρ)
    (level : Level) : Option (Governing ρ) → Prop where
  | own {g : Governing ρ} (spoken : s.ownRule? level role reading = some g) :
      MaySpeak s roles role reading level (some g)
  | inherited {roleLevel : Int} {d : HigherDenial ρ}
      (silent : s.ownRule? level role reading = none)
      (ranked : RoleTable.levelOf? roles role = some roleLevel)
      (denies : d ∈ denialsOf roles role roleLevel reading (s.rowsAt level.kind level.entityId))
      (least : ∀ x ∈ denialsOf roles role roleLevel reading (s.rowsAt level.kind level.entityId),
        d.rank ≤ x.rank) :
      MaySpeak s roles role reading level (some ⟨d.row, d.rule, true⟩)
  | nobody (silent : s.ownRule? level role reading = none)
      (mute : ∀ roleLevel, RoleTable.levelOf? roles role = some roleLevel →
        denialsOf roles role roleLevel reading (s.rowsAt level.kind level.entityId) = []) :
      MaySpeak s roles role reading level none

/-- A choice of who speaks at each level. -/
def Selects (s : Snapshot) (roles : RoleTable) (role : String) (reading : Reading ρ)
    (pick : Level → Option (Governing ρ)) : Prop :=
  ∀ level, s.MaySpeak roles role reading level (pick level)

theorem mem_rowsAt_iff {kind : EntityKind} {entityId : String} {row : Row} :
    row ∈ s.rowsAt kind entityId ↔
      ∃ key, s.rows.get? key = some row ∧ key.kind = kind ∧ key.entityId = entityId := by
  constructor
  · intro member
    obtain ⟨⟨key, row⟩, inside, rfl⟩ := List.mem_map.mp member
    obtain ⟨there, here⟩ := List.mem_filter.mp inside
    exact ⟨key, Table.get?_of_mem_rows there, by simpa using here⟩
  · rintro ⟨key, held, rfl, rfl⟩
    refine List.mem_map.mpr ⟨(key, row), List.mem_filter.mpr ⟨Table.mem_rows_of_get? held, ?_⟩, rfl⟩
    simp

/-- A role has one row at a level. -/
theorem row_unique (filed : ∀ key row, s.rows.get? key = some row → row.key = key) {row row' : Row}
    (inside : row ∈ s.rowsAt level.kind level.entityId)
    (inside' : row' ∈ s.rowsAt level.kind level.entityId) (same : row.role = row'.role) :
    row = row' := by
  obtain ⟨key, held, kind, entity⟩ := mem_rowsAt_iff.mp inside
  obtain ⟨key', held', kind', entity'⟩ := mem_rowsAt_iff.mp inside'
  have named := filed key row held
  have named' := filed key' row' held'
  subst named named'
  have keys : row.key = row'.key :=
    (RowKey.mk.injEq ..).mpr ⟨kind.trans kind'.symm, entity.trans entity'.symm, same⟩
  rw [keys, held'] at held
  exact (Option.some.inj held).symm

theorem mem_denialsOf_iff {roleLevel : Int} {rows : List Row} {d : HigherDenial ρ} :
    d ∈ denialsOf roles role roleLevel reading rows ↔
      d.row ∈ rows ∧ higherDenial? roles role roleLevel reading d.row = some d := by
  constructor
  · intro member
    obtain ⟨row, inside, denial⟩ := List.mem_filterMap.mp member
    obtain ⟨-, -, -, -, -, same⟩ := (higherDenial?_eq_some_iff ..).mp denial
    subst same
    exact ⟨inside, denial⟩
  · rintro ⟨inside, denial⟩
    exact List.mem_filterMap.mpr ⟨d.row, inside, denial⟩

/-! ## Equal snapshots -/

theorem gist_of_alike (alike : s.alike s' = true) (pair : Pair) (key : RowKey) :
    (s'.rows.get? key).map (Row.gist pair) = (s.rows.get? key).map (Row.gist pair) := by
  simp only [Snapshot.alike, Bool.and_eq_true] at alike
  exact Table.map_get?_of_sameContents alike.2 _
    (fun a b equal => Row.gist_of_alike equal pair) key

theorem levels_of_alike (alike : s.alike s' = true) (maxDepth : Int) (organizationId : String)
    (departmentId teamId : Option String) :
    s'.levels maxDepth organizationId departmentId teamId =
      s.levels maxDepth organizationId departmentId teamId := by
  simp only [Snapshot.alike, Bool.and_eq_true, beq_iff_eq] at alike
  obtain ⟨⟨⟨organization, departments⟩, teams⟩, -⟩ := alike
  refine levels_congr organization.symm (fun id => ?_) (fun id => ?_) maxDepth organizationId
    departmentId teamId
  · refine Table.map_get?_of_sameContents departments _ (fun d d' equal => ?_) id
    simp only [Department.alike, Bool.and_eq_true, beq_iff_eq] at equal
    obtain ⟨⟨⟨⟨own, owner⟩, parent⟩, -⟩, -⟩ := equal
    rw [Department.frame, Department.frame, own, owner, parent]
  · have same := Table.map_get?_of_sameContents teams (fun team => team)
      (fun team other equal => by simpa using equal) id
    simpa using same

section

variable (same : ∀ key, (s'.rows.get? key).map (Row.gist pair) =
  (s.rows.get? key).map (Row.gist pair))
include same

theorem ownRule?_of_same (level : Level) (role : String) :
    (s'.ownRule? level role (.ofPair pair)).map Governing.word =
      (s.ownRule? level role (.ofPair pair)).map Governing.word := by
  have read (s : Snapshot) : (s.ownRule? level role (.ofPair pair)).map Governing.word =
      ((s.rows.get? ⟨level.kind, level.entityId, role⟩).map (Row.gist pair)).bind fun gist =>
        gist.2.2.map fun rule => (rule, gist.2.1) := by
    unfold ownRule? row?
    cases s.rows.get? ⟨level.kind, level.entityId, role⟩ with
    | none => rfl
    | some row =>
        simp only [Option.bind_some, Option.map_map, Option.map_some]
        rfl
  rw [read, read, same]

/-- A denial in one of two equal snapshots is in the other too. -/
theorem denial_of_same {roleLevel : Int} {d : HigherDenial Override}
    (denies : d ∈ denialsOf roles role roleLevel (.ofPair pair)
      (s'.rowsAt level.kind level.entityId)) :
    ∃ other ∈ denialsOf roles role roleLevel (.ofPair pair) (s.rowsAt level.kind level.entityId),
      other.rank = d.rank ∧ other.rule = d.rule ∧
        other.row.allowsChildren = d.row.allowsChildren := by
  obtain ⟨inside, denial⟩ := mem_denialsOf_iff.mp denies
  obtain ⟨key, held, kind, entity⟩ := mem_rowsAt_iff.mp inside
  have gist := same key
  rw [held, Option.map_some] at gist
  obtain ⟨row, found, alike⟩ := Option.map_eq_some_iff.mp gist.symm
  obtain ⟨speaker, opened, rule⟩ : row.role = d.row.role ∧
      row.allowsChildren = d.row.allowsChildren ∧ row.ruleFor pair = d.row.ruleFor pair := by
    simpa [Row.gist] using alike
  obtain ⟨higher, ranked, above, holds, isDeny, -⟩ := (higherDenial?_eq_some_iff ..).mp denial
  refine ⟨⟨d.rank, row, d.rule⟩, mem_denialsOf_iff.mpr ⟨?_, ?_⟩, rfl, rfl, opened⟩
  · exact mem_rowsAt_iff.mpr ⟨key, found, kind, entity⟩
  · refine (higherDenial?_eq_some_iff ..).mpr ⟨?_, ?_, above, ?_, isDeny, rfl⟩
    · rwa [speaker]
    · rwa [speaker]
    · exact rule.trans holds

/-- Whoever speaks in one of two equal snapshots may have an equal word in the other. -/
theorem maySpeak_of_same (roles : RoleTable) (role : String) (level : Level) :
    ∃ g, s.MaySpeak roles role (.ofPair pair) level g ∧
      g.map Governing.word =
        (s'.governing? roles role (.ofPair pair) level).map Governing.word := by
  have own := ownRule?_of_same same level role
  cases spoken' : s'.ownRule? level role (.ofPair pair) with
  | some g' =>
      rw [spoken', Option.map_some] at own
      obtain ⟨g, spoken, word⟩ := Option.map_eq_some_iff.mp own.symm
      refine ⟨some g, .own spoken, ?_⟩
      simp only [governing?, spoken', Option.map_some, word]
  | none =>
      rw [spoken', Option.map_none] at own
      have silent : s.ownRule? level role (.ofPair pair) = none :=
        Option.map_eq_none_iff.mp own.symm
      have back : ∀ key, (s.rows.get? key).map (Row.gist pair) =
          (s'.rows.get? key).map (Row.gist pair) := fun key => (same key).symm
      rw [governing?_of_unspoken roles spoken']
      cases ranked : RoleTable.levelOf? roles role with
      | none => exact ⟨none, .nobody silent (by simp [ranked]), rfl⟩
      | some roleLevel =>
          rw [Option.bind_some]
          cases found : nearestDenial roles role roleLevel (.ofPair pair)
              (s'.rowsAt level.kind level.entityId) with
          | none =>
              have mute' := (nearestDenial_eq_none_iff ..).mp found
              have mute : denialsOf roles role roleLevel (.ofPair pair)
                  (s.rowsAt level.kind level.entityId) = [] := by
                refine List.eq_nil_iff_forall_not_mem.mpr fun d denies => ?_
                obtain ⟨other, denies', -⟩ := denial_of_same back denies
                rw [mute'] at denies'
                cases denies'
              refine ⟨none, .nobody silent fun other same => ?_, rfl⟩
              cases ranked.symm.trans same
              exact mute
          | some d' =>
              -- The ranks of the denials are the same in both, so the lowest in one is in the other.
              have nearest := (nearestDenial_eq_some_iff ..).mp found
              obtain ⟨d, denies, rank, rule, opened⟩ := denial_of_same same nearest.mem
              refine ⟨some ⟨d.row, d.rule, true⟩, .inherited silent ranked denies ?_, ?_⟩
              · intro x member
                obtain ⟨x', member', rank', -⟩ := denial_of_same back member
                rw [rank, ← rank']
                exact nearest.least x' member'
              · simp [Governing.word, rule, opened]

end

/-! ## Any choice is made by some order -/

/-- Whether a choice lets a row speak at its level. -/
def chosen (pick : Level → Option (Governing ρ)) (key : RowKey) (row : Row) : Bool :=
  (pick ⟨key.kind, key.entityId⟩).any fun g => g.row = row

/-- The rows of a snapshot with those in front that a choice lets speak. -/
def favouring (s : Snapshot) (pick : Level → Option (Governing ρ)) : Snapshot :=
  { s with rows := s.rows.bring (chosen pick) }

theorem alike_favouring (self : s.alike s = true) (pick : Level → Option (Governing ρ)) :
    s.alike (s.favouring pick) = true := by
  have rows : s.rows.sameContents Row.alike (s.rows.bring (chosen pick)) =
      s.rows.sameContents Row.alike s.rows :=
    Table.sameContents_of_perm (Table.rows_bring_perm _ _)
  rw [alike] at self ⊢
  simpa only [favouring, rows] using self

theorem rowsAt_favouring (s : Snapshot) (pick : Level → Option (Governing ρ)) (level : Level) :
    (s.favouring pick).rowsAt level.kind level.entityId =
      (s.rowsAt level.kind level.entityId).filter (fun row => (pick level).any (·.row = row)) ++
        (s.rowsAt level.kind level.entityId).filter
          fun row => !(pick level).any (·.row = row) := by
  let near (row : RowKey × Row) : Bool :=
    row.1.kind = level.kind && row.1.entityId = level.entityId
  have part (test : RowKey × Row → Bool) (keep : Row → Bool)
      (agree : ∀ row ∈ s.rows.rows.filter near, test row = keep row.2) :
      ((s.rows.rows.filter test).filter near).map Prod.snd =
        (s.rowsAt level.kind level.entityId).filter keep := by
    rw [List.filter_comm, List.filter_congr agree]
    exact List.filter_map.symm
  have here : ∀ row ∈ s.rows.rows.filter near,
      chosen pick row.1 row.2 = (pick level).any (·.row = row.2) := by
    rintro ⟨key, row⟩ member
    obtain ⟨-, inside⟩ := List.mem_filter.mp member
    obtain ⟨kind, entity⟩ : key.kind = level.kind ∧ key.entityId = level.entityId := by
      simpa [near] using inside
    rw [chosen, kind, entity]
  calc (s.favouring pick).rowsAt level.kind level.entityId
    _ = ((s.rows.rows.filter fun row => chosen pick row.1 row.2).filter near).map Prod.snd ++
        ((s.rows.rows.filter fun row => !chosen pick row.1 row.2).filter near).map Prod.snd := by
      rw [← List.map_append, ← List.filter_append]
      rfl
    _ = _ := by
      rw [part (fun row => chosen pick row.1 row.2) (fun row => (pick level).any (·.row = row)) here,
        part (fun row => !chosen pick row.1 row.2) (fun row => !(pick level).any (·.row = row))
          fun row member => congrArg not (here row member)]

theorem denialsOf_favouring (s : Snapshot) (roles : RoleTable) (role : String)
    (reading : Reading ρ) (pick : Level → Option (Governing ρ)) (level : Level) (roleLevel : Int) :
    (denialsOf roles role roleLevel reading
      ((s.favouring pick).rowsAt level.kind level.entityId)).Perm
        (denialsOf roles role roleLevel reading (s.rowsAt level.kind level.entityId)) := by
  rw [rowsAt_favouring]
  exact (List.filter_append_perm _ _).filterMap _

/-- A chosen denial is the first of the lowest rank where the rows of the choice come first. -/
theorem nearest_favouring {pick : Level → Option (Governing ρ)} {roleLevel : Int}
    {d : HigherDenial ρ} (picked : pick level = some ⟨d.row, d.rule, true⟩)
    (denies : d ∈ denialsOf roles role roleLevel reading (s.rowsAt level.kind level.entityId))
    (least : ∀ x ∈ denialsOf roles role roleLevel reading (s.rowsAt level.kind level.entityId),
      d.rank ≤ x.rank) :
    Nearest (denialsOf roles role roleLevel reading
      ((s.favouring pick).rowsAt level.kind level.entityId)) d := by
  have still : ∀ x ∈ denialsOf roles role roleLevel reading
      ((s.favouring pick).rowsAt level.kind level.entityId), d.rank ≤ x.rank :=
    fun x member => least x ((denialsOf_favouring ..).mem_iff.mp member)
  rw [rowsAt_favouring, picked, denialsOf_append] at still ⊢
  obtain ⟨inside, denial⟩ := mem_denialsOf_iff.mp denies
  -- In front stands the row of the denial alone, once or repeated.
  have front : ∀ x, x ∈ denialsOf roles role roleLevel reading
      ((s.rowsAt level.kind level.entityId).filter fun row =>
        (some (⟨d.row, d.rule, true⟩ : Governing ρ)).any (·.row = row)) ↔ x = d := by
    intro x
    constructor
    · intro member
      obtain ⟨place, other⟩ := mem_denialsOf_iff.mp member
      have row : d.row = x.row := by simpa using (List.mem_filter.mp place).2
      rw [← row, denial] at other
      exact (Option.some.inj other).symm
    · rintro rfl
      exact mem_denialsOf_iff.mpr ⟨List.mem_filter.mpr ⟨inside, by simp⟩, denial⟩
  cases first : denialsOf roles role roleLevel reading
      ((s.rowsAt level.kind level.entityId).filter fun row =>
        (some (⟨d.row, d.rule, true⟩ : Governing ρ)).any (·.row = row)) with
  | nil =>
      have there := (front d).mpr rfl
      rw [first] at there
      cases there
  | cons x more =>
      obtain rfl : x = d := (front x).mp (first ▸ List.mem_cons_self)
      rw [first] at still
      exact ⟨[], _, rfl, nofun, fun y member => still y (List.mem_cons_of_mem _ member)⟩

/-- Where the rows of a choice come first, the chosen ones speak. -/
theorem governing?_favouring {pick : Level → Option (Governing ρ)}
    (selects : s.Selects roles role reading pick) :
    (s.favouring pick).governing? roles role reading = pick := by
  funext level
  have own : (s.favouring pick).ownRule? level role reading = s.ownRule? level role reading := by
    simp only [ownRule?, row?, favouring, Table.get?_of_perm (Table.rows_bring_perm _ s.rows)]
  generalize picked : pick level = g
  cases picked ▸ selects level with
  | own spoken => simp only [governing?, own, spoken]
  | nobody silent mute =>
      refine governing?_of_mute roles (own.trans silent) fun roleLevel ranked => ?_
      have same := denialsOf_favouring s roles role reading pick level roleLevel
      rw [mute roleLevel ranked] at same
      exact same.eq_nil
  | @inherited roleLevel d silent ranked denies least =>
      have nearest := nearest_favouring picked denies least
      rw [governing?_of_unspoken roles (own.trans silent), ranked, Option.bind_some,
        (nearestDenial_eq_some_iff ..).mpr nearest]
      rfl

/-! ## Ranks apart -/

/-- Where no two roles share a rank, one denial at a level has the lowest. -/
theorem governing?_of_maySpeak {g : Option (Governing ρ)} (apart : roles.RanksApart)
    (filed : ∀ key row, s.rows.get? key = some row → row.key = key)
    (h : s.MaySpeak roles role reading level g) : s.governing? roles role reading level = g := by
  cases h with
  | own spoken => simp only [governing?, spoken]
  | nobody silent mute => exact governing?_of_mute roles silent mute
  | @inherited roleLevel d silent ranked denies least =>
      rw [governing?_of_unspoken roles silent, ranked, Option.bind_some]
      cases found : nearestDenial roles role roleLevel reading
          (s.rowsAt level.kind level.entityId) with
      | none =>
          rw [(nearestDenial_eq_none_iff ..).mp found] at denies
          cases denies
      | some first =>
          have nearest := (nearestDenial_eq_some_iff ..).mp found
          obtain ⟨inside, denial⟩ := mem_denialsOf_iff.mp denies
          obtain ⟨inside', denial'⟩ := mem_denialsOf_iff.mp nearest.mem
          obtain ⟨-, rank, -⟩ := (higherDenial?_eq_some_iff ..).mp denial
          obtain ⟨-, rank', -⟩ := (higherDenial?_eq_some_iff ..).mp denial'
          have tie : first.rank = d.rank :=
            Int.le_antisymm (nearest.least d denies) (least first nearest.mem)
          have speaker : first.row.role = d.row.role := apart.eq rank' (tie ▸ rank)
          have row : first.row = d.row := row_unique filed inside' inside speaker
          rw [row, denial] at denial'
          cases denial'
          rfl

end Snapshot

end TenantAccess
