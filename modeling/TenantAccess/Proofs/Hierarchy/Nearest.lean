import TenantAccess.Hierarchy.Resolution

/-! # The nearest denial

Among the denials of higher roles at a level the one of the lowest rank speaks, and the first
of these where several roles share that rank. The running choice that a level makes is compared
here with this description of its outcome.
-/

namespace TenantAccess.Snapshot

variable {ρ : Type}

/-- A denial of the lowest rank, with none of the same rank before it. -/
def Nearest (denials : List (HigherDenial ρ)) (d : HigherDenial ρ) : Prop :=
  ∃ before after, denials = before ++ d :: after ∧
    (∀ x ∈ before, d.rank < x.rank) ∧ ∀ x ∈ after, d.rank ≤ x.rank

/-- What a running choice over some denials amounts to. -/
def Chosen (denials : List (HigherDenial ρ)) : Option (HigherDenial ρ) → Prop
  | none => denials = []
  | some d => Nearest denials d

theorem Nearest.unique {denials : List (HigherDenial ρ)} {d d' : HigherDenial ρ}
    (h : Nearest denials d) (h' : Nearest denials d') : d = d' := by
  obtain ⟨before, after, split, strict, least⟩ := h
  obtain ⟨before', after', split', strict', least'⟩ := h'
  rw [split] at split'
  rcases List.append_eq_append_iff.mp split' with ⟨gap, rfl, tail⟩ | ⟨gap, rfl, tail⟩
  · cases gap with
    | nil => exact (List.cons.inj tail).1
    | cons first gap =>
        obtain ⟨rfl, rfl⟩ := List.cons.inj tail
        have lower := strict' d (by simp)
        have higher := least d' (by simp)
        omega
  · cases gap with
    | nil => exact (List.cons.inj tail).1.symm
    | cons first gap =>
        obtain ⟨rfl, rfl⟩ := List.cons.inj tail
        have lower := strict d' (by simp)
        have higher := least' d (by simp)
        omega

theorem Nearest.mem {denials : List (HigherDenial ρ)} {d : HigherDenial ρ}
    (h : Nearest denials d) : d ∈ denials := by
  obtain ⟨before, after, rfl, -⟩ := h
  simp

theorem Nearest.least {denials : List (HigherDenial ρ)} {d : HigherDenial ρ}
    (h : Nearest denials d) : ∀ x ∈ denials, d.rank ≤ x.rank := by
  obtain ⟨before, after, rfl, strict, least⟩ := h
  intro x member
  rcases List.mem_append.mp member with earlier | member
  · exact Int.le_of_lt (strict x earlier)
  · rcases List.mem_cons.mp member with rfl | later
    · exact Int.le_refl _
    · exact least x later

theorem Chosen.nearer {denials : List (HigherDenial ρ)} {best : Option (HigherDenial ρ)}
    (h : Chosen denials best) (next : HigherDenial ρ) :
    Chosen (denials ++ [next]) (nearer best (some next)) := by
  cases best with
  | none =>
      cases h
      exact ⟨[], [], rfl, nofun, nofun⟩
  | some d =>
      obtain ⟨before, after, rfl, strict, least⟩ := h
      by_cases closer : next.rank < d.rank
      · simp only [Snapshot.nearer, if_pos closer]
        refine ⟨before ++ d :: after, [], rfl, fun x member => ?_, nofun⟩
        rcases List.mem_append.mp member with member | member
        · exact Int.lt_trans closer (strict x member)
        · rcases List.mem_cons.mp member with rfl | member
          · exact closer
          · exact Int.lt_of_lt_of_le closer (least x member)
      · simp only [Snapshot.nearer, if_neg closer]
        refine ⟨before, after ++ [next], by simp, strict, fun x member => ?_⟩
        rcases List.mem_append.mp member with member | member
        · exact least x member
        · rw [List.mem_singleton.mp member]
          exact Int.not_lt.mp closer

variable (roles : RoleTable) (role : String) (roleLevel : Int) (reading : Reading ρ)

/-- The denials that some rows hold for roles above the given one, in order. -/
def denialsOf (rows : List Row) : List (HigherDenial ρ) :=
  rows.filterMap (higherDenial? roles role roleLevel reading)

theorem denialsOf_append (rows more : List Row) :
    denialsOf roles role roleLevel reading (rows ++ more) =
      denialsOf roles role roleLevel reading rows ++ denialsOf roles role roleLevel reading more :=
  List.filterMap_append

theorem nearestDenial_chosen (rows : List Row) :
    Chosen (denialsOf roles role roleLevel reading rows)
      (nearestDenial roles role roleLevel reading rows) := by
  have go : ∀ (rows : List Row) (seen : List (HigherDenial ρ)) (best : Option (HigherDenial ρ)),
      Chosen seen best →
      Chosen (seen ++ denialsOf roles role roleLevel reading rows)
        (rows.foldl
          (fun best row => nearer best (higherDenial? roles role roleLevel reading row)) best) := by
    intro rows
    induction rows with
    | nil =>
        intro seen best h
        simpa [denialsOf] using h
    | cons row rest ih =>
        intro seen best h
        simp only [List.foldl_cons]
        cases denial : higherDenial? roles role roleLevel reading row with
        | none =>
            have same : nearer best none = best := by cases best <;> rfl
            rw [same, denialsOf, List.filterMap_cons_none denial]
            exact ih seen best h
        | some d =>
            rw [denialsOf, List.filterMap_cons_some denial]
            simpa [denialsOf] using ih (seen ++ [d]) _ (h.nearer d)
  exact go rows [] none rfl

theorem nearestDenial_eq_some_iff {rows : List Row} {d : HigherDenial ρ} :
    nearestDenial roles role roleLevel reading rows = some d ↔
      Nearest (denialsOf roles role roleLevel reading rows) d := by
  have chosen := nearestDenial_chosen roles role roleLevel reading rows
  constructor
  · intro h
    rwa [h] at chosen
  · intro h
    cases found : nearestDenial roles role roleLevel reading rows with
    | none =>
        rw [found] at chosen
        obtain ⟨before, after, split, -⟩ := h
        rw [chosen] at split
        simp at split
    | some d' =>
        rw [found] at chosen
        rw [chosen.unique h]

theorem nearestDenial_eq_none_iff {rows : List Row} :
    nearestDenial roles role roleLevel reading rows = none ↔
      denialsOf roles role roleLevel reading rows = [] := by
  have chosen := nearestDenial_chosen roles role roleLevel reading rows
  constructor
  · intro h
    rwa [h] at chosen
  · intro h
    cases found : nearestDenial roles role roleLevel reading rows with
    | none => rfl
    | some d =>
        rw [found] at chosen
        obtain ⟨before, after, split, -⟩ := chosen
        simp [h] at split

/-- One more denial is the nearest, or changes nothing. -/
theorem Nearest.insert {before after : List (HigherDenial ρ)} {d new : HigherDenial ρ}
    (h : Nearest (before ++ new :: after) d) : d = new ∨ Nearest (before ++ after) d := by
  obtain ⟨left, right, split, strict, least⟩ := h
  rcases List.append_eq_append_iff.mp split with ⟨gap, rfl, tail⟩ | ⟨gap, rfl, tail⟩
  · cases gap with
    | nil => exact .inl (List.cons.inj tail).1.symm
    | cons first gap =>
        obtain ⟨rfl, rfl⟩ := List.cons.inj tail
        refine .inr ⟨before ++ gap, right, by simp, fun x member => strict x ?_, least⟩
        rcases List.mem_append.mp member with member | member <;> simp [member]
  · cases gap with
    | nil => exact .inl (List.cons.inj tail).1
    | cons first gap =>
        obtain ⟨rfl, rfl⟩ := List.cons.inj tail
        refine .inr ⟨left, gap ++ after, by simp, strict, fun x member => least x ?_⟩
        rcases List.mem_append.mp member with member | member <;> simp [member]

theorem higherDenial?_eq_some_iff {row : Row} {d : HigherDenial ρ} :
    higherDenial? roles role roleLevel reading row = some d ↔
      row.role ≠ role ∧ RoleTable.levelOf? roles row.role = some d.rank ∧ roleLevel < d.rank ∧
        reading.rule? row = some d.rule ∧ reading.isDeny d.rule = true ∧ d.row = row := by
  obtain ⟨rank, speaker, rule⟩ := d
  unfold higherDenial? higherRank?
  by_cases own : row.role = role
  · simp [own]
  cases RoleTable.levelOf? roles row.role with
  | none => simp [own]
  | some level =>
      by_cases above : roleLevel < level
      · simp only [if_neg own, if_neg (Int.not_le.mpr above)]
        cases reading.rule? row with
        | none => simp
        | some held =>
            simp only [Option.ite_none_right_eq_some, Option.some.injEq, HigherDenial.mk.injEq]
            grind
      · simp only [if_neg own, if_pos (Int.not_lt.mp above)]
        grind

theorem isDeny_of_nearestDenial {rows : List Row} {d : HigherDenial ρ}
    (h : nearestDenial roles role roleLevel reading rows = some d) :
    reading.isDeny d.rule = true := by
  obtain ⟨row, -, denial⟩ := List.mem_filterMap.mp ((nearestDenial_eq_some_iff ..).mp h).mem
  obtain ⟨-, -, -, -, denies, -⟩ := (higherDenial?_eq_some_iff ..).mp denial
  exact denies

/-! ## Levels where the role's own row is silent -/

section

variable {s : Snapshot} {role reading}

theorem governing?_of_unspoken {level : Level}
    (unspoken : s.ownRule? level role reading = none) :
    s.governing? roles role reading level =
      (RoleTable.levelOf? roles role).bind fun roleLevel =>
        (nearestDenial roles role roleLevel reading (s.rowsAt level.kind level.entityId)).map
          fun d => ⟨d.row, d.rule, true⟩ := by
  simp only [governing?, unspoken]
  cases RoleTable.levelOf? roles role <;> rfl

theorem governing?_of_mute {level : Level} (unspoken : s.ownRule? level role reading = none)
    (mute : ∀ roleLevel, RoleTable.levelOf? roles role = some roleLevel →
      denialsOf roles role roleLevel reading (s.rowsAt level.kind level.entityId) = []) :
    s.governing? roles role reading level = none := by
  rw [governing?_of_unspoken roles unspoken]
  cases ranked : RoleTable.levelOf? roles role with
  | none => rfl
  | some roleLevel =>
      rw [Option.bind_some, (nearestDenial_eq_none_iff ..).mpr (mute roleLevel ranked)]
      rfl

/-- Whoever governs a level where the role's own row is silent speaks for a higher role, and denies. -/
theorem inherited_of_governing? {level : Level} {g : Governing ρ}
    (unspoken : s.ownRule? level role reading = none)
    (h : s.governing? roles role reading level = some g) :
    g.inherited = true ∧ reading.isDeny g.rule = true := by
  rw [governing?_of_unspoken roles unspoken] at h
  obtain ⟨roleLevel, -, h⟩ := Option.bind_eq_some_iff.mp h
  obtain ⟨d, found, rfl⟩ := Option.map_eq_some_iff.mp h
  exact ⟨rfl, isDeny_of_nearestDenial _ _ _ _ found⟩

end

end TenantAccess.Snapshot
