import TenantAccess.Hierarchy.Resolution

/-! # What a walk comes to

A walk goes through the levels one after another and carries along what holds so far and whether a
level above is closed. Its outcome can be said without going through them: the outermost closed
level decides, or else the innermost level that has a rule; and what is reported of a level depends
on its own rule and on whether a level above it is closed. `walk_eq_declared` says so.
-/

namespace TenantAccess

variable {ρ : Type}

/-- What a walk takes from the speaker of a level: the rule, and whether it leaves the level open. -/
def Governing.word (g : Governing ρ) : ρ × Bool := (g.rule, g.row.allowsChildren)

namespace Resolution

variable {governing? governing?' : Level → Option (Governing ρ)}

/-! ## One level after another -/

/-- Below a closed level nothing changes what holds. -/
theorem walk_locked (effective : Option ρ) (levels : List Level) :
    (walk governing? true effective levels).override = effective := by
  induction levels with
  | nil => rfl
  | cons level inner ih =>
      simp only [walk]
      cases governing? level with
      | none => exact ih
      | some g => exact ih

theorem walk_silent {level : Level} (locked : Bool) (effective : Option ρ) (inner : List Level)
    (h : governing? level = none) :
    (walk governing? locked effective (level :: inner)).override =
      (walk governing? locked effective inner).override := by
  simp only [walk, h]

theorem walk_closed {level : Level} {g : Governing ρ} (effective : Option ρ) (inner : List Level)
    (h : governing? level = some g) (closed : g.row.allowsChildren = false) :
    (walk governing? false effective (level :: inner)).override = some g.rule := by
  simp only [walk, h, closed]
  exact walk_locked _ inner

theorem walk_open {level : Level} {g : Governing ρ} (effective : Option ρ) (inner : List Level)
    (h : governing? level = some g) (opened : g.row.allowsChildren = true) :
    (walk governing? false effective (level :: inner)).override =
      (walk governing? false (some g.rule) inner).override := by
  simp only [walk, h, opened]
  rfl

/-- A speaker has the last word or hands on to the levels below. -/
theorem walk_speaks {level : Level} {g : Governing ρ} (effective : Option ρ) (inner : List Level)
    (h : governing? level = some g) :
    (walk governing? false effective (level :: inner)).override = some g.rule ∨
      g.row.allowsChildren = true ∧
        (walk governing? false effective (level :: inner)).override =
          (walk governing? false (some g.rule) inner).override := by
  cases opened : g.row.allowsChildren with
  | false => exact .inl (walk_closed effective inner h opened)
  | true => exact .inr ⟨rfl, walk_open effective inner h opened⟩

/-- Speakers of the same words come to the same. -/
theorem override_congr
    (same : ∀ level, (governing?' level).map Governing.word = (governing? level).map Governing.word)
    (locked : Bool) (effective : Option ρ) (levels : List Level) :
    (walk governing?' locked effective levels).override =
      (walk governing? locked effective levels).override := by
  induction levels generalizing locked effective with
  | nil => rfl
  | cons level inner ih =>
      have here := same level
      rw [walk, walk]
      cases speaks : governing? level with
      | none =>
          rw [speaks, Option.map_none, Option.map_eq_none_iff] at here
          simp only [here, ih]
      | some g =>
          rw [speaks, Option.map_some] at here
          obtain ⟨g', speaks', word⟩ := Option.map_eq_some_iff.mp here
          obtain ⟨rule, opened⟩ : g'.rule = g.rule ∧ g'.row.allowsChildren = g.row.allowsChildren := by
            simpa [Governing.word] using word
          cases locked <;> simp [speaks', rule, opened, ih]

/-- Speakers who agree at all levels of a walk make it the same walk. -/
theorem walk_congr {levels : List Level}
    (same : ∀ level ∈ levels, governing?' level = governing? level) (locked : Bool)
    (effective : Option ρ) :
    walk governing?' locked effective levels = walk governing? locked effective levels := by
  induction levels generalizing locked effective with
  | nil => rfl
  | cons level inner ih =>
      have here := same level List.mem_cons_self
      have below := ih fun other member => same other (List.mem_cons_of_mem level member)
      simp only [walk, here, below]

/-- A walk takes one step per level, in their order. -/
theorem map_level_steps (locked : Bool) (effective : Option ρ) (levels : List Level) :
    (walk governing? locked effective levels).steps.map (·.level) = levels := by
  induction levels generalizing locked effective with
  | nil => rfl
  | cons level inner ih =>
      rw [walk]
      cases governing? level with
      | none => simp only [List.map_cons, ih]
      | some g => cases locked <;> simp [ih]

/-! ## All levels at once -/

/-- Whether a level has a rule whose row forbids rules further down. -/
def closes (governing? : Level → Option (Governing ρ)) (level : Level) : Bool :=
  (governing? level).any fun g => !g.row.allowsChildren

/-- The rule that decides: the outermost whose row forbids others further down, or the innermost. -/
def decisive (rules : List (Governing ρ)) : Option (Governing ρ) :=
  (rules.find? fun g => !g.row.allowsChildren).or rules.getLast?

/-- What is reported of a level, below a closed level or not. -/
def report (governing? : Level → Option (Governing ρ)) (shut : Bool) (level : Level) : ChainStep :=
  match governing? level with
  | none => ⟨level, .noRule, none, none, false⟩
  | some g =>
    if shut then ⟨level, .ignoredLocked, some g.row.role, some g.row.version, false⟩
    else
      ⟨level, if g.inherited then .appliedInherited else .applied, some g.row.role,
        some g.row.version, !g.row.allowsChildren⟩

/-- The outcome of a walk, declared. -/
def declared (governing? : Level → Option (Governing ρ)) (levels : List Level) : Resolution ρ where
  override := (decisive (levels.filterMap governing?)).map (·.rule)
  steps := levels.mapIdx fun i level =>
    report governing? ((levels.take i).any (closes governing?)) level

theorem decisive_closed {g : Governing ρ} (rest : List (Governing ρ))
    (closed : g.row.allowsChildren = false) : decisive (g :: rest) = some g := by
  simp [decisive, closed]

theorem decisive_open {g : Governing ρ} (rest : List (Governing ρ))
    (opened : g.row.allowsChildren = true) :
    decisive (g :: rest) = some ((decisive rest).getD g) := by
  simp only [decisive, List.find?_cons, opened, Bool.not_true, List.getLast?_cons]
  cases rest.find? (fun g => !g.row.allowsChildren) <;> rfl

theorem mem_of_decisive {rules : List (Governing ρ)} {g : Governing ρ}
    (h : decisive rules = some g) : g ∈ rules := by
  rcases Option.or_eq_some_iff.mp h with closed | ⟨-, last⟩
  · exact List.mem_of_find?_eq_some closed
  · exact List.mem_of_getLast? last

theorem override_walk (effective : Option ρ) (levels : List Level) :
    (walk governing? false effective levels).override =
      ((decisive (levels.filterMap governing?)).map (·.rule)).or effective := by
  induction levels generalizing effective with
  | nil => rfl
  | cons level inner ih =>
      cases speaks : governing? level with
      | none => rw [walk_silent _ _ _ speaks, List.filterMap_cons_none speaks, ih]
      | some g =>
          rw [List.filterMap_cons_some speaks]
          cases opened : g.row.allowsChildren with
          | false => rw [walk_closed _ _ speaks opened, decisive_closed _ opened]; rfl
          | true =>
              rw [walk_open _ _ speaks opened, decisive_open _ opened, ih]
              cases decisive (inner.filterMap governing?) <;> rfl

theorem steps_walk (locked : Bool) (effective : Option ρ) (levels : List Level) :
    (walk governing? locked effective levels).steps = levels.mapIdx fun i level =>
      report governing? (locked || (levels.take i).any (closes governing?)) level := by
  -- A level is below a closed one if the walk already starts there or an earlier level closes it.
  induction levels generalizing locked effective with
  | nil => rfl
  | cons level inner ih =>
      rw [List.mapIdx_cons, walk]
      cases speaks : governing? level with
      | none => simp [ih, report, closes, speaks]
      | some g => cases locked <;> simp [ih, report, closes, speaks]

theorem walk_eq_declared (levels : List Level) :
    walk governing? false none levels = declared governing? levels := by
  have override : (walk governing? false none levels).override =
      (declared governing? levels).override := by
    rw [override_walk, Option.or_none, declared]
  have steps : (walk governing? false none levels).steps = (declared governing? levels).steps := by
    simp only [steps_walk, Bool.false_or, declared]
  calc walk governing? false none levels
    _ = ⟨(walk governing? false none levels).override, (walk governing? false none levels).steps⟩ :=
      rfl
    _ = declared governing? levels := by rw [override, steps]

theorem getElem?_steps_declared (outer : List Level) (level : Level) (inner : List Level) :
    (declared governing? (outer ++ level :: inner)).steps[outer.length]? =
      some (report governing? (outer.any (closes governing?)) level) := by
  simp [declared]

@[simp] theorem level_report (shut : Bool) (level : Level) :
    (report governing? shut level).level = level := by
  unfold report
  cases governing? level with
  | none => rfl
  | some g => cases shut <;> rfl

/-- What is ignored is a rule below a closed level. -/
theorem status_report {shut : Bool} {level : Level} :
    (report governing? shut level).status = .ignoredLocked ↔
      shut = true ∧ ∃ g, governing? level = some g := by
  unfold report
  cases governing? level with
  | none => simp
  | some g =>
      obtain ⟨row, rule, inherited⟩ := g
      cases shut <;> cases inherited <;> simp

/-- The walk is closed at the outermost level that closes it. -/
theorem lockedAt_declared (levels : List Level) :
    (declared governing? levels).lockedAt =
      (levels.find? (closes governing?)).map (report governing? false) := by
  have go (effective : Option ρ) (levels : List Level) :
      (walk governing? false effective levels).lockedAt =
        (levels.find? (closes governing?)).map (report governing? false) := by
    induction levels generalizing effective with
    | nil => rfl
    | cons level inner ih =>
        unfold lockedAt at ih ⊢
        rw [walk]
        cases speaks : governing? level with
        | none => simp [closes, speaks, ih]
        | some g =>
            cases opened : g.row.allowsChildren with
            | false =>
                cases inherited : g.inherited <;>
                  simp [closes, report, speaks, opened, inherited]
            | true => simp [closes, speaks, opened, ih]
  rw [← walk_eq_declared, go]

end Resolution

namespace Snapshot

theorem resolve_eq_ok_iff {s : Snapshot} {roles : RoleTable} {maxDepth : Int}
    {organizationId role : String} {departmentId teamId : Option String} {pair : Pair}
    {r : Resolution Override} :
    s.resolve roles maxDepth organizationId departmentId teamId role pair = .ok r ↔
      ∃ levels, s.levels maxDepth organizationId departmentId teamId = .ok levels ∧
        Resolution.walk (s.governing? roles role (.ofPair pair)) false none levels = r := by
  unfold resolve
  cases s.levels maxDepth organizationId departmentId teamId with
  | error f => simp [bind, Except.bind]
  | ok levels => simp [bind, Except.bind, pure, Except.pure]

end Snapshot

end TenantAccess
