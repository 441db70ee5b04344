import TenantAccess.Proofs.Decision.Conditions
import TenantAccess.Proofs.Hierarchy.Chains
import TenantAccess.Proofs.Hierarchy.Nearest
import TenantAccess.Proofs.Hierarchy.Walk

/-! # Resolution by scanning

Which rule a level has can be found without an index and without a running choice, by going
through all rows of a snapshot: the rule of the role's own row, or else the denial of the lowest
rank above the role's. With this rule at each level, an answer of the resolver is what
`Resolution.declared` says of the levels, and an access that it gives is from the role's own rows.
-/

namespace TenantAccess

/-- Whether a row is about an entity. -/
def Row.standsAt (row : Row) (level : Level) : Bool :=
  row.kind = level.kind && row.entityId = level.entityId

theorem Row.standsAt_iff {row : Row} {level : Level} :
    row.standsAt level = true ↔ level = ⟨row.kind, row.entityId⟩ := by
  obtain ⟨kind, entityId⟩ := level
  rw [Row.standsAt, Bool.and_eq_true, decide_eq_true_eq, decide_eq_true_eq, Level.mk.injEq]
  exact and_congr eq_comm eq_comm

namespace Snapshot

variable {s : Snapshot} {roles : RoleTable} {role : String} {pair : Pair} {level : Level}

/-- The rows about an entity, picked from all rows. -/
def scan (s : Snapshot) (level : Level) : List Row := s.rows.values.filter (·.standsAt level)

/-- What a row denies to roles below its own, if its own is above a rank. -/
def denialAbove? (roles : RoleTable) (roleLevel : Int) (pair : Pair) (row : Row) :
    Option (HigherDenial Override) :=
  match RoleTable.levelOf? roles row.role, row.ruleFor pair with
  | some rank, some rule =>
    if roleLevel < rank ∧ rule.isDeny then some ⟨rank, row, rule⟩ else none
  | _, _ => none

/-- The first of some denials than which none has a lower rank. -/
def lowest? (denials : List (HigherDenial Override)) : Option (HigherDenial Override) :=
  denials.find? fun d => denials.all fun other => d.rank ≤ other.rank

/-- The rule of a level by a scan of all rows: that of the role's own row, or else, for a role that
has a rank, the denial of the lowest rank above it, the first of these on a tie. -/
def ruleAt? (s : Snapshot) (roles : RoleTable) (role : String) (pair : Pair) (level : Level) :
    Option (Governing Override) :=
  let own := ((s.scan level).find? (·.role = role)).bind fun row =>
    (row.ruleFor pair).map fun rule => ⟨row, rule, false⟩
  let inherited := (RoleTable.levelOf? roles role).bind fun roleLevel =>
    (lowest? ((s.scan level).filterMap (denialAbove? roles roleLevel pair))).map fun d =>
      ⟨d.row, d.rule, true⟩
  own.or inherited

theorem rowsAt_eq_scan (filed : ∀ key row, s.rows.get? key = some row → row.key = key)
    (level : Level) : s.rowsAt level.kind level.entityId = s.scan level := by
  have same : ∀ row ∈ s.rows.rows, (row.1.kind = level.kind && row.1.entityId = level.entityId) =
      row.2.standsAt level := by
    rintro ⟨key, row⟩ member
    rw [← filed key row (Table.get?_of_mem_rows member)]
    rfl
  calc s.rowsAt level.kind level.entityId
    _ = (s.rows.rows.filter fun row => row.2.standsAt level).map Prod.snd :=
      congrArg (List.map Prod.snd) (List.filter_congr same)
    _ = s.scan level := by rw [scan, Table.values, List.filter_map, Function.comp_def]

theorem row?_eq_find? (filed : s.Filed) (level : Level) (role : String) :
    s.row? level.kind level.entityId role = (s.scan level).find? (·.role = role) := by
  have keyed {row : Row} (member : row ∈ s.scan level) (own : row.role = role) :
      s.rows.get? ⟨level.kind, level.entityId, role⟩ = some row := by
    obtain ⟨found, here⟩ := List.mem_filter.mp member
    obtain ⟨key, held⟩ := Table.mem_values_iff.mp found
    have named := filed.row key row held
    subst named
    simp only [Row.standsAt, Bool.and_eq_true, decide_eq_true_eq] at here
    rw [← here.1, ← here.2, ← own]
    exact held
  cases found : (s.scan level).find? (·.role = role) with
  | some row =>
      have own : row.role = role := by simpa using List.find?_some found
      exact keyed (List.mem_of_find?_eq_some found) own
  | none =>
      refine Option.eq_none_iff_forall_ne_some.mpr fun row held => ?_
      have named := filed.row _ row held
      have member : row ∈ s.scan level := by
        refine List.mem_filter.mpr ⟨Table.mem_values_iff.mpr ⟨_, held⟩, ?_⟩
        have kind := congrArg RowKey.kind named
        have entity := congrArg RowKey.entityId named
        simpa [Row.standsAt] using ⟨kind, entity⟩
      have absent := List.find?_eq_none.mp found row member
      exact absent (decide_eq_true (congrArg RowKey.role named))

theorem denialAbove?_eq_some_iff {roleLevel : Int} {row : Row} {d : HigherDenial Override} :
    denialAbove? roles roleLevel pair row = some d ↔
      RoleTable.levelOf? roles row.role = some d.rank ∧ roleLevel < d.rank ∧
        row.ruleFor pair = some d.rule ∧ d.rule.isDeny = true ∧ d.row = row := by
  obtain ⟨rank, speaker, rule⟩ := d
  unfold denialAbove?
  grind

/-- A role's own row is at the role's rank, so that it need not be left out among higher ones. -/
theorem higherDenial?_eq_denialAbove? {roleLevel : Int}
    (ranked : RoleTable.levelOf? roles role = some roleLevel) (row : Row) :
    higherDenial? roles role roleLevel (.ofPair pair) row = denialAbove? roles roleLevel pair row := by
  refine Option.ext fun d => ?_
  rw [higherDenial?_eq_some_iff, denialAbove?_eq_some_iff]
  refine ⟨fun h => h.2, fun h => ⟨?_, h⟩⟩
  rintro rfl
  have same := Option.some.inj (ranked.symm.trans h.1)
  have above := h.2.1
  omega

theorem lowest?_of_nearest {denials : List (HigherDenial Override)} {d : HigherDenial Override}
    (h : Nearest denials d) : lowest? denials = some d := by
  have least := h.least
  obtain ⟨before, after, split, strict, -⟩ := h
  refine List.find?_eq_some_iff_append.mpr ⟨by simpa using least, before, after, split, ?_⟩
  intro x earlier
  have higher := strict x earlier
  have there : d ∈ denials := by simp [split]
  simp only [Bool.not_eq_true', List.all_eq_false, decide_eq_true_eq]
  exact ⟨d, there, by omega⟩

/-- The running choice among denials comes to the first of the lowest rank. -/
theorem nearestDenial_eq_lowest? {roleLevel : Int}
    (ranked : RoleTable.levelOf? roles role = some roleLevel) (rows : List Row) :
    nearestDenial roles role roleLevel (.ofPair pair) rows =
      lowest? (rows.filterMap (denialAbove? roles roleLevel pair)) := by
  have same : rows.filterMap (denialAbove? roles roleLevel pair) =
      denialsOf roles role roleLevel (.ofPair pair) rows :=
    List.filterMap_congr fun row _ => (higherDenial?_eq_denialAbove? ranked row).symm
  rw [same]
  cases found : nearestDenial roles role roleLevel (.ofPair pair) rows with
  | none =>
      rw [(nearestDenial_eq_none_iff ..).mp found]
      rfl
  | some d => exact (lowest?_of_nearest ((nearestDenial_eq_some_iff ..).mp found)).symm

/-- The rule that governs a level is the one that a scan of all rows finds. -/
theorem governing?_eq_ruleAt? (filed : s.Filed) (roles : RoleTable) (role : String) (pair : Pair)
    (level : Level) :
    s.governing? roles role (.ofPair pair) level = s.ruleAt? roles role pair level := by
  have own : s.ownRule? level role (.ofPair pair) =
      ((s.scan level).find? (·.role = role)).bind fun row =>
        (row.ruleFor pair).map fun rule => ⟨row, rule, false⟩ := by
    rw [ownRule?, row?_eq_find? filed]
    rfl
  rw [ruleAt?, ← own]
  cases spoken : s.ownRule? level role (.ofPair pair) with
  | some g =>
      simp only [governing?, spoken]
      rfl
  | none =>
      rw [governing?_of_unspoken roles spoken, rowsAt_eq_scan filed.row, Option.none_or]
      cases ranked : RoleTable.levelOf? roles role with
      | none => rfl
      | some roleLevel => simp only [Option.bind_some, nearestDenial_eq_lowest? ranked]

/-- A rule that gives access is never taken over from another role. -/
theorem own_of_ruleAt? {g : Governing Override} (h : s.ruleAt? roles role pair level = some g)
    (allows : g.rule.effect = .allow) :
    g.row ∈ s.rows.values ∧ g.row.standsAt level = true ∧ g.row.role = role ∧
      g.row.ruleFor pair = some g.rule := by
  rcases Option.or_eq_some_iff.mp h with own | ⟨-, inherited⟩
  · obtain ⟨row, found, spoken⟩ := Option.bind_eq_some_iff.mp own
    obtain ⟨rule, held, rfl⟩ := Option.map_eq_some_iff.mp spoken
    obtain ⟨member, here⟩ := List.mem_filter.mp (List.mem_of_find?_eq_some found)
    exact ⟨member, here, by simpa using List.find?_some found, held⟩
  · obtain ⟨roleLevel, -, chosen⟩ := Option.bind_eq_some_iff.mp inherited
    obtain ⟨d, least, rfl⟩ := Option.map_eq_some_iff.mp chosen
    obtain ⟨row, -, denial⟩ := List.mem_filterMap.mp (List.mem_of_find?_eq_some least)
    obtain ⟨-, -, -, denies, -⟩ := denialAbove?_eq_some_iff.mp denial
    rw [Engine.isDeny_iff, allows] at denies
    cases denies

/-- An answer of the resolver is what the rules of the levels, found by scanning, declare: the
outermost rule whose row forbids others holds, or else the innermost one; there is a step for each
level from the outermost inwards, and exactly the rules below a closed level are ignored. A rule that
gives access is from a row of the role itself. -/
theorem resolve_declared (filed : s.Filed) {maxDepth : Int} {organizationId : String}
    {departmentId teamId : Option String} {r : Resolution Override}
    (answered : s.resolve roles maxDepth organizationId departmentId teamId role pair = .ok r) :
    let rule := s.ruleAt? roles role pair
    ∃ place line levels,
      s.standingIn organizationId departmentId teamId = .ok place ∧
      Lineage s.departments place line ∧
      levels = ⟨.organization, organizationId⟩ :: (levelsOn line ++ teamLevels teamId) ∧
      r = Resolution.declared rule levels ∧
      r.steps.map (·.level) = levels ∧
      (∀ outer level inner, levels = outer ++ level :: inner →
        ∃ step, r.steps[outer.length]? = some step ∧ step.level = level ∧
          (step.status = .ignoredLocked ↔
            (∃ above ∈ outer, Resolution.closes rule above = true) ∧ ∃ g, rule level = some g)) ∧
      r.lockedAt = (levels.find? (Resolution.closes rule)).map (Resolution.report rule false) ∧
      ∀ o, r.override = some o → o.effect = .allow →
        ∃ row ∈ s.rows.values, row.role = role ∧ row.ruleFor pair = some o ∧
          ∃ level ∈ levels, row.standsAt level = true := by
  intro rule
  obtain ⟨levels, found, walked⟩ := resolve_eq_ok_iff.mp answered
  obtain ⟨-, place, line, standing, lineage, -, -, split⟩ :=
    (levels_eq_ok_iff filed.department).mp found
  have scanned : s.governing? roles role (.ofPair pair) = rule :=
    funext (governing?_eq_ruleAt? filed roles role pair)
  rw [scanned] at walked
  have declared : r = Resolution.declared rule levels :=
    walked.symm.trans (Resolution.walk_eq_declared levels)
  refine ⟨place, line, levels, standing, lineage, split, declared, ?steps, ?ignored, ?locked,
    ?allowed⟩
  case steps => rw [← walked, Resolution.map_level_steps]
  case ignored =>
    rintro outer level inner rfl
    rw [declared]
    refine ⟨_, Resolution.getElem?_steps_declared outer level inner, Resolution.level_report _ _, ?_⟩
    rw [Resolution.status_report, List.any_eq_true]
  case locked => rw [declared, Resolution.lockedAt_declared]
  case allowed =>
    intro o holds allows
    rw [declared] at holds
    obtain ⟨g, decisive, rfl⟩ := Option.map_eq_some_iff.mp holds
    obtain ⟨level, member, ruled⟩ := List.mem_filterMap.mp (Resolution.mem_of_decisive decisive)
    obtain ⟨here, stands, own, held⟩ := own_of_ruleAt? ruled allows
    exact ⟨g.row, here, own, held, level, member, stands⟩

end Snapshot

namespace Sample

/-- What a viewer meets on the way to the team, whose own rule for viewers comes too late. -/
def viewerWalk : Resolution Override where
  override := some .denying
  steps := [⟨⟨.organization, "org-1"⟩, .appliedInherited, some "member", some 1, true⟩,
    ⟨⟨.department, "d-1"⟩, .noRule, none, none, false⟩,
    ⟨⟨.team, "t-1"⟩, .ignoredLocked, some "viewer", some 1, false⟩]

end Sample

theorem Snapshot.resolve_declared_viewer :
    let s := Sample.snapshot [Sample.orgRule, Sample.teamRule]
    let rule := s.ruleAt? Sample.engine.roles "viewer" Sample.deletion
    s.Filed ∧
      s.resolve Sample.engine.roles 32 "org-1" none (some "t-1") "viewer" Sample.deletion =
        .ok Sample.viewerWalk ∧
      ∃ levels, Sample.viewerWalk = Resolution.declared rule levels := by
  intro s rule
  have filed : s.Filed := filed_gather ..
  have answered : s.resolve Sample.engine.roles 32 "org-1" none (some "t-1") "viewer"
      Sample.deletion = .ok Sample.viewerWalk := by rfl
  obtain ⟨-, -, levels, -, -, -, declared, -⟩ := resolve_declared filed answered
  exact ⟨filed, answered, levels, declared⟩

end TenantAccess
