import TenantAccess.Proofs.Hierarchy.Nearest
import TenantAccess.Proofs.Place

/-! # A rule added to a row

A snapshot in which one row has one more rule differs from the snapshot without it at one level
at most. If the rule is a denial and the row was silent on the pair, that level is governed as
before, or the row speaks there in place of nobody or of the denial of a higher role.
-/

namespace TenantAccess.Snapshot

/-- The row under a key, or an empty one where there is none. -/
def rowOrNew (s : Snapshot) (key : RowKey) (allowsChildren : Bool) : Row :=
  (s.rows.get? key).getD
    ⟨key.kind, key.entityId, s.organization.id, key.role, .empty, 1, allowsChildren⟩

/-- The row under a key with one more rule; a new row says `allowsChildren` of the levels below. -/
def rowWith (s : Snapshot) (key : RowKey) (allowsChildren : Bool) (pair : Pair) (rule : Override) :
    Row :=
  let row := s.rowOrNew key allowsChildren
  { row with rules := row.rules.put pair rule }

/-- The snapshot in which the row under a key has one more rule. -/
def addRule (s : Snapshot) (key : RowKey) (allowsChildren : Bool) (pair : Pair)
    (rule : Override) : Snapshot :=
  { s with rows := s.rows.put key (s.rowWith key allowsChildren pair rule) }

variable {s : Snapshot} {key : RowKey} {allowsChildren : Bool} {pair : Pair} {rule : Override}

theorem ruleFor_rowWith : (s.rowWith key allowsChildren pair rule).ruleFor pair = some rule :=
  Table.get?_put_self _ _ _

theorem row?_addRule_self :
    (s.addRule key allowsChildren pair rule).row? key.kind key.entityId key.role =
      some (s.rowWith key allowsChildren pair rule) :=
  Table.get?_put_self _ _ _

theorem row?_addRule_of_ne {kind : EntityKind} {entityId role : String}
    (other : key ≠ ⟨kind, entityId, role⟩) :
    (s.addRule key allowsChildren pair rule).row? kind entityId role =
      s.row? kind entityId role :=
  Table.get?_put_of_ne _ other _

/-- The rows at the level of a new rule: one place is new, or holds a row that was silent. -/
theorem rowsAt_addRule_self (allowsChildren : Bool) (rule : Override)
    (silent : ∀ row, s.rows.get? key = some row → row.ruleFor pair = none) :
    ∃ before after dropped,
      (s.addRule key allowsChildren pair rule).rowsAt key.kind key.entityId =
        before ++ s.rowWith key allowsChildren pair rule :: after ∧
      s.rowsAt key.kind key.entityId = before ++ dropped ++ after ∧
      ∀ row ∈ dropped, row.ruleFor pair = none := by
  cases held : s.rows.get? key with
  | none =>
      refine ⟨s.rowsAt key.kind key.entityId, [], [], ?_, by simp, nofun⟩
      simp only [rowsAt, addRule, Table.values, Table.filter, Table.rows_put_of_get?_none _ held]
      simp
  | some old =>
      obtain ⟨before, after, split, put⟩ :=
        Table.rows_put_of_get? (s.rowWith key allowsChildren pair rule) held
      let near (rows : List (RowKey × Row)) : List Row :=
        (rows.filter fun row => row.1.kind = key.kind && row.1.entityId = key.entityId).map Prod.snd
      refine ⟨near before, near after, [old], ?_, ?_, ?_⟩
      · simp [rowsAt, addRule, Table.values, Table.filter, put, near]
      · simp [rowsAt, Table.values, Table.filter, split, near]
      · intro row member
        rw [List.mem_singleton.mp member]
        exact silent old held

theorem rowsAt_addRule_of_ne {kind : EntityKind} {entityId : String}
    (other : ¬ (key.kind = kind ∧ key.entityId = entityId)) :
    (s.addRule key allowsChildren pair rule).rowsAt kind entityId = s.rowsAt kind entityId := by
  have outside : (decide (key.kind = kind) && decide (key.entityId = entityId)) = false := by
    simpa using other
  cases held : s.rows.get? key with
  | none =>
      simp only [rowsAt, addRule, Table.values, Table.filter, Table.rows_put_of_get?_none _ held]
      simp [outside]
  | some old =>
      obtain ⟨before, after, split, put⟩ :=
        Table.rows_put_of_get? (s.rowWith key allowsChildren pair rule) held
      simp [rowsAt, addRule, Table.values, Table.filter, put, split, outside]

variable {roles : RoleTable} {role : String}

theorem ownRule?_addRule_of_ne {level : Level} (other : key ≠ ⟨level.kind, level.entityId, role⟩) :
    (s.addRule key allowsChildren pair rule).ownRule? level role (.ofPair pair) =
      s.ownRule? level role (.ofPair pair) := by
  simp only [ownRule?, row?_addRule_of_ne other]

/-- Levels other than that of the new rule are governed as before. -/
theorem governing?_addRule_of_ne {level : Level} (other : level ≠ ⟨key.kind, key.entityId⟩) :
    (s.addRule key allowsChildren pair rule).governing? roles role (.ofPair pair) level =
      s.governing? roles role (.ofPair pair) level := by
  have away : ¬ (key.kind = level.kind ∧ key.entityId = level.entityId) :=
    fun ⟨kind, entity⟩ => other (by rw [kind, entity])
  have otherKey : key ≠ ⟨level.kind, level.entityId, role⟩ :=
    fun same => away ⟨congrArg RowKey.kind same, congrArg RowKey.entityId same⟩
  simp only [governing?, ownRule?_addRule_of_ne otherKey, rowsAt_addRule_of_ne away]

theorem denialsOf_silent {roleLevel : Int} {rows : List Row}
    (silent : ∀ row ∈ rows, row.ruleFor pair = none) :
    denialsOf roles role roleLevel (.ofPair pair) rows = [] := by
  refine List.filterMap_eq_nil_iff.mpr fun row member => ?_
  have none_ : (Reading.ofPair pair).rule? row = none := silent row member
  unfold higherDenial?
  cases higherRank? roles role roleLevel row with
  | none => rfl
  | some rank => simp only [none_]

theorem higherDenial?_rowWith {roleLevel : Int} {d : HigherDenial Override}
    (h : higherDenial? roles role roleLevel (.ofPair pair)
      (s.rowWith key allowsChildren pair rule) = some d) :
    d.row = s.rowWith key allowsChildren pair rule ∧ d.rule = rule := by
  obtain ⟨-, -, -, holds, -, row⟩ := (higherDenial?_eq_some_iff ..).mp h
  exact ⟨row, Option.some.inj (holds.symm.trans ruleFor_rowWith)⟩

/-- The nearest denial where a silent row got one more rule: that of the row, or the one before. -/
theorem nearestDenial_addRule {roleLevel : Int} {d : HigherDenial Override}
    (silent : ∀ row, s.rows.get? key = some row → row.ruleFor pair = none)
    (found : nearestDenial roles role roleLevel (.ofPair pair)
      ((s.addRule key allowsChildren pair rule).rowsAt key.kind key.entityId) = some d) :
    (d.row = s.rowWith key allowsChildren pair rule ∧ d.rule = rule) ∨
      nearestDenial roles role roleLevel (.ofPair pair) (s.rowsAt key.kind key.entityId) =
        some d := by
  obtain ⟨before, after, dropped, now, earlier, quiet⟩ :=
    rowsAt_addRule_self allowsChildren rule silent
  rw [nearestDenial_eq_some_iff, now] at found
  rw [nearestDenial_eq_some_iff, earlier, denialsOf_append, denialsOf_append,
    denialsOf_silent quiet, List.append_nil]
  rw [denialsOf_append] at found
  cases denial : higherDenial? roles role roleLevel (.ofPair pair)
      (s.rowWith key allowsChildren pair rule) with
  | none =>
      rw [denialsOf, denialsOf, List.filterMap_cons_none denial] at found
      exact .inr found
  | some new =>
      rw [denialsOf, denialsOf, List.filterMap_cons_some denial] at found
      rcases found.insert with rfl | found
      · exact .inl (higherDenial?_rowWith denial)
      · exact .inr found

/-- Where there was a denial of a higher role, there still is one. -/
theorem nearestDenial_addRule_ne_none {roleLevel : Int}
    (silent : ∀ row, s.rows.get? key = some row → row.ruleFor pair = none)
    (gone : nearestDenial roles role roleLevel (.ofPair pair)
      ((s.addRule key allowsChildren pair rule).rowsAt key.kind key.entityId) = none) :
    nearestDenial roles role roleLevel (.ofPair pair) (s.rowsAt key.kind key.entityId) = none := by
  obtain ⟨before, after, dropped, now, earlier, quiet⟩ :=
    rowsAt_addRule_self allowsChildren rule silent
  rw [nearestDenial_eq_none_iff, now, denialsOf_append] at gone
  rw [nearestDenial_eq_none_iff, earlier, denialsOf_append, denialsOf_append,
    denialsOf_silent quiet]
  obtain ⟨none_before, none_after⟩ := List.append_eq_nil_iff.mp gone
  have tail : denialsOf roles role roleLevel (.ofPair pair) after = [] := by
    cases denial : higherDenial? roles role roleLevel (.ofPair pair)
        (s.rowWith key allowsChildren pair rule) with
    | none => rwa [denialsOf, List.filterMap_cons_none denial] at none_after
    | some new => simp [denialsOf, List.filterMap_cons_some denial] at none_after
  rw [none_before, tail]
  rfl

/-- The level of a new rule is governed as before, or the new rule speaks there in place of nobody
or of the denial of a higher role. -/
theorem governing?_addRule (roles : RoleTable) (role : String) (allowsChildren : Bool)
    (rule : Override) (silent : ∀ row, s.rows.get? key = some row → row.ruleFor pair = none)
    (level : Level) :
    (s.addRule key allowsChildren pair rule).governing? roles role (.ofPair pair) level =
        s.governing? roles role (.ofPair pair) level ∨
      level = ⟨key.kind, key.entityId⟩ ∧
        (∃ inherited,
          (s.addRule key allowsChildren pair rule).governing? roles role (.ofPair pair) level =
            some ⟨s.rowWith key allowsChildren pair rule, rule, inherited⟩) ∧
        ∀ g, s.governing? roles role (.ofPair pair) level = some g →
          g.inherited = true ∧ g.rule.isDeny = true := by
  by_cases here : level = ⟨key.kind, key.entityId⟩
  case neg => exact .inl (governing?_addRule_of_ne here)
  subst here
  by_cases own : key.role = role
  · subst own
    have unspoken : s.ownRule? ⟨key.kind, key.entityId⟩ key.role (.ofPair pair) = none := by
      cases held : s.rows.get? key with
      | none => simp [ownRule?, row?, held]
      | some row => simp [ownRule?, row?, held, Reading.ofPair, silent row held]
    refine .inr ⟨rfl, ⟨false, ?_⟩, fun g h => inherited_of_governing? roles unspoken h⟩
    have holds : (Reading.ofPair pair).rule? (s.rowWith key allowsChildren pair rule) =
        some rule := ruleFor_rowWith
    simp [governing?, ownRule?, row?_addRule_self, holds]
  · have unmoved :
        (s.addRule key allowsChildren pair rule).ownRule? ⟨key.kind, key.entityId⟩ role
          (.ofPair pair) = s.ownRule? ⟨key.kind, key.entityId⟩ role (.ofPair pair) :=
      ownRule?_addRule_of_ne fun same => own (congrArg RowKey.role same)
    cases spoken : s.ownRule? ⟨key.kind, key.entityId⟩ role (.ofPair pair) with
    | some g =>
        left
        simp only [governing?, unmoved, spoken]
    | none =>
        have denies : ∀ g, s.governing? roles role (.ofPair pair) ⟨key.kind, key.entityId⟩ = some g →
            g.inherited = true ∧ g.rule.isDeny = true := fun g h => inherited_of_governing? roles spoken h
        have before := governing?_of_unspoken roles spoken
        have after := governing?_of_unspoken roles (unmoved.trans spoken)
        cases ranked : RoleTable.levelOf? roles role with
        | none =>
            rw [ranked] at before after
            exact .inl (after.trans before.symm)
        | some roleLevel =>
            rw [ranked, Option.bind_some] at before after
            cases found : nearestDenial roles role roleLevel (.ofPair pair)
                ((s.addRule key allowsChildren pair rule).rowsAt key.kind key.entityId) with
            | none =>
                rw [nearestDenial_addRule_ne_none silent found] at before
                rw [found] at after
                exact .inl (after.trans before.symm)
            | some d =>
                rw [found] at after
                rcases nearestDenial_addRule silent found with ⟨row, same⟩ | kept
                · subst same
                  exact .inr ⟨rfl, ⟨true, row ▸ after⟩, denies⟩
                · rw [kept] at before
                  exact .inl (after.trans before.symm)

end TenantAccess.Snapshot
