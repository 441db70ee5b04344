import TenantAccess.Proofs.Decision.Passage
import TenantAccess.Proofs.Hierarchy.AddedRule
import TenantAccess.Proofs.Hierarchy.Levels
import TenantAccess.Proofs.Hierarchy.Walk

/-! # Adding a denial

Does a denial that is added to a row keep what is denied denied? Mostly it does: the level of
the row is governed as before, or the new denial speaks there. But a level has one speaker, and
the speaker alone says whether rules further down may differ. Where the denial of a higher role
had closed the levels below, a new denial in an open row of the role itself, or of a nearer
role, takes its place and opens them again. `decide_addDenial_iff` says that access is opened in
this case and in no other.
-/

namespace TenantAccess

namespace Resolution

variable {ρ : Type} {governing? governing?' : Level → Option (Governing ρ)}

/-- No level of a list is closed. -/
def AllOpen (governing? : Level → Option (Governing ρ)) (levels : List Level) : Prop :=
  ∀ level ∈ levels, ∀ g, governing? level = some g → g.row.allowsChildren = true

/-- Open levels hand on to the levels below. -/
theorem walk_allOpen {outer : List Level} (inner : List Level) (h : AllOpen governing? outer)
    (effective : Option ρ) :
    ∃ handed, (walk governing? false effective (outer ++ inner)).override =
      (walk governing? false handed inner).override := by
  induction outer generalizing effective with
  | nil => exact ⟨effective, rfl⟩
  | cons level rest ih =>
      have below : AllOpen governing? rest := fun l member => h l (List.mem_cons_of_mem _ member)
      rw [List.cons_append]
      cases speaks : governing? level with
      | none =>
          rw [walk_silent _ _ _ speaks]
          exact ih below effective
      | some g =>
          rw [walk_open _ _ speaks (h level (by simp) g speaks)]
          exact ih below (some g.rule)

/-- A level is closed by its speaker and no level above it is closed; with other speakers the
same level is open, and `handed` is what then holds there. -/
structure ReopenedAt (governing? governing?' : Level → Option (Governing ρ))
    (outer : List Level) (level : Level) (handed : ρ) : Prop where
  above : AllOpen governing? outer
  closed : ∃ g, governing? level = some g ∧ g.row.allowsChildren = false
  opened : ∃ g, governing?' level = some g ∧ g.row.allowsChildren = true ∧ g.rule = handed

theorem ReopenedAt.cons {outer : List Level} {level first : Level} {handed : ρ}
    (h : ReopenedAt governing? governing?' outer level handed)
    (opened : ∀ g, governing? first = some g → g.row.allowsChildren = true) :
    ReopenedAt governing? governing?' (first :: outer) level handed := by
  refine ⟨fun l member => ?_, h.closed, h.opened⟩
  rcases List.mem_cons.mp member with rfl | member
  · exact opened
  · exact h.above l member

/-- What holds in the end where denials speak at more levels than before: the same, a denial, or
what a level that was closed and is open now hands on. -/
def Follows (isDeny : ρ → Bool) (governing? governing?' : Level → Option (Governing ρ))
    (levels : List Level) (before after : Option ρ) : Prop :=
  after = before ∨ (∃ rule, after = some rule ∧ isDeny rule = true) ∨
    ∃ outer level inner handed, levels = outer ++ level :: inner ∧
      ReopenedAt governing? governing?' outer level handed ∧
      after = (walk governing?' false (some handed) inner).override

theorem Follows.cons {isDeny : ρ → Bool} {levels : List Level} {before after : Option ρ}
    {first : Level} (h : Follows isDeny governing? governing?' levels before after)
    (opened : ∀ g, governing? first = some g → g.row.allowsChildren = true) :
    Follows isDeny governing? governing?' (first :: levels) before after := by
  rcases h with same | denied | ⟨outer, level, inner, handed, rfl, reopened, result⟩
  · exact .inl same
  · exact .inr (.inl denied)
  · exact .inr (.inr ⟨first :: outer, level, inner, handed, rfl, reopened.cons opened, result⟩)

/-- The speakers of some levels are replaced by denials, and only where nobody or a denial spoke. -/
def DenialsAdded (isDeny : ρ → Bool) (governing? governing?' : Level → Option (Governing ρ)) :
    Prop :=
  ∀ level, governing?' level = governing? level ∨
    ∃ new, governing?' level = some new ∧ isDeny new.rule = true ∧
      ∀ g, governing? level = some g → isDeny g.rule = true

theorem walk_follows {isDeny : ρ → Bool} (added : DenialsAdded isDeny governing? governing?')
    (levels : List Level) (effective effective' : Option ρ)
    (start : effective' = effective ∨ ∃ rule, effective' = some rule ∧ isDeny rule = true) :
    Follows isDeny governing? governing?' levels (walk governing? false effective levels).override
      (walk governing?' false effective' levels).override := by
  induction levels generalizing effective effective' with
  | nil =>
      rcases start with same | denied
      · exact .inl same
      · exact .inr (.inl denied)
  | cons level inner ih =>
      -- A denial of its own either ends the second walk or is what that walk goes on with; the
      -- first walk matters only where both levels have the same speaker, or where it ends.
      cases before : governing? level with
      | none =>
          have opened : ∀ g, governing? level = some g → g.row.allowsChildren = true := by
            simp [before]
          rw [walk_silent _ _ _ before]
          rcases added level with kept | ⟨new, speaks, denies, -⟩
          · rw [walk_silent _ _ _ (kept.trans before)]
            exact (ih _ _ start).cons opened
          · rcases walk_speaks effective' inner speaks with ended | ⟨-, goesOn⟩
            · exact .inr (.inl ⟨_, ended, denies⟩)
            · rw [goesOn]
              exact (ih _ _ (.inr ⟨_, rfl, denies⟩)).cons opened
      | some g =>
          cases shut : g.row.allowsChildren with
          | false =>
              rw [walk_closed _ _ before shut]
              rcases added level with kept | ⟨new, speaks, denies, -⟩
              · rw [walk_closed _ _ (kept.trans before) shut]
                exact .inl rfl
              · rcases walk_speaks effective' inner speaks with ended | ⟨allows, goesOn⟩
                · exact .inr (.inl ⟨_, ended, denies⟩)
                · rw [goesOn]
                  exact .inr (.inr ⟨[], level, inner, new.rule, rfl,
                    ⟨nofun, ⟨g, before, shut⟩, ⟨new, speaks, allows, rfl⟩⟩, rfl⟩)
          | true =>
              have opened : ∀ g, governing? level = some g → g.row.allowsChildren = true := by
                simp [before, shut]
              rw [walk_open _ _ before shut]
              rcases added level with kept | ⟨new, speaks, denies, -⟩
              · rw [walk_open _ _ (kept.trans before) shut]
                exact (ih _ _ (.inl rfl)).cons opened
              · rcases walk_speaks effective' inner speaks with ended | ⟨-, goesOn⟩
                · exact .inr (.inl ⟨_, ended, denies⟩)
                · rw [goesOn]
                  exact (ih _ _ (.inr ⟨_, rfl, denies⟩)).cons opened

/-- A level that was opened again hands on what holds there. -/
theorem ReopenedAt.walk {outer : List Level} {level : Level} {handed : ρ}
    (h : ReopenedAt governing? governing?' outer level handed) (inner : List Level)
    (kept : ∀ l ∈ outer, governing?' l = governing? l) :
    (walk governing?' false none (outer ++ level :: inner)).override =
      (walk governing?' false (some handed) inner).override := by
  have above : AllOpen governing?' outer := by
    intro l member g speaks
    exact h.above l member g (kept l member ▸ speaks)
  obtain ⟨handedOn, result⟩ := walk_allOpen (level :: inner) above none
  obtain ⟨g, speaks, opened, rfl⟩ := h.opened
  rw [result, walk_open _ _ speaks opened]

end Resolution

namespace Engine

/-- A denial added to a row opens access: no level above is closed, the denial of a higher role
had closed the level, the added one speaks there now and leaves it open, and what holds further
down is enough for access. -/
structure Reopens (e : Engine) (user : User) (pair : Pair) (s : Snapshot) (key : RowKey)
    (allowsChildren : Bool) (rule : Override) (t : Target) (outer inner : List Level) : Prop where
  passes : e.Passes s t (outer ++ ⟨key.kind, key.entityId⟩ :: inner)
  above : Resolution.AllOpen (e.speaker user pair s) outer
  closed : ∃ g, e.speaker user pair s ⟨key.kind, key.entityId⟩ = some g ∧ g.inherited = true ∧
    g.row.allowsChildren = false
  opened : (s.rowWith key allowsChildren pair rule).allowsChildren = true ∧
    ∃ inherited,
      e.speaker user pair (s.addRule key allowsChildren pair rule) ⟨key.kind, key.entityId⟩ =
        some ⟨s.rowWith key allowsChildren pair rule, rule, inherited⟩
  admits : e.Admits user pair (some t)
    (Resolution.walk (e.speaker user pair (s.addRule key allowsChildren pair rule)) false
      (some rule) inner).override

variable {e : Engine} {user : User} {pair : Pair} {s : Snapshot} {key : RowKey}
  {allowsChildren : Bool} {rule : Override}

theorem passes_addRule {t : Target} {levels : List Level} :
    e.Passes (s.addRule key allowsChildren pair rule) t levels ↔ e.Passes s t levels :=
  passes_congr fun _ _ => Snapshot.levels_congr (by rfl) (fun _ => by rfl) (fun _ => by rfl) _ _ _ _

theorem ordinary_of_denied {target : Option Target} {snapshot : Option Snapshot}
    (denied : (e.decide user pair target snapshot).isAllowed = false) :
    user.role ≠ Role.systemAdminId := by
  intro admin
  simp [Engine.decide, deliberate, admin, letThrough, Decision.allow] at denied

theorem denialsAdded (silent : ∀ row, s.rows.get? key = some row → row.ruleFor pair = none)
    (denies : rule.isDeny = true) :
    Resolution.DenialsAdded Override.isDeny (e.speaker user pair s)
      (e.speaker user pair (s.addRule key allowsChildren pair rule)) := by
  intro level
  rcases Snapshot.governing?_addRule e.roles user.role allowsChildren rule silent level with
    kept | ⟨-, ⟨inherited, speaks⟩, before⟩
  · exact .inl kept
  · exact .inr ⟨_, speaks, denies, fun g h => (before g h).2⟩

/-- A level that was opened again is that of the new rule. -/
theorem reopens_of_reopenedAt {t : Target} {outer inner : List Level} {level : Level}
    {handed : Override}
    (silent : ∀ row, s.rows.get? key = some row → row.ruleFor pair = none)
    (passes : e.Passes s t (outer ++ level :: inner))
    (reopened : Resolution.ReopenedAt (e.speaker user pair s)
      (e.speaker user pair (s.addRule key allowsChildren pair rule)) outer level handed)
    (admits : e.Admits user pair (some t)
      (Resolution.walk (e.speaker user pair (s.addRule key allowsChildren pair rule)) false
        (some handed) inner).override) :
    e.Reopens user pair s key allowsChildren rule t outer inner := by
  obtain ⟨above, ⟨g, before, shut⟩, ⟨g', speaks, open_, rfl⟩⟩ := reopened
  rcases Snapshot.governing?_addRule e.roles user.role allowsChildren rule silent level with
    kept | ⟨rfl, ⟨inherited, new⟩, denied⟩
  · have same : some g' = some g := speaks.symm.trans (kept.trans before)
    cases same
    simp [shut] at open_
  · cases speaks.symm.trans new
    exact ⟨passes, above, ⟨g, before, (denied g before).1, shut⟩, ⟨open_, inherited, new⟩, admits⟩

theorem Reopens.reopenedAt {t : Target} {outer inner : List Level}
    (h : e.Reopens user pair s key allowsChildren rule t outer inner) :
    Resolution.ReopenedAt (e.speaker user pair s)
      (e.speaker user pair (s.addRule key allowsChildren pair rule)) outer
      ⟨key.kind, key.entityId⟩ rule := by
  obtain ⟨g, before, -, shut⟩ := h.closed
  obtain ⟨open_, inherited, speaks⟩ := h.opened
  exact ⟨h.above, ⟨g, before, shut⟩, ⟨_, speaks, open_, rfl⟩⟩

/-- The level of the new rule stands once on the way, since it is closed and none above it is. -/
theorem Reopens.kept {t : Target} {outer inner : List Level}
    (h : e.Reopens user pair s key allowsChildren rule t outer inner) :
    ∀ level ∈ outer, e.speaker user pair (s.addRule key allowsChildren pair rule) level =
      e.speaker user pair s level := by
  intro level member
  obtain ⟨g, before, -, shut⟩ := h.closed
  refine Snapshot.governing?_addRule_of_ne ?_
  rintro rfl
  simp [h.above _ member g before] at shut

/-- What is denied stays denied when a silent row gets a denial, unless that opens a level which the
denial of a higher role had closed. -/
theorem decide_addDenial_iff (e : Engine) (user : User) (pair : Pair) (target : Option Target)
    (s : Snapshot) (key : RowKey) (allowsChildren : Bool) (rule : Override)
    (silent : ∀ row, s.rows.get? key = some row → row.ruleFor pair = none)
    (denies : rule.isDeny = true)
    (denied : (e.decide user pair target (some s)).isAllowed = false) :
    (e.decide user pair target (some (s.addRule key allowsChildren pair rule))).isAllowed =
        false ↔
      ¬ ∃ t outer inner, target = some t ∧
        e.Reopens user pair s key allowsChildren rule t outer inner := by
  have ordinary := ordinary_of_denied denied
  have refused : ¬ ∃ o, e.Consulted user pair (some s) target o ∧ e.Admits user pair target o := by
    rw [← decide_isAllowed_iff ordinary, denied]
    exact Bool.false_ne_true
  rw [← Bool.not_eq_true, decide_isAllowed_iff ordinary, not_congr]
  constructor
  · rintro ⟨o, consulted, admits⟩
    have consulted' := consulted
    cases consulted with
    | list => exact absurd ⟨_, .list, admits⟩ refused
    | outside valid homeless => exact absurd ⟨_, .outside valid homeless, admits⟩ refused
    | @inside t _ _ _ valid named =>
        obtain ⟨levels, passes, result⟩ := consulted'.passes named
        have passes := passes_addRule.mp passes
        rw [result] at admits
        rcases Resolution.walk_follows (denialsAdded silent denies) levels none none (.inl rfl) with
          same | ⟨o, deny, isDeny⟩ | ⟨outer, level, inner, handed, rfl, reopened, result⟩
        · rw [same] at admits
          exact absurd ⟨_, passes.consulted valid, admits⟩ refused
        · exact absurd ((isDeny_iff o).mp isDeny) (admits.granted.notDenied o deny)
        · rw [result] at admits
          exact ⟨t, outer, inner, rfl, reopens_of_reopenedAt silent passes reopened admits⟩
  · rintro ⟨t, outer, inner, rfl, reopens⟩
    have valid : t.validate = .ok () := by
      obtain ⟨scope, seen, -⟩ := reopens.admits.visible t rfl
      exact User.valid_of_resolveReach seen
    refine ⟨_, (passes_addRule.mpr reopens.passes).consulted valid, ?_⟩
    rw [reopens.reopenedAt.walk inner reopens.kept]
    exact reopens.admits

end Engine

namespace Sample

def viewerRow : RowKey := ⟨.organization, "org-1", "viewer"⟩

end Sample

/-- A denial for viewers themselves, in an open row, undoes the final denial for members. -/
theorem Engine.addDenial_opens :
    let s := Sample.snapshot [Sample.orgRule, Sample.teamRule]
    let s' := s.addRule Sample.viewerRow true Sample.deletion .denying
    s.rows.get? Sample.viewerRow = none ∧
      (Sample.engine.decide Sample.viewer Sample.deletion (some Sample.teamTask)
        (some s)).isAllowed = false ∧
      (Sample.engine.decide Sample.viewer Sample.deletion (some Sample.teamTask)
        (some s')).isAllowed = true := by
  decide

/-- In a closed row the same denial keeps access denied. -/
theorem Engine.decide_addDenial_closed :
    let s := Sample.snapshot [Sample.orgRule, Sample.teamRule]
    (∀ row, s.rows.get? Sample.viewerRow = some row → row.ruleFor Sample.deletion = none) ∧
      Override.denying.isDeny = true ∧
      (Sample.engine.decide Sample.viewer Sample.deletion (some Sample.teamTask)
        (some s)).isAllowed = false ∧
      ¬ ∃ t outer inner, some Sample.teamTask = some t ∧
        Sample.engine.Reopens Sample.viewer Sample.deletion s Sample.viewerRow false .denying t
          outer inner := by
  intro s
  have absent : s.rows.get? Sample.viewerRow = none := by decide
  have silent : ∀ row, s.rows.get? Sample.viewerRow = some row →
      row.ruleFor Sample.deletion = none := by
    intro row held
    simp [absent] at held
  have denied : (Sample.engine.decide Sample.viewer Sample.deletion (some Sample.teamTask)
      (some s)).isAllowed = false := by decide
  refine ⟨silent, rfl, denied, ?_⟩
  exact (decide_addDenial_iff _ _ _ _ _ _ _ _ silent rfl denied).mp (by decide)

end TenantAccess
