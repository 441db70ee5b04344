import TenantAccess.Engine
import TenantAccess.Proofs.Hierarchy.Reading

/-! # Vetted drafts

Callers bring drafts, and a decision on a draft reads the rules as they were written. Where the
rules that were written are those of the rows, every rule is an override, nothing stumbles, and
the decision is the engine's decision on the snapshot.
-/

namespace TenantAccess

namespace RuleKey

theorem same_ofPair (p q : Pair) : (ofPair p).same (ofPair q) = decide (p = q) := by
  obtain ⟨r, a⟩ := p
  obtain ⟨s, b⟩ := q
  by_cases equal : (⟨r, a⟩ : Pair) = ⟨s, b⟩
  · cases equal
    simp [same, ofPair]
  · have differ : PairKey.ofOffered (.member r) (.member a) ≠ .ofOffered (.member s) (.member b) :=
      fun h => equal (by simpa [PairKey.ofOffered, Offered.keyPart] using h)
    simp [same, ofPair, equal, differ]

end RuleKey

namespace Submission

/-- Submitted again, the rules of a row are found under their pairs. -/
theorem rule?_ofRules (rules : RuleTable) (pair : Pair) :
    (ofRules rules).rule? (.ofPair pair) = (rules.get? pair).map .override := by
  have go (rows : List (Pair × Override)) :
      rule? (rows.map fun row => (.ofPair row.1, .override row.2)) (.ofPair pair) =
        (Table.seek pair rows).map .override := by
    induction rows with
    | nil => rfl
    | cons row rest ih =>
        obtain ⟨p, o⟩ := row
        by_cases here : p = pair
        · subst here
          simp [rule?, Table.seek, RuleKey.same_ofPair, OfferedRule.given?]
        · simp only [rule?, List.map_cons, List.find?_cons, RuleKey.same_ofPair, here,
            decide_false, Table.seek, if_false] at ih ⊢
          exact ih
  exact go rules.rows

end Submission

namespace Draft

/-- What was written in every row is what the row holds. -/
def Vetted (d : Draft) : Prop :=
  ∀ row ∈ d.snapshot.rows.values, d.writtenOf row = Submission.ofRules row.rules

variable {d : Draft} {roles : RoleTable} {role : String} {pair : Pair}

theorem Vetted.stands (vetted : d.Vetted) (pair : Pair) :
    (Reading.ofPair pair).Stands .override (d.reading (.ofPair pair)) d.snapshot.rows.values where
  rule? row member := by
    simp only [reading, vetted row member, Submission.rule?_ofRules]
    rfl
  isDeny _ := rfl

theorem Vetted.stumble?_eq_none (vetted : d.Vetted) (level : Level) :
    d.stumble? roles role (.ofPair pair) level = none := by
  unfold stumble?
  split
  · rfl
  · cases RoleTable.levelOf? roles role with
    | none => rfl
    | some roleLevel =>
        refine List.findSome?_eq_none_iff.mpr fun row found => ?_
        have rule := (vetted.stands pair).rule? row (Snapshot.mem_values_of_rowsAt found)
        simp only [reading] at rule
        simp only [unreadable?, rule]
        cases Snapshot.higherRank? roles role roleLevel row with
        | none => rfl
        | some rank => cases (Reading.ofPair pair).rule? row <;> rfl

/-- The draft that writes out what the rows of a snapshot hold. -/
def ofSnapshot (s : Snapshot) : Draft := ⟨s, s.rows.mapValues fun _ row => .ofRules row.rules⟩

theorem vetted_ofSnapshot {s : Snapshot}
    (filed : ∀ key row, s.rows.get? key = some row → row.key = key) : (ofSnapshot s).Vetted := by
  intro row member
  obtain ⟨⟨key, row⟩, found, rfl⟩ := List.mem_map.mp member
  have held : s.rows.get? key = some row := Table.get?_of_mem_rows found
  simp only [writtenOf, ofSnapshot, Table.get?_mapValues, filed key row held, held,
    Option.map_some, Option.getD_some]

/-- The walk through a vetted draft is the walk through its snapshot. -/
theorem Vetted.resolve (vetted : d.Vetted) (maxDepth : Int) (organizationId : String)
    (departmentId teamId : Option String) :
    d.resolve roles maxDepth organizationId departmentId teamId role (.ofPair pair) =
      (d.snapshot.resolve roles maxDepth organizationId departmentId teamId role pair).map
        fun r => ⟨r.map .override, none⟩ := by
  unfold Draft.resolve Snapshot.resolve
  cases d.snapshot.levels maxDepth organizationId departmentId teamId with
  | error f => rfl
  | ok levels =>
      have stumbles (level : Level) : d.stumble? roles role (.ofPair pair) level = none :=
        vetted.stumble?_eq_none level
      have all : levels.takeWhile (fun _ => true) = levels := by
        induction levels with
        | nil => rfl
        | cons level inner ih => rw [List.takeWhile_cons_of_pos rfl, ih]
      have never : levels.findSome? (d.stumble? roles role (.ofPair pair)) = none :=
        List.findSome?_eq_none_iff.mpr fun level _ => stumbles level
      have speaks (level : Level) :
          d.snapshot.governing? roles role (d.reading (.ofPair pair)) level =
            (d.snapshot.governing? roles role (.ofPair pair) level).map (.map .override) :=
        Snapshot.governing?_map (vetted.stands pair) level
      simp only [bind, Except.bind, pure, Except.pure, Except.map, stumbles, Option.isNone_none,
        all, never, ← Resolution.walk_map speaks, Option.map_none]

end Draft

namespace DraftResolution

theorem sound_of_override (r : Resolution Override) :
    sound ⟨r.map .override, none⟩ = .ok r := by
  obtain ⟨override, steps⟩ := r
  cases override <;> rfl

end DraftResolution

namespace Engine

theorem consult_map {ρ σ : Type} (f : ρ → σ) (target : Option Target)
    (walk? : Option (String → Option String → Except Fault ρ)) :
    consult target (walk?.map fun walk organizationId teamId =>
        (walk organizationId teamId).map f) =
      (consult target walk?).map (Option.map f) := by
  cases target with
  | none => rfl
  | some t =>
      simp only [consult, bind, Except.bind]
      cases t.validate with
      | error fault => rfl
      | ok valid =>
          cases given? t.organizationId with
          | none => rfl
          | some organizationId =>
              cases walk? with
              | none => rfl
              | some walk =>
                  simp only [Option.map_some]
                  cases walk organizationId t.teamId <;> rfl

/-- A decision on a vetted draft is the decision on its snapshot, and nothing stumbles. -/
theorem deliberateOnDraft_of_vetted (e : Engine) (user : User) (pair : Pair)
    (target : Option Target) {draft : Option Draft} (vetted : ∀ d, draft = some d → d.Vetted) :
    e.deliberateOnDraft user pair target draft =
      .quiet (.ok (e.deliberate user pair target (draft.map (·.snapshot)))) := by
  unfold deliberateOnDraft deliberate
  split
  · rfl
  · have walks :
        (draft.map fun d organizationId teamId =>
            d.resolve e.roles e.maxDepth organizationId none teamId user.role
              (.pair (.member pair.resource) (.member pair.action))) =
          ((draft.map (·.snapshot)).map fun s organizationId teamId =>
            s.resolve e.roles e.maxDepth organizationId none teamId user.role pair).map
              fun walk organizationId teamId => (walk organizationId teamId).map
                fun r => (⟨r.map .override, none⟩ : DraftResolution) := by
      cases draft with
      | none => rfl
      | some d =>
          simp only [Option.map_some, Option.some.injEq]
          funext organizationId teamId
          exact (vetted d rfl).resolve e.maxDepth organizationId none teamId
    simp only [walks, consult_map, overrideFor]
    cases consult target _ with
    | error f => rfl
    | ok found =>
        cases found with
        | none => rfl
        | some r => simp only [Except.map, Option.map_some, DraftResolution.sound_of_override]

end Engine

namespace Policy

variable {registry : Registry} {roles : RoleTable}

theorem answer_report (user : User) (pair : Pair) (d : Deliberation) :
    (report user pair d).answer registry = .ok d.decision := rfl

/-- The system administrator is decided without the role table, as with it. -/
theorem rolesFor_suffices (p : Policy) (user : User) (pair : Pair) (target : Option Target)
    (snapshot : Option Snapshot) (loaded : Registry.table.answer registry = .ok roles) :
    ∃ given, (rolesFor user).answer registry = .ok given ∧
      (p.engine given).deliberate user pair target snapshot =
        (p.engine roles).deliberate user pair target snapshot := by
  unfold rolesFor
  split
  · next admin => exact ⟨.empty, rfl, by simp only [Engine.deliberate, admin, if_true]⟩
  · exact ⟨roles, loaded, rfl⟩

theorem answer_decidePair (p : Policy) (user : User) (pair : Pair) (target : Option Target)
    (snapshot : Option Snapshot) (loaded : Registry.table.answer registry = .ok roles) :
    (p.decidePair user pair target snapshot).answer registry =
      .ok ((p.engine roles).decide user pair target snapshot) := by
  obtain ⟨given, answered, same⟩ := p.rolesFor_suffices user pair target snapshot loaded
  simp only [decidePair, Step.answer_bind, answered, answer_report, same]
  rfl

/-- What a caller who asks about a member pair is told, once the role table is there. -/
theorem answer_decide (p : Policy) (user : User) (pair : Pair) (target : Option Target)
    {draft : Option Draft} (vetted : ∀ d, draft = some d → d.Vetted)
    (loaded : Registry.table.answer registry = .ok roles) :
    (p.decide user (.member pair.resource) (.member pair.action) target draft).answer registry =
      .ok ((p.engine roles).decide user pair target (draft.map (·.snapshot))) := by
  have member : Entitlements.checkPair (.member pair.resource) (.member pair.action) = .ok pair :=
    rfl
  obtain ⟨given, answered, same⟩ := p.rolesFor_suffices user pair target (draft.map (·.snapshot)) loaded
  simp only [decide, member, Step.answer_bind, answered,
    Engine.deliberateOnDraft_of_vetted _ _ _ _ vetted, Logged.quiet, answer_report, same]
  rfl

end Policy

end TenantAccess
