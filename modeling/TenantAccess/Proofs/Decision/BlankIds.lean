import TenantAccess.Proofs.Decision.Passage

/-! # Blank identifiers

A target may name its team and its organization by an empty text, which is as good as no name: whether the
target is in order, whether there is an organization to ask and from how far away the target is seen come
out the same with the text left out. The one that does not ask whether it was given a name is the way
through the levels, which looks for a team called by the empty text. So a blank team is heard where an
organization is asked, and nowhere else.
-/

namespace TenantAccess

theorem given?_given? (id : Option String) : given? (given? id) = given? id := by
  simp [given?, Option.filter_filter]

theorem getD_given? (id : Option String) : (given? id).getD "" = id.getD "" := by
  cases id with
  | none => rfl
  | some text => by_cases blank : text = "" <;> simp [given?, Option.filter_some, blank]

theorem given?_of_ne {id : Option String} (told : id ≠ some "") : given? id = id := by
  cases id with
  | none => rfl
  | some text =>
      have named : text ≠ "" := fun blank => told (congrArg some blank)
      simp [given?, named]

namespace Target

/-- The target with the names that are empty texts left out. -/
def withoutBlanks (t : Target) : Target :=
  { t with teamId := given? t.teamId, organizationId := given? t.organizationId }

theorem validate_withoutBlanks (t : Target) : t.withoutBlanks.validate = t.validate := by
  simp only [validate, withoutBlanks, given?_given?]

end Target

theorem User.reachOf?_withoutBlanks (u : User) (t : Target) :
    u.reachOf? t.withoutBlanks = u.reachOf? t := by
  simp only [reachOf?, Target.withoutBlanks, getD_given?]

namespace Engine

variable {e : Engine} {user : User} {pair : Pair} {t : Target} {s : Snapshot}
  {snapshot : Option Snapshot}

theorem decideGiven_withoutBlanks (e : Engine) (user : User) (pair : Pair) (t : Target)
    (override : Option Override) :
    e.decideGiven user pair (some t.withoutBlanks) override =
      e.decideGiven user pair (some t) override := by
  simp only [decideGiven, decideReach, user.reachOf?_withoutBlanks]

theorem consult_withoutBlanks {ρ : Type} (t : Target)
    (walk? : Option (String → Option String → Except Fault ρ)) :
    consult (some t.withoutBlanks) walk? =
      consult (some t) (walk?.map fun walk organizationId teamId =>
        walk organizationId (given? teamId)) := by
  have named : given? t.withoutBlanks.organizationId = given? t.organizationId := given?_given? _
  simp only [consult, t.validate_withoutBlanks, named]
  cases walk? <;> rfl

/-- The snapshot is asked about the target, for the organization that it names. -/
structure Asks (user : User) (t : Target) (s : Snapshot) : Prop where
  ordinary : user.role ≠ Role.systemAdminId
  valid : t.validate = .ok ()
  named : given? t.organizationId = some s.organization.id

/-- A team named by an empty text is heard where a snapshot is asked: either there are no levels for it, or
what is said there makes another decision than what the organization says alone. -/
structure HearsBlank (e : Engine) (user : User) (pair : Pair) (t : Target) (s : Snapshot) : Prop where
  asks : Asks user t s
  blank : t.teamId = some ""
  tells : ∀ levels, s.levels e.maxDepth s.organization.id none (some "") = .ok levels →
    e.decideGiven user pair (some t)
        (Resolution.walk (e.speaker user pair s) false none levels).override ≠
      e.decideGiven user pair (some t)
        (Resolution.walk (e.speaker user pair s) false none [⟨.organization, s.organization.id⟩]).override

theorem resolve_of_foreign {roles : RoleTable} {maxDepth : Int} {organizationId role : String}
    {departmentId teamId : Option String} (foreign : s.organization.id ≠ organizationId) :
    s.resolve roles maxDepth organizationId departmentId teamId role pair = .error .snapshotMismatch := by
  simp only [Snapshot.resolve, Snapshot.levels, if_pos foreign]
  rfl

theorem levels_of_no_team (s : Snapshot) (maxDepth : Int) :
    s.levels maxDepth s.organization.id none none = .ok [⟨.organization, s.organization.id⟩] := by
  simp only [Snapshot.levels, ne_eq, not_true_eq_false, if_false]
  rfl

theorem code_decideGiven_ne (e : Engine) (user : User) (pair : Pair) (target : Option Target)
    (override : Option Override) :
    (e.decideGiven user pair target override).code ≠ some .resolutionError := by
  have ungranted : some DenialCode.insufficientRole ≠ some .resolutionError := by decide
  have excluded : some DenialCode.subscriptionTierTooLow ≠ some .resolutionError := by decide
  have unseen : some DenialCode.outOfScope ≠ some .resolutionError := by decide
  have allowed : (none : Option DenialCode) ≠ some .resolutionError := by decide
  simp only [decideGiven]
  split
  · exact ungranted
  split
  · exact ungranted
  split
  · exact excluded
  cases target with
  | none => exact allowed
  | some t =>
      simp only [decideReach]
      cases user.reachOf? t with
      | none => exact unseen
      | some scope =>
          simp only
          split
          · exact unseen
          · exact allowed

/-- With a blank team left out, the organization alone is heard. -/
theorem decide_of_asks (asks : Asks user t s) (blank : t.teamId = some "") :
    e.decide user pair (some t.withoutBlanks) (some s) = e.decideGiven user pair (some t)
      (Resolution.walk (e.speaker user pair s) false none
        [⟨.organization, s.organization.id⟩]).override := by
  have unteamed : t.withoutBlanks.teamId = none := by simp [Target.withoutBlanks, blank, given?]
  have passes : e.Passes s t.withoutBlanks [⟨.organization, s.organization.id⟩] := by
    refine .through ((given?_given? _).trans asks.named) ?_
    rw [unteamed, levels_of_no_team]
  have valid : t.withoutBlanks.validate = .ok () := t.validate_withoutBlanks.trans asks.valid
  rw [decide_of_passes pair asks.ordinary valid passes, decideGiven_withoutBlanks]

/-- Where no snapshot is asked, nor a team named by an empty text, there is nothing to leave out. -/
theorem decide_withoutBlanks_of_not
    (h : ¬ (t.teamId = some "" ∧ ∃ s, snapshot = some s ∧ Asks user t s)) :
    e.decide user pair (some t.withoutBlanks) snapshot = e.decide user pair (some t) snapshot := by
  by_cases ordinary : user.role = Role.systemAdminId
  · rw [decide_of_systemAdmin e pair _ _ ordinary, decide_of_systemAdmin e pair _ _ ordinary]
  have same : e.overrideFor user pair (some t.withoutBlanks) snapshot =
      e.overrideFor user pair (some t) snapshot := by
    rw [overrideFor, overrideFor, consult_withoutBlanks]
    cases snapshot with
    | none => rfl
    | some s =>
        simp only [Option.map_some]
        cases valid : t.validate with
        | error f => rw [consult_of_invalid _ valid, consult_of_invalid _ valid]
        | ok =>
            cases named : given? t.organizationId with
            | none => rw [consult_of_homeless _ valid named, consult_of_homeless _ valid named]
            | some organizationId =>
                rw [consult_of_named _ valid named, consult_of_named _ valid named]
                by_cases blank : t.teamId = some ""
                · have foreign : s.organization.id ≠ organizationId := by
                    rintro rfl
                    exact h ⟨blank, s, rfl, ordinary, valid, named⟩
                  rw [resolve_of_foreign foreign, resolve_of_foreign foreign]
                · rw [given?_of_ne blank]
  simp only [decide, deliberate, if_neg ordinary, same]
  cases e.overrideFor user pair (some t) snapshot with
  | error f => rfl
  | ok r => exact decideGiven_withoutBlanks e user pair t _

/-- Where a snapshot is asked about a target with a blank team, the decision is the one without the team
exactly if the team is not heard. -/
theorem decide_of_asks_iff (asks : Asks user t s) (blank : t.teamId = some "") :
    e.decide user pair (some t.withoutBlanks) (some s) = e.decide user pair (some t) (some s) ↔
      ¬ e.HearsBlank user pair t s := by
  rw [decide_of_asks asks blank]
  cases found : s.levels e.maxDepth s.organization.id none (some "") with
  | error f =>
      have unresolved : e.decide user pair (some t) (some s) = notResolved := by
        refine decide_of_not_consulted asks.ordinary ?_
        rintro ⟨o, consulted⟩
        obtain ⟨levels, ⟨named, found'⟩, -⟩ := consulted.passes asks.named
        cases asks.named.symm.trans named
        rw [blank, found] at found'
        cases found'
      rw [unresolved]
      refine iff_of_false ?_ (not_not_intro ⟨asks, blank, fun levels found' => ?_⟩)
      · intro same
        exact code_decideGiven_ne e user pair (some t) _ (congrArg Decision.code same)
      · cases found.symm.trans found'
  | ok levels =>
      have passes : e.Passes s t levels := .through asks.named (blank ▸ found)
      rw [decide_of_passes pair asks.ordinary asks.valid passes]
      constructor
      · intro same heard
        exact heard.tells levels found same.symm
      · intro unheard
        refine Classical.byContradiction fun differ => unheard ⟨asks, blank, fun levels' found' => ?_⟩
        cases found.symm.trans found'
        exact Ne.symm differ

/-- Whoever leaves out the names of a target that are empty texts is told the same, exactly where no blank
team is heard. -/
theorem decide_withoutBlanks_iff (e : Engine) (user : User) (pair : Pair) (target : Option Target)
    (snapshot : Option Snapshot) :
    e.decide user pair (target.map Target.withoutBlanks) snapshot =
        e.decide user pair target snapshot ↔
      ¬ ∃ t s, target = some t ∧ snapshot = some s ∧ e.HearsBlank user pair t s := by
  cases target with
  | none => simp
  | some t =>
      rw [Option.map_some]
      by_cases asked : t.teamId = some "" ∧ ∃ s, snapshot = some s ∧ Asks user t s
      · obtain ⟨blank, s, rfl, asks⟩ := asked
        rw [decide_of_asks_iff asks blank]
        refine not_congr ⟨fun heard => ⟨t, s, rfl, rfl, heard⟩, ?_⟩
        rintro ⟨_, _, ⟨⟩, ⟨⟩, heard⟩
        exact heard
      · refine iff_of_true (decide_withoutBlanks_of_not asked) ?_
        rintro ⟨_, s, ⟨⟩, held, heard⟩
        exact asked ⟨heard.blank, s, held, heard.asks⟩

end Engine

namespace Sample

/-- What the viewer owns in the organization, with an empty text for the team. -/
def unteamed : Target := ⟨"u-1", .personal, some "", some "org-1"⟩

/-- The organization lets viewers delete what is their own. -/
def ownRule : Row := row .organization "org-1" "viewer" (.allowing (some .own) none) true

end Sample

/-- An empty text for the team takes away what the organization gives. -/
theorem Engine.blank_team_hides :
    let s := Sample.snapshot [Sample.ownRule]
    Sample.unteamed.withoutBlanks = ⟨"u-1", .personal, none, some "org-1"⟩ ∧
      Sample.engine.decide Sample.viewer Sample.deletion (some Sample.unteamed) (some s) =
        .deny .resolutionError "Target could not be resolved" ∧
      (Sample.engine.decide Sample.viewer Sample.deletion (some Sample.unteamed.withoutBlanks)
        (some s)).isAllowed = true := by
  decide

end TenantAccess
