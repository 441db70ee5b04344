import TenantAccess.Proofs.Decision.Passage
import TenantAccess.Proofs.Hierarchy.Chains
import TenantAccess.Proofs.Hierarchy.RowOrder

/-! # Answers and the order of rows

Two snapshots that are equal as mappings should get equal answers. They do unless higher roles of
one rank deny at the same level with different words: then the first of them in the order of the
rows speaks, its row closes the level or leaves it open, and what holds further down may differ.
`settled_where_firm` says that this is the only way in which the order of rows can matter, and that it does
matter wherever some choice among such denials comes to another answer.
-/

namespace TenantAccess

/-- An answer is the same on every snapshot that equals a given one. -/
def Snapshot.Settled {α : Type} (s : Snapshot) (answer : Snapshot → α) : Prop :=
  ∀ s', s.alike s' = true → answer s' = answer s

namespace Engine

/-- The levels of a place leave open what is answered: among those who may speak there, some choice
comes to another answer than the one that the order of the rows makes. -/
def Wavers {α : Type} (e : Engine) (user : User) (pair : Pair) (s : Snapshot) (levels : List Level)
    (answer : Option Override → α) : Prop :=
  ∃ pick, s.Selects e.roles user.role (.ofPair pair) pick ∧
    answer (Resolution.walk pick false none levels).override ≠
      answer (Resolution.walk (e.speaker user pair s) false none levels).override

variable {α : Type} {e : Engine} {user : User} {pair : Pair} {s s' : Snapshot}
  {levels : List Level} {answer : Option Override → α} {target : Option Target}

/-- Equal snapshots are answered alike where nothing wavers. -/
theorem answer_of_alike (alike : s.alike s' = true) (firm : ¬ e.Wavers user pair s levels answer) :
    answer (Resolution.walk (e.speaker user pair s') false none levels).override =
      answer (Resolution.walk (e.speaker user pair s) false none levels).override := by
  -- What speaks in the other snapshot may speak in this one, level by level.
  choose pick selects words using fun level => Snapshot.maySpeak_of_same
    (Snapshot.gist_of_alike alike pair) e.roles user.role level
  rw [speaker, ← Resolution.override_congr words]
  exact Classical.not_not.mp fun differs => firm ⟨pick, selects, differs⟩

/-- Where something wavers, an equal snapshot is answered otherwise. -/
theorem exists_of_wavers (self : s.alike s = true) (wavers : e.Wavers user pair s levels answer) :
    ∃ s', s.alike s' = true ∧
      answer (Resolution.walk (e.speaker user pair s') false none levels).override ≠
        answer (Resolution.walk (e.speaker user pair s) false none levels).override := by
  obtain ⟨pick, selects, differs⟩ := wavers
  refine ⟨s.favouring pick, Snapshot.alike_favouring self pick, ?_⟩
  rwa [speaker, Snapshot.governing?_favouring selects]

theorem levels_of_alike (e : Engine) (alike : s.alike s' = true) (organizationId : String)
    (teamId : Option String) :
    s'.levels e.maxDepth organizationId none teamId =
      s.levels e.maxDepth organizationId none teamId :=
  Snapshot.levels_of_alike alike ..

/-- The override that holds at a place, if the place can be found. -/
def overrideAt (e : Engine) (user : User) (pair : Pair) (organizationId : String)
    (departmentId teamId : Option String) (s : Snapshot) : Except Fault (Option Override) :=
  (s.resolve e.roles e.maxDepth organizationId departmentId teamId user.role pair).map (·.override)

theorem overrideAt_eq (e : Engine) (user : User) (pair : Pair) (organizationId : String)
    (departmentId teamId : Option String) (s : Snapshot) :
    e.overrideAt user pair organizationId departmentId teamId s =
      (s.levels e.maxDepth organizationId departmentId teamId).map fun levels =>
        (Resolution.walk (e.speaker user pair s) false none levels).override := by
  unfold overrideAt Snapshot.resolve
  cases s.levels e.maxDepth organizationId departmentId teamId <;> rfl

/-- Nothing wavers at a place. -/
def FirmAt (e : Engine) (user : User) (pair : Pair) (s : Snapshot) (organizationId : String)
    (departmentId teamId : Option String) : Prop :=
  ∀ levels, s.levels e.maxDepth organizationId departmentId teamId = .ok levels →
    ¬ e.Wavers user pair s levels id

/-- Nothing wavers that a decision on a target depends on. -/
def FirmFor (e : Engine) (user : User) (pair : Pair) (s : Snapshot) (target : Option Target) :
    Prop :=
  ∀ t levels, target = some t → user.role ≠ Role.systemAdminId → t.validate = .ok () →
    e.Passes s t levels → ¬ e.Wavers user pair s levels (e.decideGiven user pair target)

theorem overrideAt_settled {organizationId : String} {departmentId teamId : Option String}
    (firm : e.FirmAt user pair s organizationId departmentId teamId) :
    s.Settled (e.overrideAt user pair organizationId departmentId teamId) := by
  intro s' alike
  rw [overrideAt_eq, overrideAt_eq, Snapshot.levels_of_alike alike]
  cases found : s.levels e.maxDepth organizationId departmentId teamId with
  | error f => rfl
  | ok levels => exact congrArg Except.ok (answer_of_alike alike (firm levels found))

theorem firmAt_of_settled {organizationId : String} {departmentId teamId : Option String}
    (self : s.alike s = true)
    (settled : s.Settled (e.overrideAt user pair organizationId departmentId teamId)) :
    e.FirmAt user pair s organizationId departmentId teamId := by
  intro levels found wavers
  obtain ⟨s', alike, differs⟩ := exists_of_wavers self wavers
  have same := settled s' alike
  rw [overrideAt_eq, overrideAt_eq, Snapshot.levels_of_alike alike, found] at same
  exact differs (Except.ok.inj same)

theorem decide_settled (firm : e.FirmFor user pair s target) :
    s.Settled (fun s => e.decide user pair target (some s)) := by
  intro s' alike
  rcases decide_eq_or_passes user pair target (e.levels_of_alike alike) with
    same | ⟨t, levels, rfl, ordinary, valid, passes⟩
  · exact same
  · have passes' := (passes_congr (e.levels_of_alike alike)).mpr passes
    simp only [decide_of_passes pair ordinary valid passes,
      decide_of_passes pair ordinary valid passes']
    exact answer_of_alike alike (firm t levels rfl ordinary valid passes)

theorem firmFor_of_settled (self : s.alike s = true)
    (settled : s.Settled (fun s => e.decide user pair target (some s))) :
    e.FirmFor user pair s target := by
  rintro t levels rfl ordinary valid passes wavers
  obtain ⟨s', alike, differs⟩ := exists_of_wavers self wavers
  have passes' := (passes_congr (e.levels_of_alike alike)).mpr passes
  have same := settled s' alike
  simp only [decide_of_passes pair ordinary valid passes,
    decide_of_passes pair ordinary valid passes'] at same
  exact differs same

/-- Equal snapshots get equal answers where no choice among those who may speak at a level comes to
another one. Where some choice does, there is an equal snapshot that is answered otherwise; a
snapshot equals itself unless its compliance settings hold a double that is no number. -/
theorem settled_where_firm (e : Engine) (user : User) (pair : Pair) (s : Snapshot) :
    (∀ organizationId departmentId teamId,
      let override := e.overrideAt user pair organizationId departmentId teamId
      let firm := e.FirmAt user pair s organizationId departmentId teamId
      (firm → s.Settled override) ∧ (s.alike s = true → s.Settled override → firm)) ∧
    ∀ target,
      let decision := fun s => e.decide user pair target (some s)
      let firm := e.FirmFor user pair s target
      (firm → s.Settled decision) ∧ (s.alike s = true → s.Settled decision → firm) :=
  ⟨fun _ _ _ => ⟨overrideAt_settled, firmAt_of_settled⟩,
    fun _ => ⟨decide_settled, firmFor_of_settled⟩⟩

end Engine

namespace Sample

/-- Members and auditors share a rank. -/
def tiedEngine : Engine where
  roles := Table.ofList [("viewer", .ofGrants "viewer" "Viewer" 10 .empty),
    ("member", .ofGrants "member" "Member" 20 .empty),
    ("auditor", .ofGrants "auditor" "Auditor" 20 .empty)]
  plans := engine.plans
  maxDepth := engine.maxDepth

/-- The organization forbids auditors to delete, and leaves it to its teams to differ. -/
def auditorRule : Row := row .organization "org-1" "auditor" .denying true

def memberFirst : Snapshot := snapshot [orgRule, auditorRule, teamRule]

def auditorFirst : Snapshot := snapshot [auditorRule, orgRule, teamRule]

end Sample

/-- Listed first, the closed denial for members binds viewers for good; listed second, it is not
looked at, and the open denial for auditors gives way to what the team allows. -/
theorem Engine.rowOrder_decides :
    Sample.memberFirst.alike Sample.auditorFirst = true ∧
      Sample.tiedEngine.overrideAt Sample.viewer Sample.deletion "org-1" none (some "t-1")
        Sample.memberFirst = .ok (some .denying) ∧
      Sample.tiedEngine.overrideAt Sample.viewer Sample.deletion "org-1" none (some "t-1")
        Sample.auditorFirst = .ok (some (.allowing (some .team) none)) ∧
      (Sample.tiedEngine.decide Sample.viewer Sample.deletion (some Sample.teamTask)
        (some Sample.memberFirst)).isAllowed = false ∧
      (Sample.tiedEngine.decide Sample.viewer Sample.deletion (some Sample.teamTask)
        (some Sample.auditorFirst)).isAllowed = true :=
  ⟨by decide, by rfl, by rfl, by decide, by decide⟩

/-- The decision on the tied snapshot depends on a choice that the order of its rows makes. -/
theorem Engine.settled_where_firm_tied :
    Sample.memberFirst.alike Sample.memberFirst = true ∧
      ¬ Sample.tiedEngine.FirmFor Sample.viewer Sample.deletion Sample.memberFirst
        (some Sample.teamTask) := by
  refine ⟨by decide, fun firm => ?_⟩
  have settled := ((settled_where_firm ..).2 _).1 firm
  have same := settled Sample.auditorFirst (by decide)
  exact absurd (congrArg Decision.isAllowed same) (by decide)

/-! ## Ranks apart -/

namespace Engine

variable {e : Engine} {s : Snapshot}

/-- Where no two roles share a rank, nothing wavers. -/
theorem not_wavers_of_ranksApart {α : Type} {answer : Option Override → α} {user : User}
    {pair : Pair} {levels : List Level} (apart : e.roles.RanksApart) (filed : s.Filed) :
    ¬ e.Wavers user pair s levels answer := by
  rintro ⟨pick, selects, differs⟩
  have same : e.speaker user pair s = pick :=
    funext fun level => Snapshot.governing?_of_maySpeak apart filed.row (selects level)
  exact differs (congrArg (fun speaker => answer (Resolution.walk speaker false none levels).override)
    same.symm)

/-- Where no two roles share a rank, equal snapshots get equal answers. -/
theorem settled_of_ranksApart (user : User) (pair : Pair) (apart : e.roles.RanksApart)
    (filed : s.Filed) :
    (∀ organizationId departmentId teamId,
      s.Settled (e.overrideAt user pair organizationId departmentId teamId)) ∧
      ∀ target, s.Settled fun s => e.decide user pair target (some s) :=
  ⟨fun _ _ _ => overrideAt_settled fun _ _ => not_wavers_of_ranksApart apart filed,
    fun _ => decide_settled fun _ _ _ _ _ _ => not_wavers_of_ranksApart apart filed⟩

end Engine

/-- Members rank above auditors, whose denial is then the nearer one for viewers. -/
def Sample.rankedEngine : Engine where
  roles := Table.ofList [("viewer", .ofGrants "viewer" "Viewer" 10 .empty),
    ("auditor", .ofGrants "auditor" "Auditor" 20 .empty),
    ("member", .ofGrants "member" "Member" 30 .empty)]
  plans := engine.plans
  maxDepth := engine.maxDepth

/-- The same two denials as before, of ranks apart: in whatever order the rows are listed, the open one
speaks, and what the team allows holds. -/
theorem Engine.settled_of_ranksApart_ranked :
    Sample.rankedEngine.roles.RanksApart ∧ Sample.memberFirst.Filed ∧
      Sample.rankedEngine.FirmFor Sample.viewer Sample.deletion Sample.memberFirst
        (some Sample.teamTask) ∧
      ∀ s', Sample.memberFirst.alike s' = true →
        Sample.rankedEngine.overrideAt Sample.viewer Sample.deletion "org-1" none (some "t-1") s' =
          .ok (some (.allowing (some .team) none)) ∧
        (Sample.rankedEngine.decide Sample.viewer Sample.deletion (some Sample.teamTask)
          (some s')).isAllowed = true := by
  have apart : Sample.rankedEngine.roles.RanksApart := by
    unfold RoleTable.RanksApart
    decide
  have filed : Sample.memberFirst.Filed := Snapshot.filed_gather ..
  obtain ⟨overrides, decisions⟩ :=
    settled_of_ranksApart Sample.viewer Sample.deletion apart filed
  refine ⟨apart, filed, fun _ _ _ _ _ _ => not_wavers_of_ranksApart apart filed, ?_⟩
  intro s' alike
  have override := overrides "org-1" none (some "t-1") s' alike
  have decision := decisions (some Sample.teamTask) s' alike
  refine ⟨override.trans (by rfl), ?_⟩
  rw [congrArg Decision.isAllowed decision]
  decide

/-- The standard roles have ranks of their own. -/
theorem Role.standard_ranksApart {roles : RoleTable}
    (built : RoleTable.build Role.standard = .ok roles) : roles.RanksApart := by
  have ranks : (RoleTable.build Role.standard).map (fun t => t.values.map (·.level)) =
      .ok [10, 20, 80, 100] := by rfl
  rw [built] at ranks
  have listed : roles.values.map (·.level) = [10, 20, 80, 100] := Except.ok.inj ranks
  rw [RoleTable.RanksApart, listed]
  decide

end TenantAccess
