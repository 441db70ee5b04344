import TenantAccess.Proofs.Decision.Conditions
import TenantAccess.Proofs.Hierarchy.Chains
import TenantAccess.Proofs.Hierarchy.Walk

/-! # A department beside a team

Whoever asks about a team may name a department as well. A team that has a department of its own is not
moved by this: either the department is the team's, and the answer is the one without it, or nothing is
answered. A team that has none takes the department it is given, as if that were on record. In both cases
the departments that are heard are those from the given one upwards.
-/

namespace TenantAccess

namespace Snapshot

variable {s : Snapshot} {roles : RoleTable} {maxDepth : Int} {organizationId teamId departmentId : String}
  {team : Team} {role : String} {pair : Pair}

/-- The snapshot with a department on record for a team, unless the team has one. -/
def stationed (s : Snapshot) (teamId departmentId : String) : Snapshot :=
  { s with teams := s.teams.mapValues fun id team =>
      if id = teamId then { team with departmentId := team.departmentId.or (some departmentId) }
      else team }

theorem climb_stationed (start : String) (room : Nat) (seen : List String) (below : List Department)
    (current : String) :
    (s.stationed teamId departmentId).climb start room seen below current =
      s.climb start room seen below current := by
  induction room generalizing seen below current with
  | zero => rw [climb, climb]
  | succ room ih =>
      rw [climb, climb]
      simp only [ih]
      rfl

theorem departmentLevels_stationed (place : Option String) :
    (s.stationed teamId departmentId).departmentLevels maxDepth place =
      s.departmentLevels maxDepth place := by
  cases place with
  | none => rfl
  | some id => rw [departmentLevels, departmentLevels, departmentChain, departmentChain, climb_stationed]

theorem standingIn_given (found : s.teams.get? teamId = some team) :
    s.standingIn organizationId (some departmentId) (some teamId) =
      if team.organizationId ≠ organizationId then .error (.teamOutside teamId)
      else if team.departmentId.isSome ∧ team.departmentId ≠ some departmentId then
        .error (.teamNotInDepartment teamId)
      else .ok (some departmentId) := by
  simp only [standingIn, Snapshot.team, found]
  rfl

theorem standingIn_own (found : s.teams.get? teamId = some team) :
    s.standingIn organizationId none (some teamId) =
      if team.organizationId ≠ organizationId then .error (.teamOutside teamId)
      else .ok team.departmentId := by
  simp only [standingIn, Snapshot.team, found]
  rfl

theorem get?_stationed (found : s.teams.get? teamId = some team) :
    (s.stationed teamId departmentId).teams.get? teamId =
      some { team with departmentId := team.departmentId.or (some departmentId) } := by
  rw [stationed, Table.get?_mapValues, found, Option.map_some, if_pos rfl]

/-- What is asked of the hierarchy depends on the department and the team only through where they stand. -/
theorem resolve_of_standingIn {place place' team? : Option String}
    (same : s.standingIn organizationId place team? = s.standingIn organizationId place' team?) :
    s.resolve roles maxDepth organizationId place team? role pair =
      s.resolve roles maxDepth organizationId place' team? role pair := by
  simp only [resolve, levels, same]

/-- The team's own department, given beside the team, changes nothing. -/
theorem resolve_of_own (found : s.teams.get? teamId = some team)
    (own : team.departmentId = some departmentId) :
    s.resolve roles maxDepth organizationId (some departmentId) (some teamId) role pair =
      s.resolve roles maxDepth organizationId none (some teamId) role pair := by
  refine resolve_of_standingIn ?_
  rw [standingIn_given found, standingIn_own found, own]
  simp

/-- A team without a department takes the one it is given as if it were on record. -/
theorem resolve_of_none (found : s.teams.get? teamId = some team) (free : team.departmentId = none) :
    s.resolve roles maxDepth organizationId (some departmentId) (some teamId) role pair =
      (s.stationed teamId departmentId).resolve roles maxDepth organizationId none (some teamId) role
        pair := by
  have standing : (s.stationed teamId departmentId).standingIn organizationId none (some teamId) =
      s.standingIn organizationId (some departmentId) (some teamId) := by
    rw [standingIn_own (get?_stationed found), standingIn_given found, free]
    simp
  simp only [resolve, levels, standing, departmentLevels_stationed]
  rfl

/-- The fault of a question that does not get past the team. -/
theorem resolve_of_fault {place : Option String} {f : Fault}
    (fault : s.standingIn organizationId place (some teamId) = .error f) :
    s.resolve roles maxDepth organizationId place (some teamId) role pair =
      .error (if s.organization.id ≠ organizationId then .snapshotMismatch else f) := by
  simp only [resolve, levels, fault]
  split <;> rfl

theorem resolve_of_other {other : String} (found : s.teams.get? teamId = some team)
    (own : team.departmentId = some other) (differs : other ≠ departmentId) :
    s.resolve roles maxDepth organizationId (some departmentId) (some teamId) role pair =
      .error (if s.organization.id ≠ organizationId then .snapshotMismatch
        else if team.organizationId ≠ organizationId then .teamOutside teamId
        else .teamNotInDepartment teamId) := by
  refine resolve_of_fault ?_
  rw [standingIn_given found, own]
  simp only [Option.isSome_some, ne_eq, Option.some.injEq, differs, not_false_eq_true, and_self, if_true]
  split <;> rfl

theorem resolve_of_missing (missing : s.teams.get? teamId = none) (place : Option String) :
    s.resolve roles maxDepth organizationId place (some teamId) role pair =
      .error (if s.organization.id ≠ organizationId then .snapshotMismatch
        else .teamNotFound teamId) := by
  refine resolve_of_fault ?_
  simp only [standingIn, Snapshot.team, missing]
  rfl

/-- Where a team is asked about with a department, it is on record in that department or in none. -/
theorem standingIn_eq_ok {place : Option String}
    (stands : s.standingIn organizationId (some departmentId) (some teamId) = .ok place) :
    place = some departmentId ∧ ∃ team, s.teams.get? teamId = some team ∧
      (team.departmentId = some departmentId ∨ team.departmentId = none) := by
  cases found : s.teams.get? teamId with
  | none => simp [standingIn, Snapshot.team, found, bind, Except.bind] at stands
  | some team =>
      rw [standingIn_given found] at stands
      split at stands
      · cases stands
      split at stands
      · cases stands
      · next agrees =>
          cases stands
          refine ⟨rfl, team, rfl, ?_⟩
          cases own : team.departmentId with
          | none => exact .inr rfl
          | some other => exact .inl (by simpa [own] using agrees)

/-- The departments that are heard for a department beside a team are those of its lineage. -/
theorem levels_of_given {r : Resolution Override}
    (answered : s.resolve roles maxDepth organizationId (some departmentId) (some teamId) role pair =
      .ok r) :
    (∃ team, s.teams.get? teamId = some team ∧
      (team.departmentId = some departmentId ∨ team.departmentId = none)) ∧
    ∃ line, Lineage s.departments (some departmentId) line ∧
      r.steps.map (·.level) = ⟨.organization, organizationId⟩ ::
        ((s.inwards line).map (fun d => ⟨.department, d.id⟩) ++ [⟨.team, teamId⟩]) := by
  obtain ⟨levels, found, rfl⟩ := resolve_eq_ok_iff.mp answered
  rw [Resolution.map_level_steps]
  unfold Snapshot.levels at found
  split at found
  · cases found
  cases standing : s.standingIn organizationId (some departmentId) (some teamId) with
  | error f => simp [standing, bind, Except.bind] at found
  | ok place =>
      obtain ⟨rfl, onRecord⟩ := standingIn_eq_ok standing
      cases climbed : s.departmentChain maxDepth departmentId with
      | error f => simp [standing, departmentLevels, climbed, bind, Except.bind, Except.map] at found
      | ok chain =>
          simp only [standing, departmentLevels, climbed, bind, Except.bind, Except.map, pure,
            Except.pure, Except.ok.injEq] at found
          obtain ⟨line, lineage, -, -, rfl⟩ := departmentChain_eq_ok_iff.mp climbed
          exact ⟨onRecord, line, lineage, found.symm⟩

/-- A department given beside a team is checked against the team's own: if it is the same the answer is the
one without it, and if it is another there is none. A team without a department is answered as if the given
one were its own. Whoever is answered has heard the organization, the lineage of the given department and
the team, and no other department. -/
theorem resolve_given_department (s : Snapshot) (roles : RoleTable) (maxDepth : Int)
    (organizationId departmentId teamId role : String) (pair : Pair) :
    let given := s.resolve roles maxDepth organizationId (some departmentId) (some teamId) role pair
    (s.teams.get? teamId = none → given =
      .error (if s.organization.id ≠ organizationId then .snapshotMismatch
        else .teamNotFound teamId)) ∧
    (∀ team, s.teams.get? teamId = some team →
      (team.departmentId = some departmentId →
        given = s.resolve roles maxDepth organizationId none (some teamId) role pair) ∧
      (team.departmentId = none →
        given = (s.stationed teamId departmentId).resolve roles maxDepth organizationId none
          (some teamId) role pair) ∧
      ∀ other, team.departmentId = some other → other ≠ departmentId → given =
        .error (if s.organization.id ≠ organizationId then .snapshotMismatch
          else if team.organizationId ≠ organizationId then .teamOutside teamId
          else .teamNotInDepartment teamId)) ∧
    ∀ r, given = .ok r →
      (∃ team, s.teams.get? teamId = some team ∧
        (team.departmentId = some departmentId ∨ team.departmentId = none)) ∧
      ∃ line, Lineage s.departments (some departmentId) line ∧
        r.steps.map (·.level) = ⟨.organization, organizationId⟩ ::
          ((s.inwards line).map (fun d => ⟨.department, d.id⟩) ++ [⟨.team, teamId⟩]) := by
  intro given
  refine ⟨fun missing => resolve_of_missing missing _, fun team found => ⟨?_, ?_, ?_⟩, ?_⟩
  · exact resolve_of_own found
  · exact resolve_of_none found
  · exact fun other own differs => resolve_of_other found own differs
  · exact fun r answered => levels_of_given answered

end Snapshot

namespace Sample

/-- A department denies viewers what the team, which is in none, says nothing of. -/
def besideTeam : Snapshot :=
  .gather ⟨"org-1", "Org"⟩ [⟨"d-1", "org-1", none, "D", []⟩]
    [⟨"t-1", "org-1", some "d-1"⟩, ⟨"t-2", "org-1", none⟩] [row .department "d-1" "viewer" .denying true]

/-- What a viewer meets on the way to the team in the department. -/
def deniedWalk : Resolution Override where
  override := some .denying
  steps := [⟨⟨.organization, "org-1"⟩, .noRule, none, none, false⟩,
    ⟨⟨.department, "d-1"⟩, .applied, some "viewer", some 1, false⟩,
    ⟨⟨.team, "t-1"⟩, .noRule, none, none, false⟩]

end Sample

open Sample in
/-- A department given beside a team that has none is heard. -/
theorem Snapshot.given_department_heard :
    let ask (departmentId : Option String) :=
      besideTeam.resolve engine.roles 32 "org-1" departmentId (some "t-2") "viewer" deletion
    (ask (some "d-1")).map (·.override) = .ok (some .denying) ∧
      (ask none).map (·.override) = .ok none :=
  ⟨by rfl, by rfl⟩

open Sample in
/-- A team in a department is answered for it, and for no other department. -/
theorem Snapshot.given_department_checked :
    let ask (departmentId : Option String) (teamId : String) :=
      besideTeam.resolve engine.roles 32 "org-1" departmentId (some teamId) "viewer" deletion
    besideTeam.teams.get? "t-1" = some ⟨"t-1", "org-1", some "d-1"⟩ ∧
      ask (some "d-1") "t-1" = .ok deniedWalk ∧ ask none "t-1" = .ok deniedWalk ∧
      (∃ line, Lineage besideTeam.departments (some "d-1") line ∧
        deniedWalk.steps.map (·.level) = ⟨.organization, "org-1"⟩ ::
          ((besideTeam.inwards line).map (fun d => ⟨.department, d.id⟩) ++ [⟨.team, "t-1"⟩])) ∧
      ask (some "d-2") "t-1" = .error (.teamNotInDepartment "t-1") ∧
      ask (some "d-1") "t-3" = .error (.teamNotFound "t-3") := by
  intro ask
  have asked (departmentId teamId : String) := Snapshot.resolve_given_department besideTeam engine.roles
    32 "org-1" departmentId teamId "viewer" deletion
  have found : besideTeam.teams.get? "t-1" = some ⟨"t-1", "org-1", some "d-1"⟩ := by rfl
  have answered : ask (some "d-1") "t-1" = .ok deniedWalk := by rfl
  obtain ⟨-, own, heard⟩ := asked "d-1" "t-1"
  obtain ⟨-, other, -⟩ := asked "d-2" "t-1"
  obtain ⟨missing, -, -⟩ := asked "d-1" "t-3"
  have same : ask none "t-1" = .ok deniedWalk := ((own _ found).1 rfl).symm.trans answered
  have refused := (other _ found).2.2 "d-1" rfl (by decide)
  exact ⟨found, answered, same, (heard _ answered).2, refused, missing (by rfl)⟩

end TenantAccess
