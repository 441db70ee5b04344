import TenantAccess.Hierarchy.Chain
import TenantAccess.Proofs.OrgTree.Lineage

/-! # Chains and lineages

The walk that reads a department chain off a snapshot stops at the first obstacle: a department that
it has met, one that is not there, one of another organization, or one beyond the bound. It comes
to its end exactly where the place has a lineage of departments of the organization within the
bound, and what it answers is that lineage, outermost first.
-/

namespace TenantAccess.Snapshot

variable {s : Snapshot} {start id : String} {place teamId : Option String} {line : List String}
  {below chain : List Department} {maxDepth : Int}

/-- What is filed under an identifier or a key bears it. -/
structure Filed (s : Snapshot) : Prop where
  department : ∀ id d, s.departments.get? id = some d → d.id = id
  team : ∀ id team, s.teams.get? id = some team → team.id = id
  row : ∀ key row, s.rows.get? key = some row → row.key = key

/-- Snapshots file records under what these bear. -/
theorem filed_gather (organization : Organization) (departments : List Department)
    (teams : List Team) (rows : List Row) :
    (gather organization departments teams rows).Filed where
  department _ _ held := Table.keyOf_of_get?_ofList held
  team _ _ held := Table.keyOf_of_get?_ofList held
  row _ _ held := Table.keyOf_of_get?_ofList held

/-- The departments of a lineage, outermost first. -/
def inwards (s : Snapshot) (line : List String) : List Department :=
  line.reverse.filterMap s.departments.get?

/-- The departments of a lineage belong to the organization. -/
def Owns (s : Snapshot) (line : List String) : Prop :=
  ∀ id ∈ line, ∀ d, s.departments.get? id = some d → d.organizationId = s.organization.id

theorem inwards_cons {d : Department} (held : s.departments.get? id = some d) :
    s.inwards (id :: line) = s.inwards line ++ [d] := by
  simp [inwards, held]

theorem map_some_inwards (h : Lineage s.departments place line) :
    (s.inwards line).map some = line.reverse.map s.departments.get? := by
  induction h with
  | top => rfl
  | step held up ih => simp [inwards_cons held, ih, held]

theorem length_inwards (h : Lineage s.departments place line) :
    (s.inwards line).length = line.length := by
  simpa using congrArg List.length (map_some_inwards h)

theorem map_id_inwards (named : ∀ id d, s.departments.get? id = some d → d.id = id)
    (h : Lineage s.departments place line) : (s.inwards line).map (·.id) = line.reverse := by
  induction h with
  | top => rfl
  | @step id d above held up ih => simp [inwards_cons held, ih, named id d held]

theorem climb_of_lineage (h : Lineage s.departments place line) (current : place = some id)
    (owns : s.Owns line) (room : Nat) (enough : line.length ≤ room) (seen : List String)
    (fresh : ∀ id ∈ line, id ∉ seen) (below : List Department) :
    s.climb start room seen below id = .ok (s.inwards line ++ below) := by
  induction h generalizing id room seen below with
  | top => cases current
  | @step id d above held up ih =>
      cases current
      cases room with
      | zero => simp at enough
      | succ room =>
          have new : id ∉ seen := fresh id List.mem_cons_self
          have own : ¬ d.organizationId ≠ s.organization.id := by
            simpa using owns id List.mem_cons_self d held
          simp only [climb, if_neg new, held, if_neg own, inwards_cons held, List.append_assoc]
          cases parent : d.parentId with
          | none =>
              rw [parent] at up
              cases up
              rfl
          | some next =>
              -- A lineage meets no department twice, so what is still to come stays unseen.
              have distinct := List.nodup_cons.mp (Lineage.step held up).nodup
              have later : ∀ other ∈ above, other ∉ id :: seen := by
                intro other member
                rintro (_ | ⟨_, again⟩)
                · exact distinct.1 member
                · exact fresh other (List.mem_cons_of_mem _ member) again
              exact ih parent (fun other member => owns other (List.mem_cons_of_mem _ member))
                room (by simpa using enough) (id :: seen) later (d :: below)

theorem lineage_of_climb {room : Nat} {seen : List String}
    (h : s.climb start room seen below id = .ok chain) :
    ∃ line, Lineage s.departments (some id) line ∧ s.Owns line ∧ line.length ≤ room ∧
      chain = s.inwards line ++ below := by
  -- Each step upwards puts the department before the lineage of its parent; what the walk has seen
  -- no longer matters once it has come to its end.
  induction room generalizing seen below id with
  | zero =>
      rw [climb] at h
      split at h <;> cases h
  | succ room ih =>
      rw [climb] at h
      split at h
      · cases h
      · cases held : s.departments.get? id with
        | none => simp [held] at h
        | some d =>
            simp only [held] at h
            split at h
            · cases h
            · next own =>
                have ours : ∀ found, s.departments.get? id = some found →
                    found.organizationId = s.organization.id := by
                  intro found same
                  cases held.symm.trans same
                  exact Decidable.not_not.mp own
                cases parent : d.parentId with
                | none =>
                    simp only [parent, Except.ok.injEq] at h
                    refine ⟨[id], .step held (parent ▸ .top), ?_, by simp, ?_⟩
                    · simpa [Owns] using ours
                    · simp [inwards, held, h]
                | some next =>
                    simp only [parent] at h
                    obtain ⟨line, up, owns, enough, rfl⟩ := ih h
                    refine ⟨id :: line, .step held (parent ▸ up), ?_, by simpa using enough, ?_⟩
                    · intro other member
                      rcases List.mem_cons.mp member with rfl | member
                      · exact ours
                      · exact owns other member
                    · simp [inwards_cons held]

/-- A chain is the lineage of a department, outermost first; there is one where the lineage is
within the bound and does not leave the organization. -/
theorem departmentChain_eq_ok_iff :
    s.departmentChain maxDepth id = .ok chain ↔
      ∃ line, Lineage s.departments (some id) line ∧ s.Owns line ∧
        line.length ≤ maxDepth.toNat ∧ chain = s.inwards line := by
  constructor
  · intro h
    obtain ⟨line, lineage, owns, enough, rfl⟩ := lineage_of_climb h
    exact ⟨line, lineage, owns, enough, List.append_nil _⟩
  · rintro ⟨line, lineage, owns, enough, rfl⟩
    rw [departmentChain, climb_of_lineage lineage rfl owns _ enough [] (by simp) [],
      List.append_nil]

/-- The levels of the departments of a lineage, outermost first. -/
def levelsOn (line : List String) : List Level := line.reverse.map fun id => ⟨.department, id⟩

theorem departmentLevels_eq_ok_iff
    (named : ∀ id d, s.departments.get? id = some d → d.id = id) {levels : List Level} :
    s.departmentLevels maxDepth place = .ok levels ↔
      ∃ line, Lineage s.departments place line ∧ s.Owns line ∧
        line.length ≤ maxDepth.toNat ∧ levels = levelsOn line := by
  cases place with
  | none =>
      constructor
      · rintro ⟨⟩
        exact ⟨[], .top, nofun, Nat.zero_le _, rfl⟩
      · rintro ⟨line, ⟨⟩, -, -, rfl⟩
        rfl
  | some id =>
      have onto {line : List String} (h : Lineage s.departments (some id) line) :
          (s.inwards line).map (fun d => (⟨.department, d.id⟩ : Level)) = levelsOn line := by
        rw [levelsOn, ← map_id_inwards named h, List.map_map]
        rfl
      cases found : s.departmentChain maxDepth id with
      | error f =>
          refine iff_of_false ?_ fun ⟨line, h, owns, enough, _⟩ => ?_
          · simp [departmentLevels, found, Except.map]
          · simp [departmentChain_eq_ok_iff.mpr ⟨line, h, owns, enough, rfl⟩] at found
      | ok chain =>
          obtain ⟨line, h, owns, enough, rfl⟩ := departmentChain_eq_ok_iff.mp found
          simp only [departmentLevels, found, Except.map, Except.ok.injEq, onto h]
          constructor
          · rintro rfl
            exact ⟨line, h, owns, enough, rfl⟩
          · rintro ⟨line', h', -, -, rfl⟩
            rw [h.unique h']

/-- The levels that a request passes through are the organization, the departments of the lineage
in which it stands, and the team. -/
theorem levels_eq_ok_iff (named : ∀ id d, s.departments.get? id = some d → d.id = id)
    {organizationId : String} {departmentId : Option String} {levels : List Level} :
    s.levels maxDepth organizationId departmentId teamId = .ok levels ↔
      s.organization.id = organizationId ∧
        ∃ place line, s.standingIn organizationId departmentId teamId = .ok place ∧
          Lineage s.departments place line ∧ s.Owns line ∧ line.length ≤ maxDepth.toNat ∧
          levels = ⟨.organization, organizationId⟩ :: (levelsOn line ++ teamLevels teamId) := by
  unfold Snapshot.levels
  by_cases same : s.organization.id = organizationId
  case neg => simp [same]
  simp only [same, ne_eq, not_true_eq_false, if_false, true_and]
  cases standing : s.standingIn organizationId departmentId teamId with
  | error f => simp [bind, Except.bind]
  | ok place =>
      simp only [bind, Except.bind, pure, Except.pure]
      constructor
      · intro h
        cases found : s.departmentLevels maxDepth place with
        | error f => simp [found] at h
        | ok inner =>
            obtain ⟨line, lineage, owns, enough, rfl⟩ :=
              (departmentLevels_eq_ok_iff named).mp found
            simp only [found, Except.ok.injEq] at h
            exact ⟨place, line, rfl, lineage, owns, enough, h.symm⟩
      · rintro ⟨place', line, standing', lineage, owns, enough, rfl⟩
        cases standing'
        rw [(departmentLevels_eq_ok_iff named).mpr ⟨line, lineage, owns, enough, rfl⟩]

end TenantAccess.Snapshot
