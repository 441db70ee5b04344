import TenantAccess.Proofs.OrgTree.Lineage

/-! # What the walks of a tree measure

Where a department has a lineage, the walk upwards finds it without coming to a limit of its own,
and the height of a subtree is no less than any way down from its top.
-/

namespace TenantAccess.OrgTree

variable {t : OrgTree} {id start : String} {place : Option String} {line above below : List String}

theorem climb_of_lineage (h : Lineage t.departments place line) (fuel : Nat) (seen : List String)
    (room : line.length ≤ fuel) (fresh : ∀ id ∈ line, id ≠ start ∧ id ∉ seen) :
    t.climb start fuel seen place = .ok (seen.reverse ++ line) := by
  induction h generalizing fuel seen with
  | top => simp [climb]
  | @step id d above held up ih =>
      cases fuel with
      | zero => simp at room
      | succ fuel =>
          have first := fresh id List.mem_cons_self
          have distinct := List.nodup_cons.mp (Lineage.step held up).nodup
          have new : ¬ (id = start ∨ id ∈ seen) := by simp [first]
          have later : ∀ other ∈ above, other ≠ start ∧ other ∉ id :: seen := by
            intro other member
            have before := fresh other (List.mem_cons_of_mem _ member)
            refine ⟨before.1, ?_⟩
            rintro (_ | ⟨_, again⟩)
            · exact distinct.1 member
            · exact before.2 again
          simp only [climb, if_neg new, held]
          rw [ih fuel (id :: seen) (by simpa using room) later]
          simp

theorem ancestors_of_lineage (h : Lineage t.departments (some id) (id :: above)) :
    t.ancestors id = .ok above := by
  have few : (id :: above).length ≤ t.departments.size := Table.length_le_size h.nodup h.held
  have distinct := List.nodup_cons.mp h.nodup
  cases h with
  | step held up =>
      have fresh : ∀ other ∈ above, other ≠ id ∧ other ∉ ([] : List String) := by
        intro other member
        refine ⟨?_, List.not_mem_nil⟩
        rintro rfl
        exact distinct.1 member
      have room : above.length ≤ t.departments.size + 1 := by
        rw [List.length_cons] at few
        omega
      simp only [ancestors, department, held]
      exact climb_of_lineage up _ [] room fresh

theorem depthOf_of_lineage (h : Lineage t.departments (some id) (id :: above)) :
    t.depthOf id = .ok (id :: above).length := by
  simp only [depthOf, ancestors_of_lineage h, Except.map, List.length_cons]

/-- The depth of a parent is the length of its lineage. -/
theorem parentDepth_of_lineage (h : Lineage t.departments place line) :
    t.parentDepth place = .ok line.length := by
  cases h with
  | top => rfl
  | step held up => exact depthOf_of_lineage (.step held up)

/-! ## Ways down -/

theorem le_foldl_max (ns : List Nat) (start : Nat) :
    start ≤ ns.foldl max start ∧ ∀ n ∈ ns, n ≤ ns.foldl max start := by
  induction ns generalizing start with
  | nil => exact ⟨Nat.le_refl _, nofun⟩
  | cons first rest ih =>
      obtain ⟨from_start, from_rest⟩ := ih (max start first)
      rw [List.foldl_cons]
      refine ⟨Nat.le_trans (Nat.le_max_left _ _) from_start, fun n member => ?_⟩
      rcases List.mem_cons.mp member with rfl | member
      · exact Nat.le_trans (Nat.le_max_right _ _) from_start
      · exact from_rest n member

theorem le_largest {ns : List Nat} {n : Nat} (member : n ∈ ns) : n ≤ largest ns :=
  (le_foldl_max ns 0).2 n member

theorem foldl_max_mem (ns : List Nat) (start : Nat) :
    ns.foldl max start = start ∨ ns.foldl max start ∈ ns := by
  induction ns generalizing start with
  | nil => exact .inl rfl
  | cons first rest ih =>
      rw [List.foldl_cons]
      rcases ih (max start first) with stays | member
      · rw [stays]
        rcases Nat.le_total start first with below | above
        · rw [Nat.max_eq_right below]
          exact .inr List.mem_cons_self
        · exact .inl (Nat.max_eq_left above)
      · exact .inr (List.mem_cons_of_mem first member)

/-- The largest of some numbers is one of them, unless it is zero. -/
theorem largest_mem (ns : List Nat) : largest ns = 0 ∨ largest ns ∈ ns := foldl_max_mem ns 0

theorem mem_childrenOf_iff {d : Department} :
    d ∈ t.childrenOf place ↔ (∃ id, t.departments.get? id = some d) ∧ d.parentId = place := by
  simp [childrenOf, Table.mem_values_iff]

/-- A department stands directly below the next one of its lineage. -/
theorem parentId_of_lineage {child : String}
    (h : Lineage t.departments place (below ++ child :: id :: above)) :
    ∃ d, t.departments.get? child = some d ∧ d.parentId = some id := by
  cases h.rest with
  | step held up => exact ⟨_, held, up.place_eq⟩

/-- What is filed under an identifier bears it, and belongs to the organization. -/
structure Filed (t : OrgTree) : Prop where
  department : ∀ id d, t.departments.get? id = some d →
    d.id = id ∧ d.organizationId = t.organization.id
  team : ∀ id team, t.teams.get? id = some team →
    team.id = id ∧ team.organizationId = t.organization.id

theorem length_le_heightWithin (filed : t.Filed) (fuel : Nat)
    (h : Lineage t.departments place (below ++ id :: above)) (room : below.length + 1 ≤ fuel) :
    below.length + 1 ≤ t.heightWithin fuel id := by
  induction fuel generalizing id above below with
  | zero => simp at room
  | succ fuel ih =>
      rw [heightWithin]
      rcases List.eq_nil_or_concat' below with rfl | ⟨lower, child, rfl⟩
      · simp
      · rw [List.append_assoc] at h
        obtain ⟨d, held, under⟩ := parentId_of_lineage h
        have member : t.heightWithin fuel child ∈
            (t.childrenOf (some id)).map fun d => t.heightWithin fuel d.id := by
          refine List.mem_map.mpr ⟨d, mem_childrenOf_iff.mpr ⟨⟨child, held⟩, under⟩, ?_⟩
          rw [(filed.department child d held).1]
        rw [List.length_append, List.length_singleton] at room ⊢
        have inner : lower.length + 1 ≤ t.heightWithin fuel child := ih h (by omega)
        have outer := le_largest member
        omega

/-- A subtree is at least as high as any way that leads up to its top. -/
theorem length_le_subtreeHeight (filed : t.Filed)
    (h : Lineage t.departments place (below ++ id :: above)) :
    below.length + 1 ≤ t.subtreeHeight id := by
  have few := Table.length_le_size h.nodup h.held
  rw [List.length_append, List.length_cons] at few
  exact length_le_heightWithin filed _ h (by omega)

/-- However far down it looks, a height is that of some way that leads up to the top. -/
theorem heightWithin_attained (filed : t.Filed) (fuel : Nat)
    (h : Lineage t.departments (some id) (id :: above)) :
    ∃ bottom below, Lineage t.departments (some bottom) (below ++ id :: above) ∧
      t.heightWithin fuel id ≤ below.length + 1 := by
  induction fuel generalizing id above with
  | zero => exact ⟨id, [], h, Nat.zero_le _⟩
  | succ fuel ih =>
      rw [heightWithin]
      rcases largest_mem ((t.childrenOf (some id)).map fun d => t.heightWithin fuel d.id) with
        flat | highest
      · exact ⟨id, [], h, by simp [flat]⟩
      · obtain ⟨d, child, height⟩ := List.mem_map.mp highest
        obtain ⟨⟨key, held⟩, under⟩ := mem_childrenOf_iff.mp child
        obtain rfl : d.id = key := (filed.department key d held).1
        have longer : Lineage t.departments (some d.id) (d.id :: id :: above) :=
          .step held (under ▸ h)
        obtain ⟨bottom, below, way, high⟩ := ih longer
        refine ⟨bottom, below ++ [d.id], by simpa using way, ?_⟩
        rw [← height, List.length_append, List.length_singleton]
        omega

/-- A subtree is no higher than the longest way that leads up to its top. -/
theorem subtreeHeight_attained (filed : t.Filed)
    (h : Lineage t.departments (some id) (id :: above)) :
    ∃ bottom below, Lineage t.departments (some bottom) (below ++ id :: above) ∧
      t.subtreeHeight id = below.length + 1 := by
  obtain ⟨bottom, below, way, high⟩ := heightWithin_attained filed t.departments.size h
  exact ⟨bottom, below, way, Nat.le_antisymm high (length_le_subtreeHeight filed way)⟩

end TenantAccess.OrgTree
