import Mathlib.Data.List.Nodup
import TenantAccess.Proofs.Hierarchy.Chains

/-! # Obstacles on the way up

Nothing keeps a snapshot from holding departments whose parents form a circle, are missing, belong to
another organization or are too many. So the way up from a department is described here without any
limit, as the place that is come to after so many steps, and at each place there may be an obstacle.
The walk that reads a department chain comes to the first obstacle and answers with its fault, or it
meets none and answers with the departments on its way; and either happens within as many steps as the
bound and the number of departments allow.
-/

namespace TenantAccess.Snapshot

variable {s : Snapshot} {maxDepth : Int} {start id : String} {place : Option String}
  {line path seen : List String} {below chain : List Department} {n : Nat} {f g : Fault}

/-- The department that the way up from another one comes to after some steps. -/
def onWay (s : Snapshot) (start : String) : Nat → Option String
  | 0 => some start
  | n + 1 => (s.onWay start n).bind fun id => (s.departments.get? id).bind (·.parentId)

/-- What stands in the way after some steps: a department that was met before, one more than the
bound allows, one that is not there, or one of another organization, in this order. -/
def obstacle? (s : Snapshot) (maxDepth : Int) (start : String) (n : Nat) : Option Fault :=
  match s.onWay start n with
  | none => none
  | some id =>
    if ∃ m < n, s.onWay start m = some id then some (.departmentCycle id)
    else if maxDepth ≤ n then some (.chainTooDeep start)
    else
      match s.departments.get? id with
      | none => some (.departmentNotFound id)
      | some d =>
        if d.organizationId ≠ s.organization.id then some (.departmentOutside id) else none

/-- A fault that the way up comes to after some steps, and none before. -/
structure FirstObstacle (s : Snapshot) (maxDepth : Int) (start : String) (n : Nat) (f : Fault) :
    Prop where
  here : s.obstacle? maxDepth start n = some f
  clear : ∀ m < n, s.obstacle? maxDepth start m = none

theorem FirstObstacle.unique {m : Nat} (h : s.FirstObstacle maxDepth start n f)
    (h' : s.FirstObstacle maxDepth start m g) : f = g := by
  rcases Nat.lt_trichotomy n m with before | rfl | after
  · cases (h'.clear n before).symm.trans h.here
  · exact Option.some.inj (h.here.symm.trans h'.here)
  · cases (h.clear m after).symm.trans h'.here

/-! ## Along a lineage -/

theorem onWay_of_none (ended : s.onWay start n = none) (k : Nat) : s.onWay start (n + k) = none := by
  induction k with
  | zero => exact ended
  | succ k ih => rw [← Nat.add_assoc, onWay, ih, Option.bind_none]

/-- From a place on, the way up follows the lineage of the place. -/
theorem onWay_of_lineage (h : Lineage s.departments place path) (here : s.onWay start n = place)
    (k : Nat) : s.onWay start (n + k) = path[k]? := by
  induction h generalizing n k with
  | top => exact onWay_of_none here k
  | @step id d above held up ih =>
      cases k with
      | zero => exact here
      | succ k =>
          have next : s.onWay start (n + 1) = d.parentId := by
            rw [onWay, here, Option.bind_some, held, Option.bind_some]
          rw [Nat.add_comm k, ← Nat.add_assoc, ih next, Nat.add_comm, List.getElem?_cons_succ]

theorem obstacle?_of_lineage (h : Lineage s.departments (some start) path) (owns : s.Owns path)
    (within : (path.length : Int) ≤ maxDepth) (n : Nat) : s.obstacle? maxDepth start n = none := by
  have way (k : Nat) : s.onWay start k = path[k]? := by
    simpa using onWay_of_lineage (n := 0) h rfl k
  unfold obstacle?
  cases here : s.onWay start n with
  | none => rfl
  | some id =>
      rw [way] at here
      obtain ⟨inside, -⟩ := List.getElem?_eq_some_iff.mp here
      have member : id ∈ path := List.mem_iff_getElem?.mpr ⟨n, here⟩
      obtain ⟨d, held⟩ := h.held id member
      have new : ¬ ∃ m < n, s.onWay start m = some id := by
        rintro ⟨m, before, again⟩
        have same : m = n :=
          (List.getElem?_inj (by omega) h.nodup).mp (by rw [← way, again, here])
        omega
      have room : ¬ maxDepth ≤ n := by omega
      have own : ¬ d.organizationId ≠ s.organization.id := by simpa using owns id member d held
      simp only [if_neg new, if_neg room, held, if_neg own]

/-! ## The walk and the way -/

/-- What a walk knows that has met some departments, the last one first, and no obstacle. -/
structure Walked (s : Snapshot) (maxDepth : Int) (start : String) (seen : List String) : Prop where
  way : ∀ m < seen.length, s.onWay start m = seen.reverse[m]?
  clear : ∀ m < seen.length, s.obstacle? maxDepth start m = none
  distinct : seen.Nodup
  held : ∀ id ∈ seen, ∃ d, s.departments.get? id = some d

namespace Walked

theorem nil (s : Snapshot) (maxDepth : Int) (start : String) : s.Walked maxDepth start [] :=
  ⟨nofun, nofun, List.nodup_nil, nofun⟩

theorem met_iff (w : s.Walked maxDepth start seen) :
    (∃ m < seen.length, s.onWay start m = some id) ↔ id ∈ seen := by
  rw [← List.mem_reverse, List.mem_iff_getElem?]
  constructor
  · rintro ⟨m, before, met⟩
    exact ⟨m, (w.way m before).symm.trans met⟩
  · rintro ⟨m, met⟩
    obtain ⟨inside, -⟩ := List.getElem?_eq_some_iff.mp met
    rw [List.length_reverse] at inside
    exact ⟨m, inside, (w.way m inside).trans met⟩

/-- What a walk tests at a place is whether there is an obstacle. -/
theorem obstacle?_eq (w : s.Walked maxDepth start seen)
    (here : s.onWay start seen.length = some id) :
    s.obstacle? maxDepth start seen.length =
      if id ∈ seen then some (.departmentCycle id)
      else if maxDepth ≤ seen.length then some (.chainTooDeep start)
      else
        match s.departments.get? id with
        | none => some (.departmentNotFound id)
        | some d =>
          if d.organizationId ≠ s.organization.id then some (.departmentOutside id) else none := by
  simp only [obstacle?, here, w.met_iff]

theorem step (w : s.Walked maxDepth start seen) {d : Department}
    (here : s.onWay start seen.length = some id) (new : id ∉ seen)
    (held : s.departments.get? id = some d)
    (passed : s.obstacle? maxDepth start seen.length = none) :
    s.Walked maxDepth start (id :: seen) where
  way m before := by
    rw [List.reverse_cons]
    rcases Nat.lt_succ_iff_lt_or_eq.mp before with earlier | rfl
    · rw [List.getElem?_append_left (by simpa using earlier)]
      exact w.way m earlier
    · simpa using here
  clear m before := by
    rcases Nat.lt_succ_iff_lt_or_eq.mp before with earlier | rfl
    · exact w.clear m earlier
    · exact passed
  distinct := List.nodup_cons.mpr ⟨new, w.distinct⟩
  held := List.forall_mem_cons.mpr ⟨⟨d, held⟩, w.held⟩

/-- At an obstacle the walk stops with its fault. -/
theorem climb_of_obstacle (w : s.Walked maxDepth start seen) {room : Nat}
    (here : s.onWay start seen.length = some id) (rooms : seen.length + room = maxDepth.toNat)
    (h : s.obstacle? maxDepth start seen.length = some f) :
    s.climb start room seen below id = .error f := by
  rw [w.obstacle?_eq here] at h
  unfold climb
  split at h
  · next met =>
      cases h
      rw [if_pos met]
  · next new =>
      rw [if_neg new]
      split at h
      · next full =>
          cases h
          obtain rfl : room = 0 := by omega
          rfl
      · next free =>
          obtain ⟨left, rfl⟩ : ∃ left, room = left + 1 := ⟨room - 1, by omega⟩
          cases held : s.departments.get? id with
          | none =>
              rw [held] at h
              cases h
              rfl
          | some d =>
              simp only [held] at h ⊢
              split at h
              · next outside =>
                  cases h
                  rw [if_pos outside]
              · cases h

/-- Where there is none, it collects the department and goes on with its parent. -/
theorem climb_of_clear (w : s.Walked maxDepth start seen) {room : Nat}
    (here : s.onWay start seen.length = some id) (rooms : seen.length + room = maxDepth.toNat)
    (h : s.obstacle? maxDepth start seen.length = none) :
    ∃ d left, room = left + 1 ∧ s.departments.get? id = some d ∧ id ∉ seen ∧
      s.climb start room seen below id =
        match d.parentId with
        | none => .ok (d :: below)
        | some parent => s.climb start left (id :: seen) (d :: below) parent := by
  rw [w.obstacle?_eq here] at h
  split at h
  · cases h
  split at h
  · cases h
  next new free =>
  obtain ⟨left, rfl⟩ : ∃ left, room = left + 1 := ⟨room - 1, by omega⟩
  cases held : s.departments.get? id with
  | none =>
      rw [held] at h
      cases h
  | some d =>
      simp only [held] at h
      split at h
      · cases h
      · next own =>
          refine ⟨d, left, rfl, rfl, new, ?_⟩
          cases parent : d.parentId <;> simp only [climb, if_neg new, held, if_neg own, parent]

end Walked

theorem firstObstacle_of_climb {room : Nat} (w : s.Walked maxDepth start seen)
    (here : s.onWay start seen.length = some id) (rooms : seen.length + room = maxDepth.toNat)
    (h : s.climb start room seen below id = .error f) :
    ∃ n, s.FirstObstacle maxDepth start n f ∧ n ≤ maxDepth.toNat ∧ n ≤ s.departments.size := by
  induction room using Nat.strongRecOn generalizing seen below id with
  | ind room ih =>
      cases met : s.obstacle? maxDepth start seen.length with
      | some g =>
          cases (w.climb_of_obstacle here rooms met).symm.trans h
          exact ⟨seen.length, ⟨met, w.clear⟩, by omega, Table.length_le_size w.distinct w.held⟩
      | none =>
          obtain ⟨d, left, rfl, held, new, goes_on⟩ := w.climb_of_clear here rooms met
          rw [goes_on] at h
          cases parent : d.parentId with
          | none =>
              rw [parent] at h
              cases h
          | some next =>
              rw [parent] at h
              have there : s.onWay start (id :: seen).length = some next := by
                rw [List.length_cons, onWay, here, Option.bind_some, held, Option.bind_some, parent]
              have fewer : (id :: seen).length + left = maxDepth.toNat := by
                rw [List.length_cons]
                omega
              exact ih left (Nat.lt_succ_self left) (w.step here new held met) there fewer h

/-! ## What a chain holds -/

/-- Each place of a lineage but the first is the parent of a department on it, and so is the end. -/
theorem parents_inwards (h : Lineage s.departments place line) :
    place :: (s.inwards line).reverse.map (·.parentId) = line.map some ++ [none] := by
  induction h with
  | top => rfl
  | @step id d above held up ih => simpa [inwards_cons held] using ih

/-- No two departments of a chain are the same: they have different parents. -/
theorem nodup_inwards (h : Lineage s.departments place line) : (s.inwards line).Nodup := by
  have places : (line.map some ++ [none]).Nodup := by
    rw [List.nodup_append]
    refine ⟨h.nodup.map fun _ _ => Option.some.inj, List.nodup_singleton _, ?_⟩
    simp
  rw [← parents_inwards h, List.nodup_cons] at places
  exact List.nodup_reverse.mp places.2.of_map

/-! ## All outcomes -/

theorem length_within_iff (h : Lineage s.departments (some id) line) :
    line.length ≤ maxDepth.toNat ↔ (line.length : Int) ≤ maxDepth := by
  cases h with
  | step held up =>
      rw [List.length_cons]
      omega

theorem lineage_of_departmentChain (h : s.departmentChain maxDepth start = .ok chain) :
    ∃ line, Lineage s.departments (some start) line ∧ s.Owns line ∧
      (line.length : Int) ≤ maxDepth ∧ chain = s.inwards line := by
  obtain ⟨line, lineage, owns, enough, chained⟩ := departmentChain_eq_ok_iff.mp h
  exact ⟨line, lineage, owns, (length_within_iff lineage).mp enough, chained⟩

theorem firstObstacle_of_departmentChain (h : s.departmentChain maxDepth start = .error f) :
    ∃ n, s.FirstObstacle maxDepth start n f ∧ n ≤ maxDepth.toNat ∧ n ≤ s.departments.size :=
  firstObstacle_of_climb (.nil s maxDepth start) rfl (Nat.zero_add _) h

theorem departmentChain_of_firstObstacle (first : s.FirstObstacle maxDepth start n f) :
    s.departmentChain maxDepth start = .error f := by
  cases outcome : s.departmentChain maxDepth start with
  | ok chain =>
      obtain ⟨line, lineage, owns, within, -⟩ := lineage_of_departmentChain outcome
      cases (obstacle?_of_lineage lineage owns within n).symm.trans first.here
  | error g =>
      obtain ⟨m, first', -, -⟩ := firstObstacle_of_departmentChain outcome
      rw [first'.unique first]

/-- What is in the way is missing or not valid. -/
theorem category_of_obstacle? (h : s.obstacle? maxDepth start n = some f) :
    f.category = .validation ∨ ∃ id, f = .departmentNotFound id ∧ f.category = .notFound := by
  unfold obstacle? at h
  split at h
  · cases h
  split at h
  · cases h
    exact .inl rfl
  split at h
  · cases h
    exact .inl rfl
  split at h
  · cases h
    exact .inr ⟨_, rfl, rfl⟩
  split at h
  · cases h
    exact .inl rfl
  · cases h

/-- The walk that reads a chain comes to an end within the bound and the number of departments. It
answers where the way up leads to a department without a parent, through departments of the
organization and no more of them than the bound allows, and it answers with these, outermost first and
each once. Otherwise its fault is that of the first obstacle on the way. -/
theorem departmentChain_decided (s : Snapshot) (maxDepth : Int) (start : String) :
    (∃ n, n ≤ maxDepth.toNat ∧ n ≤ s.departments.size ∧
      ((s.onWay start n = none ∧ ∃ chain, s.departmentChain maxDepth start = .ok chain) ∨
        ∃ f, s.FirstObstacle maxDepth start n f ∧ s.departmentChain maxDepth start = .error f)) ∧
    ((∃ chain, s.departmentChain maxDepth start = .ok chain) ↔
      ∃ line, Lineage s.departments (some start) line ∧ s.Owns line ∧
        (line.length : Int) ≤ maxDepth) ∧
    (∀ chain, s.departmentChain maxDepth start = .ok chain →
      chain.Nodup ∧ ∃ line, Lineage s.departments (some start) line ∧ line.Nodup ∧
        chain.map some = line.reverse.map s.departments.get?) ∧
    ∀ f, (s.departmentChain maxDepth start = .error f ↔
        ∃ n, s.FirstObstacle maxDepth start n f) ∧
      (s.departmentChain maxDepth start = .error f →
        f.category = .validation ∨ ∃ id, f = .departmentNotFound id ∧ f.category = .notFound) := by
  refine ⟨?ends, ⟨?answered, ?answers⟩, ?chained, fun f => ⟨⟨?stopped, ?stops⟩, ?category⟩⟩
  case ends =>
    cases outcome : s.departmentChain maxDepth start with
    | ok chain =>
        obtain ⟨line, lineage, -, within, -⟩ := lineage_of_departmentChain outcome
        have ended : s.onWay start (0 + line.length) = none := by
          rw [onWay_of_lineage lineage rfl, List.getElem?_eq_none (Nat.le_refl _)]
        rw [Nat.zero_add] at ended
        exact ⟨line.length, (length_within_iff lineage).mpr within,
          Table.length_le_size lineage.nodup lineage.held, .inl ⟨ended, chain, rfl⟩⟩
    | error f =>
        obtain ⟨n, first, bounded, few⟩ := firstObstacle_of_departmentChain outcome
        exact ⟨n, bounded, few, .inr ⟨f, first, rfl⟩⟩
  case answered =>
    rintro ⟨chain, outcome⟩
    obtain ⟨line, lineage, owns, within, -⟩ := lineage_of_departmentChain outcome
    exact ⟨line, lineage, owns, within⟩
  case answers =>
    rintro ⟨line, lineage, owns, within⟩
    have enough := (length_within_iff lineage).mpr within
    exact ⟨_, departmentChain_eq_ok_iff.mpr ⟨line, lineage, owns, enough, rfl⟩⟩
  case chained =>
    intro chain outcome
    obtain ⟨line, lineage, -, -, rfl⟩ := lineage_of_departmentChain outcome
    exact ⟨nodup_inwards lineage, line, lineage, lineage.nodup, map_some_inwards lineage⟩
  case stopped =>
    intro outcome
    obtain ⟨n, first, -, -⟩ := firstObstacle_of_departmentChain outcome
    exact ⟨n, first⟩
  case stops =>
    rintro ⟨n, first⟩
    exact departmentChain_of_firstObstacle first
  case category =>
    intro outcome
    obtain ⟨n, first, -, -⟩ := firstObstacle_of_departmentChain outcome
    exact category_of_obstacle? first.here

-- A bound that leaves room for the whole of a circle lets the walk see that it is one.
example :
    let s : Snapshot := gather ⟨"org-1", "Org"⟩
      [⟨"d-1", "org-1", some "d-2", "North", []⟩, ⟨"d-2", "org-1", some "d-1", "Harbour", []⟩] [] []
    s.departmentChain 2 "d-1" = .error (.departmentCycle "d-1") ∧
      s.departmentChain 1 "d-1" = .error (.chainTooDeep "d-1") := ⟨rfl, rfl⟩

end TenantAccess.Snapshot
