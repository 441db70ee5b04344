import TenantAccess.Proofs.Matrix.History

/-! # What the lock detects

The lock compares versions, and a deleted row leaves no version behind: created anew, it counts
from one again. So a version that was read may come back, and it does exactly when the last
deletion was followed by as many writes as the version says. Short of that the lock detects every
change.
-/

namespace TenantAccess

open Change (written deleted)
open History (rising)

/-- The versions that a history stores, in order. -/
def versions (history : List Change) : List Int := history.filterMap Change.version?

/-- The key was written again after it had been deleted. -/
def Recreated (history : List Change) : Prop :=
  ∃ earlier later v, history = earlier ++ deleted :: later ∧ written v ∈ later

/-- The last deletion was followed by just the writes that lead up to a version. -/
def RebuiltTo (v : Int) (history : List Change) : Prop :=
  ∃ earlier, history = earlier ++ deleted :: rising 0 v.toNat

theorem versions_append (first second : List Change) :
    versions (first ++ second) = versions first ++ versions second :=
  List.filterMap_append

theorem lt_of_mem_rising {v w : Int} {n : Nat} (member : w ∈ versions (rising v n)) : v < w := by
  induction n generalizing v with
  | zero => cases member
  | succ n ih =>
      rcases List.mem_cons.mp member with rfl | later
      · omega
      · have := ih later
        omega

theorem increasing_rising (v : Int) (n : Nat) : (versions (rising v n)).Pairwise (· < ·) := by
  induction n generalizing v with
  | zero => exact .nil
  | succ n ih => exact .cons (fun w member => lt_of_mem_rising member) (ih (v + 1))

/-- A list splits at the last place of a member. -/
private theorem split_last {history : List Change} (member : deleted ∈ history) :
    ∃ earlier later, history = earlier ++ deleted :: later ∧ deleted ∉ later := by
  induction history with
  | nil => cases member
  | cons change rest ih =>
      by_cases again : deleted ∈ rest
      · obtain ⟨earlier, later, rfl, last⟩ := ih again
        exact ⟨change :: earlier, later, rfl, last⟩
      · rcases List.mem_cons.mp member with rfl | inRest
        · exact ⟨[], rest, rfl, again⟩
        · exact absurd inRest again

namespace History

variable {v : Int} {w : Option Int} {history : List Change}

/-- A key is back at a version that it was at before exactly when it was left alone or deleted
and built up again. -/
theorem back_iff (h : History (some v) history w) (positive : 1 ≤ v) :
    w = some v ↔ history = [] ∨ RebuiltTo v history := by
  by_cases kept : deleted ∈ history
  · constructor
    · rintro rfl
      obtain ⟨earlier, later, rfl, last⟩ := split_last kept
      obtain ⟨counts, ends⟩ := h.split_deleted.2.rises last
      have grown : later ≠ [] := by
        rintro rfl
        cases h.split_deleted.2
      have same : v = later.length := by simpa using ends grown
      refine .inr ⟨earlier, ?_⟩
      rw [same, Int.toNat_natCast]
      exact congrArg (earlier ++ deleted :: ·) counts
    · rintro (rfl | ⟨earlier, rfl⟩)
      · cases kept
      · have ends := (h.split_deleted.2.rises (not_deleted_rising 0 v.toNat)).2
        rw [length_rising] at ends
        have grown : rising 0 v.toNat ≠ [] := by
          rw [← List.length_pos_iff, length_rising]
          omega
        simp only [ends grown, Option.getD_none, Option.some.injEq]
        omega
  · constructor
    · rintro rfl
      by_cases nonempty : history = []
      · exact .inl nonempty
      · have grown : 0 < history.length := List.length_pos_iff.mpr nonempty
        have := (h.rises kept).2 nonempty
        simp only [Option.getD_some, Option.some.injEq] at this
        omega
    · rintro (rfl | ⟨earlier, rfl⟩)
      · exact h.of_nil
      · exact absurd (by simp) kept

/-- A key that was never written again after a deletion only counts up. -/
theorem increasing_of_not_recreated (h : History none history w) (once : ¬ Recreated history) :
    (versions history).Pairwise (· < ·) := by
  by_cases kept : deleted ∈ history
  · obtain ⟨earlier, later, rfl, unseen⟩ := List.eq_append_cons_of_mem kept
    obtain ⟨⟨u, first⟩, second⟩ := h.split_deleted
    have ends : later = [] := by
      by_cases nonempty : later = []
      · exact nonempty
      · obtain ⟨rest, rfl⟩ := second.created nonempty
        exact absurd ⟨earlier, _, 1, rfl, List.mem_cons_self⟩ once
    have counts := (first.rises unseen).1
    rw [ends, versions_append, counts]
    exact (List.append_nil _).symm ▸ increasing_rising 0 earlier.length
  · rw [(h.rises kept).1]
    exact increasing_rising _ _

/-- A key that was written again after a deletion was at version one twice. -/
theorem repeats_of_recreated (h : History none history w) (again : Recreated history) :
    ¬ (versions history).Nodup := by
  obtain ⟨earlier, later, v, rfl, member⟩ := again
  obtain ⟨⟨u, first⟩, second⟩ := h.split_deleted
  obtain ⟨rest, rfl⟩ := second.created (List.ne_nil_of_mem member)
  have existed : earlier ≠ [] := by
    rintro rfl
    cases first
  obtain ⟨rest', rfl⟩ := first.created existed
  intro distinct
  simp [versions, Change.version?] at distinct

theorem increasing_iff (h : History none history w) :
    (versions history).Pairwise (· < ·) ↔ ¬ Recreated history := by
  constructor
  · intro increasing again
    exact h.repeats_of_recreated again (increasing.imp fun less => by omega)
  · exact h.increasing_of_not_recreated

theorem nodup_iff (h : History none history w) :
    (versions history).Nodup ↔ ¬ Recreated history := by
  constructor
  · intro distinct again
    exact h.repeats_of_recreated again distinct
  · intro once
    exact (h.increasing_of_not_recreated once).imp fun less => by omega

end History

namespace StoreCall

/-- A call that writes or deletes a key under the lock, at a version. -/
inductive Locks (key : RowKey) (v : Int) : StoreCall → Prop
  | set (row : Row) (same : row.key = key) : Locks key v (.set row (some v))
  | delete : Locks key v (.delete key (some v))

/-- The call is not refused. -/
def Succeeds (c : StoreCall) (s : MatrixStore) : Prop := ∃ done, c.outcome s = .ok done

variable {key : RowKey} {v : Int} {c : StoreCall} {s : MatrixStore}

theorem Locks.succeeds_iff (locks : c.Locks key v) : c.Succeeds s ↔ s.version key = some v := by
  cases locks with
  | set row same =>
      subst same
      constructor
      · rintro ⟨done, ok⟩
        obtain ⟨stored, written, -⟩ := outcome_set_eq_ok_iff.mp ok
        exact (MatrixStore.compareAndSet_eq_ok_iff.mp written).1
      · intro current
        have done := MatrixStore.compareAndSet_eq_ok_iff.mpr ⟨current, rfl, rfl⟩
        exact ⟨_, outcome_set_eq_ok_iff.mpr ⟨_, done, rfl⟩⟩
  | delete =>
      constructor
      · rintro ⟨done, ok⟩
        obtain ⟨removed, gone, -⟩ := outcome_delete_eq_ok_iff.mp ok
        obtain ⟨held, named, -⟩ := MatrixStore.delete_eq_ok_iff.mp gone
        rw [named]
        exact MatrixStore.version_eq_some_iff.mpr ⟨_, held, rfl⟩
      · intro current
        obtain ⟨held, found, rfl⟩ := MatrixStore.version_eq_some_iff.mp current
        have done := MatrixStore.delete_eq_ok_iff.mpr ⟨found, rfl, rfl⟩
        exact ⟨_, outcome_delete_eq_ok_iff.mpr ⟨_, done, rfl⟩⟩

theorem one_le_version (calls : List StoreCall) {held : Row}
    (found : (run calls .empty).get? key = some held) : 1 ≤ held.version := by
  have ends := MatrixStore.version_eq_some_iff.mpr ⟨held, found, rfl⟩
  exact (History.of_run key calls .empty).one_le (fun n absent => by cases absent) ends

/-- In a run from the empty store, the versions of a key increase, and do not repeat, exactly
when the key is never written again after a deletion. A call that names the version of a row
read earlier succeeds exactly when the row was left alone since, or was deleted and then built up
to that version again. -/
theorem lock_detects_iff (calls : List StoreCall) (key : RowKey) :
    let history := changes key calls .empty
    ((versions history).Pairwise (· < ·) ↔ ¬ Recreated history) ∧
      ((versions history).Nodup ↔ ¬ Recreated history) ∧
      ∀ before between held, ∀ attempt : StoreCall, calls = before ++ between →
        (run before .empty).get? key = some held → attempt.Locks key held.version →
        let since := changes key between (run before .empty)
        attempt.Succeeds (run calls .empty) ↔ since = [] ∨ RebuiltTo held.version since := by
  have whole := History.of_run key calls .empty
  refine ⟨whole.increasing_iff, whole.nodup_iff, ?_⟩
  rintro before between held attempt rfl read locks
  have since := History.of_run key between (run before .empty)
  rw [MatrixStore.version_eq_some_iff.mpr ⟨held, read, rfl⟩] at since
  rw [locks.succeeds_iff, run_append]
  exact since.back_iff (one_le_version before read)

end StoreCall

namespace Sample

/-- A row without rules. -/
def plainRow : Row := ⟨.team, "t-1", "org-1", "viewer", .empty, 0, true⟩

/-- The row as its first write stores it. -/
def firstRow : Row := { plainRow with version := 1 }

def create : StoreCall := .set plainRow none

def rewrite : StoreCall := .set plainRow (some 1)

def drop : StoreCall := .delete plainRow.key (some 1)

end Sample

open Sample in
/-- A row that was read, deleted and created again is taken for the one that was read. -/
theorem StoreCall.lock_misses_new_row :
    (run [create] .empty).get? plainRow.key = some firstRow ∧
      rewrite.Locks plainRow.key firstRow.version ∧
      changes plainRow.key [drop, create] (run [create] .empty) = [deleted, written 1] ∧
      rewrite.Succeeds (run [create, drop, create] .empty) ∧
      versions (changes plainRow.key [create, drop, create] .empty) = [1, 1] := by
  have locks : rewrite.Locks plainRow.key firstRow.version := .set _ rfl
  exact ⟨by decide, locks, by decide, locks.succeeds_iff.mpr (by decide), by decide⟩

open Sample in
/-- A deletion fails where another client wrote since the row was read. -/
theorem StoreCall.lock_detects_rewrite :
    (run [create] .empty).get? plainRow.key = some firstRow ∧
      drop.Locks plainRow.key firstRow.version ∧
      ¬ drop.Succeeds (run [create, rewrite] .empty) := by
  have read : (run [create] .empty).get? plainRow.key = some firstRow := by decide
  refine ⟨read, .delete, fun succeeds => ?_⟩
  have detects := (lock_detects_iff [create, rewrite] plainRow.key).2.2
  rcases (detects [create] [rewrite] firstRow drop rfl read .delete).mp succeeds with
    idle | ⟨earlier, split⟩
  · exact absurd idle (by decide)
  · have since : changes plainRow.key [rewrite] (run [create] .empty) = [written 2] := by decide
    have gone : deleted ∈ [written 2] := by simp [← since, split]
    exact absurd gone (by decide)

end TenantAccess
