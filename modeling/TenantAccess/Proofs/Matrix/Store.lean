import TenantAccess.Matrix.Store
import TenantAccess.Proofs.Place

/-! # What a locked write does

A locked write succeeds exactly when the version it names is the stored one, and then it changes
one key. Two consequences are carried through every run: each row stays filed under its own key,
and the rows listed for an organization change only where one of its rows stood or comes to
stand.
-/

namespace TenantAccess.MatrixStore

variable {s next : MatrixStore} {key : RowKey} {row held stored removed : Row}
  {expected : Option Int}

/-- The version stored under a key. -/
def version (s : MatrixStore) (key : RowKey) : Option Int := (s.get? key).map (·.version)

theorem version_eq_some_iff {v : Int} :
    s.version key = some v ↔ ∃ held, s.get? key = some held ∧ held.version = v :=
  Option.map_eq_some_iff

theorem version_of_get? (found : s.get? key = some held) : s.version key = some held.version :=
  congrArg (Option.map _) found

theorem version_put_self (s : MatrixStore) (key : RowKey) (row : Row) :
    version ⟨s.rows.put key row⟩ key = some row.version :=
  version_of_get? (s.rows.get?_put_self key row)

theorem version_erase_self (s : MatrixStore) (key : RowKey) :
    version ⟨s.rows.erase key⟩ key = none :=
  congrArg (Option.map _) (s.rows.get?_erase_self key)

theorem nextVersion_get? (s : MatrixStore) (key : RowKey) :
    nextVersion (s.get? key) = (s.version key).getD 0 + 1 := by
  unfold version
  cases s.get? key with
  | none => rfl
  | some held => rfl

theorem compareAndSet_eq_ok_iff :
    s.compareAndSet row expected = .ok (next, stored) ↔
      s.version row.key = expected ∧
        stored = { row with version := nextVersion (s.get? row.key) } ∧
        next = ⟨s.rows.put row.key stored⟩ := by
  simp only [compareAndSet, version]
  by_cases current : (s.get? row.key).map (·.version) = expected
  · simp only [current, ne_eq, not_true_eq_false, if_false, Except.ok.injEq, Prod.mk.injEq,
      true_and]
    constructor
    · rintro ⟨rfl, rfl⟩
      exact ⟨rfl, rfl⟩
    · rintro ⟨rfl, rfl⟩
      exact ⟨rfl, rfl⟩
  · simp [current]

theorem compareAndSet_of_ne (stale : s.version row.key ≠ expected) :
    s.compareAndSet row expected = .error (.versionConflict expected (s.version row.key)) :=
  if_pos stale

theorem delete_eq_ok_iff :
    s.delete key expected = .ok (next, removed) ↔
      s.get? key = some removed ∧ expected = some removed.version ∧
        next = ⟨s.rows.erase key⟩ := by
  unfold delete
  cases s.get? key with
  | none => simp
  | some held =>
      by_cases current : some held.version = expected
      · simp only [current, ne_eq, not_true_eq_false, if_false, Except.ok.injEq, Prod.mk.injEq,
          Option.some.injEq]
        constructor
        · rintro ⟨rfl, rfl⟩
          exact ⟨rfl, current.symm, rfl⟩
        · rintro ⟨rfl, -, rfl⟩
          exact ⟨rfl, rfl⟩
      · simp only [ne_eq, current, not_false_eq_true, if_true, reduceCtorEq, Option.some.injEq,
          false_iff, not_and]
        rintro rfl named
        exact absurd named.symm current

theorem get?_put (s : MatrixStore) (key other : RowKey) (row : Row) :
    get? ⟨s.rows.put key row⟩ other = if key = other then some row else s.get? other :=
  s.rows.get?_put key other row

theorem get?_erase (s : MatrixStore) (key other : RowKey) :
    get? ⟨s.rows.erase key⟩ other = if other = key then none else s.get? other :=
  s.rows.get?_erase key other

/-! ## Rows under their own keys -/

/-- Every row is filed under its own key. -/
def Filed (s : MatrixStore) : Prop := ∀ ⦃key row⦄, s.get? key = some row → row.key = key

theorem filed_empty : empty.Filed := by
  intro key row held
  cases held

theorem Filed.compareAndSet (filed : s.Filed)
    (done : s.compareAndSet row expected = .ok (next, stored)) : next.Filed := by
  obtain ⟨-, rfl, rfl⟩ := compareAndSet_eq_ok_iff.mp done
  intro key found held
  rw [get?_put] at held
  split at held
  · next same =>
      cases held
      exact same
  · exact filed held

theorem Filed.delete (filed : s.Filed) (done : s.delete key expected = .ok (next, removed)) :
    next.Filed := by
  obtain ⟨-, -, rfl⟩ := delete_eq_ok_iff.mp done
  intro other found held
  rw [get?_erase] at held
  split at held
  · cases held
  · exact filed held

/-! ## The rows of an organization -/

theorem mem_listFor_iff {organizationId : String} :
    row ∈ s.listFor organizationId ↔
      row.organizationId = organizationId ∧ ∃ key, s.get? key = some row := by
  simp only [listFor, Table.values, List.mem_filter, List.mem_map, decide_eq_true_eq]
  constructor
  · rintro ⟨⟨⟨key, _⟩, member, rfl⟩, owned⟩
    exact ⟨owned, key, Table.get?_of_mem_rows member⟩
  · rintro ⟨owned, key, held⟩
    exact ⟨⟨(key, row), Table.mem_rows_of_get? held, rfl⟩, owned⟩

/-- Storing a row that is not the organization's, over none that is. -/
theorem listFor_put {organizationId : String} (foreign : stored.organizationId ≠ organizationId)
    (before : ∀ held, s.get? key = some held → held.organizationId ≠ organizationId) :
    listFor ⟨s.rows.put key stored⟩ organizationId = s.listFor organizationId := by
  simp only [listFor, Table.values]
  cases found : s.get? key with
  | none => simp [Table.rows_put_of_get?_none stored found, foreign]
  | some held =>
      obtain ⟨earlier, later, split, changed⟩ := Table.rows_put_of_get? stored found
      simp [split, changed, foreign, before held found]

/-- A row over which one of another organization was stored is listed no more. -/
theorem not_mem_listFor_put (filed : s.Filed) (found : s.get? key = some held)
    (foreign : stored.organizationId ≠ held.organizationId) :
    held ∉ listFor ⟨s.rows.put key stored⟩ held.organizationId := by
  intro listed
  obtain ⟨-, other, kept⟩ := mem_listFor_iff.mp listed
  rw [get?_put] at kept
  split at kept
  · cases kept
    exact foreign rfl
  · next differs =>
      have own : held.key = other := filed kept
      exact differs ((filed found).symm.trans own)

end TenantAccess.MatrixStore
