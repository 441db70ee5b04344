import TenantAccess.Matrix.Writer
import TenantAccess.Proofs.Matrix.History

/-! # Calls of writers

Writers reach the store through four calls. Whatever such a call does to the store, a run of
locked calls does too, so that what holds after every run holds in every matrix that writers can
bring about.
-/

namespace TenantAccess

/-- A call of a writer. -/
inductive MatrixCall where
  | upsert (w : RowWrite)
  | setRule (w : RuleWrite)
  | remove (key : RowKey) (expected : Option Int)
  | purge (kind : EntityKind) (entityId organizationId : String)

/-- Tell the writer something else. -/
def Written.mapAnswer {α β : Type} (f : α → β) (w : Written α) : Written β :=
  ⟨w.answer.map f, w.store, w.outdated, w.entries⟩

/-- The key that a write goes to. -/
def RowWrite.key (w : RowWrite) : RowKey := ⟨w.kind, w.entityId, w.role⟩

namespace MatrixStore

variable {s : MatrixStore} {openByDefault : Bool} {w : RowWrite} {row : Row}

theorem checkIds_eq_ok_iff :
    checkIds w = .ok () ↔ w.entityId ≠ "" ∧ w.organizationId ≠ "" ∧ w.role ≠ "" ∧
      (w.kind = .organization → w.entityId = w.organizationId) := by
  unfold checkIds
  by_cases blank : w.entityId = "" ∨ w.organizationId = "" ∨ w.role = ""
  · simp only [blank, if_true, reduceCtorEq, false_iff]
    tauto
  · by_cases foreign : w.kind = .organization ∧ w.entityId ≠ w.organizationId
    · simp only [blank, if_false, foreign, ne_eq, not_false_eq_true, and_self, if_true, reduceCtorEq,
        false_iff]
      tauto
    · simp only [blank, if_false, foreign, true_iff]
      tauto

theorem vetRow_eq_ok_iff :
    vetRow openByDefault w = .ok row ↔
      checkIds w = .ok () ∧ ∃ rules, Submission.vet w.rules = .ok rules ∧
        row = ⟨w.kind, w.entityId, w.organizationId, w.role, rules, w.expected.getD 0,
          w.allowsChildren.getD openByDefault⟩ := by
  simp only [vetRow, bind, Except.bind, pure, Except.pure]
  cases checkIds w with
  | error f => simp
  | ok checked =>
      cases Submission.vet w.rules with
      | error f => simp
      | ok rules => simp [eq_comm]

theorem key_of_vetRow (vetted : vetRow openByDefault w = .ok row) : row.key = w.key := by
  obtain ⟨-, rules, -, rfl⟩ := vetRow_eq_ok_iff.mp vetted
  rfl

theorem organizationId_of_vetRow (vetted : vetRow openByDefault w = .ok row) :
    row.organizationId = w.organizationId := by
  obtain ⟨-, rules, -, rfl⟩ := vetRow_eq_ok_iff.mp vetted
  rfl

/-- A row is stored if it passes vetting and its version is the expected one. -/
theorem upsert_cases (s : MatrixStore) (openByDefault : Bool) (w : RowWrite) :
    (∃ f, s.upsert openByDefault w = s.unchanged f) ∨
    ∃ row after stored, vetRow openByDefault w = .ok row ∧
      s.compareAndSet row w.expected = .ok (after, stored) ∧
      s.upsert openByDefault w =
        ⟨.ok stored, after, some w.organizationId, [storedEntry stored]⟩ := by
  cases vetted : vetRow openByDefault w with
  | error f => exact .inl ⟨f, by simp [upsert, vetted]⟩
  | ok row =>
      cases done : s.compareAndSet row w.expected with
      | error f => exact .inl ⟨f, by simp [upsert, vetted, done]⟩
      | ok found => exact .inr ⟨row, found.1, found.2, rfl, done, by simp [upsert, vetted, done]⟩

theorem remove_cases (s : MatrixStore) (key : RowKey) (expected : Option Int) :
    (∃ f, s.remove key expected = s.unchanged f) ∨
    ∃ after removed, s.delete key expected = .ok (after, removed) ∧
      s.remove key expected =
        ⟨.ok removed, after, some removed.organizationId, [deletedEntry key]⟩ := by
  cases done : s.delete key expected with
  | error f => exact .inl ⟨f, by simp [remove, done]⟩
  | ok found => exact .inr ⟨found.1, found.2, rfl, by simp [remove, done]⟩

theorem upsert_of_current (vetted : vetRow openByDefault w = .ok row)
    (current : s.version w.key = w.expected) :
    let next := { row with version := w.expected.getD 0 + 1 }
    s.upsert openByDefault w =
      ⟨.ok next, ⟨s.rows.put w.key next⟩, some w.organizationId, [storedEntry next]⟩ := by
  intro next
  have key := key_of_vetRow vetted
  have done : s.compareAndSet row w.expected = .ok (⟨s.rows.put w.key next⟩, next) := by
    refine compareAndSet_eq_ok_iff.mpr ⟨key ▸ current, ?_, by rw [key]⟩
    rw [nextVersion_get?, key, current]
  simp only [upsert, vetted, done]

theorem upsert_of_stale (vetted : vetRow openByDefault w = .ok row)
    (stale : s.version w.key ≠ w.expected) :
    ∃ f, s.upsert openByDefault w = s.unchanged f := by
  have refused := compareAndSet_of_ne (key_of_vetRow vetted ▸ stale)
  exact ⟨_, by simp only [upsert, vetted, refused]; rfl⟩

theorem remove_of_current {key : RowKey} (held : s.get? key = some row) :
    s.remove key (some row.version) =
      ⟨.ok row, ⟨s.rows.erase key⟩, some row.organizationId, [deletedEntry key]⟩ := by
  have done : s.delete key (some row.version) = .ok (⟨s.rows.erase key⟩, row) :=
    delete_eq_ok_iff.mpr ⟨held, rfl, rfl⟩
  simp only [remove, done]

theorem remove_of_stale {key : RowKey} {expected : Option Int}
    (stale : ¬ ∃ row, s.get? key = some row ∧ expected = some row.version) :
    ∃ f, s.remove key expected = s.unchanged f := by
  rcases s.remove_cases key expected with refused | ⟨after, row, done, -⟩
  · exact refused
  · obtain ⟨held, named, -⟩ := delete_eq_ok_iff.mp done
    exact absurd ⟨row, held, named⟩ stale

/-- The row as it is to be after one rule of it was changed. -/
def editing (s : MatrixStore) (w : RuleWrite) : RowWrite :=
  let current := s.get? ⟨w.kind, w.entityId, w.role⟩
  { kind := w.kind
    entityId := w.entityId
    organizationId := w.organizationId
    role := w.role
    rules := editedRules current (.pair w.resource w.action) w.rule
    expected := w.expected
    allowsChildren := current.map (·.allowsChildren) }

theorem setRule_eq_upsert (s : MatrixStore) (openByDefault : Bool) (w : RuleWrite) :
    s.setRule openByDefault w = s.upsert openByDefault (s.editing w) := rfl

end MatrixStore

namespace Purge

variable {p : Purge} {s : MatrixStore}

/-- The deletion of one listed row. -/
def deletion (kind : EntityKind) (entityId : String) (row : Row) : StoreCall :=
  .delete ⟨kind, entityId, row.role⟩ (some row.version)

/-- Either the next listed row is deleted and the purge goes on, or it ends there. -/
theorem deleteAll_cons (p : Purge) (s : MatrixStore) (row : Row) (rest : List Row) :
    (∃ f, p.deleteAll s (row :: rest) = (.error f, s)) ∨
    ∃ after removed,
      s.delete ⟨p.kind, p.entityId, row.role⟩ (some row.version) = .ok (after, removed) ∧
      p.deleteAll s (row :: rest) =
        ({ p with pending := rest, removed := p.removed ++ [removed] } : Purge).deleteAll
          after rest := by
  cases done : s.delete ⟨p.kind, p.entityId, row.role⟩ (some row.version) with
  | error f => exact .inl ⟨f, by simp [deleteAll, deleteNext, done, Except.map]⟩
  | ok found =>
      exact .inr ⟨found.1, found.2, rfl, by simp [deleteAll, deleteNext, done, Except.map]⟩

/-- A purge is a run of deletions, as far as it gets. -/
theorem deleteAll_is_run (p : Purge) (s : MatrixStore) (rows : List Row) :
    ∃ count, (p.deleteAll s rows).2 =
      StoreCall.run ((rows.take count).map (deletion p.kind p.entityId)) s := by
  induction rows generalizing p s with
  | nil => exact ⟨0, rfl⟩
  | cons row rest ih =>
      rcases p.deleteAll_cons s row rest with ⟨f, ended⟩ | ⟨after, removed, done, goes⟩
      · exact ⟨0, by rw [ended]; rfl⟩
      · obtain ⟨count, reached⟩ :=
          ih { p with pending := rest, removed := p.removed ++ [removed] } after
        refine ⟨count + 1, ?_⟩
        rw [goes, reached]
        have first : (deletion p.kind p.entityId row).next s = after := StoreCall.next_delete done
        simp only [List.take_succ_cons, List.map_cons, StoreCall.run, List.foldl_cons, first]

theorem store_purge (s : MatrixStore) (kind : EntityKind) (entityId organizationId : String) :
    (s.purge kind entityId organizationId).store =
      ((start s kind entityId organizationId).deleteAll s
        (start s kind entityId organizationId).pending).2 := by
  simp only [MatrixStore.purge]
  generalize (start s kind entityId organizationId).deleteAll s
    (start s kind entityId organizationId).pending = ended
  obtain ⟨answer, after⟩ := ended
  cases answer with
  | error f => rfl
  | ok done => rfl

end Purge

namespace MatrixCall

variable {s : MatrixStore}

/-- What a call does. -/
def written (openByDefault : Bool) : MatrixCall → MatrixStore → Written (List Row)
  | upsert w, s => (s.upsert openByDefault w).mapAnswer fun row => [row]
  | setRule w, s => (s.setRule openByDefault w).mapAnswer fun row => [row]
  | remove key expected, s => (s.remove key expected).mapAnswer fun row => [row]
  | purge kind entityId organizationId, s => s.purge kind entityId organizationId

/-- The organization that a call says it is about; a removal says none. -/
def organizationId? : MatrixCall → Option String
  | upsert w => some w.organizationId
  | setRule w => some w.organizationId
  | remove _ _ => none
  | purge _ _ organizationId => some organizationId

/-- The row that a call is to store. -/
def rowWrite? (s : MatrixStore) : MatrixCall → Option RowWrite
  | upsert w => some w
  | setRule w => some (s.editing w)
  | _ => none

theorem written_of_rowWrite? {c : MatrixCall} {w : RowWrite} (openByDefault : Bool)
    (writes : c.rowWrite? s = some w) :
    c.written openByDefault s = (s.upsert openByDefault w).mapAnswer fun row => [row] := by
  cases c with
  | upsert => cases writes; rfl
  | setRule => cases writes; rfl
  | remove => cases writes
  | purge => cases writes

theorem store_of_rowWrite? {c : MatrixCall} {w : RowWrite} (openByDefault : Bool)
    (writes : c.rowWrite? s = some w) :
    (c.written openByDefault s).store = (s.upsert openByDefault w).store := by
  rw [written_of_rowWrite? openByDefault writes]
  rfl

/-- What a call does to the store, a run of locked calls does too. -/
theorem is_run (openByDefault : Bool) (c : MatrixCall) (s : MatrixStore) :
    ∃ calls, (c.written openByDefault s).store = StoreCall.run calls s := by
  have upserted (w : RowWrite) :
      ∃ calls, (s.upsert openByDefault w).store = StoreCall.run calls s := by
    rcases s.upsert_cases openByDefault w with ⟨f, refused⟩ | ⟨row, after, stored, -, done, result⟩
    · exact ⟨[], by rw [refused]; rfl⟩
    · refine ⟨[.set row w.expected], ?_⟩
      simp only [result, StoreCall.run, List.foldl, StoreCall.next_set done]
  cases c with
  | upsert w => exact upserted w
  | setRule w => exact upserted (s.editing w)
  | remove key expected =>
      rcases s.remove_cases key expected with ⟨f, refused⟩ | ⟨after, removed, done, result⟩
      · exact ⟨[], by simp only [written, Written.mapAnswer, refused]; rfl⟩
      · refine ⟨[.delete key expected], ?_⟩
        simp only [written, Written.mapAnswer, result, StoreCall.run, List.foldl,
          StoreCall.next_delete done]
  | purge kind entityId organizationId =>
      obtain ⟨count, reached⟩ := (Purge.start s kind entityId organizationId).deleteAll_is_run s
        (Purge.start s kind entityId organizationId).pending
      exact ⟨_, (Purge.store_purge s kind entityId organizationId).trans reached⟩

theorem filed_written (filed : s.Filed) (openByDefault : Bool) (c : MatrixCall) :
    (c.written openByDefault s).store.Filed := by
  obtain ⟨calls, same⟩ := c.is_run openByDefault s
  rw [same]
  exact StoreCall.filed_run calls filed

end MatrixCall

/-- A matrix that writers can bring about. -/
inductive MatrixStore.Reachable : MatrixStore → Prop
  | empty : Reachable .empty
  | call {s : MatrixStore} (openByDefault : Bool) (c : MatrixCall) (reached : Reachable s) :
      Reachable (c.written openByDefault s).store

namespace MatrixStore.Reachable

variable {s : MatrixStore}

theorem is_run (reachable : s.Reachable) : ∃ calls, s = StoreCall.run calls .empty := by
  induction reachable with
  | empty => exact ⟨[], rfl⟩
  | @call s openByDefault c reached ih =>
      obtain ⟨before, rfl⟩ := ih
      obtain ⟨calls, result⟩ := c.is_run openByDefault (StoreCall.run before .empty)
      exact ⟨before ++ calls, result.trans (StoreCall.run_append before calls .empty).symm⟩

theorem filed (reachable : s.Reachable) : s.Filed := by
  obtain ⟨calls, rfl⟩ := reachable.is_run
  exact StoreCall.filed_run calls filed_empty

end MatrixStore.Reachable

end TenantAccess
