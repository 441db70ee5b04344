import TenantAccess.Proofs.Matrix.Store

/-! # Histories of a key

Clients reach the store one call at a time, whoever makes the call, so what several clients do
together is a list of calls. Read for one key, such a list leaves a history: the versions that
were written and the deletions, in order. A history says what the key is at, and the key's
version says little about its history once there are deletions in it.
-/

namespace TenantAccess

/-- A call on the matrix store. -/
inductive StoreCall where
  | get (key : RowKey)
  | set (row : Row) (expected : Option Int)
  | delete (key : RowKey) (expected : Option Int)

/-- What a call that succeeds does to its key. -/
inductive Change where
  | written (version : Int)
  | deleted
  deriving Repr, DecidableEq

namespace Change

/-- From one version of a key to the next; a key without a row is at none. -/
inductive Moves : Option Int → Change → Option Int → Prop
  | written (v : Option Int) : Moves v (.written (v.getD 0 + 1)) (some (v.getD 0 + 1))
  | deleted (v : Int) : Moves (some v) .deleted none

/-- The version that was written. -/
def version? : Change → Option Int
  | .written v => some v
  | .deleted => none

end Change

namespace StoreCall

variable {s : MatrixStore} {key : RowKey}

/-- The store after a call and the row that it answers with. -/
def outcome : StoreCall → MatrixStore → Except Fault (MatrixStore × Option Row)
  | .get key, s => .ok (s, s.get? key)
  | .set row expected, s => (s.compareAndSet row expected).map fun done => (done.1, some done.2)
  | .delete key expected, s => (s.delete key expected).map fun done => (done.1, some done.2)

/-- The store after a call; a call that fails leaves it alone. -/
def next (c : StoreCall) (s : MatrixStore) : MatrixStore :=
  match c.outcome s with
  | .ok done => done.1
  | .error _ => s

/-- What a call changes under a key. -/
def change (key : RowKey) (c : StoreCall) (s : MatrixStore) : Option Change :=
  match c with
  | .get _ => none
  | .set row expected =>
    match s.compareAndSet row expected with
    | .ok done => if row.key = key then some (.written done.2.version) else none
    | .error _ => none
  | .delete other expected =>
    match s.delete other expected with
    | .ok _ => if other = key then some .deleted else none
    | .error _ => none

section

variable {after : MatrixStore} {row : Row} {answer : Option Row} {expected : Option Int}

private theorem map_eq_ok_iff {x : Except Fault (MatrixStore × Row)} :
    (x.map fun done => (done.1, some done.2)) = .ok (after, answer) ↔
      ∃ row, x = .ok (after, row) ∧ answer = some row := by
  cases x with
  | error f => simp [Except.map]
  | ok done => simp [Except.map, Prod.ext_iff, eq_comm, and_assoc]

theorem outcome_set_eq_ok_iff :
    (set row expected).outcome s = .ok (after, answer) ↔
      ∃ stored, s.compareAndSet row expected = .ok (after, stored) ∧ answer = some stored :=
  map_eq_ok_iff

theorem outcome_delete_eq_ok_iff :
    (delete key expected).outcome s = .ok (after, answer) ↔
      ∃ removed, s.delete key expected = .ok (after, removed) ∧ answer = some removed :=
  map_eq_ok_iff

theorem next_set {stored : Row} (done : s.compareAndSet row expected = .ok (after, stored)) :
    (set row expected).next s = after := by
  simp only [next, outcome_set_eq_ok_iff.mpr ⟨stored, done, rfl⟩]

theorem next_delete {removed : Row} (done : s.delete key expected = .ok (after, removed)) :
    (delete key expected).next s = after := by
  simp only [next, outcome_delete_eq_ok_iff.mpr ⟨removed, done, rfl⟩]

end

/-- All that a call can do. -/
theorem next_cases (c : StoreCall) (s : MatrixStore) :
    (c.next s = s ∧ ∀ key, c.change key s = none) ∨
    (∃ row expected stored, c = .set row expected ∧
      s.compareAndSet row expected = .ok (c.next s, stored)) ∨
    (∃ key expected removed, c = .delete key expected ∧
      s.delete key expected = .ok (c.next s, removed)) := by
  cases c with
  | get key => exact .inl ⟨rfl, fun _ => rfl⟩
  | set row expected =>
      cases done : s.compareAndSet row expected with
      | error f => exact .inl ⟨by simp [next, outcome, done, Except.map], by simp [change, done]⟩
      | ok found =>
          exact .inr (.inl ⟨row, expected, found.2, rfl, by rw [next_set done]; exact done⟩)
  | delete key expected =>
      cases done : s.delete key expected with
      | error f => exact .inl ⟨by simp [next, outcome, done, Except.map], by simp [change, done]⟩
      | ok found =>
          exact .inr (.inr ⟨key, expected, found.2, rfl, by rw [next_delete done]; exact done⟩)

theorem filed_next (c : StoreCall) (filed : s.Filed) : (c.next s).Filed := by
  rcases c.next_cases s with ⟨same, -⟩ | ⟨row, expected, stored, -, done⟩ |
    ⟨key, expected, removed, -, done⟩
  · rw [same]
    exact filed
  · exact filed.compareAndSet done
  · exact filed.delete done

/-- A key that a call does not change keeps its row; one that it changes moves on. -/
theorem change_spec (c : StoreCall) (s : MatrixStore) (key : RowKey) :
    match c.change key s with
    | none => (c.next s).get? key = s.get? key
    | some change => change.Moves (s.version key) ((c.next s).version key) := by
  rcases c.next_cases s with ⟨same, unchanged⟩ | ⟨row, expected, stored, rfl, done⟩ |
    ⟨other, expected, removed, rfl, done⟩
  · rw [unchanged key, same]
  · obtain ⟨-, counted, after⟩ := MatrixStore.compareAndSet_eq_ok_iff.mp done
    have version : stored.version = (s.version row.key).getD 0 + 1 := by
      rw [counted, ← MatrixStore.nextVersion_get?]
    simp only [change, done]
    by_cases same : row.key = key
    · subst same
      rw [if_pos rfl, after, MatrixStore.version_put_self, version]
      exact .written _
    · rw [if_neg same, after, MatrixStore.get?_put, if_neg same]
  · obtain ⟨found, -, after⟩ := MatrixStore.delete_eq_ok_iff.mp done
    simp only [change, done]
    by_cases same : other = key
    · subst same
      rw [if_pos rfl, after, MatrixStore.version_erase_self, MatrixStore.version_of_get? found]
      exact .deleted _
    · rw [if_neg same, after, MatrixStore.get?_erase, if_neg (Ne.symm same)]

/-- The store after a run. -/
def run (calls : List StoreCall) (s : MatrixStore) : MatrixStore :=
  calls.foldl (fun s c => c.next s) s

theorem run_append (before between : List StoreCall) (s : MatrixStore) :
    run (before ++ between) s = run between (run before s) :=
  List.foldl_append

theorem filed_run (calls : List StoreCall) (filed : s.Filed) : (run calls s).Filed := by
  induction calls generalizing s with
  | nil => exact filed
  | cons c rest ih => exact ih (c.filed_next filed)

/-- What a run changes under a key, in order. -/
def changes (key : RowKey) : List StoreCall → MatrixStore → List Change
  | [], _ => []
  | c :: rest, s => (c.change key s).toList ++ changes key rest (c.next s)

end StoreCall

/-- A history leads from one version of a key to another. -/
inductive History : Option Int → List Change → Option Int → Prop
  | done (v : Option Int) : History v [] v
  | change {v w u : Option Int} {change : Change} {rest : List Change} (moves : change.Moves v w)
      (later : History w rest u) : History v (change :: rest) u

namespace History

open Change (written deleted Moves)

variable {v w : Option Int} {first second history : List Change}

/-- Where a step changes a key, the history of what follows is continued to the front. -/
theorem of_step {s s' : MatrixStore} {key : RowKey} {step : Option Change}
    (spec : match step with
      | none => s'.get? key = s.get? key
      | some moved => moved.Moves (s.version key) (s'.version key))
    (later : History (s'.version key) second w) :
    History (s.version key) (step.toList ++ second) w := by
  cases step with
  | none =>
      have same : s'.version key = s.version key := congrArg (Option.map _) spec
      rw [same] at later
      exact later
  | some moved => exact .change spec later

/-- What a run changes under a key is a history of the key. -/
theorem of_run (key : RowKey) (calls : List StoreCall) (s : MatrixStore) :
    History (s.version key) (StoreCall.changes key calls s)
      ((StoreCall.run calls s).version key) := by
  induction calls generalizing s with
  | nil => exact .done _
  | cons c rest ih => exact of_step (c.change_spec s key) (ih (c.next s))

theorem of_nil (h : History v [] w) : w = v := by
  cases h
  rfl

/-- A history splits where the list of its changes does. -/
theorem split (h : History v (first ++ second) w) : ∃ u, History v first u ∧ History u second w := by
  induction first generalizing v with
  | nil => exact ⟨v, .done v, h⟩
  | cons change rest ih =>
      cases h with
      | change moves later =>
          obtain ⟨u, left, right⟩ := ih later
          exact ⟨u, .change moves left, right⟩

/-- After a deletion there is nothing. -/
theorem split_deleted (h : History v (first ++ deleted :: second) w) :
    (∃ u, History v first (some u)) ∧ History none second w := by
  obtain ⟨u, left, right⟩ := h.split
  cases right with
  | change moves later =>
      cases moves with
      | deleted u => exact ⟨⟨u, left⟩, later⟩

/-- A key without a row can only be created, and creation gives version one. -/
theorem created (h : History none history w) (nonempty : history ≠ []) :
    ∃ rest, history = written 1 :: rest := by
  cases h with
  | done => exact absurd rfl nonempty
  | change moves later =>
      cases moves with
      | written => exact ⟨_, rfl⟩

/-- Writes that count up from a version. -/
def rising (v : Int) : Nat → List Change
  | 0 => []
  | n + 1 => written (v + 1) :: rising (v + 1) n

theorem not_deleted_rising (v : Int) (n : Nat) : deleted ∉ rising v n := by
  induction n generalizing v with
  | zero => simp [rising]
  | succ n ih => simp [rising, ih]

theorem length_rising (v : Int) (n : Nat) : (rising v n).length = n := by
  induction n generalizing v with
  | zero => rfl
  | succ n ih => simp [rising, ih]

/-- A history without deletions counts up and does nothing else. -/
theorem rises (h : History v history w) (kept : deleted ∉ history) :
    history = rising (v.getD 0) history.length ∧
      (history ≠ [] → w = some (v.getD 0 + history.length)) := by
  induction h with
  | done v => exact ⟨rfl, fun nonempty => absurd rfl nonempty⟩
  | @change v u w change rest moves later ih =>
      cases moves with
      | deleted => exact absurd List.mem_cons_self kept
      | written =>
          obtain ⟨counts, last⟩ := ih fun h => kept (List.mem_cons_of_mem _ h)
          simp only [Option.getD_some] at counts last
          refine ⟨?_, fun _ => ?_⟩
          · simp only [List.length_cons, rising]
            rw [← counts]
          · by_cases ends : rest = []
            · subst ends
              rw [later.of_nil]
              simp
            · rw [last ends]
              simp only [List.length_cons, Option.some.injEq]
              omega

/-- Versions start at one, and no write takes one below its predecessor. -/
theorem one_le (h : History v history w) (start : ∀ n, v = some n → 1 ≤ n) {n : Int}
    (ends : w = some n) : 1 ≤ n := by
  induction h with
  | done v => exact start n ends
  | @change v u w change rest moves later ih =>
      refine ih (fun m same => ?_) ends
      cases moves with
      | deleted => cases same
      | written =>
          cases same
          cases v with
          | none => simp
          | some k =>
              have := start k rfl
              simp only [Option.getD_some]
              omega

end History

end TenantAccess
