import TenantAccess.Proofs.Matrix.RuleEdits

/-! # Runs of calls

What holds of the matrix after any run of calls on an empty store, and what the next call does there.
The answers of a run tell the history of each key, and the version of a row is the number of writes in
that history since the last deletion. All that is asked of a store is that its rows are filed under
their own keys, which every run preserves.
-/

namespace TenantAccess

/-- The number of writes since the last deletion, given the number before a change. -/
def Change.count (n : Nat) : Change → Nat
  | .written _ => n + 1
  | .deleted => 0

namespace History

variable {v w : Option Int} {history : List Change}

/-- A key is at as many as it was written since its last deletion. -/
theorem count (h : History v history w) {n : Nat} (start : v.getD 0 = n) :
    w.getD 0 = (history.foldl Change.count n : Nat) := by
  induction h generalizing n with
  | done v => exact start
  | change moves later ih =>
      apply ih
      cases moves with
      | written =>
          simp only [Option.getD_some, Change.count, start]
          omega
      | deleted => simp [Change.count]

/-- Without deletions each change counts one up. -/
theorem climbs {v : Int} (h : History (some v) history w) (kept : .deleted ∉ history) :
    w = some (v + history.length) := by
  by_cases idle : history = []
  · subst idle
    simp [h.of_nil]
  · exact (h.rises kept).2 idle

end History

namespace RowWrite

variable {w : RowWrite}

/-- A write that is in order: it names its row, and its rules are overrides under the members of pairs. -/
structure InOrder (w : RowWrite) (rules : List (Pair × Override)) : Prop where
  entity : w.entityId ≠ ""
  organization : w.organizationId ≠ ""
  role : w.role ≠ ""
  own : w.kind = .organization → w.entityId = w.organizationId
  rules : w.rules = Submission.inOrder rules

/-- The row that a write submits. -/
def row (w : RowWrite) (openByDefault : Bool) (rules : List (Pair × Override)) (version : Int) : Row :=
  ⟨w.kind, w.entityId, w.organizationId, w.role, .ofList rules, version,
    w.allowsChildren.getD openByDefault⟩

/-- Vetting accepts what is in order. -/
theorem vetRow_iff_inOrder {openByDefault : Bool} {row : Row} :
    MatrixStore.vetRow openByDefault w = .ok row ↔
      ∃ rules, w.InOrder rules ∧ row = w.row openByDefault rules (w.expected.getD 0) := by
  simp only [MatrixStore.vetRow_eq_ok_iff, MatrixStore.checkIds_eq_ok_iff, Submission.vet_eq_ok_iff]
  constructor
  · rintro ⟨⟨entity, organization, role, own⟩, _, ⟨rules, submitted, rfl⟩, rfl⟩
    exact ⟨rules, ⟨entity, organization, role, own, submitted⟩, rfl⟩
  · rintro ⟨rules, ⟨entity, organization, role, own, submitted⟩, rfl⟩
    exact ⟨⟨entity, organization, role, own⟩, _, ⟨rules, submitted, rfl⟩, rfl⟩

end RowWrite

theorem MatrixStore.not_answered_unchanged (s : MatrixStore) (f : Fault) :
    ¬ ∃ rows, ((s.unchanged f).mapAnswer fun row : Row => [row]).answer = .ok rows := by
  rintro ⟨rows, ok⟩
  cases ok

namespace MatrixCall

variable {s : MatrixStore} {openByDefault : Bool} {c : MatrixCall} {key : RowKey}
  {expected : Option Int}

/-- The call is not refused. -/
def Succeeds (openByDefault : Bool) (s : MatrixStore) (c : MatrixCall) : Prop :=
  ∃ rows, (c.written openByDefault s).answer = .ok rows

/-- The store after a run. -/
def runAll (openByDefault : Bool) (calls : List MatrixCall) (s : MatrixStore) : MatrixStore :=
  calls.foldl (fun s c => (c.written openByDefault s).store) s

/-- Whether a call takes rows out. -/
def takesOut : MatrixCall → Bool
  | upsert _ | setRule _ => false
  | remove _ _ | purge _ _ _ => true

/-- What a call did to a key, as its answer tells. -/
def change (key : RowKey) (c : MatrixCall) : Except Fault (List Row) → Option Change
  | .error _ => none
  | .ok rows => (rows.find? (·.key = key)).map fun row =>
      if c.takesOut then .deleted else .written row.version

/-- What a run did to a key, in order. -/
def changes (openByDefault : Bool) (key : RowKey) : List MatrixCall → MatrixStore → List Change
  | [], _ => []
  | c :: rest, s =>
    let w := c.written openByDefault s
    (c.change key w.answer).toList ++ changes openByDefault key rest w.store

/-- The call writes a key, over the version that it expects. -/
inductive Writes : RowKey → Option Int → MatrixCall → Prop
  | upsert (w : RowWrite) : Writes w.key w.expected (.upsert w)
  | setRule (w : RuleWrite) : Writes ⟨w.kind, w.entityId, w.role⟩ w.expected (.setRule w)

/-! ## One call -/

theorem takesOut_of_rowWrite? {w : RowWrite} (writes : c.rowWrite? s = some w) :
    c.takesOut = false := by
  cases c with
  | upsert | setRule => rfl
  | remove | purge => cases writes

theorem change_spec (filed : s.Filed) (openByDefault : Bool) (c : MatrixCall) (key : RowKey) :
    match c.change key (c.written openByDefault s).answer with
    | none => (c.written openByDefault s).store.get? key = s.get? key
    | some change =>
        change.Moves (s.version key) ((c.written openByDefault s).store.version key) := by
  have outcome := outcome_written filed openByDefault c
  generalize c.written openByDefault s = w at outcome ⊢
  cases outcome with
  | refused f => rfl
  | @stored w row next writes vetted current counted =>
      have own : next.key = w.key := by
        rw [counted]
        exact (MatrixStore.key_of_vetRow vetted : row.key = w.key)
      simp only [change, takesOut_of_rowWrite? writes]
      by_cases same : w.key = key
      · subst same
        have counts : next.version = (s.version w.key).getD 0 + 1 := by rw [counted, current]
        have moves := Change.Moves.written (s.version w.key)
        rw [← counts] at moves
        simpa [List.find?_singleton, own, MatrixStore.version_put_self] using moves
      · have other : ¬ next.key = key := own ▸ same
        simp only [List.find?_singleton, other, decide_false, Bool.false_eq_true, if_false,
          Option.map_none, MatrixStore.get?_put, if_neg same]
  | @removed other row named held =>
      have own : row.key = other := filed held
      simp only [change, named, takesOut]
      by_cases same : other = key
      · subst same
        have before := MatrixStore.version_of_get? held
        have moves := Change.Moves.deleted row.version
        simpa [List.find?_singleton, own, before, MatrixStore.version_erase_self] using moves
      · have differs : ¬ row.key = key := own ▸ same
        simp only [List.find?_singleton, differs, decide_false, Bool.false_eq_true, if_false,
          Option.map_none, MatrixStore.get?_erase, if_neg (Ne.symm same)]
  | @purged kind entityId organizationId gone named listed =>
      simp only [change, named, takesOut, listed, filed.find?_key, MatrixStore.version,
        MatrixStore.get?_filter]
      cases held : s.get? key with
      | none => rfl
      | some row =>
          cases ours : row.isOf kind entityId organizationId with
          | true => simpa [Option.filter, ours] using Change.Moves.deleted row.version
          | false => simp [Option.filter, ours]

theorem Writes.rowWrite? (writes : c.Writes key expected) (s : MatrixStore) :
    ∃ w, c.rowWrite? s = some w ∧ w.key = key ∧ w.expected = expected := by
  cases writes with
  | upsert w => exact ⟨w, rfl, rfl, rfl⟩
  | setRule w => exact ⟨s.editing w, rfl, rfl, rfl⟩

/-- A write that succeeds finds the version that it expects, and leaves the next one. -/
theorem Writes.moved (writes : c.Writes key expected) (ok : c.Succeeds openByDefault s) :
    s.version key = expected ∧
      (c.written openByDefault s).store.version key = some (expected.getD 0 + 1) := by
  obtain ⟨w, write, rfl, rfl⟩ := writes.rowWrite? s
  obtain ⟨rows, ok⟩ := ok
  rw [written_of_rowWrite? openByDefault write] at ok ⊢
  rcases s.upsert_cases openByDefault w with ⟨f, refused⟩ | ⟨row, after, next, vetted, done, result⟩
  · rw [refused] at ok
    cases ok
  · obtain ⟨current, -, -⟩ := MatrixStore.compareAndSet_eq_ok_iff.mp done
    rw [MatrixStore.key_of_vetRow vetted] at current
    refine ⟨current, ?_⟩
    rw [MatrixStore.upsert_of_current vetted current]
    exact MatrixStore.version_put_self ..

/-- What a call does to a store. -/
structure Lawful (openByDefault : Bool) (s : MatrixStore) (c : MatrixCall) : Prop where
  /-- A call that fails changes nothing. -/
  refused : ∀ f, (c.written openByDefault s).answer = .error f →
    (c.written openByDefault s).store = s
  /-- A row is stored exactly where it is in order and the version that its writer expects is the stored
  one. It is then the one that was submitted, with the next version. -/
  upserted : ∀ w, c = .upsert w →
    (c.Succeeds openByDefault s ↔ (∃ rules, w.InOrder rules) ∧ w.expected = s.version w.key) ∧
    ∀ rules, w.InOrder rules → c.Succeeds openByDefault s → ∀ key,
      (c.written openByDefault s).store.get? key =
        if w.key = key then some (w.row openByDefault rules (w.expected.getD 0 + 1)) else s.get? key
  /-- So is a rule. Its row is then what was stored, with just this rule put in or taken out, and with the
  next version. -/
  edited : ∀ w, c = .setRule w →
    (c.Succeeds openByDefault s ↔ w.Acceptable (s.get? w.key) ∧ w.expected = s.version w.key) ∧
    (c.Succeeds openByDefault s → ∃ row, w.Edits openByDefault (s.get? w.key) row ∧
      row.version = w.expected.getD 0 + 1 ∧ ∀ key,
        (c.written openByDefault s).store.get? key = if w.key = key then some row else s.get? key)
  /-- A row is removed exactly where it stands at the version that was named. -/
  removed : ∀ key expected, c = .remove key expected →
    (c.Succeeds openByDefault s ↔ ∃ row, s.get? key = some row ∧ expected = some row.version) ∧
    (c.Succeeds openByDefault s → ∀ other, (c.written openByDefault s).store.get? other =
      if other = key then none else s.get? other)
  /-- A purge takes out the rows of its entity in its organization, and keeps all others. -/
  purged : ∀ kind entityId organizationId, c = .purge kind entityId organizationId →
    c.Succeeds openByDefault s ∧ (c.written openByDefault s).store.rows.values =
      s.rows.values.filter (!·.isOf kind entityId organizationId)

theorem succeeds_upsert_iff {w : RowWrite} :
    (upsert w).Succeeds openByDefault s ↔ (∃ rules, w.InOrder rules) ∧ w.expected = s.version w.key := by
  cases vetted : MatrixStore.vetRow openByDefault w with
  | error f =>
      have disordered : ¬ ∃ rules, w.InOrder rules := by
        rintro ⟨rules, ordered⟩
        cases vetted.symm.trans (RowWrite.vetRow_iff_inOrder.mpr ⟨rules, ordered, rfl⟩)
      have refused : s.upsert openByDefault w = s.unchanged f := by simp only [MatrixStore.upsert, vetted]
      simp only [Succeeds, written, refused]
      exact iff_of_false (s.not_answered_unchanged f) fun taken => disordered taken.1
  | ok row =>
      obtain ⟨rules, ordered, -⟩ := RowWrite.vetRow_iff_inOrder.mp vetted
      have sound : ∃ rules, w.InOrder rules := ⟨rules, ordered⟩
      simp only [Succeeds, written, sound, true_and]
      by_cases current : s.version w.key = w.expected
      · rw [MatrixStore.upsert_of_current vetted current]
        exact iff_of_true ⟨_, rfl⟩ current.symm
      · obtain ⟨f, refused⟩ := MatrixStore.upsert_of_stale vetted current
        rw [refused]
        exact iff_of_false (s.not_answered_unchanged f) (Ne.symm current)

/-- A row that is stored is the one that was submitted. -/
theorem get?_of_upsert {w : RowWrite} {rules : List (Pair × Override)} (ordered : w.InOrder rules)
    (ok : (upsert w).Succeeds openByDefault s) (key : RowKey) :
    ((upsert w).written openByDefault s).store.get? key =
      if w.key = key then some (w.row openByDefault rules (w.expected.getD 0 + 1)) else s.get? key := by
  have vetted : MatrixStore.vetRow openByDefault w = .ok (w.row openByDefault rules (w.expected.getD 0)) :=
    RowWrite.vetRow_iff_inOrder.mpr ⟨rules, ordered, rfl⟩
  have current := (succeeds_upsert_iff.mp ok).2
  simp only [written, MatrixStore.upsert_of_current vetted current.symm]
  exact MatrixStore.get?_put ..

theorem succeeds_setRule_iff {w : RuleWrite} :
    (setRule w).Succeeds openByDefault s ↔
      w.Acceptable (s.get? w.key) ∧ w.expected = s.version w.key := by
  have taken : (∃ row, (s.setRule openByDefault w).answer = .ok row) ↔
      w.Acceptable (s.get? w.key) ∧ s.version w.key = w.expected := MatrixStore.setRule_eq_ok_iff
  rw [eq_comm (a := w.expected), ← taken]
  constructor
  · rintro ⟨rows, answered⟩
    change Except.map _ (s.setRule openByDefault w).answer = .ok rows at answered
    cases told : (s.setRule openByDefault w).answer with
    | ok row => exact ⟨row, rfl⟩
    | error f =>
        rw [told] at answered
        cases answered
  · rintro ⟨row, answered⟩
    exact ⟨[row], congrArg (Except.map _) answered⟩

/-- A row of which a rule is changed is what it was in all else. -/
theorem edits_of_succeeds {w : RuleWrite} (ok : (setRule w).Succeeds openByDefault s) :
    ∃ row, w.Edits openByDefault (s.get? w.key) row ∧ row.version = w.expected.getD 0 + 1 ∧
      ∀ key, ((setRule w).written openByDefault s).store.get? key =
        if w.key = key then some row else s.get? key := by
  obtain ⟨acceptable, current⟩ := succeeds_setRule_iff.mp ok
  obtain ⟨row, edits, done⟩ := MatrixStore.setRule_of_acceptable openByDefault acceptable current.symm
  refine ⟨row, edits, ?_, fun key => ?_⟩
  · rw [current]
    cases found : s.get? w.key with
    | none =>
        have absent : s.version w.key = none := congrArg (Option.map _) found
        rw [(edits.created found).2, absent]
        rfl
    | some held => rw [(edits.kept held found).2, MatrixStore.version_of_get? found, Option.getD_some]
  · simp only [written, done]
    exact MatrixStore.get?_put ..

theorem lawful (filed : s.Filed) (openByDefault : Bool) (c : MatrixCall) :
    c.Lawful openByDefault s where
  refused f failed := by
    rw [written_of_refused filed failed]
    rfl
  upserted w named := by
    subst named
    exact ⟨succeeds_upsert_iff, fun rules ordered ok => get?_of_upsert ordered ok⟩
  edited w named := by
    subst named
    exact ⟨succeeds_setRule_iff, edits_of_succeeds⟩
  removed key expected named := by
    subst named
    simp only [Succeeds, written]
    by_cases current : ∃ row, s.get? key = some row ∧ expected = some row.version
    · obtain ⟨row, held, rfl⟩ := current
      rw [MatrixStore.remove_of_current held]
      exact ⟨iff_of_true ⟨_, rfl⟩ ⟨row, held, rfl⟩, fun _ other => MatrixStore.get?_erase ..⟩
    · obtain ⟨f, refused⟩ := MatrixStore.remove_of_stale current
      rw [refused]
      have fails := s.not_answered_unchanged f
      exact ⟨iff_of_false fails current, fun ok => absurd ok fails⟩
  purged kind entityId organizationId named := by
    subst named
    simp only [Succeeds, written, MatrixStore.purge_eq filed]
    exact ⟨⟨_, rfl⟩, Table.values_filter ..⟩

/-! ## A run of calls -/

theorem runAll_append (before after : List MatrixCall) (s : MatrixStore) :
    runAll openByDefault (before ++ after) s =
      runAll openByDefault after (runAll openByDefault before s) :=
  List.foldl_append

theorem filed_runAll (filed : s.Filed) (openByDefault : Bool) (calls : List MatrixCall) :
    (runAll openByDefault calls s).Filed := by
  induction calls generalizing s with
  | nil => exact filed
  | cons c rest ih => exact ih (filed_written filed openByDefault c)

/-- What the answers tell of a key is a history of the key. -/
theorem history_changes (filed : s.Filed) (openByDefault : Bool) (key : RowKey)
    (calls : List MatrixCall) :
    History (s.version key) (changes openByDefault key calls s)
      ((runAll openByDefault calls s).version key) := by
  induction calls generalizing s with
  | nil => exact .done _
  | cons c rest ih =>
      exact .of_step (change_spec filed openByDefault c key)
        (ih (filed_written filed openByDefault c))

/-- Between two writes that succeed over the same version the key was deleted. -/
theorem deleted_between (filed : s.Filed) {between : List MatrixCall} {second : MatrixCall}
    (first : c.Writes key expected) (again : second.Writes key expected)
    (ok : c.Succeeds openByDefault s)
    (ok' : second.Succeeds openByDefault (runAll openByDefault (c :: between) s)) :
    .deleted ∈ changes openByDefault key between (c.written openByDefault s).store := by
  by_contra kept
  have history := history_changes (filed_written filed openByDefault c) openByDefault key between
  have ends : (runAll openByDefault between (c.written openByDefault s).store).version key =
      expected := (again.moved ok').1
  rw [(first.moved ok).2, ends] at history
  have climbed := history.climbs kept
  cases expected with
  | none => cases climbed
  | some v =>
      simp only [Option.getD_some, Option.some.injEq] at climbed
      omega

/-- After any run of calls on an empty store there is one row for a key, the version of each row is
the number of writes since its key was last deleted, two writes that succeed over the same version
have a deletion between them, and the next call is stored, refused or carried out as it should be. -/
theorem runAll_lawful (openByDefault : Bool) (calls : List MatrixCall) :
    let s := runAll openByDefault calls .empty
    (s.rows.values.map Row.key).Nodup ∧
      (∀ key row, s.get? key = some row → row.key = key ∧
        row.version = ((changes openByDefault key calls .empty).foldl Change.count 0 : Nat)) ∧
      (∀ before first between second after key expected,
        calls = before ++ first :: (between ++ second :: after) →
        first.Writes key expected → second.Writes key expected →
        first.Succeeds openByDefault (runAll openByDefault before .empty) →
        second.Succeeds openByDefault (runAll openByDefault (before ++ first :: between) .empty) →
        .deleted ∈ changes openByDefault key between
          (runAll openByDefault (before ++ [first]) .empty)) ∧
      ∀ c : MatrixCall, c.Lawful openByDefault s := by
  intro s
  have filed : s.Filed := filed_runAll MatrixStore.filed_empty openByDefault calls
  refine ⟨filed.distinct, fun key row held => ⟨filed held, ?_⟩, ?_, lawful filed openByDefault⟩
  · have whole := history_changes MatrixStore.filed_empty openByDefault key calls
    have counted := whole.count (n := 0) rfl
    rw [MatrixStore.version_of_get? held] at counted
    exact counted
  · intro before first between second after key expected _ writes again ok ok'
    rw [runAll_append] at ok' ⊢
    exact deleted_between (filed_runAll MatrixStore.filed_empty openByDefault before) writes again ok ok'

end MatrixCall

namespace Sample

/-- A write without rules. -/
def plainWrite (expected : Option Int) : RowWrite :=
  ⟨.team, "t-1", "org-1", "viewer", [], expected, none⟩

def plainKey : RowKey := ⟨.team, "t-1", "viewer"⟩

/-- The row is written twice, deleted, and written twice again. -/
def rebuilding : List MatrixCall :=
  [.upsert (plainWrite none), .upsert (plainWrite (some 1)), .remove plainKey (some 2),
    .upsert (plainWrite none), .upsert (plainWrite (some 1))]

end Sample

open Sample in
/-- Both pairs of writes expect the same versions, and the deletion lies between them. A stale write is
refused then, and a denial is put into the row that is there. -/
theorem MatrixCall.runAll_lawful_rebuilt :
    let s := runAll true rebuilding .empty
    let denial : RuleWrite := { hide with expected := some 2 }
    (∃ row, s.get? plainKey = some row ∧ row.version = 2) ∧
      .deleted ∈ changes true plainKey
        [.upsert (plainWrite (some 1)), .remove plainKey (some 2)]
        (runAll true [.upsert (plainWrite none)] .empty) ∧
      ¬ (upsert (plainWrite (some 1))).Succeeds true s ∧
      ∃ row, ((setRule denial).written true s).store.get? plainKey = some row ∧
        row.ruleFor ⟨.task, .view⟩ = some .denying ∧ row.version = 3 := by
  intro s denial
  obtain ⟨-, counted, between, lawful⟩ := runAll_lawful true rebuilding
  have created : (upsert (plainWrite none)).Writes plainKey none := .upsert (plainWrite none)
  refine ⟨?_, ?_, ?_, ?_⟩
  · obtain ⟨row, held⟩ := Option.isSome_iff_exists.mp (show (s.get? plainKey).isSome by decide)
    exact ⟨row, held, (counted plainKey row held).2⟩
  · exact between [] _ _ _ [upsert (plainWrite (some 1))] _ none rfl created created
      ⟨_, rfl⟩ ⟨_, rfl⟩
  · intro ok
    have current := (((lawful (upsert (plainWrite (some 1)))).upserted _ rfl).1.mp ok).2
    exact absurd current (by decide)
  · obtain ⟨row, edits, version, stored⟩ := ((lawful (setRule denial)).edited denial rfl).2 ⟨_, rfl⟩
    have named : denial.key = plainKey := rfl
    exact ⟨row, (stored plainKey).trans (if_pos named), edits.rule _ rfl, version⟩

end TenantAccess
