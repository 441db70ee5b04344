import TenantAccess.Proofs.Matrix.Runs

/-! # Closed rows over a run

A row is closed where it forbids rules further down. What becomes of this over a run is up to the
upserts of its key alone: the last one that is carried out has the say, whether its writer speaks or
leaves it to the default, and a change of a single rule keeps what it finds. So a closed row is opened
by a writer who asks for it, and also by one who says nothing where the default is open. The second
way is the only one by which a row comes open unasked.
-/

namespace TenantAccess

namespace MatrixCall

variable {s : MatrixStore} {openByDefault : Bool} {c : MatrixCall} {key : RowKey} {row row' : Row}

/-- What a call that was answered says of the levels below a key: whether rules there may differ.
Only upserts of the key say anything. -/
def saying (openByDefault : Bool) (key : RowKey) : MatrixCall → Except Fault (List Row) → Option Bool
  | upsert w, .ok _ => if w.key = key then some (w.allowsChildren.getD openByDefault) else none
  | _, _ => none

/-- What a run says of the levels below a key, in order. -/
def sayings (openByDefault : Bool) (key : RowKey) : List MatrixCall → MatrixStore → List Bool
  | [], _ => []
  | c :: rest, s =>
    let w := c.written openByDefault s
    (c.saying openByDefault key w.answer).toList ++ sayings openByDefault key rest w.store

/-- The call asks for rules below a key to be allowed. -/
inductive AsksToOpen (key : RowKey) : MatrixCall → Prop
  | upsert {w : RowWrite} (here : w.key = key) (asks : w.allowsChildren = some true) :
      AsksToOpen key (.upsert w)

/-- The call stores a row without a word on the levels below, and the default opens them. -/
inductive OpensUnasked (openByDefault : Bool) (s : MatrixStore) (key : RowKey) : MatrixCall → Prop
  | upsert {w : RowWrite} (here : w.key = key) (silent : w.allowsChildren = none)
      (default : openByDefault = true) (done : (MatrixCall.upsert w).Succeeds openByDefault s) :
      OpensUnasked openByDefault s key (.upsert w)

/-! ## One call -/

theorem allowsChildren_of_vetRow {w : RowWrite}
    (vetted : MatrixStore.vetRow openByDefault w = .ok row) :
    row.allowsChildren = w.allowsChildren.getD openByDefault := by
  obtain ⟨-, rules, -, rfl⟩ := MatrixStore.vetRow_eq_ok_iff.mp vetted
  rfl

theorem saying_of_ne {w : RowWrite} (writes : c.rowWrite? s = some w) (elsewhere : w.key ≠ key)
    (answer : Except Fault (List Row)) : c.saying openByDefault key answer = none := by
  cases c with
  | upsert =>
      cases writes
      cases answer with
      | error f => rfl
      | ok rows => exact if_neg elsewhere
  | setRule | remove | purge => rfl

theorem saying_of_takesOut (out : c.takesOut = true) (answer : Except Fault (List Row)) :
    c.saying openByDefault key answer = none := by
  cases c with
  | upsert | setRule => cases out
  | remove | purge => rfl

/-- What is stored over a row is what the call says, or else what the row said. -/
theorem allowsChildren_of_rowWrite? {w : RowWrite} (writes : c.rowWrite? s = some w)
    (held : s.get? w.key = some row) (rows : List Row) :
    w.allowsChildren.getD openByDefault =
      (c.saying openByDefault w.key (.ok rows)).getD row.allowsChildren := by
  cases c with
  | upsert =>
      cases writes
      simp [saying]
  | setRule rule =>
      cases writes
      have found : s.get? ⟨rule.kind, rule.entityId, rule.role⟩ = some row := held
      simp [saying, MatrixStore.editing, found]
  | remove | purge => cases writes

/-- A row that is not taken out is there after a call, and is as open as the call says. -/
theorem allowsChildren_written (filed : s.Filed) (openByDefault : Bool) (c : MatrixCall)
    (held : s.get? key = some row)
    (kept : c.change key (c.written openByDefault s).answer ≠ some .deleted) :
    ∃ row', (c.written openByDefault s).store.get? key = some row' ∧ row'.allowsChildren =
      (c.saying openByDefault key (c.written openByDefault s).answer).getD row.allowsChildren := by
  have outcome := outcome_written filed openByDefault c
  generalize c.written openByDefault s = w at outcome kept ⊢
  cases outcome with
  | refused f =>
      refine ⟨row, held, ?_⟩
      cases c <;> rfl
  | @stored w row next writes vetted current counted =>
      by_cases here : w.key = key
      · subst here
        refine ⟨next, (MatrixStore.get?_put ..).trans (if_pos rfl), ?_⟩
        have flag : next.allowsChildren = w.allowsChildren.getD openByDefault := by
          rw [counted, ← allowsChildren_of_vetRow vetted]
        exact flag.trans (allowsChildren_of_rowWrite? writes held [next])
      · refine ⟨_, (MatrixStore.get?_put ..).trans ((if_neg here).trans held), ?_⟩
        rw [saying_of_ne writes here]
        rfl
  | @removed other gone named found =>
      have own : gone.key = other := filed found
      have out : c.takesOut = true := by
        rw [named]
        rfl
      have elsewhere : key ≠ other := by
        rintro rfl
        refine kept ?_
        simp only [change, out, List.find?_singleton, own, decide_true, if_true, Option.map_some]
      refine ⟨row, (MatrixStore.get?_erase ..).trans ((if_neg elsewhere).trans held), ?_⟩
      rw [saying_of_takesOut out]
      rfl
  | @purged kind entityId organizationId gone named listed =>
      have out : c.takesOut = true := by
        rw [named]
        rfl
      have stays : row.isOf kind entityId organizationId = false := by
        by_contra taken
        refine kept ?_
        rw [Bool.not_eq_false] at taken
        simp [change, out, listed, filed.find?_key, held, Option.filter, taken]
      refine ⟨row, ?_, ?_⟩
      · rw [MatrixStore.get?_filter, held, Option.filter_some_pos (by simp [stays])]
      · rw [saying_of_takesOut out]
        rfl

/-- A closed row comes open where it is asked to, or where the default opens it unasked. -/
theorem opened_iff (filed : s.Filed) (held : s.get? key = some row)
    (closed : row.allowsChildren = false)
    (after : (c.written openByDefault s).store.get? key = some row') :
    row'.allowsChildren = true ↔
      c.saying openByDefault key (c.written openByDefault s).answer = some true := by
  have kept : c.change key (c.written openByDefault s).answer ≠ some .deleted := by
    intro deleted
    have moved := change_spec filed openByDefault c key
    rw [deleted, MatrixStore.version_of_get? held, MatrixStore.version_of_get? after] at moved
    cases moved
  obtain ⟨found, there, said⟩ := allowsChildren_written filed openByDefault c held kept
  cases after.symm.trans there
  rw [said, closed]
  cases c.saying openByDefault key (c.written openByDefault s).answer with
  | none => simp
  | some said => simp

/-- What opens is an upsert that asks for it or one that leaves it to an open default. -/
theorem asked_of_saying (opens : c.saying openByDefault key (c.written openByDefault s).answer =
    some true) : AsksToOpen key c ∨ OpensUnasked openByDefault s key c := by
  cases c with
  | upsert w =>
      cases answered : (MatrixCall.written openByDefault (.upsert w) s).answer with
      | error f =>
          rw [answered] at opens
          cases opens
      | ok rows =>
          rw [answered] at opens
          obtain ⟨here, said⟩ := Option.ite_none_right_eq_some.mp opens
          cases flag : w.allowsChildren with
          | none =>
              rw [flag] at said
              exact .inr (.upsert here flag (Option.some.inj said) ⟨rows, answered⟩)
          | some asks =>
              rw [flag] at said
              cases said
              exact .inl (.upsert here flag)
  | setRule | remove | purge => cases opens

theorem OpensUnasked.saying_eq (opens : OpensUnasked openByDefault s key c) :
    c.saying openByDefault key (c.written openByDefault s).answer = some true := by
  obtain ⟨here, silent, default, rows, done⟩ := opens
  rw [done]
  simp [saying, here, silent, default]

theorem OpensUnasked.not_asks (opens : OpensUnasked openByDefault s key c) : ¬ AsksToOpen key c := by
  obtain ⟨-, silent, -, -⟩ := opens
  rintro ⟨-, asks⟩
  rw [silent] at asks
  cases asks

/-! ## A run of calls -/

/-- A row that is not deleted is as open after a run as the last saying on it. -/
theorem allowsChildren_runAll (filed : s.Filed) (openByDefault : Bool) (calls : List MatrixCall)
    (held : s.get? key = some row) (kept : .deleted ∉ changes openByDefault key calls s) :
    ∃ row', (runAll openByDefault calls s).get? key = some row' ∧ row'.allowsChildren =
      (sayings openByDefault key calls s).getLast?.getD row.allowsChildren := by
  induction calls generalizing s row with
  | nil => exact ⟨row, held, rfl⟩
  | cons c rest ih =>
      simp only [changes, List.mem_append, Option.mem_toList, not_or] at kept
      obtain ⟨stays, later⟩ := kept
      obtain ⟨next, there, said⟩ := allowsChildren_written filed openByDefault c held stays
      obtain ⟨row', last, ended⟩ := ih (filed_written filed openByDefault c) there later
      refine ⟨row', last, ?_⟩
      rw [ended, said, sayings, List.getLast?_append]
      cases (sayings openByDefault key rest (c.written openByDefault s).store).getLast? with
      | none => cases c.saying openByDefault key (c.written openByDefault s).answer <;> rfl
      | some final => rfl

/-- Where a run has closed a row, no later version of it is open that was not asked to be, except by
a write that says nothing while the default is open. Until it is deleted the row is closed as long as
nobody opens it: the last saying on it decides. -/
theorem closed_until_said (openByDefault : Bool) (calls : List MatrixCall) (key : RowKey) (row : Row)
    (held : (runAll openByDefault calls .empty).get? key = some row)
    (closed : row.allowsChildren = false) :
    let s := runAll openByDefault calls .empty
    (∀ c row', (c.written openByDefault s).store.get? key = some row' →
      ((row'.allowsChildren = true → AsksToOpen key c) ↔ ¬ OpensUnasked openByDefault s key c)) ∧
    ∀ later, .deleted ∉ changes openByDefault key later s →
      ∃ row', (runAll openByDefault (calls ++ later) .empty).get? key = some row' ∧
        row'.allowsChildren = (sayings openByDefault key later s).getLast?.getD false := by
  intro s
  have filed : s.Filed := filed_runAll MatrixStore.filed_empty openByDefault calls
  constructor
  · intro c row' after
    have opened := opened_iff filed held closed after
    constructor
    · intro sticky unasked
      exact unasked.not_asks (sticky (opened.mpr unasked.saying_eq))
    · intro asked comesOpen
      exact (asked_of_saying (opened.mp comesOpen)).resolve_right asked
  · intro later kept
    obtain ⟨row', there, said⟩ := allowsChildren_runAll filed openByDefault later held kept
    rw [runAll_append]
    exact ⟨row', there, closed ▸ said⟩

end MatrixCall

namespace Sample

/-- A write without rules that may say what is to hold further down. -/
def closingWrite (expected : Option Int) (allowsChildren : Option Bool) : RowWrite :=
  { plainWrite expected with allowsChildren }

def closedRow : Row := ⟨.team, "t-1", "org-1", "viewer", .empty, 1, false⟩

end Sample

open Sample in
/-- The row is closed, stays closed when one of its rules is taken back, and comes open when asked. -/
theorem MatrixCall.closed_until_said_opened :
    let calls := [upsert (closingWrite none (some false))]
    let s := runAll true calls .empty
    let later := [setRule ⟨.team, "t-1", "org-1", "viewer", .member .task, .member .view, none, some 1⟩,
      upsert (closingWrite (some 2) (some true))]
    s.get? plainKey = some closedRow ∧ closedRow.allowsChildren = false ∧
      .deleted ∉ changes true plainKey later s ∧
      ∃ row', (runAll true (calls ++ later) .empty).get? plainKey = some row' ∧
        row'.allowsChildren = true := by
  intro calls s later
  have held : s.get? plainKey = some closedRow := by decide
  have kept : .deleted ∉ changes true plainKey later s := by decide
  have said : sayings true plainKey later s = [true] := by decide
  obtain ⟨row', there, opened⟩ := (closed_until_said true calls plainKey closedRow held rfl).2 later kept
  rw [said] at opened
  exact ⟨held, rfl, kept, row', there, opened⟩

open Sample in
/-- A write that says nothing of the levels below opens a closed row, since the default does. -/
theorem MatrixCall.silence_opens :
    let s := runAll true [upsert (closingWrite none (some false))] .empty
    s.get? plainKey = some closedRow ∧
      ¬ AsksToOpen plainKey (upsert (closingWrite (some 1) none)) ∧
      ((upsert (closingWrite (some 1) none)).written true s).store.get? plainKey =
        some { closedRow with version := 2, allowsChildren := true } := by
  intro s
  refine ⟨by decide, ?_, by decide⟩
  rintro ⟨-, asks⟩
  cases asks

end TenantAccess
