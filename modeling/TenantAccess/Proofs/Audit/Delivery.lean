import TenantAccess.Audit.Trail

/-! # What a record does to the trail

The worker moves the oldest reads from the queue to the sink. A change is offered after them, where
none is left in the queue, and is not offered at all otherwise.
-/

namespace TenantAccess

namespace Trail

variable {t : Trail} {e : AuditEvent} {steps : Nat}

theorem enqueue_ok {receipt : Receipt} (accepted : (enqueue e).answer t = .ok receipt) :
    receipt = .queued ∧ (enqueue e).next t = { t with queue := t.queue ++ [e] } := by
  simp only [Step.answer, Step.next, enqueue] at accepted ⊢
  split at accepted
  · cases accepted
  · next isOpen =>
      cases accepted
      rw [if_neg isOpen]
      exact ⟨rfl, rfl⟩

theorem enqueue_error {f : Failure} (rejected : (enqueue e).answer t = .error f) :
    f = .misuse .trailClosed ∧ (enqueue e).next t = t := by
  simp only [Step.answer, Step.next, enqueue] at rejected ⊢
  split at rejected
  · next closed =>
      cases rejected
      rw [if_pos closed]
      exact ⟨rfl, rfl⟩
  · cases rejected

theorem deliver_of_nil (empty : t.queue = []) : deliver.next t = t := by
  simp only [Step.next, deliver, empty]
  rfl

theorem deliver_of_cons {rest : List AuditEvent} (queued : t.queue = e :: rest) :
    deliver.next t = { t with queue := rest, sink := t.sink.offer e } := by
  simp only [Step.next, deliver, queued]

theorem work_succ (n : Nat) (t : Trail) : (work (n + 1)).next t = (work n).next (deliver.next t) :=
  rfl

/-- The worker hands the oldest reads to the sink, which gives to all of them the same answer. -/
theorem work_next (n : Nat) (t : Trail) :
    (work n).next t = { t with
      queue := t.queue.drop n
      sink := { t.sink with
        offers := t.sink.offers ++ (t.queue.take n).map fun e => ⟨e, t.sink.refusal⟩ } } := by
  induction n generalizing t with
  | zero => simp [work, Step.next_pure]
  | succ n ih =>
      rw [work_succ, ih]
      cases queued : t.queue with
      | nil => simp [deliver_of_nil queued, queued]
      | cons e rest => simp [deliver_of_cons queued, Sink.offer]

theorem writeThrough_next (e : AuditEvent) (t : Trail) :
    (writeThrough e).next t = { t with sink := t.sink.offer e } := by
  simp only [Step.next, writeThrough]
  split <;> rfl

theorem writeThrough_answer (e : AuditEvent) (t : Trail) :
    (writeThrough e).answer t =
      match t.sink.refusal with
      | none => .ok .written
      | some _ => .error (.fault .auditUnavailable) := by
  simp only [Step.answer, writeThrough]
  cases t.sink.refusal <;> rfl

/-- What a change is told whose wait has ended with reads in the queue. -/
def expiry (t : Trail) : Failure :=
  if t.settings.isTimed then .fault .auditUnavailable else .misuse .waitTooLong

theorem expiry_cases (t : Trail) :
    t.expiry = .fault .auditUnavailable ∨
      t.expiry = .misuse .waitTooLong ∧ t.settings.isTimed = false := by
  unfold expiry
  cases t.settings.isTimed with
  | true => exact .inl rfl
  | false => exact .inr ⟨rfl, rfl⟩

/-- A change is offered where no read is left. -/
theorem write_of_drained (drained : t.queue.length ≤ steps) (e : AuditEvent) :
    (write steps e).next t = (writeThrough e).next ((work steps).next t) ∧
      (write steps e).answer t = (writeThrough e).answer ((work steps).next t) := by
  have empty : ((work steps).next t).queue.isEmpty = true := by
    rw [work_next]
    simpa using drained
  simp only [write, Step.next_bind, Step.answer_bind, Step.answer_get, Step.next_get, empty, if_true,
    and_self]

theorem write_of_undrained (undrained : steps < t.queue.length) (e : AuditEvent) :
    (write steps e).next t = (work steps).next t ∧
      (write steps e).answer t = .error t.expiry := by
  have left : ((work steps).next t).queue.isEmpty = false := by
    rw [work_next]
    simpa using undrained
  have settings : ((work steps).next t).settings = t.settings := by rw [work_next]
  simp only [write, Step.next_bind, Step.answer_bind, Step.answer_get, Step.next_get, left, expiry,
    settings]
  cases t.settings.isTimed <;> exact ⟨rfl, rfl⟩

theorem record_of_change (change : e.isMutating = true) (t : Trail) :
    (record e).next t = (write t.pace e).next t ∧ (record e).answer t = (write t.pace e).answer t := by
  simp only [record, Step.next_bind, Step.answer_bind, Step.answer_get, Step.next_get, change, if_true,
    and_self]

theorem record_of_read (read : e.isMutating = false) (t : Trail) :
    (record e).next t = (enqueue e).next t ∧ (record e).answer t = (enqueue e).answer t := by
  simp only [record, Step.next_bind, Step.answer_bind, Step.next_get, read, Bool.false_eq_true,
    if_false, and_self]

end Trail

end TenantAccess
