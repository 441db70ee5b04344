import TenantAccess.Proofs.Decision.Explained
import TenantAccess.Proofs.Guard.Audited

/-! # What a guard can answer

A guard whose role table loads, and whose trail is not closed, answers with a decision, or says that the
decision could not be recorded, or breaks. Which of these it is depends on the trail alone, and on whether
something is to be changed: reads are always answered.
-/

namespace TenantAccess

namespace Trail

/-- Reads wait, and the sink takes nothing. -/
def Jammed (t : Trail) : Prop := t.sink.isStuck = true ∧ t.queue ≠ []

/-- A change cannot be written: its wait for the reads comes to an end before theirs does, or the sink
refuses it. -/
def Unwritable (t : Trail) : Prop :=
  t.Jammed ∧ t.settings.isTimed = true ∨ ¬ t.Jammed ∧ t.sink.refusal ≠ none

/-- A change would have to wait for a time that cannot be measured. -/
def Overruns (t : Trail) : Prop := t.Jammed ∧ t.settings.isTimed = false

variable {t : Trail}

theorem jammed_iff : t.Jammed ↔ t.pace < t.queue.length := by
  unfold Jammed pace
  cases t.sink.isStuck with
  | false => simp
  | true => simp [List.length_pos_iff]

theorem Overruns.not_unwritable (h : t.Overruns) : ¬ t.Unwritable := by
  obtain ⟨jammed, untimed⟩ := h
  rintro (⟨-, timed⟩ | ⟨free, -⟩)
  · rw [untimed] at timed
    cases timed
  · exact free jammed

end Trail

namespace Guard

variable {g : Guard} {roles : RoleTable} {e : AuditEvent} {t : Trail}

/-- What the record of an event comes to. -/
inductive Recording (t : Trail) (action : Action) : Except Failure Receipt → Prop
  | taken (receipt : Receipt) (writable : action.isMutating = true → ¬ t.Unwritable ∧ ¬ t.Overruns) :
      Recording t action (.ok receipt)
  | unwritable (change : action.isMutating = true) (h : t.Unwritable) :
      Recording t action (.error (.fault .auditUnavailable))
  | overruns (change : action.isMutating = true) (h : t.Overruns) :
      Recording t action (.error (.misuse .waitTooLong))

theorem recording_of_change (change : e.isMutating = true) (t : Trail) :
    Recording t e.action ((recordOn e).answer t) := by
  by_cases jammed : t.Jammed
  · obtain ⟨-, answer⟩ := recordOn_of_undrained change (Trail.jammed_iff.mp jammed)
    rw [answer, Trail.expiry]
    cases timed : t.settings.isTimed with
    | true => exact .unwritable change (.inl ⟨jammed, timed⟩)
    | false => exact .overruns change ⟨jammed, timed⟩
  · have drains : t.queue.length ≤ t.pace := Nat.not_lt.mp (mt Trail.jammed_iff.mpr jammed)
    obtain ⟨-, answer⟩ := recordOn_of_drained change drains
    rw [answer, Trail.writeThrough_answer]
    cases refusal : t.sink.refusal with
    | none =>
        refine .taken .written fun _ => ⟨?_, fun overruns => jammed overruns.1⟩
        rintro (⟨waits, -⟩ | ⟨-, refused⟩)
        · exact jammed waits
        · exact refused refusal
    | some reason => exact .unwritable change (.inr ⟨jammed, by simp [refusal]⟩)

theorem recording_of_read (read : e.isMutating = false) (isOpen : t.isClosed = false) :
    Recording t e.action ((recordOn e).answer t) := by
  obtain ⟨-, answer⟩ := Trail.record_of_read read t
  have accepted : (Trail.enqueue e).answer t = .ok .queued := by
    simp only [Step.answer, Trail.enqueue, isOpen]
    rfl
  have queued : (recordOn e).answer t = .ok .queued := by
    simp only [recordOn, Step.answer_bind, Step.answer_pure, answer, accepted]
  rw [queued]
  refine .taken .queued fun change => ?_
  cases read.symm.trans change

theorem recording (isOpen : t.isClosed = false) (e : AuditEvent) :
    Recording t e.action ((recordOn e).answer t) := by
  cases kind : e.isMutating with
  | true => exact recording_of_change kind t
  | false => exact recording_of_read kind isOpen

/-- The decision on an action cannot be recorded. -/
def Unrecordable (g : Guard) (action : Action) : Prop :=
  action.isMutating = true ∧ ∃ t, g.trail = some t ∧ t.Unwritable

/-- The record of a decision on an action breaks. -/
def Overruns (g : Guard) (action : Action) : Prop :=
  action.isMutating = true ∧ ∃ t, g.trail = some t ∧ t.Overruns

theorem unrecordable_iff {action : Action} (attached : g.trail = some t) :
    g.Unrecordable action ↔ action.isMutating = true ∧ t.Unwritable := by
  simp [Unrecordable, attached]

theorem overruns_iff {action : Action} (attached : g.trail = some t) :
    g.Overruns action ↔ action.isMutating = true ∧ t.Overruns := by
  simp [Overruns, attached]

theorem Overruns.not_unrecordable {action : Action} (h : g.Overruns action) :
    ¬ g.Unrecordable action := by
  obtain ⟨-, t, attached, overruns⟩ := h
  intro unrecordable
  exact overruns.not_unwritable ((unrecordable_iff attached).mp unrecordable).2

/-- What a guard answers. -/
inductive Answers (g : Guard) (action : Action) : Except Failure Decision → Prop
  | decided {d : Decision} (explained : d.Explained) (recordable : ¬ g.Unrecordable action)
      (inTime : ¬ g.Overruns action) : Answers g action (.ok d)
  | unrecorded (h : g.Unrecordable action) : Answers g action (.error (.fault .auditUnavailable))
  | overran (h : g.Overruns action) : Answers g action (.error (.misuse .waitTooLong))

theorem answers_authorize (loaded : Registry.table.answer g.roles = .ok roles)
    (isOpen : ∀ t, g.trail = some t → t.isClosed = false) (s : Sources) (q : AccessRequest) :
    g.Answers q.pair.action ((authorize s q).answer g) := by
  obtain ⟨d, resolved, decides⟩ := decides_resolve loaded s q
  rw [answer_authorize resolved]
  cases attached : g.trail with
  | none =>
      have detached : ∀ t, g.trail ≠ some t := by simp [attached]
      refine .decided decides.explained ?_ ?_
      · exact fun ⟨_, t, there, _⟩ => detached t there
      · exact fun ⟨_, t, there, _⟩ => detached t there
  | some t =>
      have recorded : Recording t q.pair.action ((recordOn (event q d)).answer t) :=
        recording (isOpen t attached) (event q d)
      change g.Answers q.pair.action (told d ((recordOn (event q d)).answer t))
      generalize (recordOn (event q d)).answer t = answer at recorded ⊢
      cases recorded with
      | taken receipt writable =>
          refine .decided decides.explained ?_ ?_
          · rw [unrecordable_iff attached]
            exact fun ⟨change, unwritable⟩ => (writable change).1 unwritable
          · rw [overruns_iff attached]
            exact fun ⟨change, overruns⟩ => (writable change).2 overruns
      | unwritable change h => exact .unrecorded ((unrecordable_iff attached).mpr ⟨change, h⟩)
      | overruns change h => exact .overran ((overruns_iff attached).mpr ⟨change, h⟩)

end Guard

end TenantAccess
