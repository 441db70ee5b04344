import Mathlib.Data.List.Nodup
import Mathlib.Logic.Relation
import TenantAccess.Proofs.Audit.Delivery

/-! # Records on a shared trail

Several callers record on a trail, one at a time, while the worker takes reads from the queue. A change
waits for the last read that was queued, and for that one only. The worker takes reads in the order in
which they were queued, so once the last is done no read waits, and the sink sees a change after all
reads that were recorded before it.
-/

namespace TenantAccess

open Relation

/-- A trail that several callers record on. Their calls are numbered in the order in which they get
hold of the trail. -/
structure SharedTrail where
  trail : Trail
  /-- The events of the calls. -/
  recorded : List AuditEvent
  /-- The call that has hold of the trail, with its event. -/
  holder : Option (Nat × AuditEvent)
  /-- The calls whose events wait in the queue. -/
  waiting : List Nat
  lastQueued : Option Nat
  /-- The read that the worker is busy with. -/
  running : Option Nat
  /-- The calls whose events were offered to the sink, in the order of the offers. -/
  offered : List Nat
  answers : List (Nat × Except Failure Receipt)

namespace SharedTrail

def empty (settings : AuditSettings) : SharedTrail := ⟨.empty settings, [], none, [], none, none, [], []⟩

/-- The last read that was queued is done, if there was any. -/
def LastDone (s : SharedTrail) : Prop :=
  ∀ i, s.lastQueued = some i → s.running ≠ some i ∧ i ∉ s.waiting

/-- A call returns. -/
def answer (s : SharedTrail) (i : Nat) (a : Except Failure Receipt) : SharedTrail :=
  { s with holder := none, answers := s.answers ++ [(i, a)] }

/-- What happens next on a shared trail. -/
inductive Move : SharedTrail → SharedTrail → Prop
  | hold {s : SharedTrail} (e : AuditEvent) (free : s.holder = none) :
      Move s { s with recorded := s.recorded ++ [e], holder := some (s.recorded.length, e) }
  | queue {s : SharedTrail} {i : Nat} {e : AuditEvent} {receipt : Receipt}
      (held : s.holder = some (i, e)) (read : e.isMutating = false)
      (accepted : (Trail.enqueue e).answer s.trail = .ok receipt) :
      Move s (answer { s with
        trail := (Trail.enqueue e).next s.trail
        waiting := s.waiting ++ [i]
        lastQueued := some i } i (.ok receipt))
  | reject {s : SharedTrail} {i : Nat} {e : AuditEvent} {f : Failure}
      (held : s.holder = some (i, e)) (read : e.isMutating = false)
      (rejected : (Trail.enqueue e).answer s.trail = .error f) :
      Move s (s.answer i (.error f))
  /-- The worker offers the oldest read to the sink. -/
  | take {s : SharedTrail} {i : Nat} {rest : List Nat} (idle : s.running = none)
      (oldest : s.waiting = i :: rest) :
      Move s { s with
        trail := Trail.deliver.next s.trail
        waiting := rest
        running := some i
        offered := s.offered ++ [i] }
  /-- The sink has given its answer to the worker. -/
  | done {s : SharedTrail} : Move s { s with running := none }
  | write {s : SharedTrail} {i : Nat} {e : AuditEvent} (held : s.holder = some (i, e))
      (change : e.isMutating = true) (drained : s.LastDone) :
      Move s (answer { s with
        trail := (Trail.writeThrough e).next s.trail
        offered := s.offered ++ [i] } i ((Trail.writeThrough e).answer s.trail))
  | expire {s : SharedTrail} {i : Nat} {e : AuditEvent} (held : s.holder = some (i, e))
      (change : e.isMutating = true) (undrained : ¬ s.LastDone) :
      Move s (s.answer i (.error s.trail.expiry))
  | refuse {s : SharedTrail} (refusal : Option String) :
      Move s { s with trail := s.trail.setRefusal refusal }
  | stick {s : SharedTrail} (isStuck : Bool) : Move s { s with trail := s.trail.setStuck isStuck }
  | close {s : SharedTrail} : Move s { s with trail := s.trail.close }

variable {s t : SharedTrail} {e : AuditEvent} {i j : Nat} {a : Except Failure Receipt}

/-- The calls whose events were queued or offered to the sink. -/
def line (s : SharedTrail) : List Nat := s.offered ++ s.waiting

/-- The sink was offered the event of a call, and gave its answer. -/
def Met (s : SharedTrail) (i : Nat) (o : Offer) : Prop := (i, o) ∈ s.offered.zip s.trail.sink.offers

/-- The calls before this one have returned. -/
def returned (s : SharedTrail) : Nat :=
  match s.holder with
  | none => s.recorded.length
  | some (i, _) => i

/-- What is true of a call that was answered. -/
def Bears (s : SharedTrail) (i : Nat) : Except Failure Receipt → Prop
  | .ok .written => ∃ o, s.Met i o ∧ o.refusal = none
  | .ok .queued => ∃ e, s.recorded[i]? = some e ∧ e.isMutating = false
  | .error f => (i ∉ s.waiting ∧ ∀ o, s.Met i o → o.refusal ≠ none) ∧
    ∀ e, s.recorded[i]? = some e → e.isMutating = true →
      f = .fault .auditUnavailable ∨ f = s.trail.expiry

/-- The worker is busy with the oldest call of the line that is not done; the last is the one that a
change waits for. -/
structure InLine (s : SharedTrail) : Prop where
  order : s.line.Pairwise (· < ·)
  queue : s.waiting.map (s.recorded[·]?) = s.trail.queue.map some
  offers : s.offered.map (s.recorded[·]?) = s.trail.sink.offers.map fun o => some o.event
  last : ∀ i, (s.running.toList ++ s.waiting).getLast? = some i → s.lastQueued = some i

structure Sound (s : SharedTrail) : Prop extends s.InLine where
  past : ∀ i ∈ s.line, i < s.returned
  holder : ∀ i e, s.holder = some (i, e) → s.recorded[i]? = some e ∧ s.recorded.length = i + 1
  answers : ∀ i a, (i, a) ∈ s.answers → i < s.returned ∧ s.Bears i a
  reads : ∀ i < s.returned, ∀ e, s.recorded[i]? = some e → e.isMutating = false →
    i ∈ s.line ∨ (i, .error (.misuse .trailClosed)) ∈ s.answers

theorem sound_empty (settings : AuditSettings) : (empty settings).Sound where
  order := .nil
  queue := rfl
  offers := rfl
  last := by simp [empty]
  past := by simp [empty, line]
  holder := by simp [empty]
  answers := by simp [empty]
  reads := by simp [empty]

theorem length_offers (lined : s.InLine) : s.offered.length = s.trail.sink.offers.length := by
  simpa using congrArg List.length lined.offers

/-- Once the last read is done, the worker is idle and no read waits. -/
theorem drained_of_lastDone (lined : s.InLine) (done : s.LastDone) :
    s.running = none ∧ s.waiting = [] := by
  -- If anything were left, the last of it would be the read that was queued last.
  have empty : s.running.toList ++ s.waiting = [] := by
    rw [← List.getLast?_eq_none_iff, Option.eq_none_iff_forall_ne_some]
    intro i last
    obtain ⟨idle, taken⟩ := done i (lined.last i last)
    rcases List.mem_append.mp (List.mem_of_getLast? last) with busy | waits
    · exact idle (by simpa using busy)
    · exact taken waits
  simpa using empty

theorem expiry_congr (same : t.trail.settings = s.trail.settings) :
    t.trail.expiry = s.trail.expiry := by
  rw [Trail.expiry, same, ← Trail.expiry]

/-- What was offered and met stays so; what is refused is neither in the queue nor offered again. -/
theorem Bears.keep (bears : s.Bears i a) (recorded : t.recorded[i]? = s.recorded[i]?)
    (settings : t.trail.settings = s.trail.settings) (more : ∀ o, s.Met i o → t.Met i o)
    (same : i ∉ s.waiting → i ∉ t.waiting ∧ ∀ o, t.Met i o → s.Met i o) : t.Bears i a := by
  cases a with
  | error f =>
      obtain ⟨⟨fresh, unmet⟩, told⟩ := bears
      refine ⟨⟨(same fresh).1, fun o met => unmet o ((same fresh).2 o met)⟩, ?_⟩
      rw [recorded, expiry_congr settings]
      exact told
  | ok receipt =>
      cases receipt with
      | written =>
          obtain ⟨o, met, taken⟩ := bears
          exact ⟨o, more o met, taken⟩
      | queued =>
          obtain ⟨e, found, read⟩ := bears
          exact ⟨e, recorded.trans found, read⟩

/-! ## Moves -/

theorem Sound.le_length (sound : s.Sound) : s.returned ≤ s.recorded.length := by
  unfold returned
  split
  · exact Nat.le_refl _
  · next held =>
      have := (sound.holder _ _ held).2
      omega

theorem returned_of_held (held : s.holder = some (i, e)) : s.returned = i := by
  simp only [returned, held]

theorem getElem?_snoc {l : List AuditEvent} (within : i < l.length) (e : AuditEvent) :
    (l ++ [e])[i]? = l[i]? :=
  List.getElem?_append_left within

theorem sound_hold (sound : s.Sound) (e : AuditEvent) (free : s.holder = none) :
    Sound { s with recorded := s.recorded ++ [e], holder := some (s.recorded.length, e) } := by
  have within (i : Nat) (lined : i ∈ s.line) : i < s.recorded.length :=
    Nat.lt_of_lt_of_le (sound.past i lined) sound.le_length
  have ended : s.returned = s.recorded.length := by simp only [returned, free]
  have kept {is : List Nat} (lined : ∀ i ∈ is, i ∈ s.line) :
      is.map ((s.recorded ++ [e])[·]?) = is.map (s.recorded[·]?) :=
    List.map_congr_left fun i member => getElem?_snoc (within i (lined i member)) e
  exact {
    order := sound.order
    queue := (kept fun i => List.mem_append_right _).trans sound.queue
    offers := (kept fun i => List.mem_append_left _).trans sound.offers
    last := sound.last
    past := within
    holder := by
      intro i e' held
      cases held
      simp
    answers := by
      intro i a answered
      obtain ⟨earlier, bears⟩ := sound.answers i a answered
      rw [ended] at earlier
      exact ⟨earlier, bears.keep (getElem?_snoc earlier e) rfl (fun _ => id)
        fun fresh => ⟨fresh, fun _ => id⟩⟩
    reads := by
      intro i earlier e' found
      have earlier : i < s.recorded.length := earlier
      rw [getElem?_snoc earlier] at found
      exact sound.reads i (ended ▸ earlier) e' found }

/-- The call that has hold of the trail returns, with all that it has done. -/
theorem sound_answer (sound : s.Sound) (held : s.holder = some (i, e)) (lined : t.InLine)
    (recorded : t.recorded = s.recorded) (answers : t.answers = s.answers)
    (grown : ∀ j ∈ s.line, j ∈ t.line) (own : ∀ j ∈ t.line, j ∈ s.line ∨ j = i)
    (kept : ∀ j < i, ∀ a, s.Bears j a → t.Bears j a) (bears : t.Bears i a)
    (told : e.isMutating = false → i ∈ t.line ∨ a = .error (.misuse .trailClosed)) :
    (t.answer i a).Sound := by
  obtain ⟨found, last⟩ := sound.holder i e held
  have before := returned_of_held held
  have now : (t.answer i a).returned = i + 1 := by
    simp only [returned, answer, recorded, last]
  exact {
    toInLine := ⟨lined.order, lined.queue, lined.offers, lined.last⟩
    past := by
      intro j member
      rw [now]
      rcases own j member with earlier | rfl
      · have := sound.past j earlier
        omega
      · omega
    holder := by simp [answer]
    answers := by
      intro j b answered
      rw [now]
      rcases List.mem_append.mp answered with earlier | last
      · rw [answers] at earlier
        obtain ⟨earlier, bore⟩ := sound.answers j b earlier
        rw [before] at earlier
        exact ⟨by omega, kept j earlier b bore⟩
      · cases List.mem_singleton.mp last
        exact ⟨by omega, bears⟩
    reads := by
      intro j within e' found' read
      rw [now] at within
      change t.recorded[j]? = some e' at found'
      rw [recorded] at found'
      rcases Nat.lt_or_eq_of_le (Nat.le_of_lt_succ within) with earlier | rfl
      · rcases sound.reads j (before ▸ earlier) e' found' read with lined | closed
        · exact .inl (grown j lined)
        · exact .inr (List.mem_append_left _ (answers ▸ closed))
      · cases found.symm.trans found'
        rcases told read with lined | closed
        · exact .inl lined
        · exact .inr (List.mem_append_right _ (by rw [closed]; exact List.mem_singleton_self _)) }

/-- The sink meets one call more when it is offered an event. -/
theorem met_offer (lined : s.InLine) (offered : t.offered = s.offered ++ [i])
    (sink : t.trail.sink = s.trail.sink.offer e) {o : Offer} :
    t.Met j o ↔ s.Met j o ∨ j = i ∧ o = ⟨e, s.trail.sink.refusal⟩ := by
  simp only [Met, offered, sink, Sink.offer, List.zip_append (length_offers lined), List.mem_append,
    List.zip_cons_cons, List.zip_nil_left, List.mem_singleton, Prod.mk.injEq]

theorem mem_offered_of_met {o : Offer} (met : s.Met i o) : i ∈ s.offered := (List.of_mem_zip met).1

theorem sound_queue (sound : s.Sound) {receipt : Receipt} (held : s.holder = some (i, e))
    (read : e.isMutating = false) (accepted : (Trail.enqueue e).answer s.trail = .ok receipt) :
    (answer { s with
      trail := (Trail.enqueue e).next s.trail
      waiting := s.waiting ++ [i]
      lastQueued := some i } i (.ok receipt)).Sound := by
  obtain ⟨rfl, left⟩ := Trail.enqueue_ok accepted
  have found := (sound.holder i e held).1
  have before := returned_of_held held
  rw [left]
  refine sound_answer sound held ⟨?_, ?_, sound.offers, ?_⟩ rfl rfl ?_ ?_ ?_ ⟨e, found, read⟩ ?_
  · simp only [line, ← List.append_assoc]
    refine List.pairwise_append.mpr ⟨sound.order, List.pairwise_singleton .., ?_⟩
    intro j lined k last
    rw [List.mem_singleton.mp last, ← before]
    exact sound.past j lined
  · simp [sound.queue, found]
  · intro j last
    rw [← List.append_assoc, List.getLast?_concat] at last
    exact last
  · intro j lined
    simp only [line, ← List.append_assoc]
    exact List.mem_append_left _ lined
  · intro j lined
    simpa [line, or_assoc] using lined
  · intro j earlier a bears
    refine bears.keep rfl rfl (fun _ => id) fun fresh => ⟨?_, fun _ => id⟩
    have apart : j ≠ i := Nat.ne_of_lt earlier
    simp [fresh, apart]
  · intro _
    simp [line]

/-- A call that leaves the trail as it is returns with a failure. -/
theorem sound_fail (sound : s.Sound) (held : s.holder = some (i, e)) {f : Failure}
    (read : e.isMutating = false → f = .misuse .trailClosed)
    (change : e.isMutating = true → f = s.trail.expiry) : (s.answer i (.error f)).Sound := by
  have unlined : i ∉ s.line := by
    intro lined
    have := sound.past i lined
    rw [returned_of_held held] at this
    exact Nat.lt_irrefl i this
  refine sound_answer sound held sound.toInLine rfl rfl (fun _ => id) (fun _ => .inl)
    (fun _ _ _ => id) ⟨⟨?_, ?_⟩, ?_⟩ ?_
  · exact fun waits => unlined (List.mem_append_right _ waits)
  · exact fun o met => absurd (List.mem_append_left _ (mem_offered_of_met met)) unlined
  · intro e' found mutating
    cases (sound.holder i e held).1.symm.trans found
    exact .inr (change mutating)
  · intro asks
    rw [read asks]
    exact .inr rfl

theorem sound_write (sound : s.Sound) (held : s.holder = some (i, e)) (change : e.isMutating = true)
    (done : s.LastDone) :
    (answer { s with
      trail := (Trail.writeThrough e).next s.trail
      offered := s.offered ++ [i] } i ((Trail.writeThrough e).answer s.trail)).Sound := by
  have found := (sound.holder i e held).1
  have before := returned_of_held held
  obtain ⟨-, drained⟩ := drained_of_lastDone sound.toInLine done
  -- No read waits, so the change goes to the end of the line.
  have past : ∀ j ∈ s.offered, j < i := by
    intro j offered
    rw [← before]
    exact sound.past j (List.mem_append_left _ offered)
  rw [Trail.writeThrough_next]
  have met (j : Nat) (o : Offer) := met_offer (e := e) (j := j) (o := o) sound.toInLine
    (t := { s with
      trail := { s.trail with sink := s.trail.sink.offer e }
      offered := s.offered ++ [i] }) rfl rfl
  refine sound_answer sound held ⟨?_, sound.queue, ?_, sound.last⟩ rfl rfl ?_ ?_ ?_ ?_ ?_
  · simp only [line, drained, List.append_nil]
    refine List.pairwise_append.mpr ⟨?_, List.pairwise_singleton .., ?_⟩
    · exact (List.pairwise_append.mp sound.order).1
    · simpa using past
  · simp [sound.offers, Sink.offer, found]
  · intro j lined
    simp only [line, drained, List.append_nil] at lined ⊢
    exact List.mem_append_left _ lined
  · intro j lined
    simpa [line, drained] using lined
  · intro j earlier a bears
    refine bears.keep rfl rfl (fun o old => (met j o).mpr (.inl old)) fun fresh => ⟨fresh, ?_⟩
    intro o now
    exact ((met j o).mp now).resolve_right fun last => Nat.ne_of_lt earlier last.1
  · rw [Trail.writeThrough_answer]
    cases refusal : s.trail.sink.refusal with
    | none => exact ⟨_, (met i _).mpr (.inr ⟨rfl, rfl⟩), refusal⟩
    | some reason =>
        refine ⟨⟨by simp [drained], ?_⟩, fun _ _ _ => .inl rfl⟩
        intro o now
        rcases (met i o).mp now with old | ⟨-, rfl⟩
        · exact absurd (past i (mem_offered_of_met old)) (Nat.lt_irrefl i)
        · simp [refusal]
  · intro read
    rw [change] at read
    cases read

theorem queue_of_oldest (lined : s.InLine) {rest : List Nat} (oldest : s.waiting = i :: rest) :
    ∃ e es, s.trail.queue = e :: es ∧ s.recorded[i]? = some e ∧
      rest.map (s.recorded[·]?) = es.map some := by
  have queue := lined.queue
  rw [oldest] at queue
  cases queued : s.trail.queue with
  | nil => simp [queued] at queue
  | cons e es =>
      rw [queued, List.map_cons, List.map_cons, List.cons.injEq] at queue
      exact ⟨e, es, rfl, queue.1, queue.2⟩

theorem sound_take (sound : s.Sound) {rest : List Nat} (idle : s.running = none)
    (oldest : s.waiting = i :: rest) :
    Sound { s with
      trail := Trail.deliver.next s.trail
      waiting := rest
      running := some i
      offered := s.offered ++ [i] } := by
  obtain ⟨e, es, queue, found, left⟩ := queue_of_oldest sound.toInLine oldest
  rw [Trail.deliver_of_cons queue]
  have met (j : Nat) (o : Offer) := met_offer (e := e) (j := j) (o := o) sound.toInLine
    (t := { s with
      trail := { s.trail with queue := es, sink := s.trail.sink.offer e }
      waiting := rest
      running := some i
      offered := s.offered ++ [i] }) rfl rfl
  -- The line stays as it is: the oldest call that waits becomes the last that was offered.
  have line : s.offered ++ [i] ++ rest = s.line := by
    rw [SharedTrail.line, oldest, List.append_assoc, List.singleton_append]
  exact {
    order := by
      simp only [SharedTrail.line, line]
      exact sound.order
    queue := left
    offers := by simp [sound.offers, Sink.offer, found]
    last := by
      have last := sound.last
      rw [idle, oldest] at last
      exact last
    past := by
      simp only [SharedTrail.line, line]
      exact sound.past
    holder := sound.holder
    answers := by
      intro j a answered
      obtain ⟨earlier, bears⟩ := sound.answers j a answered
      refine ⟨earlier, bears.keep rfl rfl (fun o old => (met j o).mpr (.inl old)) ?_⟩
      intro fresh
      rw [oldest, List.mem_cons, not_or] at fresh
      exact ⟨fresh.2, fun o now => ((met j o).mp now).resolve_right fun taken => fresh.1 taken.1⟩
    reads := by
      simp only [SharedTrail.line, line]
      exact sound.reads }

theorem sound_move (sound : s.Sound) (move : Move s t) : t.Sound := by
  cases move with
  | hold e free => exact sound_hold sound e free
  | queue held read accepted => exact sound_queue sound held read accepted
  | reject held read rejected =>
      refine sound_fail sound held (fun _ => (Trail.enqueue_error rejected).1) fun change => ?_
      rw [read] at change
      cases change
  | take idle oldest => exact sound_take sound idle oldest
  | done =>
      refine { sound with last := ?_ }
      intro i last
      have last : s.waiting.getLast? = some i := last
      apply sound.last
      rw [List.getLast?_append, last, Option.some_or]
  | write held change done => exact sound_write sound held change done
  | expire held change undrained =>
      refine sound_fail sound held (fun read => ?_) fun _ => rfl
      rw [change] at read
      cases read
  | refuse refusal | stick isStuck | close => exact { sound with }

/-! ## Runs -/

variable {settings : AuditSettings}

theorem sound_of_reached_from (sound : s.Sound) (reached : ReflTransGen Move s t) : t.Sound := by
  induction reached with
  | refl => exact sound
  | tail _ move sound => exact sound_move sound move

theorem sound_of_reached (reached : ReflTransGen Move (empty settings) s) : s.Sound :=
  sound_of_reached_from (sound_empty settings) reached

/-- What a call was answered is never taken back. -/
theorem answers_kept (later : ReflTransGen Move s t) : s.answers <+: t.answers := by
  induction later with
  | refl => exact List.prefix_refl _
  | tail _ move earlier =>
      refine earlier.trans ?_
      cases move <;> simp [answer]

theorem settings_kept (later : ReflTransGen Move s t) : t.trail.settings = s.trail.settings := by
  induction later with
  | refl => rfl
  | tail _ move earlier =>
      refine Eq.trans ?_ earlier
      cases move with
      | queue held read accepted => simp only [answer, (Trail.enqueue_ok accepted).2]
      | write held change done => simp only [answer, Trail.writeThrough_next]
      | take idle oldest =>
          simp only [Step.next, Trail.deliver]
          split <;> rfl
      | hold | reject | done | expire | refuse | stick | close => rfl

theorem event_of_met (lined : s.InLine) {o : Offer} (met : s.Met i o) :
    s.recorded[i]? = some o.event := by
  obtain ⟨k, found⟩ := List.mem_iff_getElem?.mp met
  obtain ⟨offered, offer⟩ := List.getElem?_zip_eq_some.mp found
  have same := congrArg (·[k]?) lined.offers
  simpa [offered, offer] using same

theorem met_of_mem_offered (lined : s.InLine) (offered : i ∈ s.offered) : ∃ o, s.Met i o := by
  obtain ⟨k, within, rfl⟩ := List.mem_iff_getElem.mp offered
  have within' : k < s.trail.sink.offers.length := length_offers lined ▸ within
  exact ⟨s.trail.sink.offers[k], List.mem_iff_getElem.mpr
    ⟨k, by simp only [List.length_zip]; omega, List.getElem_zip⟩⟩

/-- Items that are found at increasing places form a subsequence. -/
theorem sublist_drop {α : Type} {l es : List α} {is : List Nat} (start : Nat)
    (order : is.Pairwise (· < ·)) (beyond : ∀ i ∈ is, start ≤ i)
    (found : is.map (l[·]?) = es.map some) : es.Sublist (l.drop start) := by
  induction is generalizing es start with
  | nil =>
      have none : es = [] := by simpa using found.symm
      rw [none]
      exact List.nil_sublist _
  | cons i is ih =>
      cases es with
      | nil => exact List.nil_sublist _
      | cons e es =>
          rw [List.map_cons, List.map_cons, List.cons.injEq] at found
          obtain ⟨here, found⟩ := found
          obtain ⟨before, order⟩ := List.pairwise_cons.mp order
          obtain ⟨within, rfl⟩ := List.getElem?_eq_some_iff.mp here
          have rest := ih (i + 1) order (fun j member => before j member) found
          refine (rest.cons_cons _).trans ?_
          rw [← List.drop_eq_getElem_cons within]
          exact List.drop_sublist_drop_left l (beyond i List.mem_cons_self)

/-! ## Records without interruption -/

theorem work_reached (sound : s.Sound) (idle : s.running = none) (n : Nat) :
    ∃ t, ReflTransGen Move s t ∧ t.trail = (Trail.work n).next s.trail ∧ t.running = none ∧
      t.recorded = s.recorded ∧ t.holder = s.holder ∧ t.answers = s.answers := by
  induction n generalizing s with
  | zero => exact ⟨s, .refl, rfl, idle, rfl, rfl, rfl⟩
  | succ n ih =>
      rw [Trail.work_succ]
      cases waits : s.waiting with
      | nil =>
          have empty : s.trail.queue = [] := by simpa [waits] using sound.queue.symm
          rw [Trail.deliver_of_nil empty]
          exact ih sound idle
      | cons i rest =>
          have take := Move.take idle waits
          obtain ⟨t, reached, left⟩ := ih (sound_move (sound_move sound take) .done) rfl
          exact ⟨t, .head take (.head .done reached), left⟩

/-- The worker is idle and nothing waits, so a change can be written. -/
theorem lastDone_of_drained (idle : s.running = none) (drained : s.waiting = []) : s.LastDone := by
  intro i _
  simp [idle, drained]

theorem write_reached (sound : s.Sound) (idle : s.running = none) (held : s.holder = some (i, e))
    (change : e.isMutating = true) (steps : Nat) :
    ∃ t, ReflTransGen Move s t ∧ t.trail = (Trail.write steps e).next s.trail ∧ t.running = none ∧
      t.recorded = s.recorded ∧ t.holder = none ∧
      t.answers = s.answers ++ [(i, (Trail.write steps e).answer s.trail)] := by
  obtain ⟨t, reached, trail, idle', recorded, holder, answers⟩ := work_reached sound idle steps
  have sound' := sound_of_reached_from sound reached
  have held' : t.holder = some (i, e) := holder.trans held
  have queue : t.trail.queue = s.trail.queue.drop steps := by rw [trail, Trail.work_next]
  rcases Nat.lt_or_ge steps s.trail.queue.length with short | enough
  · obtain ⟨next, answer⟩ := Trail.write_of_undrained short e
    have undrained : ¬ t.LastDone := by
      intro done
      have waits := sound'.queue
      rw [(drained_of_lastDone sound'.toInLine done).2, queue] at waits
      have left : s.trail.queue.drop steps = [] := by simpa using waits.symm
      rw [List.drop_eq_nil_iff] at left
      omega
    have expiry : t.trail.expiry = s.trail.expiry := by
      rw [trail, Trail.work_next]
      rfl
    refine ⟨_, reached.tail (.expire held' change undrained), ?_, idle', recorded, rfl, ?_⟩
    · exact trail.trans next.symm
    · rw [answer, ← answers, ← expiry]
      rfl
  · obtain ⟨next, answer⟩ := Trail.write_of_drained enough e
    have drained : t.waiting = [] := by
      have waits := sound'.queue
      rw [queue, List.drop_of_length_le enough] at waits
      simpa using waits
    refine ⟨_, reached.tail (.write held' change (lastDone_of_drained idle' drained)), ?_, idle',
      recorded, rfl, ?_⟩
    · rw [next, ← trail]
      rfl
    · rw [answer, ← trail, ← answers]
      rfl

/-- A record that nothing interrupts is a run of the shared trail, with the same answer. -/
theorem record_reached (sound : s.Sound) (idle : s.running = none) (free : s.holder = none)
    (e : AuditEvent) :
    ∃ t, ReflTransGen Move s t ∧ t.trail = (Trail.record e).next s.trail ∧ t.running = none ∧
      t.recorded = s.recorded ++ [e] ∧ t.holder = none ∧
      t.answers = s.answers ++ [(s.recorded.length, (Trail.record e).answer s.trail)] := by
  have hold := Move.hold e free
  have sound' := sound_move sound hold
  cases mutating : e.isMutating with
  | true =>
      obtain ⟨next, answer⟩ := Trail.record_of_change mutating s.trail
      obtain ⟨t, reached, left⟩ := write_reached sound' idle rfl mutating s.trail.pace
      rw [next, answer]
      exact ⟨t, .head hold reached, left⟩
  | false =>
      obtain ⟨next, answer⟩ := Trail.record_of_read mutating s.trail
      rw [next, answer]
      cases told : (Trail.enqueue e).answer s.trail with
      | ok receipt =>
          exact ⟨_, .head hold (.single (.queue rfl mutating told)), rfl, idle, rfl, rfl, rfl⟩
      | error f =>
          refine ⟨_, .head hold (.single (.reject rfl mutating told)), ?_, idle, rfl, rfl, rfl⟩
          exact (Trail.enqueue_error told).2.symm

/-- A call that has not returned has hold of the trail. -/
theorem returned_or_holder (sound : s.Sound) (found : s.recorded[i]? = some e) :
    i < s.returned ∨ s.holder = some (i, e) := by
  have within := (List.getElem?_eq_some_iff.mp found).1
  cases held : s.holder with
  | none =>
      left
      simpa only [returned, held] using within
  | some call =>
      obtain ⟨k, e'⟩ := call
      obtain ⟨recorded, last⟩ := sound.holder k e' held
      rcases Nat.lt_or_eq_of_le (Nat.le_of_lt_succ (last ▸ within)) with earlier | rfl
      · left
        rwa [returned_of_held held]
      · right
        cases recorded.symm.trans found
        rfl

/-- A change that returns without a failure was accepted. -/
theorem accepted_of_ok (sound : s.Sound) {receipt : Receipt} (found : s.recorded[i]? = some e)
    (change : e.isMutating = true) (answered : (i, .ok receipt) ∈ s.answers) :
    ∃ o, s.Met i o ∧ o.event = e ∧ o.refusal = none := by
  have bears := (sound.answers i _ answered).2
  cases receipt with
  | queued =>
      obtain ⟨e', found', read⟩ := bears
      cases found.symm.trans found'
      rw [change] at read
      cases read
  | written =>
      obtain ⟨o, met, taken⟩ := bears
      cases found.symm.trans (event_of_met sound.toInLine met)
      exact ⟨o, met, rfl, taken⟩

theorem count_of_met (lined : s.InLine) {o : Offer} (met : s.Met i o) : s.offered.count i = 1 := by
  have order := (List.pairwise_append.mp lined.order).1
  exact List.count_eq_one_of_mem (order.imp Nat.ne_of_lt) (mem_offered_of_met met)

/-- A call that returns with a failure is not accepted later. -/
theorem unaccepted_of_error {f : Failure} (reached : ReflTransGen Move (empty settings) s)
    (answered : (i, .error f) ∈ s.answers) (t : SharedTrail) (later : ReflTransGen Move s t)
    (o : Offer) (met : t.Met i o) : o.refusal ≠ none := by
  have sound := sound_of_reached (reached.trans later)
  have bears := (sound.answers i _ ((answers_kept later).subset answered)).2
  exact bears.1.2 o met

/-- Nothing that was recorded before an event that the sink was offered waits in the queue. -/
theorem not_waiting_of_before (lined : s.InLine) (offered : i ∈ s.offered) (before : j < i) :
    j ∉ s.waiting := by
  intro waits
  have after := (List.pairwise_append.mp lined.order).2.2 i offered j waits
  omega

/-- The sink is offered the recorded events in their order, and none twice. A change that is recorded
was accepted once, after all reads that were recorded before it; a change that fails is not accepted
then or later; and a read that was not accepted was refused by the sink or waits in the queue. -/
theorem delivered_in_order (reached : ReflTransGen Move (empty settings) s) :
    (s.offered.Pairwise (· < ·) ∧
      s.offered.map (s.recorded[·]?) = s.trail.sink.offers.map (fun o => some o.event) ∧
      (s.trail.sink.offers.map (·.event)).Sublist s.recorded) ∧
    (∀ i e receipt, s.recorded[i]? = some e → e.isMutating = true → (i, .ok receipt) ∈ s.answers →
      (∃ o, s.Met i o ∧ o.event = e ∧ o.refusal = none) ∧ s.offered.count i = 1 ∧
      ∀ j < i, ∀ e', s.recorded[j]? = some e' → e'.isMutating = false →
        j ∈ s.offered ∨ (j, .error (.misuse .trailClosed)) ∈ s.answers) ∧
    (∀ i f, (i, .error f) ∈ s.answers →
      ∀ t, ReflTransGen Move s t → ∀ o, t.Met i o → o.refusal ≠ none) ∧
    (∀ i e, s.recorded[i]? = some e → e.isMutating = false →
      (∃ o, s.Met i o ∧ o.event = e) ∨ i ∈ s.waiting ∨
        (i, .error (.misuse .trailClosed)) ∈ s.answers ∨ s.holder = some (i, e)) := by
  have sound := sound_of_reached reached
  have order := (List.pairwise_append.mp sound.order).1
  refine ⟨⟨order, sound.offers, ?_⟩, ?_, ?_, ?_⟩
  · have found : s.offered.map (s.recorded[·]?) = (s.trail.sink.offers.map (·.event)).map some := by
      rw [sound.offers, List.map_map]
      rfl
    simpa using sublist_drop 0 order (by simp) found
  · intro i e receipt found change answered
    obtain ⟨o, met, same, taken⟩ := accepted_of_ok sound found change answered
    have offered := mem_offered_of_met met
    refine ⟨⟨o, met, same, taken⟩, count_of_met sound.toInLine met, ?_⟩
    · intro j before e' found' read
      have earlier : j < s.returned := by
        have := (sound.answers i _ answered).1
        omega
      rcases sound.reads j earlier e' found' read with lined | closed
      · left
        exact (List.mem_append.mp lined).resolve_right
          (not_waiting_of_before sound.toInLine offered before)
      · exact .inr closed
  · intro i f answered
    exact unaccepted_of_error reached answered
  · intro i e found read
    rcases returned_or_holder sound found with earlier | held
    · rcases sound.reads i earlier e found read with lined | closed
      · rcases List.mem_append.mp lined with offered | waits
        · obtain ⟨o, met⟩ := met_of_mem_offered sound.toInLine offered
          cases found.symm.trans (event_of_met sound.toInLine met)
          exact .inl ⟨o, met, rfl⟩
        · exact .inr (.inl waits)
      · exact .inr (.inr (.inl closed))
    · exact .inr (.inr (.inr held))

/-- A change waits for the read that was recorded before it. -/
theorem delivered_in_order_change :
    let look : AuditEvent := ⟨"u-1", .task, .view, .deny .outOfScope "no", none⟩
    let change : AuditEvent := ⟨"u-1", .task, .delete, .deny .outOfScope "no", none⟩
    ∃ s, ReflTransGen Move (empty .standard) s ∧ s.recorded = [look, change] ∧
      s.answers = [(0, .ok .queued), (1, .ok .written)] ∧
      (∃ o, s.Met 1 o ∧ o.event = change ∧ o.refusal = none) ∧ s.offered.count 1 = 1 ∧
      s.offered.Pairwise (· < ·) := by
  intro look change
  have held := ReflTransGen.single (Move.hold (s := empty .standard) look rfl)
  have queued := held.tail (.queue rfl rfl rfl)
  have waits := queued.tail (.hold change rfl)
  have drained := (waits.tail (.take rfl rfl)).tail .done
  have reached := drained.tail (.write rfl rfl (lastDone_of_drained rfl rfl))
  have sound := delivered_in_order reached
  have written := sound.2.1 1 change .written rfl rfl
    (List.mem_append_right _ (List.mem_singleton_self _))
  exact ⟨_, reached, rfl, rfl, written.1, written.2.1, sound.1.1⟩

end SharedTrail

end TenantAccess
