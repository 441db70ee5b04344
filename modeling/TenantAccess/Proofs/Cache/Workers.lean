import TenantAccess.Cache.Basic

/-! # The workers of a cache

What a loader says reaches its reader where a worker is free to call it, and the reader can wait until
it ends. A loader that has not ended when its reader leaves keeps its worker, so that there are never
more of them than workers. Where no worker is free the loader is not called: a reader who can wait calls
the fetch off when the time is over, and only a reader who cannot leaves it in the queue.
-/

namespace TenantAccess

namespace Cache

variable {ν : Type} {c : Cache ν} {pace : Pace}

/-- A worker is free to call another loader. -/
def HasWorker (c : Cache ν) : Prop := c.abandoned < workers

/-- The settings give a time for which a fetch can be waited: a double, in seconds, whose nanoseconds
can be counted. -/
def CanWait (c : Cache ν) : Prop :=
  ∃ seconds, c.settings.refreshSeconds = .ok seconds ∧ Setting.isTimed seconds = true

/-- What a loader of such a pace says reaches its reader. -/
inductive Hears (c : Cache ν) : Pace → Prop
  /-- Nothing is left to be waited for; it is enough that the time is a double. -/
  | prompt {seconds : Float} (free : c.HasWorker) (computed : c.settings.refreshSeconds = .ok seconds) :
      Hears c .prompt
  | slow (free : c.HasWorker) (waits : c.CanWait) : Hears c .slow

theorem isFull_eq_false_iff : c.isFull = false ↔ c.HasWorker := by
  simp [isFull, HasWorker]

theorem isFull_iff : c.isFull = true ↔ ¬ c.HasWorker := by
  rw [← isFull_eq_false_iff, Bool.not_eq_false]

theorem isWaitable_iff : c.settings.isWaitable = true ↔ c.CanWait := by
  unfold CacheSettings.isWaitable CanWait
  cases c.settings.refreshSeconds with
  | ok seconds => simp
  | error m => simp

theorem hears_iff : c.Hears pace ↔ c.HasWorker ∧ c.settings.hears pace = true := by
  cases pace with
  | prompt =>
      constructor
      · intro heard
        cases heard with
        | prompt free computed => simp [free, CacheSettings.hears, computed, Except.isOk, Except.toBool]
      · rintro ⟨free, computed⟩
        cases found : c.settings.refreshSeconds with
        | ok seconds => exact .prompt free found
        | error m => simp [CacheSettings.hears, found, Except.isOk, Except.toBool] at computed
  | slow =>
      rw [CacheSettings.hears, isWaitable_iff]
      constructor
      · intro heard
        cases heard with
        | slow free waits => exact ⟨free, waits⟩
      · rintro ⟨free, waits⟩
        exact .slow free waits
  | hung =>
      constructor
      · intro heard
        cases heard
      · rintro ⟨-, heard⟩
        cases heard

/-! ## What a reader is left with -/

/-- What a reader is left with who asked for a loader. -/
def heard (c : Cache ν) (l : Loading ν) : Fetched ν :=
  if c.isFull then .error c.unheard else c.awaited l

variable {l : Loading ν}

theorem heard_of_hears (hears : c.Hears l.pace) : c.heard l = l.outcome := by
  obtain ⟨free, hears⟩ := hears_iff.mp hears
  simp only [heard, isFull_eq_false_iff.mpr free, Bool.false_eq_true, if_false, awaited, hears, if_true]

theorem heard_of_not (deaf : ¬ c.Hears l.pace) : c.heard l = .error c.unheard := by
  unfold heard awaited
  cases full : c.isFull with
  | true => rfl
  | false =>
      have unheard : ¬ c.settings.hears l.pace = true := fun hears =>
        deaf (hears_iff.mpr ⟨isFull_eq_false_iff.mp full, hears⟩)
      rw [if_neg unheard]
      rfl

theorem heard_eq_ok_iff {v : ν} : c.heard l = .ok v ↔ c.Hears l.pace ∧ l.outcome = .ok v := by
  by_cases hears : c.Hears l.pace
  · simp [heard_of_hears hears, hears]
  · simp [heard_of_not hears, hears]

/-- A reader who hears nothing of a loader is not told that there is nothing. -/
theorem unheard_ne_fault (c : Cache ν) (f : Fault) : c.unheard ≠ .fault f := by
  unfold unheard
  cases c.settings.refreshSeconds with
  | error m => simp
  | ok seconds => simp only; split <;> simp

theorem unheard_of_canWait (waits : c.CanWait) : c.unheard = .overrun := by
  obtain ⟨seconds, computed, timed⟩ := waits
  simp only [unheard, computed, timed, if_true]

theorem unheard_of_unwaitable (unwaitable : ¬ c.CanWait) : ∃ message, c.unheard = .broken message := by
  unfold unheard
  cases computed : c.settings.refreshSeconds with
  | error m => exact ⟨m.message, rfl⟩
  | ok seconds =>
      have untimed : ¬ Setting.isTimed seconds = true := fun timed => unwaitable ⟨seconds, computed, timed⟩
      exact ⟨Misuse.waitTooLong.message, if_neg untimed⟩

/-! ## What a fetch leaves behind -/

/-- The cache that a reader leaves who asked for a loader. -/
def afterFetch (c : Cache ν) (key : String) (pace : Pace) : Cache ν :=
  if c.isFull then c.callOff key else (c.noteFetch key).leave pace

theorem afterFetch_of_hears (hears : c.Hears pace) (key : String) :
    c.afterFetch key pace = c.noteFetch key := by
  obtain ⟨free, hears⟩ := hears_iff.mp hears
  have left : (c.noteFetch key).settings.hears pace = true := hears
  simp [afterFetch, isFull_eq_false_iff.mpr free, leave, left]

/-- All that a fetch can ask of the workers. -/
inductive Asks (c : Cache ν) (key : String) (pace : Pace) : Cache ν → Prop
  /-- The loader has ended when its reader leaves. -/
  | ended (free : c.HasWorker) (past : pace = .prompt ∨ c.Hears pace) : Asks c key pace (c.noteFetch key)
  /-- The loader goes on. -/
  | abandoned (free : c.HasWorker) (going : pace ≠ .prompt) (deaf : ¬ c.Hears pace) :
      Asks c key pace { c.noteFetch key with abandoned := c.abandoned + 1 }
  /-- The loader is not called. -/
  | calledOff (full : ¬ c.HasWorker) (waits : c.CanWait) : Asks c key pace c
  /-- The loader is called once a worker gets free. -/
  | queued (full : ¬ c.HasWorker) (unwaitable : ¬ c.CanWait) :
      Asks c key pace { c with queue := c.queue ++ [key] }

theorem asks_afterFetch (c : Cache ν) (key : String) (pace : Pace) :
    c.Asks key pace (c.afterFetch key pace) := by
  by_cases free : c.HasWorker
  · have left : c.afterFetch key pace = (c.noteFetch key).leave pace := by
      simp [afterFetch, isFull_eq_false_iff.mpr free]
    have ends : (pace = .prompt || (c.noteFetch key).settings.hears pace) = true ↔
        pace = .prompt ∨ c.Hears pace := by
      simp [hears_iff, free, noteFetch]
    rw [left, leave]
    by_cases past : pace = .prompt ∨ c.Hears pace
    · rw [if_pos (ends.mpr past)]
      exact .ended free past
    · obtain ⟨going, deaf⟩ := not_or.mp past
      rw [if_neg (mt ends.mp past)]
      exact .abandoned free going deaf
  · have left : c.afterFetch key pace = c.callOff key := by simp [afterFetch, isFull_iff.mpr free]
    rw [left, callOff]
    by_cases waits : c.CanWait
    · rw [if_pos (isWaitable_iff.mpr waits)]
      exact .calledOff free waits
    · rw [if_neg (mt isWaitable_iff.mp waits)]
      exact .queued free waits

/-- A fetch changes what the workers do, and nothing else. -/
theorem Asks.eq_with {key : String} {left : Cache ν} (asks : c.Asks key pace left) :
    ∃ fetched abandoned queue, left = { c with fetched, abandoned, queue } := by
  cases asks <;> exact ⟨_, _, _, rfl⟩

theorem Asks.entries {key : String} {left : Cache ν} (asks : c.Asks key pace left) :
    left.entries = c.entries := by
  obtain ⟨fetched, abandoned, queue, rfl⟩ := asks.eq_with
  rfl

theorem Asks.settings {key : String} {left : Cache ν} (asks : c.Asks key pace left) :
    left.settings = c.settings := by
  obtain ⟨fetched, abandoned, queue, rfl⟩ := asks.eq_with
  rfl

theorem release_eq_with (c : Cache ν) :
    ∃ fetched abandoned queue, c.release = { c with fetched, abandoned, queue } := by
  unfold release
  split <;> exact ⟨_, _, _, rfl⟩

theorem entries_release (c : Cache ν) : c.release.entries = c.entries := by
  obtain ⟨fetched, abandoned, queue, left⟩ := c.release_eq_with
  rw [left]

/-! ## How many there are -/

/-- There are not more loaders without readers than workers, and none of them waits for a worker but
where no worker is free, and no time can be waited for. -/
structure InBounds (c : Cache ν) : Prop where
  abandoned : c.abandoned ≤ workers
  queue : c.queue ≠ [] → ¬ c.HasWorker ∧ ¬ c.CanWait

theorem inBounds_empty (name : String) (settings : CacheSettings) :
    (empty name settings : Cache ν).InBounds :=
  ⟨Nat.zero_le workers, fun waiting => absurd rfl waiting⟩

theorem InBounds.of_asks {key : String} {left : Cache ν} (bounds : c.InBounds)
    (asks : c.Asks key pace left) : left.InBounds := by
  cases asks with
  | ended => exact ⟨bounds.abandoned, bounds.queue⟩
  | abandoned free => exact ⟨free, fun waiting => absurd free (bounds.queue waiting).1⟩
  | calledOff => exact bounds
  | queued full unwaitable => exact ⟨bounds.abandoned, fun _ => ⟨full, unwaitable⟩⟩

theorem InBounds.release (bounds : c.InBounds) : c.release.InBounds := by
  unfold Cache.release
  split
  · next idle => exact ⟨Nat.le_trans (Nat.sub_le ..) bounds.abandoned, fun waiting => absurd idle waiting⟩
  · next key rest waiting =>
      have full := bounds.queue (waiting ▸ List.cons_ne_nil key rest)
      exact ⟨bounds.abandoned, fun _ => full⟩

end Cache

end TenantAccess
