import TenantAccess.Number.Digit
import TenantAccess.Proofs.Cache.InFlight

/-! # How old a served value is

Calls on a cache are made one after another, while the clock moves on and loaders succeed, fail or
outlast their readers. A read that finds nothing fresh has its loader called once, if a worker is free for
it. It serves what it has just fetched, or what was fetched for its key since the key was last dropped:
within its time of freshness, or up to the ceiling where nothing comes of the fetch. A fetch that fails
changes nothing of what is held.
-/

namespace TenantAccess

open Moves

namespace Clocked

variable {ν : Type} {s start : Clocked ν} {key : String} {e : CacheEntry ν} {delay : Option Float}
  {l : Loading ν}

/-- A call on a cache, or what befalls its workers. While a read waits for its loader the clock may move
on. -/
inductive Call (ν : Type) where
  | get (key : String) (delay : Option Float) (l : Loading ν)
  | invalidate (key : String)
  | clear
  | ageOf (key : String)
  | advance (seconds : Float)
  /-- A loader ends that its reader had left. A reader who waits for a worker meanwhile is as well off as
  one who begins right after, since no read looks at the workers when it begins. -/
  | release

def after (s : Clocked ν) : Call ν → Clocked ν
  | .get key delay l => (get key (fetching delay l)).next s
  | .invalidate key => (invalidate key).next s
  | .clear => clear.next s
  | .ageOf _ => s
  | .advance seconds => (advance seconds).next s
  | .release => release.next s

def afterAll (s : Clocked ν) (run : List (Call ν)) : Clocked ν := run.foldl after s

def held? (s : Clocked ν) (key : String) : Option (CacheEntry ν) := s.cache.entries.get? key

/-- What is held under a key is younger than the time for which it counts as fresh. -/
def HoldsFresh (s : Clocked ν) (key : String) : Prop :=
  ∃ e, s.held? key = some e ∧ e.ageAt s.now < s.cache.settings.ttl

/-- A reader hears neither of a value nor that there is none. -/
def Fails (s : Clocked ν) (l : Loading ν) : Prop :=
  s.cache.Hears l.pace → (∀ v, l.outcome ≠ .ok v) ∧ ¬ Cache.Missing l.outcome

/-! ## What a read does -/

/-- All that a read can come to, with what it answers and what it leaves. -/
inductive Exit (s : Clocked ν) (key : String) (l : Loading ν) : Except Fault ν → Clocked ν → Prop
  | fresh {e : CacheEntry ν} (held : s.held? key = some e)
      (young : e.ageAt s.now < s.cache.settings.ttl) : Exit s key l (.ok e.value) s
  | fetched {v : ν} {now : Float} (due : ¬ s.HoldsFresh key) (heard : s.cache.Hears l.pace)
      (found : l.outcome = .ok v) :
      Exit s key l (.ok v)
        ⟨{ s.cache.noteFetch key with entries := s.cache.entries.put key ⟨v, now⟩ }, now⟩
  | missing {f : Fault} {now : Float} (due : ¬ s.HoldsFresh key) (heard : s.cache.Hears l.pace)
      (found : l.outcome = .error (.fault f)) (nothing : f.isNotFound = true) :
      Exit s key l (.error f) ⟨(s.cache.noteFetch key).drop key, now⟩
  | stale {e : CacheEntry ν} {left : Cache ν} {now : Float} (due : ¬ s.HoldsFresh key)
      (fails : s.Fails l) (held : s.held? key = some e)
      (usable : e.ageAt s.now ≤ s.cache.settings.staleCeiling) (asks : s.cache.Asks key l.pace left) :
      Exit s key l (.ok e.value) ⟨left, now⟩
  | exhausted {f : Fault} {left : Cache ν} {now : Float} (due : ¬ s.HoldsFresh key)
      (fails : s.Fails l)
      (unusable : ∀ e, s.held? key = some e → ¬ e.ageAt s.now ≤ s.cache.settings.staleCeiling)
      (unavailable : f.isUnavailable = true) (asks : s.cache.Asks key l.pace left) :
      Exit s key l (.error f) ⟨left, now⟩

theorem begin_of_fresh (held : s.held? key = some e) (young : e.ageAt s.now < s.cache.settings.ttl) :
    s.cache.begin s.now key = .answered e.value := by
  have fresh : e.isFresh s.cache.settings s.now = true := decide_eq_true young
  simp only [held?] at held
  simp only [Cache.begin, held, fresh, if_true]

theorem begin_of_due (due : ¬ s.HoldsFresh key) :
    s.cache.begin s.now key = .pending ⟨key, s.held? key, s.cache.generation key, s.now⟩ := by
  cases held : s.held? key with
  | none =>
      simp only [held?] at held
      simp only [Cache.begin, held]
  | some e =>
      have old : e.isFresh s.cache.settings s.now = false :=
        decide_eq_false fun young => due ⟨e, held, young⟩
      simp only [held?] at held
      simp only [Cache.begin, held, old, Bool.false_eq_true, if_false]

/-- A read whose fetch fails is served what stands in, or told that there is nothing. -/
theorem exit_failed (due : ¬ s.HoldsFresh key) (fails : s.Fails l) (error : String) {f : Fault}
    (unavailable : f.isUnavailable = true) (now : Float) :
    let p : Pending ν := ⟨key, s.held? key, s.cache.generation key, s.now⟩
    let failed := (s.cache.afterFetch key l.pace).failed p error f
    Exit s key l failed.value.1 ⟨failed.value.2, now⟩ := by
  intro p failed
  have asks := s.cache.asks_afterFetch key l.pace
  have settings := asks.settings
  simp only [failed, Cache.cache_failed]
  generalize s.cache.afterFetch key l.pace = left at asks settings
  cases standing : left.standIn? p with
  | some e =>
      obtain ⟨held, usable⟩ := Option.filter_eq_some_iff.mp standing
      have usable := of_decide_eq_true usable
      rw [settings] at usable
      simp only [Cache.failed, standing]
      exact .stale due fails held usable asks
  | none =>
      simp only [Cache.failed, standing]
      refine .exhausted due fails ?_ unavailable asks
      intro e held usable
      rw [← settings] at usable
      have kept : left.standIn? p = some e :=
        Option.filter_eq_some_iff.mpr ⟨held, decide_eq_true usable⟩
      rw [standing] at kept
      cases kept

theorem fails_error {failure : FetchFailure} (outcome : l.outcome = .error failure)
    (other : ∀ f, failure = .fault f → ¬ f.isNotFound = true) : s.Fails l := by
  intro heard
  rw [outcome]
  refine ⟨fun _ same => (by cases same), ?_⟩
  rintro ⟨nothing⟩
  exact other _ rfl nothing

/-- A read that has to fetch, and hears of its loader, finishes with what that says. -/
theorem exit_heard (due : ¬ s.HoldsFresh key) (heard : s.cache.Hears l.pace) (now : Float) :
    let p : Pending ν := ⟨key, s.held? key, s.cache.generation key, s.now⟩
    let done := (s.cache.afterFetch key l.pace).finish p now l.outcome
    Exit s key l done.value.1 ⟨done.value.2, now⟩ := by
  intro p done
  cases outcome : l.outcome with
  | ok v =>
      -- Nobody drops the key while the loader runs, so what was fetched is kept.
      have kept := Cache.keep_of_current (c := s.cache.noteFetch key) (p := p) rfl now v
      simp only [done, outcome, Cache.afterFetch_of_hears heard, Cache.finish, Logged.quiet, kept]
      exact .fetched due heard outcome
  | error failure =>
      cases failure with
      | fault f =>
          simp only [done, outcome, Cache.finish]
          by_cases nothing : f.isNotFound = true
          · rw [if_pos nothing, Cache.afterFetch_of_hears heard]
            exact .missing due heard outcome nothing
          · rw [if_neg nothing]
            have fails : s.Fails l := fails_error outcome fun f' same => by
              cases same
              exact nothing
            apply exit_failed due fails
            split
            · assumption
            · rfl
      | broken message =>
          have fails : s.Fails l := fails_error outcome fun f same => by cases same
          simp only [done, outcome, Cache.finish]
          exact exit_failed due fails message rfl now
      | overrun =>
          have fails : s.Fails l := fails_error outcome fun f same => by cases same
          simp only [done, outcome, Cache.finish]
          exact exit_failed due fails _ rfl now

/-- A read that has to fetch, and hears nothing of its loader, fails. -/
theorem exit_unheard (due : ¬ s.HoldsFresh key) (deaf : ¬ s.cache.Hears l.pace) (now : Float) :
    let p : Pending ν := ⟨key, s.held? key, s.cache.generation key, s.now⟩
    let done := (s.cache.afterFetch key l.pace).finish p now (.error s.cache.unheard)
    Exit s key l done.value.1 ⟨done.value.2, now⟩ := by
  intro p done
  have fails : s.Fails l := fun heard => absurd heard deaf
  cases why : s.cache.unheard with
  | fault f => exact absurd why (s.cache.unheard_ne_fault f)
  | broken message =>
      simp only [done, why, Cache.finish]
      exact exit_failed due fails message rfl now
  | overrun =>
      simp only [done, why, Cache.finish]
      exact exit_failed due fails _ rfl now

theorem exit_get (s : Clocked ν) (key : String) (delay : Option Float) (l : Loading ν) :
    Exit s key l ((get key (fetching delay l)).answer s) ((get key (fetching delay l)).next s) := by
  by_cases fresh : s.HoldsFresh key
  · obtain ⟨e, held, young⟩ := fresh
    simp only [Step.answer, Step.next, get, begin_of_fresh held young]
    exact .fresh held young
  · obtain ⟨now, ran⟩ := s.fetch_eq key delay l
    simp only [Step.answer, Step.next, get, begin_of_due fresh, ran]
    by_cases heard : s.cache.Hears l.pace
    · rw [Cache.heard_of_hears heard]
      exact exit_heard fresh heard now
    · rw [Cache.heard_of_not heard]
      exact exit_unheard fresh heard now

/-- What a read has the workers do. -/
structure Works (s : Clocked ν) (key : String) (pace : Pace) (next : Clocked ν) : Prop where
  fresh : s.HoldsFresh key → next = s
  /-- The loader is called once where nothing fresh is held and a worker is free. -/
  called : ¬ s.HoldsFresh key → s.cache.HasWorker →
    next.cache.fetched = s.cache.fetched ++ [key] ∧ next.cache.queue = s.cache.queue
  /-- The loader gives its worker back, unless it outlasts its reader. -/
  freed : ¬ s.HoldsFresh key → s.cache.HasWorker →
    (pace = .prompt ∨ s.cache.Hears pace) ∧ next.cache.abandoned = s.cache.abandoned ∨
      pace ≠ .prompt ∧ ¬ s.cache.Hears pace ∧ next.cache.abandoned = s.cache.abandoned + 1
  /-- The loader is not called where no worker is free, and is not called later on unless the reader
  cannot wait. -/
  uncalled : ¬ s.HoldsFresh key → ¬ s.cache.HasWorker →
    next.cache.fetched = s.cache.fetched ∧ next.cache.abandoned = s.cache.abandoned ∧
      (s.cache.CanWait → next.cache.queue = s.cache.queue) ∧
      (¬ s.cache.CanWait → next.cache.queue = s.cache.queue ++ [key])

theorem works_of_asks {left : Cache ν} {next : Clocked ν} {pace : Pace} (due : ¬ s.HoldsFresh key)
    (asks : s.cache.Asks key pace left) (fetched : next.cache.fetched = left.fetched)
    (abandoned : next.cache.abandoned = left.abandoned) (queue : next.cache.queue = left.queue) :
    s.Works key pace next := by
  cases asks with
  | ended free past =>
      exact ⟨fun fresh => absurd fresh due, fun _ _ => ⟨fetched, queue⟩,
        fun _ _ => .inl ⟨past, abandoned⟩, fun _ full => absurd free full⟩
  | abandoned free going deaf =>
      exact ⟨fun fresh => absurd fresh due, fun _ _ => ⟨fetched, queue⟩,
        fun _ _ => .inr ⟨going, deaf, abandoned⟩, fun _ full => absurd free full⟩
  | calledOff full waits =>
      exact ⟨fun fresh => absurd fresh due, fun _ free => absurd free full,
        fun _ free => absurd free full,
        fun _ _ => ⟨fetched, abandoned, fun _ => queue, fun unwaitable => absurd waits unwaitable⟩⟩
  | queued full unwaitable =>
      exact ⟨fun fresh => absurd fresh due, fun _ free => absurd free full,
        fun _ free => absurd free full,
        fun _ _ => ⟨fetched, abandoned, fun waits => absurd waits unwaitable, fun _ => queue⟩⟩

namespace Exit

variable {answer : Except Fault ν} {next : Clocked ν} {f : Fault}

theorem works (exit : Exit s key l answer next) : s.Works key l.pace next := by
  cases exit with
  | @fresh e held young =>
      have fresh : s.HoldsFresh key := ⟨e, held, young⟩
      exact ⟨fun _ => rfl, fun due => absurd fresh due, fun due => absurd fresh due,
        fun due => absurd fresh due⟩
  | fetched due heard | missing due heard =>
      exact works_of_asks due (.ended (Cache.hears_iff.mp heard).1 (.inr heard)) rfl rfl rfl
  | stale due _ _ _ asks => exact works_of_asks due asks rfl rfl rfl
  | exhausted due _ _ _ asks => exact works_of_asks due asks rfl rfl rfl

theorem inBounds (exit : Exit s key l answer next) (bounds : s.cache.InBounds) :
    next.cache.InBounds := by
  cases exit with
  | fresh => exact bounds
  | fetched | missing => exact ⟨bounds.abandoned, bounds.queue⟩
  | stale _ _ _ _ asks | exhausted _ _ _ _ asks => exact bounds.of_asks asks

theorem of_error (exit : Exit s key l (.error f) next) :
    f.isUnavailable = true ∨ f.isNotFound = true ∧ l.outcome = .error (.fault f) ∧
      ¬ s.HoldsFresh key ∧ s.cache.Hears l.pace := by
  cases exit with
  | missing due heard found nothing => exact .inr ⟨nothing, found, due, heard⟩
  | exhausted due fails unusable unavailable => exact .inl unavailable

theorem of_missing (exit : Exit s key l answer next) (found : l.outcome = .error (.fault f))
    (nothing : f.isNotFound = true) (due : ¬ s.HoldsFresh key) (heard : s.cache.Hears l.pace) :
    answer = .error f ∧ next.held? key = none := by
  have succeeds : ¬ s.Fails l := fun fails => (fails heard).2 (found ▸ .missing nothing)
  cases exit with
  | @fresh e held young => exact absurd ⟨e, held, young⟩ due
  | fetched due heard same => cases found.symm.trans same
  | missing due heard same nothing =>
      cases found.symm.trans same
      exact ⟨rfl, (Cache.held_drop _ key key).trans (if_pos rfl)⟩
  | stale due fails | exhausted due fails => exact absurd fails succeeds

theorem entries_of_fails (exit : Exit s key l answer next) (fails : s.Fails l) :
    next.cache.entries = s.cache.entries := by
  cases exit with
  | @fetched v now due heard found => exact absurd found ((fails heard).1 v)
  | missing due heard found nothing => exact absurd (found ▸ .missing nothing) (fails heard).2
  | fresh => rfl
  | stale _ _ _ _ asks | exhausted _ _ _ _ asks => exact asks.entries

theorem settings (exit : Exit s key l answer next) : next.cache.settings = s.cache.settings := by
  cases exit with
  | fresh | fetched | missing => rfl
  | stale _ _ _ _ asks | exhausted _ _ _ _ asks => exact asks.settings

end Exit

/-! ## Runs of calls -/

variable {run : List (Call ν)}

/-- A call drops a key; so does a read that is told that there is nothing. -/
def Drops (key : String) (s : Clocked ν) : Call ν → Prop
  | .get other _ l =>
    other = key ∧ ¬ s.HoldsFresh key ∧ s.cache.Hears l.pace ∧ Cache.Missing l.outcome
  | .invalidate other => other = key
  | .clear => True
  | .ageOf _ | .advance _ | .release => False

/-- A call reads a key from the source; the clock is read when the fetch has finished. -/
def Loads (key : String) (e : CacheEntry ν) (s : Clocked ν) (c : Call ν) : Prop :=
  ∃ delay l, c = .get key delay l ∧ l.outcome = .ok e.value ∧ ¬ s.HoldsFresh key ∧
    s.cache.Hears l.pace ∧ e.fetchedAt = (s.after c).now

/-- What was held under a key is lost: the key is dropped, or it is read from the source again. -/
def Loses (key : String) (s : Clocked ν) (c : Call ν) : Prop :=
  Drops key s c ∨ ∃ e, Loads key e s c

theorem not_loads_of_ne {c : Call ν} (differ : ∀ delay l, c ≠ .get key delay l) (e : CacheEntry ν) :
    ¬ Loads key e s c := by
  rintro ⟨delay, l, same, -⟩
  exact differ delay l same

theorem loads_iff {v : ν} (due : ¬ s.HoldsFresh key) (heard : s.cache.Hears l.pace)
    (found : l.outcome = .ok v) :
    Loads key e s (.get key delay l) ↔ e = ⟨v, (s.after (.get key delay l)).now⟩ := by
  constructor
  · rintro ⟨_, _, same, loaded, -, -, at_end⟩
    cases same
    cases found.symm.trans loaded
    rw [← at_end]
  · rintro rfl
    exact ⟨delay, l, rfl, found, due, heard, rfl⟩

theorem not_loads_of_fresh {c : Call ν} (fresh : s.HoldsFresh key) (e : CacheEntry ν) :
    ¬ Loads key e s c := by
  rintro ⟨_, _, -, -, due, -⟩
  exact due fresh

theorem not_loads_of_fails (fails : s.Fails l) (e : CacheEntry ν) :
    ¬ Loads key e s (.get key delay l) := by
  rintro ⟨_, _, same, loaded, -, heard, -⟩
  cases same
  exact (fails heard).1 e.value loaded

theorem held?_after_get (s : Clocked ν) (key : String) (delay : Option Float) (l : Loading ν) :
    (s.after (.get key delay l)).held? key = some e ↔
      Loads key e s (.get key delay l) ∨
        s.held? key = some e ∧ ¬ Loses key s (.get key delay l) := by
  have exit := s.exit_get key delay l
  change Exit s key l _ (s.after (.get key delay l)) at exit
  have fails_loses (fails : s.Fails l) (e : CacheEntry ν) :
      ¬ Loads key e s (.get key delay l) ∧ ¬ Loses key s (.get key delay l) := by
    refine ⟨not_loads_of_fails fails e, ?_⟩
    rintro (drops | ⟨e', loads⟩)
    · exact (fails drops.2.2.1).2 drops.2.2.2
    · exact not_loads_of_fails fails e' loads
  generalize left : s.after (.get key delay l) = next at exit
  generalize (get key (fetching delay l)).answer s = answer at exit
  cases exit with
  | fresh held young =>
      have fresh : s.HoldsFresh key := ⟨_, held, young⟩
      have loads := not_loads_of_fresh (c := .get key delay l) fresh
      have drops : ¬ Drops key s (.get key delay l) := fun h => h.2.1 fresh
      simp [Loses, loads, drops]
  | @fetched v now due heard found =>
      simp only [Loses, loads_iff due heard found, left]
      simp [held?, eq_comm]
  | @missing f now due heard found nothing =>
      have loads (e : CacheEntry ν) : ¬ Loads key e s (.get key delay l) := by
        rintro ⟨_, _, same, loaded, -⟩
        cases same
        cases found.symm.trans loaded
      have drops : Drops key s (.get key delay l) := ⟨rfl, due, heard, found ▸ .missing nothing⟩
      simp [Loses, loads, drops, held?, Cache.held_drop]
  | stale due fails held usable asks | exhausted due fails unusable unavailable asks =>
      obtain ⟨loads, loses⟩ := fails_loses fails e
      simp [loads, loses, held?, asks.entries]

theorem held?_release (s : Clocked ν) (key : String) :
    (s.after .release).held? key = s.held? key :=
  congrArg (Table.get? · key) s.cache.entries_release

theorem held?_after (s : Clocked ν) (c : Call ν) :
    (s.after c).held? key = some e ↔ Loads key e s c ∨ s.held? key = some e ∧ ¬ Loses key s c := by
  cases c with
  | get other delay l =>
      by_cases own : other = key
      · subst own
        exact s.held?_after_get other delay l
      · have kept : (s.after (.get other delay l)).held? key = s.held? key :=
          s.held_get delay l own
        have loads (e : CacheEntry ν) : ¬ Loads key e s (.get other delay l) :=
          not_loads_of_ne (fun _ _ same => own (Call.get.inj same).1) e
        have drops : ¬ Drops key s (.get other delay l) := fun h => own h.1
        simp [kept, Loses, loads, drops]
  | invalidate other =>
      have loads (e : CacheEntry ν) : ¬ Loads key e s (.invalidate other) :=
        not_loads_of_ne (fun _ _ same => by cases same) e
      have left := s.cache.held_drop other key
      simp only [after, Step.next, invalidate, held?, left, Loses, loads, Drops]
      by_cases same : other = key
      · simp [same]
      · simp [same, Ne.symm same]
  | clear =>
      have loads (e : CacheEntry ν) : ¬ Loads key e s .clear :=
        not_loads_of_ne (fun _ _ same => by cases same) e
      have left : (s.after .clear).held? key = none := rfl
      simp [left, Loses, loads, Drops]
  | ageOf other =>
      have loads (e : CacheEntry ν) : ¬ Loads key e s (.ageOf other) :=
        not_loads_of_ne (fun _ _ same => by cases same) e
      simp [after, Loses, loads, Drops]
  | advance seconds =>
      have loads (e : CacheEntry ν) : ¬ Loads key e s (.advance seconds) :=
        not_loads_of_ne (fun _ _ same => by cases same) e
      have left : (s.after (.advance seconds)).held? key = s.held? key := rfl
      simp [left, Loses, loads, Drops]
  | release =>
      have loads (e : CacheEntry ν) : ¬ Loads key e s .release :=
        not_loads_of_ne (fun _ _ same => by cases same) e
      simp [held?_release, Loses, loads, Drops]

/-- An entry was loaded for its key by a read of a run, at the time that it names, and since then the
key was neither dropped nor loaded again. -/
def LoadedIn (start : Clocked ν) (run : List (Call ν)) (key : String) (e : CacheEntry ν) : Prop :=
  ∃ before c since, run = before ++ c :: since ∧ Loads key e (start.afterAll before) c ∧
    Never after (Loses key) ((start.afterAll before).after c) since

theorem held?_iff_loadedIn (bare : start.held? key = none) (run : List (Call ν)) :
    (start.afterAll run).held? key = some e ↔ LoadedIn start run key e := by
  have unheld : start.held? key ≠ some e := by simp [bare]
  exact holds_iff_since (fun s : Clocked ν => s.held? key = some e) held?_after unheld run

theorem settings_after (s : Clocked ν) (c : Call ν) : (s.after c).cache.settings = s.cache.settings := by
  cases c with
  | get key delay l => exact (s.exit_get key delay l).settings
  | invalidate key | clear | ageOf key | advance seconds => rfl
  | release =>
      obtain ⟨fetched, abandoned, queue, left⟩ := s.cache.release_eq_with
      change s.cache.release.settings = s.cache.settings
      rw [left]

theorem settings_afterAll (s : Clocked ν) (run : List (Call ν)) :
    (s.afterAll run).cache.settings = s.cache.settings := by
  induction run generalizing s with
  | nil => rfl
  | cons c rest ih => exact (ih (s.after c)).trans (s.settings_after c)

theorem inBounds_after (bounds : s.cache.InBounds) (c : Call ν) : (s.after c).cache.InBounds := by
  cases c with
  | get key delay l => exact (s.exit_get key delay l).inBounds bounds
  | invalidate key | clear | ageOf key | advance seconds => exact ⟨bounds.abandoned, bounds.queue⟩
  | release => exact bounds.release

theorem inBounds_afterAll (bounds : s.cache.InBounds) (run : List (Call ν)) :
    (s.afterAll run).cache.InBounds := by
  induction run generalizing s with
  | nil => exact bounds
  | cons c rest ih => exact ih (inBounds_after bounds c)

/-- What a read after a run may serve. -/
inductive Serves (start : Clocked ν) (run : List (Call ν)) (key : String) (l : Loading ν) : ν → Prop
  | loaded {v : ν} (due : ¬ (start.afterAll run).HoldsFresh key)
      (heard : (start.afterAll run).cache.Hears l.pace) (found : l.outcome = .ok v) :
      Serves start run key l v
  | fresh {e : CacheEntry ν} (origin : LoadedIn start run key e)
      (young : e.ageAt (start.afterAll run).now < (start.afterAll run).cache.settings.ttl) :
      Serves start run key l e.value
  | stale {e : CacheEntry ν} (origin : LoadedIn start run key e)
      (due : ¬ (start.afterAll run).HoldsFresh key) (fails : (start.afterAll run).Fails l)
      (usable : e.ageAt (start.afterAll run).now ≤
        (start.afterAll run).cache.settings.staleCeiling) :
      Serves start run key l e.value

theorem serves_of_exit {v : ν} {next : Clocked ν} (bare : start.held? key = none)
    (exit : Exit (start.afterAll run) key l (.ok v) next) : Serves start run key l v := by
  have origin (e : CacheEntry ν) := (held?_iff_loadedIn (e := e) bare run).mp
  cases exit with
  | fresh held young => exact .fresh (origin _ held) young
  | fetched due heard found => exact .loaded due heard found
  | stale due fails held usable => exact .stale (origin _ held) due fails usable

/-- Where fetches can be waited for, nobody but a reader has a loader called. -/
theorem fetched_after (bounds : s.cache.InBounds) (waits : s.cache.CanWait) {c : Call ν}
    (other : ∀ key delay l, c ≠ .get key delay l) : (s.after c).cache.fetched = s.cache.fetched := by
  cases c with
  | get key delay l => exact absurd rfl (other key delay l)
  | invalidate key | clear | ageOf key | advance seconds => rfl
  | release =>
      have idle : s.cache.queue = [] := by
        by_contra waiting
        exact (bounds.queue waiting).2 waits
      simp only [after, Step.next, release, Logged.quiet, Cache.release, idle]

/-- A read has its loader called, and once, iff nothing fresh is held and a worker is free; otherwise the
loader is not called, then or later, unless the time to wait cannot be waited. What the read serves was
loaded for its key since that was last dropped, and is new, or fresh, or below the ceiling where nothing
comes of the fetch. It is told that there is nothing iff the loader says so and is heard. -/
theorem read_after_run (name : String) (settings : CacheSettings) (began : Float)
    (run : List (Call ν)) (key : String) (delay : Option Float) (l : Loading ν) :
    let start : Clocked ν := ⟨.empty name settings, began⟩
    let s := start.afterAll run
    let answer := (get key (fetching delay l)).answer s
    let next := (get key (fetching delay l)).next s
    s.cache.settings = settings ∧
    s.cache.InBounds ∧
    s.Works key l.pace next ∧
    (s.cache.CanWait → ∀ c, (∀ key delay l, c ≠ .get key delay l) →
      (s.after c).cache.fetched = s.cache.fetched) ∧
    (∀ v, answer = .ok v → Serves start run key l v) ∧
    (∀ f, answer = .error f → f.isUnavailable = true ∨
      f.isNotFound = true ∧ l.outcome = .error (.fault f) ∧ ¬ s.HoldsFresh key ∧
        s.cache.Hears l.pace) ∧
    (∀ f, l.outcome = .error (.fault f) → f.isNotFound = true → ¬ s.HoldsFresh key →
      s.cache.Hears l.pace → answer = .error f ∧ next.held? key = none) ∧
    (s.Fails l → next.cache.entries = s.cache.entries) := by
  intro start s answer next
  have exit : Exit s key l answer next := s.exit_get key delay l
  have bounds : s.cache.InBounds := inBounds_afterAll (Cache.inBounds_empty name settings) run
  refine ⟨start.settings_afterAll run, bounds, exit.works, fun waits c other => ?_, ?_, ?_, ?_,
    exit.entries_of_fails⟩
  · exact fetched_after bounds waits other
  · intro v served
    rw [served] at exit
    exact serves_of_exit rfl exit
  · intro f refused
    rw [refused] at exit
    exact exit.of_error
  · intro f found nothing due heard
    exact exit.of_missing found nothing due heard

/-- Where the time cannot be waited, and nothing is held, a reader who hears nothing is told to come
back. -/
theorem answer_of_unwaitable (unwaitable : ¬ s.cache.CanWait) (deaf : ¬ s.cache.Hears l.pace)
    (bare : s.held? key = none) (delay : Option Float) :
    (get key (fetching delay l)).answer s = .error (.cacheUnavailable s.cache.name) := by
  obtain ⟨now, ran⟩ := s.fetch_eq key delay l
  obtain ⟨fetched, abandoned, queue, left⟩ := (s.cache.asks_afterFetch key l.pace).eq_with
  obtain ⟨message, why⟩ := Cache.unheard_of_unwaitable unwaitable
  simp only [Step.answer, get, Cache.begin_of_free bare, ran, Cache.heard_of_not deaf, why, left]
  rfl

/-- Where the time can be waited, and nothing is held, a reader who hears nothing is told that the time is
over. -/
theorem answer_of_overrun (waits : s.cache.CanWait) (deaf : ¬ s.cache.Hears l.pace)
    (bare : s.held? key = none) (delay : Option Float) :
    (get key (fetching delay l)).answer s =
      .error (.refreshTimedOut s.cache.name s.cache.settings.refreshTimeout) := by
  obtain ⟨now, ran⟩ := s.fetch_eq key delay l
  obtain ⟨fetched, abandoned, queue, left⟩ := (s.cache.asks_afterFetch key l.pace).eq_with
  have why := Cache.unheard_of_canWait waits
  simp only [Step.answer, get, Cache.begin_of_free bare, ran, Cache.heard_of_not deaf, why, left]
  rfl

/-- A time to wait for a fetch that no double can hold. -/
def boundless : CacheSettings :=
  { CacheSettings.standard with refreshTimeout := (Number.tenTo 200 : Int) * Number.tenTo 200 }

/-- A time to wait for a fetch whose nanoseconds do not fit into 64 bits: more than 292 years. -/
def endless : CacheSettings := { CacheSettings.standard with refreshTimeout := 9223372036855 }

/-- A loader that finds nothing under the key that it is asked for. -/
def absent (pace : Pace) : Loading String := ⟨pace, .error (.fault (.organizationNotFound "org-1"))⟩

/-- The read of a key that does not exist. -/
def readAbsent (pace : Pace) : Step (Clocked String) (Except Fault String) :=
  get "org-1" (fetching none (absent pace))

/-- A new cache. -/
def unused (settings : CacheSettings) : Clocked String := ⟨.empty Cache.standardName settings, 0⟩

/-- Four loaders hang, and their readers have left. -/
def starved : Clocked String :=
  let hangs (key : String) : Call String := .get key none ⟨.hung, .error .overrun⟩
  (unused .standard).afterAll [hangs "a", hangs "b", hangs "c", hangs "d"]

theorem starved_eq : starved.cache =
    { Cache.empty Cache.standardName .standard with
      fetched := ["a", "b", "c", "d"], abandoned := 4 } := rfl

theorem refreshSeconds_boundless : boundless.refreshSeconds = .error .beyondDoubles := by
  unfold CacheSettings.refreshSeconds
  exact if_neg (by decide +kernel)

theorem waitable_standard : CacheSettings.standard.isWaitable = true := by decide +kernel

theorem unwaitable_endless : ¬ endless.isWaitable = true := by decide +kernel

/-- Where the settings name a time that cannot be waited, the first read has its loader called, and is told
to come back although there is nothing. -/
theorem unwaitable_unheard (settings : CacheSettings) (pace : Pace)
    (unwaitable : ¬ settings.isWaitable = true) (deaf : ¬ settings.hears pace = true) :
    ((readAbsent pace).next (unused settings)).cache.fetched = ["org-1"] ∧
      (readAbsent pace).answer (unused settings) = .error (.cacheUnavailable Cache.standardName) := by
  have bare : (unused settings).held? "org-1" = none := rfl
  have due : ¬ (unused settings).HoldsFresh "org-1" := by
    rintro ⟨e, held, -⟩
    cases bare.symm.trans held
  have works := ((unused settings).exit_get "org-1" none (absent pace)).works
  refine ⟨(works.called due (Nat.zero_lt_succ 3)).1, answer_of_unwaitable ?_ (fun heard => ?_) bare none⟩
  · rwa [← Cache.isWaitable_iff]
  · exact deaf (Cache.hears_iff.mp heard).2

/-- Where no worker is left, the loader is not called, and the read is told that the time is over. -/
theorem starved_unheard :
    ((readAbsent .prompt).next starved).cache.fetched = ["a", "b", "c", "d"] ∧
      (readAbsent .prompt).answer starved = .error (.refreshTimedOut Cache.standardName 500) := by
  have waits : starved.cache.CanWait := by
    rw [starved_eq, ← Cache.isWaitable_iff]
    exact waitable_standard
  have full : ¬ starved.cache.HasWorker := by
    rw [starved_eq]
    exact Nat.lt_irrefl 4
  have bare : starved.held? "org-1" = none := by
    rw [held?, starved_eq]
    rfl
  have due : ¬ starved.HoldsFresh "org-1" := by
    rintro ⟨e, held, -⟩
    cases bare.symm.trans held
  have works : starved.Works "org-1" .prompt ((readAbsent .prompt).next starved) :=
    (starved.exit_get "org-1" none (absent .prompt)).works
  have told : (readAbsent .prompt).answer starved = _ := answer_of_overrun (l := absent .prompt) waits
    (fun heard => full (Cache.hears_iff.mp heard).1) bare none
  have same := (works.uncalled due full).1
  have fetched : starved.cache.fetched = ["a", "b", "c", "d"] := congrArg Cache.fetched starved_eq
  have label : starved.cache.name = Cache.standardName := congrArg Cache.name starved_eq
  have time : starved.cache.settings.refreshTimeout = 500 :=
    congrArg (·.settings.refreshTimeout) starved_eq
  rw [fetched] at same
  rw [label, time] at told
  exact ⟨same, told⟩

/-- Nothing is held under a key that does not exist, and a reader is not told so: where the time to wait
is beyond the doubles, where it cannot be counted and the loader takes any time, and where no worker is
left to call the loader. Settings of both kinds are accepted. -/
theorem missing_unheard :
    let accepted (settings : CacheSettings) : Prop :=
      CacheSettings.check [("refresh_timeout_ms", .int settings.refreshTimeout)] = .ok settings
    (accepted boundless ∧ ((readAbsent .prompt).next (unused boundless)).cache.fetched = ["org-1"] ∧
      (readAbsent .prompt).answer (unused boundless) = .error (.cacheUnavailable Cache.standardName)) ∧
    (accepted endless ∧ ((readAbsent .slow).next (unused endless)).cache.fetched = ["org-1"] ∧
      (readAbsent .slow).answer (unused endless) = .error (.cacheUnavailable Cache.standardName)) ∧
    (((readAbsent .prompt).next starved).cache.fetched = ["a", "b", "c", "d"] ∧
      (readAbsent .prompt).answer starved = .error (.refreshTimedOut Cache.standardName 500)) ∧
    (Fault.cacheUnavailable Cache.standardName).isNotFound = false ∧
    (Fault.refreshTimedOut Cache.standardName 500).isNotFound = false := by
  intro accepted
  have beyond : ¬ boundless.isWaitable = true := by
    simp [CacheSettings.isWaitable, refreshSeconds_boundless]
  have deaf : ¬ boundless.hears .prompt = true := by
    simp [CacheSettings.hears, refreshSeconds_boundless, Except.isOk, Except.toBool]
  exact ⟨⟨rfl, unwaitable_unheard boundless .prompt beyond deaf⟩,
    ⟨rfl, unwaitable_unheard endless .slow unwaitable_endless unwaitable_endless⟩,
    starved_unheard, rfl, rfl⟩

end Clocked

end TenantAccess
