import TenantAccess.Proofs.Cache.Entries
import TenantAccess.Proofs.Moves

/-! # Reads in flight

Several readers share a cache. Between the beginning and the end of one read the others may begin and
finish, and keys may be dropped, also by the fetch that the read waits for. What is held under a key
was fetched by a read that began after the key was last dropped. Clearing the cache drops the keys
that are held, and leaves a read of any other key in flight: what that read fetches is kept.
-/

namespace TenantAccess

open Moves

namespace Cache

variable {ν : Type} {key other : String}

theorem generation_age (generations : Table String Nat) (key other : String) :
    ((age generations key).get? other).getD 0 =
      (generations.get? other).getD 0 + if key = other then 1 else 0 := by
  rw [age, Table.get?_put]
  by_cases same : key = other
  · subst same
    simp
  · simp [same]

theorem generation_ages (keys : List String) (distinct : keys.Nodup) (generations : Table String Nat)
    (key : String) :
    ((keys.foldl age generations).get? key).getD 0 =
      (generations.get? key).getD 0 + if key ∈ keys then 1 else 0 := by
  induction keys generalizing generations with
  | nil => simp
  | cons first rest ih =>
      obtain ⟨apart, distinct⟩ := List.nodup_cons.mp distinct
      rw [List.foldl_cons, ih distinct, generation_age]
      by_cases same : first = key
      · subst same
        simp [apart]
      · simp [same, Ne.symm same]

theorem generation_drop (c : Cache ν) (key other : String) :
    (c.drop key).generation other = c.generation other + if key = other then 1 else 0 :=
  generation_age c.generations key other

theorem generation_clear (c : Cache ν) (key : String) :
    c.clear.generation key =
      c.generation key + if (c.entries.get? key).isSome then 1 else 0 := by
  have counted := generation_ages c.entries.keys c.entries.keys_nodup c.generations key
  have listed : key ∈ c.entries.keys ↔ (c.entries.get? key).isSome := by
    rw [← not_iff_not, ← Table.get?_eq_none_iff, Option.not_isSome_iff_eq_none]
  simp only [listed] at counted
  exact counted

theorem generation_keep (c : Cache ν) (p : Pending ν) (now : Float) (v : ν) (key : String) :
    (c.keep p now v).generation key = c.generation key := by
  unfold keep
  split <;> rfl

theorem keep_of_current {c : Cache ν} {p : Pending ν} (current : c.generation p.key = p.generation)
    (now : Float) (v : ν) :
    c.keep p now v = { c with entries := c.entries.put p.key ⟨v, now⟩ } :=
  if_pos current

theorem keep_of_older {c : Cache ν} {p : Pending ν} (older : c.generation p.key ≠ p.generation)
    (now : Float) (v : ν) : c.keep p now v = c :=
  if_neg older

theorem held_keep_self (c : Cache ν) (p : Pending ν) (now : Float) (v : ν) :
    (c.keep p now v).entries.get? p.key =
      if c.generation p.key = p.generation then some ⟨v, now⟩ else c.entries.get? p.key := by
  unfold keep
  split
  · exact Table.get?_put_self ..
  · rfl

theorem generation_of_begin {c : Cache ν} {now : Float} {p : Pending ν}
    (begun : c.begin now key = .pending p) : p.generation = c.generation key := by
  unfold begin at begun
  split at begun
  · split at begun
    · cases begun
    · cases begun
      rfl
  · cases begun
    rfl

/-- A fetch that finds nothing. -/
inductive Missing : Fetched ν → Prop
  | missing {f : Fault} (nothing : f.isNotFound = true) : Missing (.error (.fault f))

theorem not_missing_ok (v : ν) : ¬ Missing (.ok v) := by
  intro missing
  cases missing

/-- All that a read can leave behind when it finishes. -/
theorem finish_cases (c : Cache ν) (p : Pending ν) (now : Float) (outcome : Fetched ν) :
    (∃ v, outcome = .ok v ∧ (c.finish p now outcome).value.2 = c.keep p now v) ∨
    (Missing outcome ∧ (c.finish p now outcome).value.2 = c.drop p.key) ∨
    ((∀ v, outcome ≠ .ok v) ∧ ¬ Missing outcome ∧ (c.finish p now outcome).value.2 = c) := by
  cases outcome with
  | ok v => exact .inl ⟨v, rfl, rfl⟩
  | error failure =>
      right
      cases failure with
      | fault f =>
          by_cases missing : f.isNotFound = true
          · left
            exact ⟨.missing missing, by simp only [finish, if_pos missing]⟩
          · right
            refine ⟨fun _ same => (by cases same), ?_, ?_⟩
            · rintro ⟨nothing⟩
              exact missing nothing
            · simp only [finish, if_neg missing, cache_failed]
      | broken message | overrun =>
          right
          refine ⟨fun _ same => (by cases same), ?_, c.cache_failed p _ _⟩
          intro missing
          cases missing

/-- What a read leaves behind does not depend on what the workers do. -/
theorem finish_working (c : Cache ν) (p : Pending ν) (now : Float) (outcome : Fetched ν)
    (fetched : List String) (abandoned : Nat) (queue : List String) :
    ({ c with fetched, abandoned, queue }.finish p now outcome).value.2 =
      { (c.finish p now outcome).value.2 with fetched, abandoned, queue } := by
  rcases c.finish_cases p now outcome with ⟨v, rfl, left⟩ | ⟨⟨nothing⟩, left⟩ | ⟨valueless, found, left⟩
  · rw [left]
    change keep { c with fetched, abandoned, queue } p now v = _
    by_cases current : c.generation p.key = p.generation
    · rw [keep_of_current current]
      exact keep_of_current (c := { c with fetched, abandoned, queue }) current now v
    · rw [keep_of_older current]
      exact keep_of_older (c := { c with fetched, abandoned, queue }) current now v
  · rw [left]
    simp only [finish, if_pos nothing]
    rfl
  · rw [left]
    rcases finish_cases { c with fetched, abandoned, queue } p now outcome with
      ⟨v, found', -⟩ | ⟨missing, -⟩ | ⟨-, -, left'⟩
    · exact absurd found' (valueless v)
    · exact absurd missing found
    · exact left'

end Cache

/-- A cache that several readers share. -/
structure SharedCache (ν : Type) where
  cache : Cache ν
  /-- The reads in the order in which they began; one that was answered or has finished leaves a gap. -/
  reads : List (Option (Pending ν))

namespace SharedCache

variable {ν : Type} {s start : SharedCache ν} {key : String} {e : CacheEntry ν} {read : Nat}
  {p : Pending ν}

/-- What one of the readers does next. -/
inductive Move (ν : Type) where
  | begin (key : String) (now : Float)
  /-- The fetch of a read has come to an end. -/
  | finish (read : Nat) (now : Float) (outcome : Fetched ν)
  | drop (key : String)
  | clear

def empty (name : String) (settings : CacheSettings) : SharedCache ν := ⟨.empty name settings, []⟩

/-- A read that waits for its fetch. -/
def pending? (s : SharedCache ν) (read : Nat) : Option (Pending ν) := s.reads[read]?.join

def after (s : SharedCache ν) : Move ν → SharedCache ν
  | .begin key now =>
    match s.cache.begin now key with
    | .answered _ => { s with reads := s.reads ++ [none] }
    | .pending p => { s with reads := s.reads ++ [some p] }
  | .finish read now outcome =>
    match s.pending? read with
    | none => s
    | some p => ⟨(s.cache.finish p now outcome).value.2, s.reads.set read none⟩
  | .drop key => { s with cache := s.cache.drop key }
  | .clear => { s with cache := s.cache.clear }

def afterAll (s : SharedCache ν) (run : List (Move ν)) : SharedCache ν := run.foldl after s

/-- What is held under a key. -/
def held? (s : SharedCache ν) (key : String) : Option (CacheEntry ν) := s.cache.entries.get? key

/-! ## What a move does -/

/-- A move begins a read that has to fetch. -/
def Begins (read : Nat) (p : Pending ν) (s : SharedCache ν) (m : Move ν) : Prop :=
  ∃ now key, m = .begin key now ∧ s.reads.length = read ∧ s.cache.begin now key = .pending p

def Finishes (read : Nat) (_ : SharedCache ν) (m : Move ν) : Prop :=
  ∃ now outcome, m = .finish read now outcome

/-- A move drops a key. Clearing drops the keys that are held. -/
def Drops (key : String) (s : SharedCache ν) : Move ν → Prop
  | .begin _ _ => False
  | .finish read _ outcome => (∃ p, s.pending? read = some p ∧ p.key = key) ∧ Cache.Missing outcome
  | .drop other => other = key
  | .clear => (s.held? key).isSome

/-- A move keeps what a read has fetched. -/
def Keeps (key : String) (e : CacheEntry ν) (s : SharedCache ν) (m : Move ν) : Prop :=
  ∃ read p, m = .finish read e.fetchedAt (.ok e.value) ∧ s.pending? read = some p ∧ p.key = key ∧
    s.cache.generation key = p.generation

theorem pending?_snoc (reads : List (Option (Pending ν))) (last : Option (Pending ν)) (read : Nat) :
    (reads ++ [last])[read]?.join = if reads.length = read then last else reads[read]?.join := by
  rcases Nat.lt_trichotomy read reads.length with before | rfl | beyond
  · rw [List.getElem?_append_left before, if_neg (by omega)]
  · simp
  · rw [List.getElem?_eq_none (by simp; omega), List.getElem?_eq_none (by omega), if_neg (by omega)]

/-- A read waits from the move that begins it to the move that finishes it. -/
theorem pending?_after (s : SharedCache ν) (m : Move ν) :
    (s.after m).pending? read = some p ↔
      Begins read p s m ∨ s.pending? read = some p ∧ ¬ Finishes read s m := by
  cases m with
  | drop key | clear => simp [after, pending?, Begins, Finishes]
  | begin key now =>
      have unfinished : ¬ Finishes read s (.begin key now) := by
        rintro ⟨_, _, same⟩
        cases same
      cases begun : s.cache.begin now key with
      | answered v =>
          have begins : ¬ Begins read p s (.begin key now) := by
            rintro ⟨_, _, same, -, pending⟩
            cases same
            rw [begun] at pending
            cases pending
          simp only [after, begun, pending?, pending?_snoc]
          by_cases last : s.reads.length = read
          · simp [last, begins, unfinished]
          · simp [last, begins, unfinished]
      | pending q =>
          have begins : Begins read p s (.begin key now) ↔ s.reads.length = read ∧ q = p := by
            constructor
            · rintro ⟨_, _, same, place, pending⟩
              cases same
              rw [begun] at pending
              cases pending
              exact ⟨place, rfl⟩
            · rintro ⟨place, rfl⟩
              exact ⟨now, key, rfl, place, begun⟩
          simp only [after, begun, pending?, pending?_snoc]
          by_cases last : s.reads.length = read
          · simp [last, begins, unfinished]
          · simp [last, begins, unfinished]
  | finish n now outcome =>
      have begins : ¬ Begins read p s (.finish n now outcome) := by
        rintro ⟨_, _, same, -⟩
        cases same
      have finishes : Finishes read s (.finish n now outcome) ↔ n = read := by
        constructor
        · rintro ⟨_, _, same⟩
          cases same
          rfl
        · rintro rfl
          exact ⟨now, outcome, rfl⟩
      have left : (s.after (.finish n now outcome)).pending? read =
          if n = read then none else s.pending? read := by
        cases waits : s.pending? n with
        | none =>
            simp only [after, waits]
            split
            · next same => exact same ▸ waits
            · rfl
        | some q =>
            simp only [after, waits]
            simp only [pending?, List.getElem?_set]
            split
            · split <;> rfl
            · rfl
      simp only [left, begins, finishes, false_or]
      by_cases same : n = read <;> simp [same]

/-- The generation of a key counts how often the key was dropped. -/
theorem generation_after (s : SharedCache ν) (m : Move ν) (key : String) :
    ¬ Drops key s m ∧ (s.after m).cache.generation key = s.cache.generation key ∨
      Drops key s m ∧ (s.after m).cache.generation key = s.cache.generation key + 1 := by
  cases m with
  | begin other now =>
      refine .inl ⟨id, ?_⟩
      simp only [after]
      split <;> rfl
  | finish n now outcome =>
      cases waits : s.pending? n with
      | none => simp [after, Drops, waits]
      | some q =>
          simp only [after, Drops, waits, Option.some.injEq, exists_eq_left']
          rcases s.cache.finish_cases q now outcome with
            ⟨v, rfl, left⟩ | ⟨missing, left⟩ | ⟨-, found, left⟩
          · rw [left, Cache.generation_keep]
            exact .inl ⟨fun drops => Cache.not_missing_ok v drops.2, rfl⟩
          · rw [left, Cache.generation_drop]
            by_cases same : q.key = key
            · simp [same, missing]
            · simp [same]
          · rw [left]
            exact .inl ⟨fun h => found h.2, rfl⟩
  | drop other =>
      simp only [after, Drops, Cache.generation_drop]
      by_cases same : other = key <;> simp [same]
  | clear =>
      simp only [after, Drops, Cache.generation_clear, held?]
      by_cases held : (s.cache.entries.get? key).isSome = true <;> simp [held]

theorem generation_afterAll (s : SharedCache ν) (run : List (Move ν)) (key : String) :
    s.cache.generation key ≤ (s.afterAll run).cache.generation key ∧
      ((s.afterAll run).cache.generation key = s.cache.generation key ↔
        Never after (Drops key) s run) := by
  induction run generalizing s with
  | nil => simp [afterAll, Never]
  | cons m rest ih =>
      obtain ⟨grows, same⟩ := ih (s.after m)
      simp only [afterAll, List.foldl_cons, Never] at grows same ⊢
      rcases s.generation_after m key with ⟨kept, counted⟩ | ⟨dropped, counted⟩
      · rw [counted] at grows same
        exact ⟨grows, same.trans (by simp [kept])⟩
      · rw [counted] at grows
        constructor
        · omega
        · simp only [dropped, not_true_eq_false, false_and, iff_false]
          omega

/-- What was held under a key is lost: the key is dropped, or another fetch replaces it. -/
def Loses (key : String) (s : SharedCache ν) (m : Move ν) : Prop :=
  Drops key s m ∨ ∃ e, Keeps key e s m

theorem keeps_iff_of_pending {n : Nat} {now : Float} {v : ν} (waits : s.pending? n = some p) :
    Keeps key e s (.finish n now (.ok v)) ↔
      p.key = key ∧ s.cache.generation key = p.generation ∧ e = ⟨v, now⟩ := by
  constructor
  · rintro ⟨_, _, same, found, own, current⟩
    cases same
    cases waits.symm.trans found
    exact ⟨own, current, rfl⟩
  · rintro ⟨own, current, rfl⟩
    exact ⟨n, p, rfl, waits, own, current⟩

theorem not_keeps_of_ne {m : Move ν} (differ : ∀ n now outcome, m ≠ .finish n now outcome)
    (e : CacheEntry ν) : ¬ Keeps key e s m := by
  rintro ⟨n, _, same, -⟩
  exact differ n _ _ same

theorem held?_after (s : SharedCache ν) (m : Move ν) :
    (s.after m).held? key = some e ↔
      Keeps key e s m ∨ s.held? key = some e ∧ ¬ Loses key s m := by
  cases m with
  | begin other now =>
      have keeps (e : CacheEntry ν) : ¬ Keeps key e s (.begin other now) :=
        not_keeps_of_ne (fun _ _ _ same => by cases same) e
      have same : (s.after (.begin other now)).held? key = s.held? key := by
        simp only [after]
        split <;> rfl
      simp [same, keeps, Loses, Drops]
  | drop other =>
      have keeps (e : CacheEntry ν) : ¬ Keeps key e s (.drop other) :=
        not_keeps_of_ne (fun _ _ _ same => by cases same) e
      have left := s.cache.held_drop other key
      simp only [after, held?, left, keeps, Loses, Drops]
      by_cases same : other = key
      · simp [same]
      · simp [same, Ne.symm same]
  | clear =>
      have keeps (e : CacheEntry ν) : ¬ Keeps key e s .clear :=
        not_keeps_of_ne (fun _ _ _ same => by cases same) e
      have left : (s.after .clear).held? key = none := rfl
      simp only [left, keeps, Loses, Drops]
      cases s.held? key <;> simp
  | finish n now outcome =>
      cases waits : s.pending? n with
      | none =>
          have keeps (e : CacheEntry ν) : ¬ Keeps key e s (.finish n now outcome) := by
            rintro ⟨_, _, same, found, -⟩
            cases same
            cases waits.symm.trans found
          simp [after, waits, keeps, Loses, Drops]
      | some q =>
          have left : (s.after (.finish n now outcome)).held? key =
              (s.cache.finish q now outcome).value.2.entries.get? key := by
            simp only [after, waits, held?]
          rw [left]
          rcases s.cache.finish_cases q now outcome with
            ⟨v, rfl, kept⟩ | ⟨missing, kept⟩ | ⟨failed, found, kept⟩
          · have undropped : ¬ Drops key s (.finish n now (.ok v)) :=
              fun drops => Cache.not_missing_ok v drops.2
            simp only [kept, keeps_iff_of_pending waits, Loses, undropped, false_or]
            by_cases own : q.key = key
            · subst own
              rw [Cache.held_keep_self]
              by_cases current : s.cache.generation q.key = q.generation
              · simp [current, eq_comm]
              · simp [current, held?]
            · rw [Cache.held_keep _ _ _ _ own]
              simp [own, held?]
          · have keeps (e : CacheEntry ν) : ¬ Keeps key e s (.finish n now outcome) := by
              rintro ⟨_, _, same, -⟩
              cases same
              cases missing
            have drops : Drops key s (.finish n now outcome) ↔ q.key = key := by
              simp [Drops, waits, missing]
            simp only [kept, Cache.held_drop, keeps, Loses, drops]
            by_cases own : q.key = key
            · simp [own]
            · simp [own, Ne.symm own, held?]
          · have keeps (e : CacheEntry ν) : ¬ Keeps key e s (.finish n now outcome) := by
              rintro ⟨_, _, same, -⟩
              cases same
              exact failed e.value rfl
            have undropped : ¬ Drops key s (.finish n now outcome) := fun drops => found drops.2
            simp [kept, keeps, Loses, undropped, held?]

theorem pending?_last (c : Cache ν) (reads : List (Option (Pending ν))) (last : Option (Pending ν)) :
    (⟨c, reads ++ [last]⟩ : SharedCache ν).pending? reads.length = last := by
  simp [pending?]

/-- To what is held, a read that nothing disturbs does what its beginning and its end do. -/
theorem cache_get (s : Clocked ν) (reads : List (Option (Pending ν))) (key : String)
    (delay : Option Float) (l : Loading ν) :
    let left := (Clocked.get key (Clocked.fetching delay l)).next s
    let shared := (⟨s.cache, reads⟩ : SharedCache ν).afterAll
      [.begin key s.now, .finish reads.length left.now (s.cache.heard l)]
    left.cache.entries = shared.cache.entries ∧ left.cache.generations = shared.cache.generations := by
  intro left shared
  simp only [shared, afterAll, List.foldl_cons, List.foldl_nil, left, Step.next, Clocked.get]
  cases begun : s.cache.begin s.now key with
  | answered v =>
      simp only [after, begun, pending?_last]
      exact ⟨rfl, rfl⟩
  | pending p =>
      obtain ⟨now, ran⟩ := s.fetch_eq key delay l
      obtain ⟨fetched, abandoned, queue, worked⟩ := (s.cache.asks_afterFetch key l.pace).eq_with
      simp only [after, begun, pending?_last, ran, worked, Cache.finish_working, and_self]

/-! ## Where an entry comes from -/

/-- An entry was fetched by a read that began, had to fetch and finished in the course of a run. -/
structure FetchedBy (start : SharedCache ν) (run : List (Move ν)) (key : String) (e : CacheEntry ν)
    (before between since : List (Move ν)) (beganAt : Float) : Prop where
  run_eq : run = before ++ .begin key beganAt ::
    (between ++ .finish (start.afterAll before).reads.length e.fetchedAt (.ok e.value) :: since)
  begins : ∃ p, (start.afterAll before).cache.begin beganAt key = .pending p
  /-- The read does not finish before. -/
  once : ∀ now outcome, .finish (start.afterAll before).reads.length now outcome ∉ between
  /-- While the read was in flight its key was not dropped. -/
  undropped : Never after (Drops key) (start.afterAll (before ++ [.begin key beganAt])) between
  /-- Since then it was neither dropped nor fetched again. -/
  lasting : Never after (Loses key) (start.afterAll (before ++ .begin key beganAt ::
    (between ++ [.finish (start.afterAll before).reads.length e.fetchedAt (.ok e.value)]))) since

variable {before between since run : List (Move ν)} {beganAt now : Float}

theorem afterAll_append (s : SharedCache ν) (first second : List (Move ν)) :
    s.afterAll (first ++ second) = (s.afterAll first).afterAll second :=
  List.foldl_append

theorem afterAll_cons (s : SharedCache ν) (m : Move ν) (rest : List (Move ν)) :
    s.afterAll (m :: rest) = (s.after m).afterAll rest :=
  rfl

theorem never_finishes_iff :
    Never after (Finishes read) s run ↔ ∀ now outcome, .finish read now outcome ∉ run := by
  constructor
  · intro never now outcome
    exact never.not_mem fun _ => ⟨now, outcome, rfl⟩
  · intro absent
    induction run generalizing s with
    | nil => trivial
    | cons m rest ih =>
        refine ⟨?_, ih fun now outcome member => absent now outcome (List.mem_cons_of_mem _ member)⟩
        rintro ⟨now, outcome, rfl⟩
        exact absent now outcome List.mem_cons_self

theorem generation_begin (s : SharedCache ν) (key other : String) (now : Float) :
    (s.after (.begin other now)).cache.generation key = s.cache.generation key := by
  rcases s.generation_after (.begin other now) key with ⟨-, same⟩ | ⟨drops, -⟩
  · exact same
  · exact drops.elim

/-- A read that began and has not finished waits. -/
theorem pending?_iff_begun (idle : start.reads = []) (run : List (Move ν)) :
    (start.afterAll run).pending? read = some p ↔
      ∃ before now key between, run = before ++ .begin key now :: between ∧
        (start.afterAll before).reads.length = read ∧
        (start.afterAll before).cache.begin now key = .pending p ∧
        ∀ now outcome, .finish read now outcome ∉ between := by
  have unbegun : start.pending? read ≠ some p := by simp [idle, pending?]
  have since := holds_iff_since (fun s : SharedCache ν => s.pending? read = some p) pending?_after
    unbegun run
  simp only [afterAll]
  rw [since]
  constructor
  · rintro ⟨before, _, between, split, ⟨now, key, rfl, place, begun⟩, once⟩
    exact ⟨before, now, key, between, split, place, begun, never_finishes_iff.mp once⟩
  · rintro ⟨before, now, key, between, split, place, begun, once⟩
    exact ⟨before, _, between, split, ⟨now, key, rfl, place, begun⟩, never_finishes_iff.mpr once⟩

theorem held?_iff_kept (bare : start.held? key = none) (run : List (Move ν)) :
    (start.afterAll run).held? key = some e ↔
      ∃ before m since, run = before ++ m :: since ∧ Keeps key e (start.afterAll before) m ∧
        Never after (Loses key) ((start.afterAll before).after m) since := by
  have unheld : start.held? key ≠ some e := by simp [bare]
  exact holds_iff_since (fun s : SharedCache ν => s.held? key = some e) held?_after unheld run

/-- The generation that a read has seen is still that of its key iff the key was not dropped. -/
theorem generation_between (begun : s.cache.begin now key = .pending p) (between : List (Move ν)) :
    (s.afterAll (.begin key now :: between)).cache.generation key = p.generation ↔
      Never after (Drops key) (s.after (.begin key now)) between := by
  rw [Cache.generation_of_begin begun, ← s.generation_begin key key now, afterAll_cons]
  exact (generation_afterAll _ between key).2

theorem fetchedBy_of_held (idle : start.reads = []) (bare : start.held? key = none)
    (held : (start.afterAll run).held? key = some e) :
    ∃ before between since beganAt, FetchedBy start run key e before between since beganAt := by
  -- The entry was kept by a read that waited then, and that read was begun before.
  obtain ⟨earlier, _, since, rfl, ⟨n, p, rfl, waits, own, current⟩, lasting⟩ :=
    (held?_iff_kept bare run).mp held
  obtain ⟨before, beganAt, key', between, rfl, place, begun, once⟩ :=
    (pending?_iff_begun idle earlier).mp waits
  have same : key' = key := (Cache.key_of_begin begun).symm.trans own
  subst same place
  rw [afterAll_append, generation_between begun] at current
  refine ⟨before, between, since, beganAt, ?_, ⟨p, begun⟩, once, ?_, ?_⟩
  · simp
  · rw [afterAll_append]
    exact current
  · rw [← List.cons_append, ← List.append_assoc, afterAll_append]
    exact lasting

theorem FetchedBy.held (idle : start.reads = []) (bare : start.held? key = none)
    (fetched : FetchedBy start run key e before between since beganAt) :
    (start.afterAll run).held? key = some e := by
  obtain ⟨rfl, ⟨p, begun⟩, once, undropped, lasting⟩ := fetched
  have own : p.key = key := Cache.key_of_begin begun
  -- Undropped, the key has the generation that the read saw, so what it fetched is kept.
  rw [afterAll_append] at undropped
  have current := (generation_between begun between).mpr undropped
  rw [← afterAll_append] at current
  have waits := (pending?_iff_begun idle (before ++ .begin key beganAt :: between)).mpr
    ⟨before, beganAt, key, between, rfl, rfl, begun, once⟩
  refine (held?_iff_kept bare _).mpr ⟨before ++ .begin key beganAt :: between, _, since, by simp,
    ⟨_, p, rfl, waits, own, current⟩, ?_⟩
  rw [← List.cons_append, ← List.append_assoc, afterAll_append] at lasting
  exact lasting

/-- While an entry lasts, clearing the cache takes it away. -/
theorem not_mem_clear_of_lasting (held : s.held? key = some e) (lasting : Never after (Loses key) s run) :
    .clear ∉ run := by
  induction run generalizing s with
  | nil => simp
  | cons m rest ih =>
      intro member
      rcases List.mem_cons.mp member with rfl | later
      · exact lasting.1 (.inl (by simp [Drops, held]))
      · exact ih ((held?_after s m).mpr (.inr ⟨held, lasting.1⟩)) lasting.2 later

theorem not_held_at_clear {early late : List (Move ν)}
    (undropped : Never after (Drops key) s (early ++ .clear :: late)) :
    (s.afterAll early).held? key = none := by
  have at_clear := (never_append.mp undropped).2.1
  exact Option.not_isSome_iff_eq_none.mp at_clear

/-- What is held under a key was fetched by a read during which the key was not dropped, and every
such read leaves what it fetched. Whoever drops the key while a read is in flight, or after it, takes
its entry away, and so does whoever clears the cache, unless nothing was held under the key then. -/
theorem held_iff_undropped (name : String) (settings : CacheSettings) (run : List (Move ν))
    (key : String) (e : CacheEntry ν) :
    let start := empty name settings
    ((start.afterAll run).held? key = some e ↔
      ∃ before between since beganAt, FetchedBy start run key e before between since beganAt) ∧
    ∀ before between since beganAt, FetchedBy start run key e before between since beganAt →
      .drop key ∉ between ∧ .drop key ∉ since ∧ .clear ∉ since ∧
      ∀ early late, between = early ++ .clear :: late →
        (start.afterAll (before ++ .begin key beganAt :: early)).held? key = none := by
  intro start
  refine ⟨⟨fetchedBy_of_held rfl rfl, ?_⟩, ?_⟩
  · rintro ⟨before, between, since, beganAt, fetched⟩
    exact fetched.held rfl rfl
  · intro before between since beganAt fetched
    have lasting := fetched.lasting
    have dropped (s : SharedCache ν) : Drops key s (.drop key) := rfl
    refine ⟨fetched.undropped.not_mem dropped, lasting.not_mem fun s => .inl (dropped s), ?_, ?_⟩
    · have stored : FetchedBy start _ key e before between [] beganAt :=
        ⟨rfl, fetched.begins, fetched.once, fetched.undropped, trivial⟩
      exact not_mem_clear_of_lasting (stored.held rfl rfl) lasting
    · rintro early late rfl
      rw [← List.singleton_append, ← List.append_assoc, afterAll_append]
      exact not_held_at_clear fetched.undropped

/-- An entry was fetched by a read that began after its key was last dropped and after the cache was
last cleared. -/
def FetchedSince (run : List (Move ν)) (key : String) (e : CacheEntry ν) : Prop :=
  ∃ before between since beganAt read,
    run = before ++ .begin key beganAt :: (between ++ .finish read e.fetchedAt (.ok e.value) :: since) ∧
      .drop key ∉ between ++ since ∧ .clear ∉ between ++ since

/-- Clearing the cache misses a read in flight: its key is not held yet, and what it fetched before is
held afterwards. -/
theorem clear_misses_read :
    let run : List (Move String) := [.begin "org-1" 0, .clear, .finish 0 0 (.ok "old")]
    ((empty "cache" .standard).afterAll run).held? "org-1" = some ⟨"old", 0⟩ ∧
      ¬ FetchedSince run "org-1" ⟨"old", 0⟩ := by
  intro run
  refine ⟨rfl, ?_⟩
  rintro ⟨before, between, since, beganAt, read, split, -, uncleared⟩
  cases before with
  | nil =>
      cases between with
      | nil => simp [run] at split
      | cons m between =>
          have cleared : Move.clear = m := by
            simp only [run, List.nil_append, List.cons_append, List.cons.injEq] at split
            exact split.2.1
          exact uncleared (by simp [cleared])
  | cons m before =>
      cases before with
      | nil => simp [run] at split
      | cons m' before => cases before <;> simp [run] at split

end SharedCache

end TenantAccess
