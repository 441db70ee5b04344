import TenantAccess.Proofs.Cache.Workers

/-! # What a cache holds

A read touches the entry of its own key only. Where nothing is held under that key there is nothing
that could stand in for a fetch, so the reader is told what the fetch comes to: a value that was
fetched just then, or that there is none to be had.
-/

namespace TenantAccess

namespace Cache

variable {ν : Type} {key other : String}

theorem held_drop (c : Cache ν) (key other : String) :
    (c.drop key).entries.get? other = if other = key then none else c.entries.get? other :=
  Table.get?_erase ..

theorem free_drop {c : Cache ν} (dropped : String) (free : c.entries.get? key = none) :
    (c.drop dropped).entries.get? key = none := by
  rw [held_drop, free]
  exact ite_self none

theorem held_keep (c : Cache ν) (p : Pending ν) (now : Float) (v : ν) (differ : p.key ≠ other) :
    (c.keep p now v).entries.get? other = c.entries.get? other := by
  unfold keep
  split
  · exact Table.get?_put_of_ne _ differ _
  · rfl

theorem cache_failed (c : Cache ν) (p : Pending ν) (error : String) (f : Fault) :
    (c.failed p error f).value.2 = c := by
  unfold failed
  split <;> rfl

/-- A read that finishes changes nothing under other keys. -/
theorem held_finish (c : Cache ν) {p : Pending ν} (now : Float) (outcome : Fetched ν)
    (differ : p.key ≠ other) :
    (c.finish p now outcome).value.2.entries.get? other = c.entries.get? other := by
  cases outcome with
  | ok v => exact c.held_keep p now v differ
  | error failure =>
      cases failure with
      | fault f =>
          simp only [finish]
          split
          · exact (c.held_drop p.key other).trans (if_neg (Ne.symm differ))
          · rw [cache_failed]
      | broken message => simp only [finish, cache_failed]
      | overrun => simp only [finish, cache_failed]

theorem key_of_begin {c : Cache ν} {now : Float} {p : Pending ν}
    (begun : c.begin now key = .pending p) : p.key = key := by
  unfold begin at begun
  split at begun
  · split at begun
    · cases begun
    · cases begun
      rfl
  · cases begun
    rfl

theorem begin_of_free {c : Cache ν} (free : c.entries.get? key = none) (now : Float) :
    c.begin now key = .pending ⟨key, none, c.generation key, now⟩ := by
  simp only [begin, free]

/-- What a reader is told of a fetch that nothing can stand in for. -/
inductive Told : Fetched ν → Except Fault ν → Prop
  | value (v : ν) : Told (.ok v) (.ok v)
  /-- Nothing is there, or it is out of reach. -/
  | nothing {failure : FetchFailure} {f : Fault} (known : f.isNotFound = true ∨ f.isUnavailable = true) :
      Told (.error failure) (.error f)

theorem told_finish {c : Cache ν} {p : Pending ν} (empty : p.held = none) (now : Float)
    (outcome : Fetched ν) : Told outcome (c.finish p now outcome).value.1 := by
  have ended (error : String) (f : Fault) : (c.failed p error f).value.1 = .error f := by
    simp only [failed, standIn?, empty, Option.filter_none]
  cases outcome with
  | ok v => exact .value v
  | error failure =>
      cases failure with
      | fault f =>
          simp only [finish]
          by_cases missing : f.isNotFound = true
          · rw [if_pos missing]
            exact .nothing (.inl missing)
          · rw [if_neg missing, ended]
            apply Told.nothing
            right
            split
            · assumption
            · rfl
      | broken message =>
          simp only [finish, ended]
          exact .nothing (.inr rfl)
      | overrun =>
          simp only [finish, ended]
          exact .nothing (.inr rfl)

end Cache

namespace Clocked

variable {ν : Type} {s : Clocked ν} {key other : String}

/-- A loader; it may take time, and meanwhile nothing is dropped. -/
def fetching : Option Float → Loading ν → Step (Clocked ν) (Loading ν)
  | none, l => pure l
  | some seconds, l => do
    Clocked.advance seconds
    return l

theorem fetching_eq (delay : Option Float) (l : Loading ν) (s : Clocked ν) :
    ∃ now, (fetching delay l s).value = (l, { s with now }) := by
  cases delay with
  | none => exact ⟨s.now, rfl⟩
  | some seconds => exact ⟨s.now + seconds, rfl⟩

theorem fetch_eq (s : Clocked ν) (key : String) (delay : Option Float) (l : Loading ν) :
    ∃ now, (fetch key (fetching delay l) s).value =
      (s.cache.heard l, ⟨s.cache.afterFetch key l.pace, now⟩) := by
  unfold fetch Cache.heard Cache.afterFetch
  cases s.cache.isFull with
  | true => exact ⟨s.now, rfl⟩
  | false =>
      obtain ⟨now, ran⟩ := fetching_eq delay l { s with cache := s.cache.noteFetch key }
      refine ⟨now, ?_⟩
      simp only [Bool.false_eq_true, if_false, ran]
      rfl

theorem held_get (s : Clocked ν) (delay : Option Float) (l : Loading ν) (differ : key ≠ other) :
    ((get key (fetching delay l)).next s).cache.entries.get? other =
      s.cache.entries.get? other := by
  simp only [Step.next, get]
  cases begun : s.cache.begin s.now key with
  | answered v => rfl
  | pending p =>
      obtain ⟨now, ran⟩ := s.fetch_eq key delay l
      have own : p.key = key := Cache.key_of_begin begun
      simp only [ran]
      rw [Cache.held_finish _ now _ (own ▸ differ), (s.cache.asks_afterFetch key l.pace).entries]

/-- Where nothing is held, a reader is told what the fetch comes to. -/
theorem told_get (free : s.cache.entries.get? key = none) (delay : Option Float) (l : Loading ν) :
    Cache.Told (s.cache.heard l) ((get key (fetching delay l)).answer s) := by
  obtain ⟨now, ran⟩ := s.fetch_eq key delay l
  simp only [Step.answer, get, Cache.begin_of_free free, ran]
  exact Cache.told_finish rfl now (s.cache.heard l)

end Clocked

end TenantAccess
