import TenantAccess.Log.Step
import TenantAccess.Settings.Basic
import TenantAccess.Table

/-! # Read-through caches

A cache answers from what it holds while that is fresh, and fetches otherwise. A read has two
halves: it begins by looking at the entry and the generation of its key, and, if it has to
fetch, it finishes with the outcome of the fetch. In between others may read, and keys may be
dropped. Dropping a key moves its generation on, and a fetch that began under an older
generation is answered and not kept.

Loaders run on a few workers. A reader waits for its loader as long as the settings say and then
leaves, but a loader that has begun goes on and keeps its worker. While every worker is kept that
way, a fetch waits for one of them without its loader being called, and is called off when its
reader leaves. Some settings name a time that cannot be waited for at all.

Where a fetch fails, what was held when the read began stands in for it up to the ceiling of
staleness; past it the read fails. A fetch that finds nothing drops the key.
-/

namespace TenantAccess

open TenantAccess.Number

/-- Why a fetch gives no value. -/
inductive FetchFailure where
  | fault (f : Fault)
  /-- A failure outside the source, in its own words. -/
  | broken (message : String)
  | overrun
  deriving Repr, Inhabited

abbrev Fetched (ν : Type) : Type := Except FetchFailure ν

/-- When a loader that was called comes to its end. -/
inductive Pace where
  /-- Before its reader begins to wait. -/
  | prompt
  /-- Within the time for which its reader is to wait. -/
  | slow
  /-- Later. -/
  | hung
  deriving Repr, DecidableEq, Inhabited

/-- What a loader does once it is called. -/
structure Loading (ν : Type) where
  pace : Pace
  outcome : Fetched ν

/-- A value and when it was fetched. -/
structure CacheEntry (ν : Type) where
  value : ν
  fetchedAt : Float
  deriving Repr

structure Cache (ν : Type) where
  name : String
  settings : CacheSettings
  entries : Table String (CacheEntry ν)
  /-- How often keys were dropped; a key that is missing never was. -/
  generations : Table String Nat
  /-- The keys whose loader was called, oldest call first. -/
  fetched : List String
  /-- How many loaders go on although their readers have left. -/
  abandoned : Nat
  /-- The keys that wait for a worker although their readers have left, oldest first. -/
  queue : List String
  deriving Repr

/-- A read that has to fetch. -/
structure Pending (ν : Type) where
  key : String
  held : Option (CacheEntry ν)
  generation : Nat
  beganAt : Float
  deriving Repr

inductive Begun (ν : Type) where
  | answered (v : ν)
  | pending (p : Pending ν)
  deriving Repr

/-- Whether a reader hears what a loader of such a pace says. One that has ended leaves nothing to
wait for, but even then the time has to be within the doubles. -/
def CacheSettings.hears (settings : CacheSettings) : Pace → Bool
  | .prompt => settings.refreshSeconds.isOk
  | .slow => settings.isWaitable
  | .hung => false

namespace CacheEntry

variable {ν : Type}

def ageAt (e : CacheEntry ν) (now : Float) : Float := now - e.fetchedAt

def isFresh (e : CacheEntry ν) (settings : CacheSettings) (now : Float) : Bool :=
  e.ageAt now < settings.ttl

/-- Whether an entry may stand in for a fetch that failed. -/
def isUsable (e : CacheEntry ν) (settings : CacheSettings) (now : Float) : Bool :=
  e.ageAt now ≤ settings.staleCeiling

end CacheEntry

namespace Cache

variable {ν : Type}

def logger : String := "authzcore.cache"

/-- The name of a cache that nobody named. -/
def standardName : String := "cache"

def empty (name : String) (settings : CacheSettings) : Cache ν :=
  ⟨name, settings, .empty, .empty, [], 0, []⟩

/-- How many loaders can run at a time. -/
def workers : Nat := 4

/-- Whether all workers are kept by loaders whose readers have left. -/
def isFull (c : Cache ν) : Bool := workers ≤ c.abandoned

def generation (c : Cache ν) (key : String) : Nat := (c.generations.get? key).getD 0

/-- Move the generation of a key on. -/
def age (generations : Table String Nat) (key : String) : Table String Nat :=
  generations.put key ((generations.get? key).getD 0 + 1)

def begin (c : Cache ν) (now : Float) (key : String) : Begun ν :=
  match c.entries.get? key with
  | some e =>
    if e.isFresh c.settings now then .answered e.value
    else .pending ⟨key, some e, c.generation key, now⟩
  | none => .pending ⟨key, none, c.generation key, now⟩

def drop (c : Cache ν) (key : String) : Cache ν :=
  { c with entries := c.entries.erase key, generations := age c.generations key }

/-- Drop everything that is held. -/
def clear (c : Cache ν) : Cache ν :=
  { c with entries := .empty, generations := c.entries.keys.foldl age c.generations }

/-- Keep a fetched value, unless its key was dropped since the read began. -/
def keep (c : Cache ν) (p : Pending ν) (now : Float) (v : ν) : Cache ν :=
  if c.generation p.key = p.generation then
    { c with entries := c.entries.put p.key ⟨v, now⟩ }
  else c

/-- Call the loader for a key. -/
def noteFetch (c : Cache ν) (key : String) : Cache ν := { c with fetched := c.fetched ++ [key] }

/-- Leave a loader that was called; one that has not ended keeps its worker. -/
def leave (c : Cache ν) (pace : Pace) : Cache ν :=
  if pace = .prompt || c.settings.hears pace then c else { c with abandoned := c.abandoned + 1 }

/-- Leave a fetch that no worker has taken up. A reader who waited in vain calls it off, and one who
could not wait does not. -/
def callOff (c : Cache ν) (key : String) : Cache ν :=
  if c.settings.isWaitable then c else { c with queue := c.queue ++ [key] }

/-- A loader whose reader has left comes to its end, and its worker takes up what waits longest. -/
def release (c : Cache ν) : Cache ν :=
  match c.queue with
  | [] => { c with abandoned := c.abandoned - 1 }
  | key :: rest => { c.noteFetch key with queue := rest }

def ageOf (c : Cache ν) (now : Float) (key : String) : Option Float :=
  (c.entries.get? key).map (·.ageAt now)

def droppedEntry (c : Cache ν) (key : String) : LogEntry :=
  .plain .debug logger (c.name ++ " invalidated " ++ key)

def staleEntry (c : Cache ν) (p : Pending ν) (e : CacheEntry ν) (error : String) : LogEntry :=
  .plain .warning logger (c.name ++ " refresh failed for " ++ p.key ++
    ", serving snapshot aged " ++ fixedText 1 (e.ageAt p.beganAt) ++ "s: " ++ error)

def exhaustedEntry (c : Cache ν) (p : Pending ν) (error : String) : LogEntry :=
  ⟨.error, logger, c.name ++ " refresh failed for " ++ p.key ++
    " and no usable snapshot remains: " ++ error, [LogEntry.alertField]⟩

/-- The value that stands in for a fetch that failed. -/
def standIn? (c : Cache ν) (p : Pending ν) : Option (CacheEntry ν) :=
  p.held.filter fun e => e.isUsable c.settings p.beganAt

/-- Answer a read whose fetch failed: `error` says how, and `f` is what the reader is told
where nothing stands in. -/
def failed (c : Cache ν) (p : Pending ν) (error : String) (f : Fault) :
    Logged (Except Fault ν × Cache ν) :=
  match c.standIn? p with
  | some e => ⟨(.ok e.value, c), [c.staleEntry p e error]⟩
  | none => ⟨(.error f, c), [c.exhaustedEntry p error]⟩

/-- Why a reader hears nothing of a loader that has not ended. -/
def unheard (c : Cache ν) : FetchFailure :=
  match c.settings.refreshSeconds with
  | .ok seconds =>
    if Setting.isTimed seconds then .overrun else .broken Misuse.waitTooLong.message
  | .error m => .broken m.message

/-- What the reader of a loader that was called is left with. -/
def awaited (c : Cache ν) (l : Loading ν) : Fetched ν :=
  if c.settings.hears l.pace then l.outcome else .error c.unheard

/-- Finish a read with the outcome of its fetch. -/
def finish (c : Cache ν) (p : Pending ν) (now : Float) (outcome : Fetched ν) :
    Logged (Except Fault ν × Cache ν) :=
  match outcome with
  | .ok v => .quiet (.ok v, c.keep p now v)
  | .error (.fault f) =>
    if f.isNotFound then ⟨(.error f, c.drop p.key), [c.droppedEntry p.key]⟩
    else c.failed p f.message (if f.isUnavailable then f else .cacheUnavailable c.name)
  | .error (.broken message) => c.failed p message (.cacheUnavailable c.name)
  | .error .overrun =>
    let f := Fault.refreshTimedOut c.name c.settings.refreshTimeout
    c.failed p f.message f

end Cache

/-- A cache and the reading of its clock, in seconds. -/
structure Clocked (ν : Type) where
  cache : Cache ν
  now : Float
  deriving Repr

namespace Clocked

variable {ν : Type}

/-- Fetch a key. The loader is a step of its own: while it runs, the clock moves on and keys may be
dropped. Where no worker is free it is not called; a worker that is given back while a reader waits
for it counts as given back before the read, which changes nothing that the read looks at. -/
def fetch (key : String) (load : Step (Clocked ν) (Loading ν)) : Step (Clocked ν) (Fetched ν) :=
  fun s =>
    if s.cache.isFull then
      .quiet (.error s.cache.unheard, { s with cache := s.cache.callOff key })
    else
      let ran := load { s with cache := s.cache.noteFetch key }
      let after := ran.value.2
      ⟨(after.cache.awaited ran.value.1,
          { after with cache := after.cache.leave ran.value.1.pace }), ran.entries⟩

def get (key : String) (load : Step (Clocked ν) (Loading ν)) :
    Step (Clocked ν) (Except Fault ν) := fun s =>
  match s.cache.begin s.now key with
  | .answered v => .quiet (.ok v, s)
  | .pending p =>
    let ran := fetch key load s
    let after := ran.value.2
    let done := after.cache.finish p after.now ran.value.1
    ⟨(done.value.1, { after with cache := done.value.2 }), ran.entries ++ done.entries⟩

def invalidate (key : String) : Step (Clocked ν) Unit := fun s =>
  ⟨((), { s with cache := s.cache.drop key }), [s.cache.droppedEntry key]⟩

/-- Drop everything. -/
def clear : Step (Clocked ν) Unit := fun s => .quiet ((), { s with cache := s.cache.clear })

/-- A loader whose reader has left comes to its end. What it says reaches nobody. -/
def release : Step (Clocked ν) Unit := fun s =>
  .quiet ((), { s with cache := s.cache.release })

def advance (seconds : Float) : Step (Clocked ν) Unit := fun s =>
  .quiet ((), { s with now := s.now + seconds })

def ageOf (s : Clocked ν) (key : String) : Option Float := s.cache.ageOf s.now key

end Clocked

end TenantAccess
