import TenantAccess.Audit.Event
import TenantAccess.Log.Step
import TenantAccess.Settings.Basic

/-! # The audit trail

Events reach the sink in the order in which they are recorded. Reads wait in a queue that one
worker empties, oldest first; a read that the sink refuses is lost and noted. A change first
waits until the queue is empty and is then offered to the sink itself: it counts as recorded
only if the sink takes it. Where the queue does not drain in time, or the time cannot be
measured, the change is refused without being offered.
-/

namespace TenantAccess

open TenantAccess.Number

/-- An event that was offered to the sink, and what the sink said. -/
structure Offer where
  event : AuditEvent
  /-- Why the sink refused it; none if the sink took it. -/
  refusal : Option String
  deriving Repr, DecidableEq

/-- Where events go. -/
structure Sink where
  /-- All offers, oldest first. -/
  offers : List Offer
  /-- Why the sink refuses events at the moment; none if it takes them. -/
  refusal : Option String
  isStuck : Bool
  deriving Repr

namespace Sink

/-- A sink that has seen nothing and takes everything. -/
def empty : Sink := ⟨[], none, false⟩

def offer (s : Sink) (e : AuditEvent) : Sink := { s with offers := s.offers ++ [⟨e, s.refusal⟩] }

/-- The events that the sink took, oldest first. -/
def events (s : Sink) : List AuditEvent :=
  (s.offers.filter (·.refusal.isNone)).map (·.event)

def eventsFor (s : Sink) (actor : String) : List AuditEvent :=
  s.events.filter (·.actor = actor)

end Sink

/-- What a recorder is told about an event. -/
inductive Receipt where
  | written
  | queued
  deriving Repr, DecidableEq

/-- The queue before a sink. -/
structure Trail where
  settings : AuditSettings
  /-- Reads that wait, oldest first. -/
  queue : List AuditEvent
  isClosed : Bool
  sink : Sink
  deriving Repr

namespace Trail

def logger : String := "authzcore.audit"

def empty (settings : AuditSettings) : Trail := ⟨settings, [], false, .empty⟩

def lostEntry (e : AuditEvent) (refusal : String) : LogEntry :=
  .plain .warning logger ("Dropped audit record for " ++ e.text ++ ": " ++ refusal)

def refusedEntry (e : AuditEvent) (refusal : String) : LogEntry :=
  ⟨.error, logger, "Audit write failed for " ++ e.text ++ ": " ++ refusal, [LogEntry.alertField]⟩

def undrainedEntry (t : Trail) (e : AuditEvent) : LogEntry :=
  ⟨.error, logger, "Audit queue did not drain within " ++ fixedText 1 t.settings.flushTimeout ++
    "s before " ++ e.text, [LogEntry.alertField]⟩

/-- One step of the worker: offer the oldest read to the sink. -/
def deliver : Step Trail Unit := fun t =>
  match t.queue with
  | [] => .quiet ((), t)
  | e :: rest =>
    ⟨((), { t with queue := rest, sink := t.sink.offer e }),
      (t.sink.refusal.map fun refusal => [lostEntry e refusal]).getD []⟩

/-- Several steps of the worker. -/
def work : Nat → Step Trail Unit
  | 0 => return ()
  | n + 1 => do
    deliver
    work n

/-- How many steps the worker takes before anyone grows impatient. -/
def pace (t : Trail) : Nat := if t.sink.isStuck then 0 else t.queue.length

/-- Let the worker finish whatever it can. -/
def settle : Step Trail Unit := fun t => work t.pace t

/-- Put a read at the end of the queue. -/
def enqueue (e : AuditEvent) : Step Trail (Except Failure Receipt) := fun t =>
  if t.isClosed then .quiet (.error (.misuse .trailClosed), t)
  else .quiet (.ok .queued, { t with queue := t.queue ++ [e] })

/-- Offer a change to the sink, once no read waits. -/
def writeThrough (e : AuditEvent) : Step Trail (Except Failure Receipt) := fun t =>
  let next := { t with sink := t.sink.offer e }
  match t.sink.refusal with
  | none => .quiet (.ok .written, next)
  | some refusal => ⟨(.error (.fault .auditUnavailable), next), [refusedEntry e refusal]⟩

/-- Write a change: the worker takes some steps, and then either no read waits or time is up. -/
def write (steps : Nat) (e : AuditEvent) : Step Trail (Except Failure Receipt) := do
  work steps
  let t ← get
  if t.queue.isEmpty then writeThrough e
  else if !t.settings.isTimed then return .error (.misuse .waitTooLong)
  else
    Step.log (t.undrainedEntry e)
    return .error (.fault .auditUnavailable)

def record (e : AuditEvent) : Step Trail (Except Failure Receipt) := do
  let t ← get
  if e.isMutating then write t.pace e else enqueue e

/-- Accept no more reads; those that wait are still delivered. -/
def close (t : Trail) : Trail := { t with isClosed := true }

/-- Set what the sink says to the events that follow. -/
def setRefusal (refusal : Option String) (t : Trail) : Trail :=
  { t with sink := { t.sink with refusal } }

def setStuck (isStuck : Bool) (t : Trail) : Trail := { t with sink := { t.sink with isStuck } }

end Trail

end TenantAccess
