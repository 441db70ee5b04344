import TenantAccess.Audit.Trail
import TenantAccess.Cache.Basic
import TenantAccess.Engine
import TenantAccess.Log.Context

/-! # The guard

The guard answers requests for access. It looks up the user's memberships and the snapshot of
the target's organization through caches, decides, and records the decision before it hands
it out. Memberships that the caller brings are not used. Where something cannot be looked up
the request is refused; where a change cannot be recorded the answer is a fault.
-/

namespace TenantAccess

structure AccessRequest where
  user : User
  pair : Pair
  /-- Where the thing belongs, if the request names one. -/
  target : Option Target
  /-- The identifier of the request, if it has one. -/
  requestId : Option String
  deriving Repr

/-- Where a guard looks things up when its caches have to fetch: the memberships of a user, and the
snapshot of an organization. -/
structure Sources where
  memberships : String → Loading (List Membership)
  snapshot : String → Loading Snapshot

/-- The state of a guard. -/
structure Guard where
  policy : Policy
  roles : Registry
  memberships : Cache (List Membership)
  snapshots : Cache Snapshot
  /-- Where decisions are recorded; nowhere if it is missing. -/
  trail : Option Trail
  /-- The clock, in seconds. -/
  now : Float

namespace Guard

def logger : String := "authzcore.security.guard"

def empty (settings : Settings) (plans : Entitlements) (roles : Registry) (isAudited : Bool) :
    Guard where
  policy := ⟨plans, settings.hierarchy.maxDepth⟩
  roles := roles
  memberships := .empty "memberships" settings.cache
  snapshots := .empty "hierarchy" settings.cache
  trail := if isAudited then some (.empty settings.audit) else none
  now := 0.0

def clockedMemberships (g : Guard) : Clocked (List Membership) := ⟨g.memberships, g.now⟩

def clockedSnapshots (g : Guard) : Clocked Snapshot := ⟨g.snapshots, g.now⟩

/-- Run a step on the cache of memberships. -/
def onMemberships {α : Type} (step : Step (Clocked (List Membership)) α) : Step Guard α :=
  step.within clockedMemberships fun c g => { g with memberships := c.cache, now := c.now }

/-- Run a step on the cache of snapshots. -/
def onSnapshots {α : Type} (step : Step (Clocked Snapshot) α) : Step Guard α :=
  step.within clockedSnapshots fun c g => { g with snapshots := c.cache, now := c.now }

def onRoles {α : Type} (step : Step Registry α) : Step Guard α :=
  step.within (·.roles) fun r g => { g with roles := r }

def lookUpMemberships (s : Sources) (userId : String) :
    Step Guard (Except Fault (List Membership)) :=
  onMemberships (Clocked.get userId (pure (s.memberships userId)))

/-- The snapshot that a target asks for; no target and no organization ask for none. -/
def lookUpSnapshot (s : Sources) (target : Option Target) :
    Step Guard (Except Fault (Option Snapshot)) :=
  match target.bind fun t => given? t.organizationId with
  | none => return .ok none
  | some organizationId => do
    return (← onSnapshots (Clocked.get organizationId (pure (s.snapshot organizationId)))).map some

/-- The user with the memberships on record, and the snapshot. Memberships are looked up first,
and the snapshot is left alone if they cannot be had. -/
def materialize (s : Sources) (q : AccessRequest) :
    Step Guard (Except Fault (User × Option Snapshot)) := do
  match ← lookUpMemberships s q.user.id with
  | .error f => return .error f
  | .ok memberships =>
    return (← lookUpSnapshot s q.target).map fun snapshot =>
      (q.user.withMemberships memberships, snapshot)

/-- What the entries of a request have in common. -/
def context (q : AccessRequest) : LogContext :=
  ⟨.text q.user.id, Value.ofText? q.requestId,
    Value.ofText? (q.target.bind (·.organizationId))⟩

def unavailableEntry (q : AccessRequest) (f : Fault) : LogEntry :=
  ⟨.error, logger,
    "Authorization inputs unavailable, denying " ++ q.pair.text ++ ": " ++ f.message,
    (context q).stamp none none [LogEntry.alertField]⟩

def deniedEntry (q : AccessRequest) (d : Decision) : LogEntry :=
  ⟨.info, logger, "Denied " ++ q.pair.text ++ ": " ++ d.reason,
    (context q).stamp none (some d) []⟩

/-- The refusal where data cannot be reached. -/
def unavailable : Decision :=
  .deny .resolutionError "Authorization data is temporarily unavailable"

/-- The refusal where something could not be looked up. It tells what is missing from what is
out of reach, and nothing else. -/
def refusalFor (f : Fault) : Decision :=
  if f.isNotFound then Engine.notResolved else unavailable

/-- What is noted where something could not be looked up. -/
def refusalEntries (q : AccessRequest) (f : Fault) : List LogEntry :=
  if f.isNotFound then [] else [unavailableEntry q f]

/-- Decide once everything has been looked up. -/
def decideWith (q : AccessRequest) (user : User) (snapshot : Option Snapshot) :
    Step Guard (Except Misuse Decision) := do
  let g ← get
  onRoles (g.policy.decidePair user q.pair q.target snapshot)

/-- Look up and decide. The system administrator is decided without looking anything up. -/
def resolve (s : Sources) (q : AccessRequest) : Step Guard (Except Misuse Decision) :=
  if q.user.role = Role.systemAdminId then decideWith q q.user none
  else do
    match ← materialize s q with
    | .ok (user, snapshot) => decideWith q user snapshot
    | .error f =>
      Step.logAll (refusalEntries q f)
      return .ok (refusalFor f)

def event (q : AccessRequest) (d : Decision) : AuditEvent :=
  ⟨q.user.id, q.pair.resource, q.pair.action, d, q.target⟩

/-- Record an event and let the worker run. -/
def recordOn (e : AuditEvent) : Step Trail (Except Failure Receipt) := do
  let receipt ← Trail.record e
  Trail.settle
  return receipt

/-- Record a decision, where decisions are recorded. -/
def record (q : AccessRequest) (d : Decision) : Step Guard (Except Failure Unit) := fun g =>
  match g.trail with
  | none => .quiet (.ok (), g)
  | some t =>
    let ran := recordOn (event q d) t
    ⟨(ran.value.1.map fun _ => (), { g with trail := some ran.value.2 }), ran.entries⟩

def authorize (s : Sources) (q : AccessRequest) : Step Guard (Except Failure Decision) := do
  match ← resolve s q with
  | .error m => return .error (.misuse m)
  | .ok d =>
    if d.isDenied then Step.log (deniedEntry q d)
    return (← record q d).map fun _ => d

/-- Answer a request; a refusal is a fault. -/
def require (s : Sources) (q : AccessRequest) : Step Guard (Except Failure Decision) := do
  match ← authorize s q with
  | .error f => return .error f
  | .ok d => return if d.isDenied then .error (.fault (.refused d none [])) else .ok d

end Guard

end TenantAccess
