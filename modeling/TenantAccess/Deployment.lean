import TenantAccess.Directory
import TenantAccess.OrgTree.Edit
import TenantAccess.Rpc.Gate

/-! # Deployments

A deployment puts the parts together: a directory, a roll of memberships, credentials, and a
guard whose caches read from them. Each source may be slow or out of order for a while. Writes to the
matrix go through the deployment, so that the guard's snapshots never lag behind them; edits
of trees and rolls do not, and show once the caches have aged.
-/

namespace TenantAccess

/-- Memberships by user. -/
structure Roll where
  /-- Memberships, oldest first. -/
  memberships : Table String (List Membership)
  deriving Repr

namespace Roll

def empty : Roll := ⟨.empty⟩

def membershipsOf (r : Roll) (userId : String) : List Membership :=
  (r.memberships.get? userId).getD []

/-- Add a membership; one that is there already stays where it is. -/
def add (r : Roll) (m : Membership) : Roll :=
  let now := r.membershipsOf m.subjectId
  ⟨r.memberships.put m.subjectId (if m ∈ now then now else now ++ [m])⟩

/-- Take a membership back; nothing happens where there is none. -/
def remove (r : Roll) (m : Membership) : Roll :=
  if r.memberships.contains m.subjectId then
    ⟨r.memberships.put m.subjectId ((r.membershipsOf m.subjectId).erase m)⟩
  else r

end Roll

/-- All parts of a deployment. -/
structure Deployment where
  guard : Guard
  directory : Directory
  roll : Roll
  credentials : Credentials
  openByDefault : Bool
  directoryPace : Pace
  directoryOutage : Option FetchFailure
  rollPace : Pace
  rollOutage : Option FetchFailure
  credentialsOutage : Option Fault

namespace Deployment

/-- A deployment of some parts, all of them in order. -/
def assemble (guard : Guard) (directory : Directory) (roll : Roll) (credentials : Credentials)
    (openByDefault : Bool) : Deployment :=
  ⟨guard, directory, roll, credentials, openByDefault, .prompt, none, .prompt, none, none⟩

/-- A source's answer, unless the source is out of order. -/
def answering {α : Type} (outage : Option FetchFailure) (answer : Except Fault α) : Fetched α :=
  match outage with
  | some failure => .error failure
  | none => answer.mapError .fault

def sources (d : Deployment) : Sources where
  memberships := fun userId =>
    ⟨d.rollPace, answering d.rollOutage (.ok (d.roll.membershipsOf userId))⟩
  snapshot := fun organizationId =>
    ⟨d.directoryPace, answering d.directoryOutage (d.directory.snapshot organizationId)⟩

def onGuard {α : Type} (step : Sources → Step Guard α) : Step Deployment α := fun d =>
  Step.within guard (fun g d => { d with guard := g }) (step d.sources) d

def authorize (q : AccessRequest) : Step Deployment (Except Failure Decision) :=
  onGuard fun s => Guard.authorize s q

/-- Answer a request for access; a refusal is a fault. -/
def require (q : AccessRequest) : Step Deployment (Except Failure Decision) :=
  onGuard fun s => Guard.require s q

/-- Look up whom the metadata of a call stands for. -/
def authenticate (d : Deployment) (m : Metadata) : Except Fault (Option User) :=
  match d.credentialsOutage with
  | some f => .error f
  | none => .ok (d.credentials.authenticate m)

/-- Receive a call: let it through, or end it. -/
def receive (g : Gate) (m : Metadata) (path : String) : Step Deployment (Except Failure Passage) :=
  fun d => onGuard (fun s => g.receive (Gate.authorizing s) (d.authenticate m) path) d

def write {α : Type} (change : MatrixStore → Written α) : Step Deployment (Except Fault α) :=
  fun d =>
    let w := change d.directory.matrix
    let settled := w.settle d.guard.snapshots
    ⟨(w.answer,
        { d with
          guard := { d.guard with snapshots := settled.value }
          directory := { d.directory with matrix := w.store } }),
      settled.entries⟩

def edit (organizationId : String) (e : Edit) : Step Deployment (Except Failure EditAnswer) :=
  fun d =>
    match d.directory.tree organizationId with
    | .error f => .quiet (.error (.fault f), d)
    | .ok t =>
      match e.apply t with
      | .error f => .quiet (.error f, d)
      | .ok (t, answer) =>
        ⟨(.ok answer, { d with directory := d.directory.putTree t }), e.entries answer⟩

def advance (seconds : Float) (d : Deployment) : Deployment :=
  { d with guard := { d.guard with now := d.guard.now + seconds } }

/-- Set what the audit sink says to the events that follow. -/
def setAuditRefusal (refusal : Option String) (d : Deployment) : Deployment :=
  { d with guard := { d.guard with trail := d.guard.trail.map (Trail.setRefusal refusal) } }

/-- The events that reached the audit sink, oldest first. -/
def events (d : Deployment) : List AuditEvent :=
  (d.guard.trail.map (·.sink.events)).getD []

end Deployment

end TenantAccess
