import TenantAccess.Hierarchy.Draft
import TenantAccess.Plan.Standard
import TenantAccess.Reach
import TenantAccess.Role.Registry

/-! # Deciding

A request is decided from the role's grant, the hierarchy's override, the plan and the
user's reach, in this order; the first that stands in the way names the refusal. A target
that cannot be resolved is refused, never an error. Deciding is a function of its inputs:
role table, plans, snapshot, user, pair and target.
-/

namespace TenantAccess

/-- What decisions rest on beside the request. -/
structure Engine where
  roles : RoleTable
  plans : Entitlements
  /-- The greatest number of departments on a path. -/
  maxDepth : Int

/-- A decision and what was found out on the way. -/
structure Deliberation where
  decision : Decision
  /-- The walk through the hierarchy, if one was made. -/
  resolution : Option (Resolution Override)
  /-- Why the target could not be resolved, if it could not. -/
  unresolved : Option Fault

namespace Engine

/-- The widest scope that grant and override give: the override's word goes first. -/
def scopeCap (grant : Option Grant) (override : Option Override) : Scope :=
  match override.bind (·.scope), grant with
  | some scope, _ => scope
  | none, some g => g.maxScope
  | none, none => .own

/-- The name of a privilege that no plan includes. -/
def exemptName (pair : Pair) : String :=
  "exempt_" ++ pair.resource.name ++ "_" ++ pair.action.name

/-- The privilege that comes with access. Where the plan includes the pair, the quota of an
override tightens the plan's; where a grant is exempt from plans, only an override limits it. -/
def privilegeFor (user : User) (pair : Pair) (included : Option Privilege)
    (override : Option Override) : Privilege :=
  let added := override.bind (·.quota)
  match included with
  | none => ⟨exemptName pair, user.tier, added⟩
  | some p =>
    match added with
    | none => p
    | some q => { p with quota := Quota.combine [p.quota, some q] }

def deniedByOverride (user : User) (pair : Pair) : Decision :=
  .deny .insufficientRole
    (pair.text ++ " is denied for role " ++ user.role ++ " by a hierarchy override")

def notGranted (user : User) (pair : Pair) : Decision :=
  .deny .insufficientRole
    ("Role " ++ user.role ++ " may not " ++ pair.action.name ++ " " ++ pair.resource.name)

def notIncluded (e : Engine) (user : User) (pair : Pair) : Decision :=
  .deny .subscriptionTierTooLow
    (pair.text ++ " is not included in the " ++ user.tier.name ++ " plan" ++
      match e.plans.minimumTier pair with
      | some tier => "; requires " ++ tier.name
      | none => "")

def notVisible : Decision := .deny .outOfScope "Target is not visible to the requester"

def beyondCap (scope cap : Scope) : Decision :=
  .deny .outOfScope
    ("Access requires " ++ scope.name ++ " scope but the role grants " ++ cap.name)

def notResolved : Decision := .deny .resolutionError "Target could not be resolved"

/-- Decide at a scope cap: the last question is how far the user reaches. -/
def decideReach (user : User) (target : Option Target) (cap : Scope) (privilege : Privilege) :
    Decision :=
  match target with
  | none => .allow (user.listReach cap user.tier) privilege
  | some t =>
    match user.reachOf? t with
    | none => notVisible
    | some scope => if cap < scope then beyondCap scope cap else .allow scope privilege

/-- Decide once the override is known. -/
def decideGiven (e : Engine) (user : User) (pair : Pair) (target : Option Target)
    (override : Option Override) : Decision :=
  let grant := RoleTable.grantFor e.roles user.role pair
  if (override.map Override.isDeny).getD false then deniedByOverride user pair
  else if grant.isNone && override.isNone then notGranted user pair
  else
    let included := e.plans.privilege? user.tier pair
    if included.isNone && !(grant.map (·.tierExempt)).getD false then e.notIncluded user pair
    else
      decideReach user target (scopeCap grant override)
        (privilegeFor user pair included override)

/-- The walk through the hierarchy that a target asks for, made by `walk?` from the target's
organization and team. -/
def consult {ρ : Type} (target : Option Target)
    (walk? : Option (String → Option String → Except Fault ρ)) : Except Fault (Option ρ) :=
  match target with
  | none => .ok none
  | some t => do
    t.validate
    match given? t.organizationId with
    | none => return none
    | some organizationId =>
      match walk? with
      | none => .error (.snapshotMissing organizationId)
      | some walk =>
        let r ← walk organizationId t.teamId
        return some r

/-- The walk through a snapshot that a target asks for. -/
def overrideFor (e : Engine) (user : User) (pair : Pair) (target : Option Target)
    (snapshot : Option Snapshot) : Except Fault (Option (Resolution Override)) :=
  consult target <| snapshot.map fun s organizationId teamId =>
    s.resolve e.roles e.maxDepth organizationId none teamId user.role pair

/-- Decide once the hierarchy has been consulted, keeping what was found out. -/
def conclude (e : Engine) (user : User) (pair : Pair) (target : Option Target) :
    Except Fault (Option (Resolution Override)) → Deliberation
  | .error f => ⟨notResolved, none, some f⟩
  | .ok r => ⟨e.decideGiven user pair target (r.bind (·.override)), r, none⟩

/-- How the system administrator is let through, before anything is looked at. -/
def letThrough : Deliberation := ⟨.allow .global .unrestricted, none, none⟩

/-- Decide a request, keeping what was found out. -/
def deliberate (e : Engine) (user : User) (pair : Pair) (target : Option Target)
    (snapshot : Option Snapshot) : Deliberation :=
  if user.role = Role.systemAdminId then letThrough
  else e.conclude user pair target (e.overrideFor user pair target snapshot)

/-- Decide a request on a draft. A rule that cannot be read ends it, with the entries of the walk
so far. -/
def deliberateOnDraft (e : Engine) (user : User) (pair : Pair) (target : Option Target)
    (draft : Option Draft) : Logged (Except Misuse Deliberation) :=
  if user.role = Role.systemAdminId then .quiet (.ok letThrough)
  else
    let found := consult target <| draft.map fun d organizationId teamId =>
      d.resolve e.roles e.maxDepth organizationId none teamId user.role
        (.pair (.member pair.resource) (.member pair.action))
    match found with
    | .error f => .quiet (.ok (e.conclude user pair target (.error f)))
    | .ok none => .quiet (.ok (e.conclude user pair target (.ok none)))
    | .ok (some r) =>
      match r.sound with
      | .error m => ⟨.error m, r.walk.entries⟩
      | .ok walk => .quiet (.ok (e.conclude user pair target (.ok (some walk))))

def decide (e : Engine) (user : User) (pair : Pair) (target : Option Target)
    (snapshot : Option Snapshot) : Decision :=
  (e.deliberate user pair target snapshot).decision

end Engine

namespace Deliberation

def logger : String := "authzcore.permissions.engine"

/-- A name, or the word for no value. -/
def nameOrNone (name : Option String) : String := name.getD "None"

def unresolvedEntry (user : User) (pair : Pair) (f : Fault) : LogEntry :=
  .plain .info logger
    ("Resolution failed for " ++ user.id ++ " on " ++ pair.text ++ ": " ++ f.message)

def decisionEntry (user : User) (pair : Pair) (d : Decision) : LogEntry :=
  if d.isAllowed then
    .plain .debug logger ("ALLOWED " ++ pair.text ++ " for " ++ user.id ++
      " (scope=" ++ nameOrNone (d.scope.map Scope.name) ++ ")")
  else
    .plain .info logger ("DENIED " ++ pair.text ++ " for " ++ user.id ++ ": " ++
      nameOrNone (d.code.map DenialCode.name) ++ " (" ++ d.reason ++ ")")

def entries (user : User) (pair : Pair) (d : Deliberation) : List LogEntry :=
  ((d.resolution.map Resolution.entries).getD []) ++
    ((d.unresolved.map fun f => [unresolvedEntry user pair f]).getD []) ++
    [decisionEntry user pair d.decision]

end Deliberation

/-- What an engine rests on beside the role table, which a registry provides. -/
structure Policy where
  plans : Entitlements
  /-- The greatest number of departments on a path. -/
  maxDepth : Int

namespace Policy

def engine (p : Policy) (roles : RoleTable) : Engine := ⟨roles, p.plans, p.maxDepth⟩

/-- The role table that a user's requests need; the system administrator needs none. -/
def rolesFor (user : User) : Step Registry (Except Misuse RoleTable) :=
  if user.role = Role.systemAdminId then pure (.ok Table.empty) else Registry.table

def report (user : User) (pair : Pair) (d : Deliberation) :
    Step Registry (Except Misuse Decision) := do
  Step.logAll (d.entries user pair)
  return .ok d.decision

/-- Decide a pair with the roles of a registry. -/
def decidePair (p : Policy) (user : User) (pair : Pair) (target : Option Target)
    (snapshot : Option Snapshot) : Step Registry (Except Misuse Decision) := do
  match ← rolesFor user with
  | .error m => return .error m
  | .ok roles => report user pair ((p.engine roles).deliberate user pair target snapshot)

/-- Decide what a caller asks for on a draft, refusing what is no pair. -/
def decide (p : Policy) (user : User) (r : Offered Resource) (a : Offered Action)
    (target : Option Target) (draft : Option Draft) :
    Step Registry (Except Misuse Decision) := do
  match Entitlements.checkPair r a with
  | .error m => return .error m
  | .ok pair =>
    match ← rolesFor user with
    | .error m => return .error m
    | .ok roles =>
      let d := (p.engine roles).deliberateOnDraft user pair target draft
      Step.logAll d.entries
      match d.value with
      | .error m => return .error m
      | .ok d => report user pair d

/-- The draft of the organization that a target names. -/
def draftFor (drafts : Table String Draft) (target : Option Target) : Option Draft :=
  (target.bind fun t => given? t.organizationId).bind drafts.get?

/-- Decide several requests of one user, in order; the first mistake ends it. -/
def decideMany (p : Policy) (user : User) (drafts : Table String Draft) :
    List (Offered Resource × Offered Action × Option Target) →
      Step Registry (Except Misuse (List Decision))
  | [] => return .ok []
  | (r, a, target) :: rest => do
    match ← p.decide user r a target (draftFor drafts target) with
    | .error m => return .error m
    | .ok d =>
      match ← p.decideMany user drafts rest with
      | .error m => return .error m
      | .ok ds => return .ok (d :: ds)

end Policy

end TenantAccess
