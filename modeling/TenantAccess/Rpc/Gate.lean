import TenantAccess.Credentials
import TenantAccess.Guard
import TenantAccess.Rpc.Reply

/-! # The gate

The gate stands before the methods of a service and asks the guard for every call. Methods
are mapped to pairs by the last part of their path; a method that is not mapped is refused.
How strictly the gate acts on a refusal is its mode.
-/

namespace TenantAccess

open TenantAccess.Text

/-- What the gate does about refusals. -/
inductive EnforcementMode where
  | off
  | warn
  | enforce
  deriving Repr, DecidableEq, Inhabited

namespace EnforcementMode

def name : EnforcementMode → String
  | .off => "off"
  | .warn => "warn"
  | .enforce => "enforce"

instance : Vocabulary EnforcementMode where
  title := "EnforcementMode"
  members := [.off, .warn, .enforce]
  name := name
  complete := by intro a; cases a <;> decide
  name_inj := by intro a b; cases a <;> cases b <;> decide

end EnforcementMode

/-- A gate. -/
structure Gate where
  service : String
  mode : EnforcementMode
  methods : Table String Pair

/-- What becomes of a call. -/
inductive Passage where
  | through
  | ended (e : CallEnd)
  deriving Repr, DecidableEq

/-- Why the gate refuses a call. -/
structure GateRefusal where
  reason : String
  status : CallStatus
  /-- The code of the decision, where there is one. -/
  code : Option DenialCode
  deriving Repr, DecidableEq

namespace Gate

def logger : String := "authzcore.security.interceptors"

def unknownModeEntry (text : String) : LogEntry :=
  .plain .warning logger
    ("Unknown SECURITY_ENFORCEMENT=" ++ quoted text ++ ", defaulting to 'enforce'")

/-- Read the setting of the mode, whatever its case and the blanks around it. Anything that
names no mode, and no setting at all, mean the strictest. -/
def modeOfSetting (setting : Option String) : Logged EnforcementMode :=
  let text := lower (trim (setting.getD EnforcementMode.enforce.name))
  match Vocabulary.ofName? text with
  | some mode => .quiet mode
  | none => ⟨.enforce, [unknownModeEntry text]⟩

/-- Whether a text occurs in another one. -/
def occursIn (part : List Char) : List Char → Bool
  | [] => part.isEmpty
  | c :: rest => part.isPrefixOf (c :: rest) || occursIn part rest

/-- Texts that exempt a path in which they occur. -/
def exemptParts : List String := ["grpc.health.v1", "grpc.reflection.v1"]

/-- Whether calls to a path pass without being asked about. -/
def isExempt (path : String) : Bool := exemptParts.any fun part => occursIn part.toList path.toList

/-- The last part of a path. -/
def methodName (path : String) : String :=
  String.ofList (path.toList.reverse.takeWhile (· ≠ '/')).reverse

def openingEntries (g : Gate) : List LogEntry :=
  if g.mode = .enforce then []
  else [.plain .warning logger (g.service ++ " authorization mode: " ++ g.mode.name)]

def unauthenticatedEntry (g : Gate) (f : Fault) : LogEntry :=
  .plain .warning logger (g.service ++ " authentication failed: " ++ f.message)

def callEntry (g : Gate) (method : String) (user : Option User) : LogEntry :=
  .plain .info logger (g.service ++ " RPC " ++ method ++ " | caller=" ++
    (user.map (·.id)).getD "anonymous")

def passedEntry (g : Gate) (method : String) (user : Option User) : LogEntry :=
  .plain .debug logger (g.service ++ " ALLOWED '" ++ method ++ "' for " ++
    (user.map (·.id)).getD "?")

def warnedEntry (g : Gate) (method : String) (r : GateRefusal) : LogEntry :=
  .plain .warning logger (g.service ++ " WARN_DENIED '" ++ method ++ "': " ++ r.reason ++
    " (would block in enforce mode)")

def blockedEntry (g : Gate) (method : String) (r : GateRefusal) : LogEntry :=
  .plain .warning logger (g.service ++ " DENIED '" ++ method ++ "': " ++ r.reason)

def callEnd (g : Gate) (method : String) (r : GateRefusal) : CallEnd :=
  ⟨r.status, g.service ++ ": " ++ method ++ " denied: " ++ r.reason,
    (r.code.map fun code => [("denial-code", code.name)]).getD []⟩

/-- Why a decision refuses a call: it denies with a code and gives a reason. -/
def refusalOf (d : Decision) : Option GateRefusal :=
  match d.code with
  | none => none
  | some code =>
    if d.isDenied && d.reason ≠ "" then some ⟨d.reason, .ofDenial code, some code⟩ else none

def notMapped : GateRefusal := ⟨"RPC not mapped to a permission", .permissionDenied, none⟩

def noIdentity : GateRefusal := ⟨"no valid identity", .unauthenticated, none⟩

/-- The refusal where a decision could not be recorded or reached. -/
def outOfOrder (f : Fault) : GateRefusal := ⟨f.message, .unavailable, none⟩

/-- Act on a refusal, or on there being none. -/
def act (g : Gate) (method : String) (user : Option User) :
    Option GateRefusal → Logged Passage
  | none => ⟨.through, [g.passedEntry method user]⟩
  | some r =>
    match g.mode with
    | .enforce => ⟨.ended (g.callEnd method r), [g.blockedEntry method r]⟩
    | .off | .warn => ⟨.through, [g.warnedEntry method r]⟩

/-- Ask the guard about a call of a user; what is asked about has no target. A fault other than
one of reach is not the gate's to handle. -/
def ask (authorize : User → Pair → Step Guard (Except Failure Decision)) (user : User)
    (pair : Pair) : Step Guard (Except Failure (Option GateRefusal)) := do
  match ← authorize user pair with
  | .ok d => return .ok (refusalOf d)
  | .error (.misuse m) => return .error (.misuse m)
  | .error (.fault f) =>
    return if f.isUnavailable then .ok (some (outOfOrder f)) else .error (.fault f)

/-- Find out whether a call is refused. That its method is mapped is asked first, then who
calls. -/
def judge (g : Gate) (authorize : User → Pair → Step Guard (Except Failure Decision))
    (method : String) (user : Option User) :
    Step Guard (Except Failure (Option GateRefusal)) :=
  match g.methods.get? method, user with
  | none, _ => return .ok (some notMapped)
  | some _, none => return .ok (some noIdentity)
  | some pair, some user => ask authorize user pair

/-- Receive a call whose caller has been looked up. -/
def receiveCaller (g : Gate) (authorize : User → Pair → Step Guard (Except Failure Decision))
    (method : String) (user : Option User) : Step Guard (Except Failure Passage) := do
  Step.log (g.callEntry method user)
  if g.mode = .off then return .ok .through
  else
    match ← g.judge authorize method user with
    | .error f => return .error f
    | .ok refusal =>
      let acted := g.act method user refusal
      Step.logAll acted.entries
      return .ok acted.value

/-- Whom a look-up of credentials found; one that fails finds nobody. -/
def callerOf (g : Gate) : Except Fault (Option User) → Logged (Option User)
  | .ok user => .quiet user
  | .error f => ⟨none, [g.unauthenticatedEntry f]⟩

/-- Receive a call: let it through, or end it. `caller` is what the look-up of its credentials comes to. -/
def receive (g : Gate) (authorize : User → Pair → Step Guard (Except Failure Decision))
    (caller : Except Fault (Option User)) (path : String) :
    Step Guard (Except Failure Passage) :=
  if isExempt path then return .ok .through
  else do
    let looked := g.callerOf caller
    Step.logAll looked.entries
    g.receiveCaller authorize (methodName path) looked.value

/-- How a guard is asked about calls: without target and without request identifier. -/
def authorizing (s : Sources) (user : User) (pair : Pair) : Step Guard (Except Failure Decision) :=
  Guard.authorize s ⟨user, pair, none, none⟩

end Gate

end TenantAccess
