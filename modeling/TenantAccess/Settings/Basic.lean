import TenantAccess.Log.Entry
import TenantAccess.Misuse
import TenantAccess.Settings.Check
import TenantAccess.Text.Case

/-! # Settings

How long caches keep what they hold, how deep hierarchies go, how long audit waits, and how
logs are written. Settings are made from plain data and are in order once they are made: in
particular a cache never drops a value as too stale while it still counts as fresh.
-/

namespace TenantAccess

open TenantAccess.Text TenantAccess.Number

/-- How a cache treats what it holds. -/
structure CacheSettings where
  /-- How many seconds a value counts as fresh. -/
  ttl : Float
  /-- How many milliseconds a fetch may take. -/
  refreshTimeout : Int
  /-- The greatest age in seconds at which a value may stand in for a fetch that failed. -/
  staleCeiling : Float
  deriving Repr, Inhabited

structure HierarchySettings where
  /-- The greatest number of departments on a path. -/
  maxDepth : Int
  openByDefault : Bool
  deriving Repr, Inhabited

structure AuditSettings where
  /-- How many seconds a change waits for the reads recorded before it. -/
  flushTimeout : Float
  deriving Repr, Inhabited

structure Settings where
  logLevel : LogLevel
  logJson : Bool
  serviceName : Option String
  cache : CacheSettings
  hierarchy : HierarchySettings
  audit : AuditSettings
  deriving Repr, Inhabited

/-- Whether a wait of so many seconds can be timed: that is done in nanoseconds of 64 bits. -/
def Setting.isTimed (seconds : Float) : Bool := seconds * 1e9 < Setting.ofInteger (twoTo 63)

namespace CacheSettings

def standard : CacheSettings := ⟨45.0, 500, 300.0⟩

/-- How many seconds a fetch may take, where the number of milliseconds is within the doubles. -/
def refreshSeconds (c : CacheSettings) : Except Misuse Float :=
  let milliseconds := Setting.ofInteger c.refreshTimeout
  if Setting.isFinite milliseconds then .ok (milliseconds / 1000.0) else .error .beyondDoubles

/-- Whether anyone can wait for as long as a fetch may take. -/
def isWaitable (c : CacheSettings) : Bool :=
  match c.refreshSeconds with
  | .ok seconds => Setting.isTimed seconds
  | .error _ => false

def names : List String := ["ttl_seconds", "refresh_timeout_ms", "staleness_ceiling_seconds"]

/-- Refuse a ceiling below the time for which a value counts as fresh. -/
def checkCeiling (c : CacheSettings) : Checked CacheSettings :=
  if c.staleCeiling < c.ttl then
    .error [⟨[], .refused "staleness_ceiling_seconds must be >= ttl_seconds"⟩]
  else .ok c

/-- Make the settings of a cache; the ceiling is looked at once all fields are in order. -/
def check (fields : Fields) : Checked CacheSettings :=
  let ttl := fields.read "ttl_seconds" standard.ttl fun v =>
    Setting.number v >>= Setting.atMost 60.0 >>= Setting.atLeast 30.0
  let timeout := fields.read "refresh_timeout_ms" standard.refreshTimeout fun v =>
    Setting.integer v >>= Setting.positiveInteger
  let ceiling := fields.read "staleness_ceiling_seconds" standard.staleCeiling fun v =>
    Setting.number v >>= Setting.positive
  match (ttl.both timeout).both (ceiling.both (fields.declaredOnly names)) with
  | .error problems => .error problems
  | .ok ((ttl, timeout), (ceiling, _)) => checkCeiling ⟨ttl, timeout, ceiling⟩

end CacheSettings

namespace HierarchySettings

/-- The bounds of hierarchies unless someone sets others. -/
def standard : HierarchySettings := ⟨32, true⟩

def names : List String := ["max_department_depth", "default_allow_child_override"]

def check (fields : Fields) : Checked HierarchySettings :=
  let depth := fields.read "max_department_depth" standard.maxDepth fun v =>
    Setting.integer v >>= Setting.integerWithin 1 32
  let isOpen := fields.read "default_allow_child_override" standard.openByDefault Setting.truth
  match (depth.both isOpen).both (fields.declaredOnly names) with
  | .error problems => .error problems
  | .ok ((depth, isOpen), _) => .ok ⟨depth, isOpen⟩

end HierarchySettings

namespace AuditSettings

/-- How audit is delivered unless someone sets otherwise. -/
def standard : AuditSettings := ⟨5.0⟩

/-- Whether a change can wait that long. -/
def isTimed (a : AuditSettings) : Bool := Setting.isTimed a.flushTimeout

def names : List String := ["flush_timeout_seconds"]

def check (fields : Fields) : Checked AuditSettings :=
  let timeout := fields.read "flush_timeout_seconds" standard.flushTimeout fun v =>
    Setting.number v >>= Setting.positive
  (timeout.both (fields.declaredOnly names)).map fun (timeout, _) => ⟨timeout⟩

end AuditSettings

namespace LogLevel

/-- What is said about a text that names no level. -/
def unknownMessage (text : String) : String :=
  "Invalid log level: " ++ text ++ ". Must be one of " ++
    (Value.list ((Vocabulary.members (α := LogLevel)).map fun l => .text l.name)).literal

/-- What is said about something that is neither a level nor a text. -/
def wrongTypeMessage (typeName : String) : String :=
  "Log level must be string or LogLevel enum, got <class '" ++ typeName ++ "'>"

def ofText? (text : String) : Option LogLevel := Vocabulary.ofName? (upperAscii text)

def check : Value → Except Flaw LogLevel
  | .text s =>
    match ofText? s with
    | some level => .ok level
    | none => .error (.refused (unknownMessage s))
  | v => .error (.refused (wrongTypeMessage v.typeName))

end LogLevel

namespace Settings

/-- All settings unless someone sets others. -/
def standard : Settings :=
  ⟨.info, false, none, .standard, .standard, .standard⟩

def names : List String :=
  ["log_level", "log_json", "service_name", "cache", "hierarchy", "audit"]

/-- Check a group of settings inside all settings. -/
def group {α : Type} (fields : Fields) (name : String) (standard : α)
    (check : Fields → Checked α) : Checked α :=
  match fields.value? name with
  | none => .ok standard
  | some (.record inner) => (check inner).under name
  | some _ => Checked.flawed name .groupType

/-- Make all settings. A level that is already known goes before the field of that name. -/
def check (level : Option LogLevel) (fields : Fields) : Checked Settings :=
  let level : Checked LogLevel := match level with
    | some level => .ok level
    | none => fields.read "log_level" standard.logLevel LogLevel.check
  let json := fields.read "log_json" standard.logJson Setting.truth
  let name := fields.read "service_name" standard.serviceName Setting.textOrNone
  let cache := group fields "cache" standard.cache CacheSettings.check
  let hierarchy := group fields "hierarchy" standard.hierarchy HierarchySettings.check
  let audit := group fields "audit" standard.audit AuditSettings.check
  match (level.both (json.both name)).both
      ((cache.both (hierarchy.both audit)).both (fields.declaredOnly names)) with
  | .error problems => .error problems
  | .ok ((level, (json, name)), ((cache, (hierarchy, audit)), _)) =>
    .ok ⟨level, json, name, cache, hierarchy, audit⟩

end Settings

end TenantAccess
