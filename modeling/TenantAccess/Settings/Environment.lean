import TenantAccess.Misuse
import TenantAccess.Settings.Basic
import TenantAccess.Text.Blank

/-! # Settings from an environment

The variables of an environment that make up settings, each with its default. A variable
that should hold a number and does not ends the reading at once; bounds are checked group
by group.
-/

namespace TenantAccess

open TenantAccess.Text TenantAccess.Number

abbrev Environment := List (String × String)

/-- Why an environment gives no settings. -/
inductive EnvironmentError where
  | misuse (m : Misuse)
  | problems (ps : List Problem)
  deriving Repr

namespace Environment

def value? (env : Environment) (name : String) : Option String :=
  (env.find? fun v => v.1 == name).map (·.2)

/-- A variable, or what holds in its place. -/
def valueOr (env : Environment) (name standard : String) : String :=
  (env.value? name).getD standard

/-- Whether a text is one of the words for yes. -/
def isYes (text : String) : Bool := ["true", "1", "yes", "on"].contains (lower (trim text))

def number (env : Environment) (name standard : String) : Except EnvironmentError Float :=
  let text := env.valueOr name standard
  match generousFloat? text with
  | some x => .ok x
  | none => .error (.misuse (.notANumber text))

def integer (env : Environment) (name standard : String) : Except EnvironmentError Int :=
  let text := env.valueOr name standard
  match generousInt text with
  | .ok n => .ok n
  | .error flaw => .error (.misuse (.notAnInteger text flaw))

/-- Settings that were checked. -/
def checked {α : Type} : Checked α → Except EnvironmentError α
  | .ok a => .ok a
  | .error ps => .error (.problems ps)

def cache (env : Environment) : Except EnvironmentError CacheSettings := do
  let ttl ← env.number "AUTHZ_CACHE_TTL_SECONDS" "45"
  let timeout ← env.integer "AUTHZ_REFRESH_TIMEOUT_MS" "500"
  let ceiling ← env.number "AUTHZ_STALENESS_CEILING_SECONDS" "300"
  checked (CacheSettings.check [("ttl_seconds", .float ttl), ("refresh_timeout_ms", .int timeout),
    ("staleness_ceiling_seconds", .float ceiling)])

def hierarchy (env : Environment) : Except EnvironmentError HierarchySettings := do
  let depth ← env.integer "AUTHZ_MAX_DEPARTMENT_DEPTH" "32"
  let isOpen := isYes (env.valueOr "AUTHZ_DEFAULT_ALLOW_CHILD_OVERRIDE" "true")
  checked (HierarchySettings.check
    [("max_department_depth", .int depth), ("default_allow_child_override", .bool isOpen)])

def audit (env : Environment) : Except EnvironmentError AuditSettings := do
  let timeout ← env.number "AUTHZ_AUDIT_FLUSH_TIMEOUT_SECONDS" "5"
  checked (AuditSettings.check [("flush_timeout_seconds", .float timeout)])

def settings (env : Environment) : Except EnvironmentError Settings := do
  let cache ← env.cache
  let hierarchy ← env.hierarchy
  let audit ← env.audit
  let log ← checked (Settings.check none
    [("log_level", .text (env.valueOr "LOG_LEVEL" "INFO")),
      ("log_json", .bool (isYes (env.valueOr "LOG_JSON" "false"))),
      ("service_name", Value.ofText? (env.value? "SERVICE_NAME"))])
  return { log with cache, hierarchy, audit }

end Environment

end TenantAccess
