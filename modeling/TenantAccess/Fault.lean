import TenantAccess.Decision
import TenantAccess.Request
import TenantAccess.Tenancy

/-! # Faults

What can go wrong while access is decided or maintained, one constructor per cause. Each
cause has a category, a message and details; the category fixes the stable code. Faults
that a collaborating store reports are kept as it words them.
-/

namespace TenantAccess

/-- The kinds of faults that callers tell apart. -/
inductive Category where
  | internal
  | validation
  | notFound
  | conflict
  | unavailable
  | configuration
  | denied
  deriving Repr, DecidableEq, Inhabited

namespace Category

/-- The stable code of a category. -/
def code : Category → String
  | .internal => "INTERNAL_ERROR"
  | .validation => "VALIDATION_ERROR"
  | .notFound => "NOT_FOUND"
  | .conflict => "CONFLICT"
  | .unavailable => "SYSTEM_ERROR"
  | .configuration => "CONFIGURATION_ERROR"
  | .denied => "PERMISSION_DENIED"

/-- What is said when nothing more is known. -/
def standardMessage : Category → String
  | .internal => "An internal error occurred"
  | .validation => "Invalid authorization input"
  | .notFound => "Referenced entity does not exist"
  | .conflict => "Entry was modified concurrently"
  | .unavailable => "Authorization data unavailable"
  | .configuration => "An internal error occurred"
  | .denied => "Permission denied"

def label : Category → String
  | .internal => "AuthzError"
  | .validation => "ValidationError"
  | .notFound => "NotFoundError"
  | .conflict => "ConflictError"
  | .unavailable => "BackendUnavailableError"
  | .configuration => "ConfigurationError"
  | .denied => "PermissionDeniedError"

def all : List Category :=
  [.internal, .validation, .notFound, .conflict, .unavailable, .configuration, .denied]

def ofLabel? (text : String) : Option Category := all.find? fun c => c.label == text

end Category

/-- What went wrong. -/
inductive Fault where
  | targetWithoutOwner
  | teamSharingWithoutTeam
  | organizationSharingWithoutOrganization
  | teamWithoutOrganization
  | departmentOfOther (id : String)
  | teamOfOther (id : String)
  | rowOfOther
  | departmentNotFound (id : String)
  | teamNotFound (id : String)
  | organizationNotFound (id : String)
  | snapshotMissing (organizationId : String)
  | snapshotMismatch
  | departmentCycle (id : String)
  | chainTooDeep (id : String)
  | departmentOutside (id : String)
  | teamOutside (id : String)
  | teamNotInDepartment (id : String)
  | departmentExists (id : String)
  | departmentRetired (id : String)
  | treeTooDeep (maxDepth : Int)
  | siblingNameTaken (name : String)
  | moveUnderDescendant (id : String)
  | teamExists (id : String)
  /-- A matrix row lacks its entity, organization or role. -/
  | rowIncomplete
  | rowNotOfOrganization
  | ruleKeyInvalid (shown : String)
  | ruleInvalid (pair : Pair)
  | versionConflict (expected current : Option Int)
  | rowNotFound
  | tierNotMonotone (higher lower : Tier) (pair : Pair)
  | auditUnavailable
  | refreshTimedOut (cache : String) (milliseconds : Int)
  | cacheUnavailable (cache : String)
  /-- A refusal, raised as a fault; it may bring a code of its own. -/
  | refused (decision : Decision) (code : Option String) (extra : List (String × Value))
  | reported (category : Category) (message code : Option String) (details : List (String × Value))
  deriving Repr, Inhabited

namespace Fault

def category : Fault → Category
  | targetWithoutOwner | teamSharingWithoutTeam | organizationSharingWithoutOrganization
  | teamWithoutOrganization | departmentOfOther _ | teamOfOther _ | rowOfOther
  | snapshotMismatch | departmentCycle _ | chainTooDeep _ | departmentOutside _ | teamOutside _
  | teamNotInDepartment _ | departmentExists _ | departmentRetired _ | treeTooDeep _
  | siblingNameTaken _ | moveUnderDescendant _ | teamExists _ | rowIncomplete
  | rowNotOfOrganization | ruleKeyInvalid _ | ruleInvalid _ => .validation
  | departmentNotFound _ | teamNotFound _ | organizationNotFound _ | snapshotMissing _
  | rowNotFound => .notFound
  | versionConflict _ _ => .conflict
  | tierNotMonotone _ _ _ => .configuration
  | auditUnavailable | refreshTimedOut _ _ | cacheUnavailable _ => .unavailable
  | refused _ _ _ => .denied
  | reported category _ _ _ => category

/-- A text, or another one where it is missing or empty. -/
def orElseText (text : Option String) (other : String) : String := (given? text).getD other

def message : Fault → String
  | targetWithoutOwner => "Target has no owner"
  | teamSharingWithoutTeam => "Team visibility requires team_id"
  | organizationSharingWithoutOrganization => "Organization visibility requires organization_id"
  | teamWithoutOrganization => "team_id requires organization_id"
  | departmentOfOther id => "Department " ++ id ++ " belongs to another organization"
  | teamOfOther id => "Team " ++ id ++ " belongs to another organization"
  | rowOfOther => "Permission matrix entry belongs to another organization"
  | departmentNotFound _ => "Department not found"
  | teamNotFound _ => "Team not found"
  | organizationNotFound _ => "Organization not found"
  | snapshotMissing _ => "No hierarchy snapshot for organization"
  | snapshotMismatch => "Snapshot does not cover the requested organization"
  | departmentCycle _ => "Department hierarchy contains a cycle"
  | chainTooDeep _ => "Department hierarchy exceeds maximum depth"
  | departmentOutside _ => "Department belongs to another organization"
  | teamOutside _ => "Team belongs to another organization"
  | teamNotInDepartment _ => "Team is not part of the given department"
  | departmentExists _ => "Department already exists"
  | departmentRetired _ => "Department id was used by a deleted department"
  | treeTooDeep _ => "Department hierarchy exceeds maximum depth"
  | siblingNameTaken _ => "Department name already exists at this level"
  | moveUnderDescendant _ =>
    "Circular dependency detected: cannot move department under its own descendant"
  | teamExists _ => "Team already exists"
  | rowIncomplete => "entity_id, organization_id and role are required"
  | rowNotOfOrganization => "Organization entries must use the organization id as entity_id"
  | ruleKeyInvalid shown => "Invalid permission key: " ++ shown
  | ruleInvalid pair => "Invalid override for " ++ pair.text
  | versionConflict _ _ => "Permission matrix entry was modified concurrently; refetch and retry"
  | rowNotFound => "Permission matrix entry not found"
  | tierNotMonotone higher lower pair =>
    "Tier " ++ higher.name ++ " is more restrictive than " ++ lower.name ++ " for " ++ pair.text
  | auditUnavailable => "Audit sink unavailable"
  | refreshTimedOut cache milliseconds =>
    cache ++ " refresh timed out after " ++ toString milliseconds ++ "ms"
  | cacheUnavailable cache => cache ++ " unavailable"
  | refused decision _ _ => orElseText (some decision.reason) Category.denied.standardMessage
  | reported category message _ _ => orElseText message category.standardMessage

/-- The stable code of a fault. -/
def code : Fault → String
  | reported category _ code _ => orElseText code category.code
  | refused _ code _ => orElseText code Category.denied.code
  | f => f.category.code

/-- The denial code that a refusal carries, `denied` where it has none. -/
def refusalCode (d : Decision) : String := (d.code.map DenialCode.name).getD "denied"

def details : Fault → List (String × Value)
  | departmentNotFound id | departmentCycle id | chainTooDeep id | departmentOutside id
  | departmentExists id | departmentRetired id | moveUnderDescendant id =>
    [("department_id", .text id)]
  | teamNotFound id | teamOutside id | teamNotInDepartment id | teamExists id =>
    [("team_id", .text id)]
  | organizationNotFound id | snapshotMissing id => [("organization_id", .text id)]
  | treeTooDeep maxDepth => [("max_depth", .int maxDepth)]
  | siblingNameTaken name => [("name", .text name)]
  | versionConflict expected current =>
    [("expected_version", Value.ofInt? expected), ("current_version", Value.ofInt? current)]
  | refused decision _ extra => ("denial_code", .text (refusalCode decision)) :: extra
  | reported _ _ _ details => details
  | _ => []

/-- Whether a fault says that something does not exist. -/
def isNotFound (f : Fault) : Bool := f.category == .notFound

/-- Whether a fault says that data cannot be reached. -/
def isUnavailable (f : Fault) : Bool := f.category == .unavailable

end Fault

end TenantAccess
