import TenantAccess.Tier

/-! # Tenancy

Who acts, on whose behalf, and where a thing belongs: organizations with their departments
and teams, memberships, users and the targets of requests.
-/

namespace TenantAccess

/-- Whom a resource is shared with. -/
inductive Sharing where
  | personal
  | team
  | organization
  deriving Repr, DecidableEq, Inhabited

namespace Sharing

def name : Sharing → String
  | .personal => "personal"
  | .team => "team"
  | .organization => "organization"

instance : Vocabulary Sharing where
  title := "Visibility"
  members := [.personal, .team, .organization]
  name := name
  complete := by intro a; cases a <;> decide
  name_inj := by intro a b; cases a <;> cases b <;> decide

end Sharing

/-- The levels of a hierarchy that can carry overrides. -/
inductive EntityKind where
  | organization
  | department
  | team
  deriving Repr, DecidableEq, Inhabited

namespace EntityKind

def name : EntityKind → String
  | .organization => "organization"
  | .department => "department"
  | .team => "team"

instance : Vocabulary EntityKind where
  title := "EntityType"
  members := [.organization, .department, .team]
  name := name
  complete := by intro a; cases a <;> decide
  name_inj := by intro a b; cases a <;> cases b <;> decide

end EntityKind

/-- What a membership ties a user to. -/
inductive MembershipKind where
  | team
  | organization
  deriving Repr, DecidableEq, Inhabited

namespace MembershipKind

def name : MembershipKind → String
  | .team => "team"
  | .organization => "organization"

instance : Vocabulary MembershipKind where
  title := "MembershipKind"
  members := [.team, .organization]
  name := name
  complete := by intro a; cases a <;> decide
  name_inj := by intro a b; cases a <;> cases b <;> decide

end MembershipKind

/-- A user's membership in a team or an organization. -/
structure Membership where
  subjectId : String
  kind : MembershipKind
  scopeId : String
  roleInScope : String
  deriving Repr, DecidableEq, Inhabited

structure Organization where
  id : String
  name : String
  deriving Repr, DecidableEq, Inhabited

/-- A department; one without a parent is a root. -/
structure Department where
  id : String
  organizationId : String
  parentId : Option String
  /-- Its display name; an empty name names nothing. -/
  name : String
  /-- Settings kept for compliance; nothing here reads them. -/
  compliance : List (String × Value)
  deriving Repr, Inhabited

/-- A team; it may belong to a department. -/
structure Team where
  id : String
  organizationId : String
  departmentId : Option String
  deriving Repr, DecidableEq, Inhabited

/-- Where the thing that a request is about belongs; it says nothing about the actor. -/
structure Target where
  ownerId : String
  sharing : Sharing
  teamId : Option String
  organizationId : Option String
  deriving Repr, DecidableEq, Inhabited

/-- The acting user. -/
structure User where
  id : String
  role : String
  tier : Tier
  memberships : List Membership
  deriving Repr, DecidableEq, Inhabited

namespace User

/-- Whether the user is a member of a team. -/
def isTeamMember (u : User) (teamId : String) : Bool :=
  u.memberships.any fun m => m.kind == .team && m.scopeId == teamId

/-- Whether the user is a member of an organization. -/
def isOrganizationMember (u : User) (organizationId : String) : Bool :=
  u.memberships.any fun m => m.kind == .organization && m.scopeId == organizationId

def withMemberships (u : User) (memberships : List Membership) : User :=
  { u with memberships }

end User

/-- An identifier that is there and not empty. -/
def given? (id : Option String) : Option String := id.filter (· ≠ "")

namespace Department

/-- Equality of departments; the order of compliance settings does not matter. -/
def alike (a b : Department) : Bool :=
  a.id == b.id && a.organizationId == b.organizationId && a.parentId == b.parentId &&
    a.name == b.name && Value.alike (.record a.compliance) (.record b.compliance)

end Department

end TenantAccess
