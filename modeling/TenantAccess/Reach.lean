import TenantAccess.Fault

/-! # Reach

How far a user sees. With a target, reach is the narrowest scope under which the user sees
it; without one, it is what the user's memberships span, capped by role and plan. Roles are
not looked at here.
-/

namespace TenantAccess

namespace Target

/-- Whether a target can be resolved at all. -/
def validate (t : Target) : Except Fault Unit :=
  if t.ownerId = "" then .error .targetWithoutOwner
  else if t.sharing = .team ∧ given? t.teamId = none then .error .teamSharingWithoutTeam
  else if t.sharing = .organization ∧ given? t.organizationId = none then
    .error .organizationSharingWithoutOrganization
  else if (given? t.teamId).isSome ∧ given? t.organizationId = none then
    .error .teamWithoutOrganization
  else .ok ()

end Target

namespace User

/-- The narrowest scope under which a user sees a target that is in order. -/
def reachOf? (u : User) (t : Target) : Option Scope :=
  if t.ownerId = u.id then some .own
  else if t.sharing = .team ∧ u.isTeamMember (t.teamId.getD "") then some .team
  else if t.sharing = .organization ∧ u.isOrganizationMember (t.organizationId.getD "") then
    some .organization
  else none

/-- The narrowest scope under which a user sees a target. -/
def resolveReach (u : User) (t : Target) : Except Fault (Option Scope) := do
  t.validate
  return u.reachOf? t

/-- The widest scope that a user's memberships span. -/
def membershipReach (u : User) : Scope :=
  if u.memberships.any (·.kind == .organization) then .organization
  else if u.memberships.any (·.kind == .team) then .team
  else .own

/-- How far a user may list: memberships, capped by what the role and the plan allow. -/
def listReach (u : User) (roleCap : Scope) (tier : Tier) : Scope :=
  u.membershipReach.narrower (roleCap.narrower tier.listingCap)

end User

end TenantAccess
