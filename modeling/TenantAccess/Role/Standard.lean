import TenantAccess.Role.Basic

/-! # Standard roles

The roles that are there when nobody brings others: viewer, member, administrator and
system administrator. Each inherits from the one before, except the last, which is granted
everything everywhere.
-/

namespace TenantAccess.Role

/-- The identifier of the role that no check stops. -/
def systemAdminId : String := "system_admin"

/-- One scope for several actions on a resource. -/
def grantEach (resource : Resource) (actions : List Action) (scope : Scope) :
    List (Pair × Grant) :=
  actions.map fun action => (⟨resource, action⟩, ⟨scope, false⟩)

/-- All actions. -/
def everyAction : List Action := Vocabulary.members

/-- What a viewer may do. A user's own profile is reachable on every plan. -/
def viewerGrants : GrantTable := Table.ofList <|
  grantEach .task [.view, .list] .organization ++
  grantEach .team [.view, .list] .organization ++
  grantEach .organization [.view] .organization ++
  grantEach .attachment [.view] .organization ++
  [(⟨.user, .view⟩, ⟨.own, true⟩), (⟨.user, .update⟩, ⟨.own, true⟩)]

/-- What a member may do beyond a viewer. -/
def memberAdditions : GrantTable := Table.ofList <|
  grantEach .task [.create, .update] .team ++
  grantEach .task [.delete] .own ++
  grantEach .team [.create] .own ++
  grantEach .department [.view, .list] .organization ++
  grantEach .attachment [.list] .organization ++
  grantEach .attachment [.create] .team ++
  grantEach .attachment [.delete] .own ++
  grantEach .analytics [.view] .team

/-- What an administrator may do beyond a member. -/
def adminAdditions : GrantTable := Table.ofList <|
  grantEach .task everyAction .organization ++
  grantEach .team everyAction .organization ++
  grantEach .department everyAction .organization ++
  grantEach .attachment everyAction .organization ++
  grantEach .permissionMatrix everyAction .organization ++
  grantEach .organization [.update, .admin] .organization ++
  grantEach .user [.list] .organization ++
  grantEach .role [.view, .list] .organization ++
  grantEach .analytics [.view, .list] .organization ++
  grantEach .auditLog [.view, .list] .organization

def memberGrants : GrantTable := GrantTable.inherit viewerGrants memberAdditions

def adminGrants : GrantTable := GrantTable.inherit memberGrants adminAdditions

/-- Everything, everywhere. -/
def systemAdminGrants : GrantTable :=
  Table.ofList (Pair.all.map fun pair => (pair, ⟨.global, false⟩))

/-- The standard roles, from the lowest rank to the highest. -/
def standard : List Role :=
  [.ofGrants "viewer" "Viewer" 10 viewerGrants, .ofGrants "member" "Member" 20 memberGrants,
    .ofGrants "admin" "Administrator" 80 adminGrants,
    .ofGrants systemAdminId "System Administrator" 100 systemAdminGrants]

end TenantAccess.Role
