import TenantAccess.Plan.Entitlements

/-! # Standard plans

What the free plan includes and what the other two add, when nobody brings other tables.
-/

namespace TenantAccess.Entitlements

def reads : List Action := [.view, .list]

def writes : List Action := [.create, .update, .delete]

/-- One quota for several actions on a resource. -/
def each (resource : Resource) (actions : List Action) (quota : Quota) :
    List (Pair × Option Quota) :=
  actions.map fun action => (⟨resource, action⟩, some quota)

/-- Items, requests per minute, features. -/
def limited (items rate : Nat) (features : List String) : Quota :=
  ⟨some items, some rate, NameSet.ofList features⟩

/-- Requests per minute and features, any number of items. -/
def rated (rate : Nat) (features : List String) : Quota :=
  ⟨none, some rate, NameSet.ofList features⟩

def unlimited (features : List String) : Quota := ⟨none, none, NameSet.ofList features⟩

def freeTable : QuotaTable := Table.ofList <|
  each .task reads (limited 100 10 ["basic_access"]) ++
  each .task writes (limited 100 10 ["basic_access"]) ++
  each .team reads (rated 10 ["basic_access"]) ++
  each .team [.create] (limited 1 10 ["basic_access"]) ++
  each .team [.update] (limited 3 10 ["basic_access"]) ++
  each .organization [.view] (rated 10 ["basic_access"]) ++
  each .attachment (reads ++ writes) (limited 100 10 ["basic_access"]) ++
  each .user [.view, .update] (rated 10 ["basic_access"])

/-- What the paid plan adds. -/
def proAdditions : QuotaTable := Table.ofList <|
  each .task reads (limited 10000 100 ["advanced_filter", "export"]) ++
  each .task writes (limited 1000 50 ["batch_operations"]) ++
  each .team [.create] (limited 5 50 []) ++
  each .team [.update] (limited 10 50 []) ++
  each .team [.delete] (rated 50 []) ++
  each .organization [.list] (rated 50 []) ++
  each .department reads (rated 50 []) ++
  each .attachment (reads ++ writes) (limited 1000 50 []) ++
  each .analytics reads (rated 50 ["analytics"]) ++
  each .user [.list] (rated 50 [])

/-- What the plan for large customers adds; a later row replaces an earlier one. -/
def enterpriseAdditions : QuotaTable := Table.ofList <|
  Pair.all.map (fun pair => (pair, some (unlimited ["bulk_operations"]))) ++
  each .auditLog reads (unlimited ["audit_export"]) ++
  each .role Vocabulary.members (unlimited ["custom_roles"])

def standard : Entitlements := layered freeTable proAdditions enterpriseAdditions

end TenantAccess.Entitlements
