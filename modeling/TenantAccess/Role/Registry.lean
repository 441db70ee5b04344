import TenantAccess.Log.Step
import TenantAccess.Role.Standard

/-! # The role registry

The registry holds one complete role table. It is loaded by the first read that finds none,
replaced as a whole, and dropped on request; a load that fails changes nothing.
-/

namespace TenantAccess

/-- The state of a registry. -/
structure Registry where
  /-- The roles that the loader gives on each of its calls, counted from zero. -/
  source : Nat → List Role
  /-- How often the loader has been called. -/
  loads : Nat
  held : Option RoleTable

namespace Registry

def logger : String := "authzcore.permissions.roles"

def ofSource (source : Nat → List Role) : Registry := ⟨source, 0, none⟩

def standard : Registry := ofSource fun _ => Role.standard

def loadedEntry (t : RoleTable) : LogEntry :=
  .plain .debug logger ("Role table loaded: " ++ toString t.size ++ " roles")

def replacedEntry (t : RoleTable) : LogEntry :=
  .plain .info logger ("Role table replaced: " ++ toString t.size ++ " roles")

def droppedEntry : LogEntry := .plain .info logger "Role table invalidated"

/-- The table, loaded if none is held. -/
def table : Step Registry (Except Misuse RoleTable) := fun r =>
  match r.held with
  | some t => ⟨(.ok t, r), []⟩
  | none =>
    let called := { r with loads := r.loads + 1 }
    match RoleTable.build (r.source r.loads) with
    | .error m => ⟨(.error m, called), []⟩
    | .ok t => ⟨(.ok t, { called with held := some t }), [loadedEntry t]⟩

/-- Replace the whole table. -/
def load (roles : List Role) : Step Registry (Except Misuse Unit) := fun r =>
  match RoleTable.build roles with
  | .error m => ⟨(.error m, r), []⟩
  | .ok t => ⟨(.ok (), { r with held := some t }), [replacedEntry t]⟩

/-- Drop the table; the next read loads it again. -/
def invalidate : Step Registry Unit := fun r => ⟨((), { r with held := none }), [droppedEntry]⟩

/-- A read that is answered from the table. -/
def reading {α : Type} (answer : RoleTable → α) : Step Registry (Except Misuse α) := do
  return (← table).map answer

def get (roleId : String) : Step Registry (Except Misuse (Option Role)) :=
  reading (·.get? roleId)

def levelOf (roleId : String) : Step Registry (Except Misuse (Option Int)) :=
  reading fun t => RoleTable.levelOf? t roleId

def roleIds : Step Registry (Except Misuse (List String)) := reading (·.keys)

/-- Check what a caller asks about; the resource is looked at first. -/
def checkPair (r : Offered Resource) (a : Offered Action) : Except Misuse Pair :=
  match r, a with
  | .member r, .member a => .ok ⟨r, a⟩
  | .raw v, _ => .error (.unknownResource v.literal)
  | .member _, .raw v => .error (.unknownAction v.literal)

/-- What a role grants; the table is not touched when the question makes no sense. -/
def lookup (roleId : String) (r : Offered Resource) (a : Offered Action) :
    Step Registry (Except Misuse (Option Grant)) :=
  match checkPair r a with
  | .error m => return .error m
  | .ok pair => reading fun t => RoleTable.grantFor t roleId pair

end Registry

end TenantAccess
