import TenantAccess.Misuse
import TenantAccess.Request
import TenantAccess.Table

/-! # Roles

A role is data: an identifier, a rank and the grants it starts from. A grant says how far
the role reaches for a pair, and whether it does so on every plan. Inheriting grants joins
two tables: a pair granted twice reaches as far as the wider grant.
-/

namespace TenantAccess

/-- What a role may do for one pair before plan, hierarchy and target are looked at. -/
structure Grant where
  maxScope : Scope
  tierExempt : Bool
  deriving Repr, DecidableEq, Inhabited

/-- Grants by pair. -/
abbrev GrantTable := Table Pair Grant

namespace Grant

/-- The wider reading of two grants. -/
def merge (a b : Grant) : Grant := ⟨a.maxScope.wider b.maxScope, a.tierExempt || b.tierExempt⟩

end Grant

namespace GrantTable

variable {κ : Type} [DecidableEq κ]

/-- Add one grant; a key that is granted already keeps what it has and may gain. -/
def add (t : Table κ Grant) (key : κ) (grant : Grant) : Table κ Grant :=
  match t.get? key with
  | none => t.put key grant
  | some existing => t.put key (existing.merge grant)

/-- Lay grants over inherited ones; nothing inherited is narrowed. -/
def inherit (parent grants : Table κ Grant) : Table κ Grant :=
  grants.rows.foldl (fun t row => add t row.1 row.2) parent

theorem get?_add (t : Table κ Grant) (key other : κ) (grant : Grant) :
    (add t key grant).get? other =
      if key = other then some (((t.get? key).map (·.merge grant)).getD grant)
      else t.get? other := by
  unfold add
  cases h : t.get? key <;> simp [Table.get?_put]

end GrantTable

structure Role where
  id : String
  name : String
  level : Int
  grants : GrantTable
  /-- What it lists under keys that are no pairs; no request asks for it. -/
  strays : Table PairKey Grant
  deriving Repr, DecidableEq

namespace Role

/-- A role that grants pairs only. -/
def ofGrants (id name : String) (level : Int) (grants : GrantTable) : Role :=
  ⟨id, name, level, grants, .empty⟩

/-- A role from grants under any keys. -/
def ofKeyed (id name : String) (level : Int) (grants : Table PairKey Grant) : Role where
  id := id
  name := name
  level := level
  grants := Table.ofList <|
    grants.rows.filterMap fun row => row.1.pair?.map fun pair => (pair, row.2)
  strays := grants.filter fun key _ => key.pair?.isNone

/-- Whether two roles are equal; the order of grants does not matter. -/
def alike (a b : Role) : Bool :=
  a.id == b.id && a.name == b.name && a.level == b.level &&
    a.grants.sameContents (· == ·) b.grants && a.strays.sameContents (· == ·) b.strays

def grantFor (r : Role) (pair : Pair) : Option Grant := r.grants.get? pair

end Role

/-- Roles by identifier. -/
abbrev RoleTable := Table String Role

namespace RoleTable

/-- File one role, refusing an identifier that is taken. -/
def file (t : RoleTable) (role : Role) : Except Misuse RoleTable :=
  if t.contains role.id then .error (.duplicateRole role.id) else .ok (t.put role.id role)

/-- The table of a list of roles; identifiers may not repeat. -/
def build (roles : List Role) : Except Misuse RoleTable := roles.foldlM file Table.empty

def levelOf? (t : RoleTable) (roleId : String) : Option Int := (t.get? roleId).map (·.level)

/-- What a role grants for a pair; nothing for an unknown role. -/
def grantFor (t : RoleTable) (roleId : String) (pair : Pair) : Option Grant :=
  (t.get? roleId).bind (·.grantFor pair)

end RoleTable

end TenantAccess
