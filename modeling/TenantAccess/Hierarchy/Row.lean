import TenantAccess.Quota
import TenantAccess.Request
import TenantAccess.Table
import TenantAccess.Tenancy

/-! # Matrix rows

The permission matrix holds one row per role and entity of a hierarchy. A row lists
overrides by pair, carries the version that writers lock on, and says whether rules further
down the hierarchy may depart from it.
-/

namespace TenantAccess

/-- What an override does. -/
inductive Effect where
  /-- It gives access, or bounds it. -/
  | allow
  | deny
  deriving Repr, DecidableEq, Inhabited

namespace Effect

def name : Effect → String
  | .allow => "allow"
  | .deny => "deny"

instance : Vocabulary Effect where
  title := "OverrideEffect"
  members := [.allow, .deny]
  name := name
  complete := by intro a; cases a <;> decide
  name_inj := by intro a b; cases a <;> cases b <;> decide

end Effect

/-- A rule that replaces or restricts what a role grants. -/
structure Override where
  effect : Effect
  /-- The widest scope it gives, if it says. -/
  scope : Option Scope
  /-- The quota it adds, if any. -/
  quota : Option Quota
  deriving Repr, DecidableEq, Inhabited

namespace Override

def isDeny (o : Override) : Bool := o.effect == .deny

def allowing (scope : Option Scope) (quota : Option Quota) : Override := ⟨.allow, scope, quota⟩

def denying : Override := ⟨.deny, none, none⟩

end Override

/-- What identifies a matrix row. -/
structure RowKey where
  kind : EntityKind
  entityId : String
  role : String
  deriving Repr, DecidableEq, Inhabited

/-- Overrides by pair. -/
abbrev RuleTable := Table Pair Override

/-- The overrides for one role at one entity. -/
structure Row where
  kind : EntityKind
  entityId : String
  organizationId : String
  role : String
  rules : RuleTable
  version : Int
  allowsChildren : Bool
  deriving Repr, DecidableEq

namespace Row

def key (r : Row) : RowKey := ⟨r.kind, r.entityId, r.role⟩

def ruleFor (r : Row) (pair : Pair) : Option Override := r.rules.get? pair

/-- Equality of rows; the order of rules does not matter. -/
def alike (a b : Row) : Bool :=
  a.key == b.key && a.organizationId == b.organizationId && a.version == b.version &&
    a.allowsChildren == b.allowsChildren && a.rules.sameContents (· == ·) b.rules

end Row

end TenantAccess
