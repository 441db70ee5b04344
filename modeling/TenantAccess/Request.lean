import TenantAccess.Vocabulary

/-! # Requests

A request names a resource and an action. Every grant, entitlement and override is filed
under such a pair.
-/

namespace TenantAccess

/-- The kinds of things that access is decided for. -/
inductive Resource where
  | task
  | team
  | organization
  | department
  | user
  | role
  | attachment
  | analytics
  | auditLog
  | permissionMatrix
  deriving Repr, DecidableEq, Inhabited

namespace Resource

def name : Resource → String
  | .task => "task"
  | .team => "team"
  | .organization => "organization"
  | .department => "department"
  | .user => "user"
  | .role => "role"
  | .attachment => "attachment"
  | .analytics => "analytics"
  | .auditLog => "audit_log"
  | .permissionMatrix => "permission_matrix"

instance : Vocabulary Resource where
  title := "Resource"
  members := [.task, .team, .organization, .department, .user, .role, .attachment, .analytics, .auditLog, .permissionMatrix]
  name := name
  complete := by intro a; cases a <;> decide
  name_inj := by intro a b; cases a <;> cases b <;> decide

end Resource

/-- What can be done to a resource. -/
inductive Action where
  | view
  | list
  | create
  | update
  | delete
  | admin
  deriving Repr, DecidableEq, Inhabited

namespace Action

def name : Action → String
  | .view => "view"
  | .list => "list"
  | .create => "create"
  | .update => "update"
  | .delete => "delete"
  | .admin => "admin"

instance : Vocabulary Action where
  title := "Action"
  members := [.view, .list, .create, .update, .delete, .admin]
  name := name
  complete := by intro a; cases a <;> decide
  name_inj := by intro a b; cases a <;> cases b <;> decide

end Action

/-- Whether an action changes something; such actions must be audited before they happen. -/
def Action.isMutating : Action → Bool
  | .view | .list => false
  | .create | .update | .delete | .admin => true

/-- A resource and an action on it. -/
structure Pair where
  resource : Resource
  action : Action
  deriving Repr, DecidableEq, Inhabited

namespace Pair

/-- All pairs, by resource and then by action. -/
def all : List Pair :=
  (Vocabulary.members (α := Resource)).flatMap fun r =>
    (Vocabulary.members (α := Action)).map fun a => ⟨r, a⟩

def text (p : Pair) : String := p.resource.name ++ ":" ++ p.action.name

/-- The pair that two handed-over values are members of. -/
def ofOffered? (r : Offered Resource) (a : Offered Action) : Option Pair := do
  let r ← r.member?
  let a ← a.member?
  return ⟨r, a⟩

/-- The pair that a look-up with two handed-over values finds. -/
def denoted? (r : Offered Resource) (a : Offered Action) : Option Pair := do
  let r ← r.denoted?
  let a ← a.denoted?
  return ⟨r, a⟩

end Pair

/-- One half of a key. A text that names a member is that member. -/
inductive KeyPart (α : Type) where
  | member (a : α)
  | text (s : String)
  | number (n : Int)
  | nothing
  /-- Anything else, by its literal. -/
  | other (literal : String)
  deriving Repr, DecidableEq, Inhabited

/-- The half of a key that a handed-over value is; truth values count as numbers. -/
def Offered.keyPart {α : Type} [Vocabulary α] : Offered α → KeyPart α
  | .member a => .member a
  | .raw (.text s) => ((Vocabulary.ofName? s).map .member).getD (.text s)
  | .raw (.int n) => .number n
  | .raw (.bool b) => .number (if b then 1 else 0)
  | .raw .null => .nothing
  | .raw v => .other v.literal

/-- A key of a table by pair as a caller brings it: a pair, or something that is none and that
no request asks for. -/
structure PairKey where
  resource : KeyPart Resource
  action : KeyPart Action
  deriving Repr, DecidableEq, Inhabited

namespace PairKey

def ofPair (p : Pair) : PairKey := ⟨.member p.resource, .member p.action⟩

/-- The key that two handed-over values make. -/
def ofOffered (r : Offered Resource) (a : Offered Action) : PairKey := ⟨r.keyPart, a.keyPart⟩

/-- The pair that a key is. -/
def pair? : PairKey → Option Pair
  | ⟨.member r, .member a⟩ => some ⟨r, a⟩
  | _ => none

theorem pair?_ofPair (p : Pair) : pair? (ofPair p) = some p := rfl

theorem ofPair_of_pair? {k : PairKey} {p : Pair} (h : k.pair? = some p) : ofPair p = k := by
  obtain ⟨r, a⟩ := k
  cases r <;> cases a <;> simp [pair?] at h
  subst h
  rfl

end PairKey

end TenantAccess
