import TenantAccess.Vocabulary

/-! # Scopes

Scopes are ranked: own, team, organization, global. A wider scope includes the narrower.
-/

namespace TenantAccess

/-- How wide a circle of data a decision opens. -/
inductive Scope where
  | own
  | team
  | organization
  | global
  deriving Repr, DecidableEq, Inhabited

namespace Scope

def name : Scope → String
  | .own => "own"
  | .team => "team"
  | .organization => "organization"
  | .global => "global"

instance : Vocabulary Scope where
  title := "Scope"
  members := [.own, .team, .organization, .global]
  name := name
  complete := by intro a; cases a <;> decide
  name_inj := by intro a b; cases a <;> cases b <;> decide

end Scope

namespace Scope

def level : Scope → Nat
  | .own => 1
  | .team => 2
  | .organization => 3
  | .global => 4

instance : LE Scope := ⟨fun a b => a.level ≤ b.level⟩

instance : LT Scope := ⟨fun a b => a.level < b.level⟩

instance (a b : Scope) : Decidable (a ≤ b) := inferInstanceAs (Decidable (a.level ≤ b.level))

instance (a b : Scope) : Decidable (a < b) := inferInstanceAs (Decidable (a.level < b.level))

theorem le_def (a b : Scope) : a ≤ b ↔ a.level ≤ b.level := Iff.rfl

/-- Whether a scope is at least as wide as another. -/
def includes (a b : Scope) : Bool := b ≤ a

def narrower (a b : Scope) : Scope := if b < a then b else a

def wider (a b : Scope) : Scope := if a < b then b else a

end Scope

/-- An order sign between two scopes. -/
inductive Comparison where
  | lt
  | le
  | gt
  | ge
  deriving Repr, DecidableEq

namespace Comparison

def sign : Comparison → String
  | .lt => "<"
  | .le => "<="
  | .gt => ">"
  | .ge => ">="

def holds : Comparison → Ordering → Bool
  | .lt, o => o == .lt
  | .le, o => o != .gt
  | .gt, o => o == .gt
  | .ge, o => o != .lt

def betweenScopes (c : Comparison) (a b : Scope) : Bool := c.holds (compare a.level b.level)

/-- Compare the name of a scope with a plain text, by code points. -/
def withText (c : Comparison) (a : Scope) (text : String) : Bool :=
  c.holds (compare a.name text)

end Comparison

end TenantAccess
