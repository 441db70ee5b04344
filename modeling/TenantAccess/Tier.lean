import TenantAccess.Scope
import TenantAccess.Text.Blank
import TenantAccess.Text.Case

/-! # Subscription tiers

Tiers are ranked free, pro, enterprise. Only "at least" compares them.
-/

namespace TenantAccess

open TenantAccess.Text

inductive Tier where
  | free
  | pro
  | enterprise
  deriving Repr, DecidableEq, Inhabited

namespace Tier

def name : Tier → String
  | .free => "free"
  | .pro => "pro"
  | .enterprise => "enterprise"

instance : Vocabulary Tier where
  title := "SubscriptionTier"
  members := [.free, .pro, .enterprise]
  name := name
  complete := by intro a; cases a <;> decide
  name_inj := by intro a b; cases a <;> cases b <;> decide

end Tier

namespace Tier

/-- The rank of a tier. -/
def level : Tier → Nat
  | .free => 1
  | .pro => 2
  | .enterprise => 3

/-- Whether a tier is the other one or above it. -/
def isAtLeast (a b : Tier) : Bool := b.level ≤ a.level

def ordered : List Tier := [.free, .pro, .enterprise]

/-- Read a tier name, whatever its case and the blanks around it. -/
def parse? (text : String) : Option Tier := Vocabulary.ofName? (lower (trim text))

/-- The widest scope at which a plan lets its users list things. -/
def listingCap : Tier → Scope
  | .free => .own
  | .pro => .team
  | .enterprise => .global

end Tier

end TenantAccess
