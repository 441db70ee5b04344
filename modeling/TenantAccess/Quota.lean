import TenantAccess.NameSet

/-! # Quotas

A quota bounds the number of items and the rate of requests, and lists the features that
come with it; a missing bound bounds nothing, and so does a missing quota. Quotas are
ordered by permissiveness. Combining layers takes their greatest lower bound, widening
takes the least upper bound of two.
-/

namespace TenantAccess

/-- Limits and features that come with a privilege. -/
structure Quota where
  /-- How many items may exist; unlimited if missing. -/
  maxItems : Option Nat
  /-- How many requests may be made in a minute; unlimited if missing. -/
  rateLimit : Option Nat
  features : NameSet
  deriving Repr, DecidableEq, Inhabited

def stricterLimit : Option Nat → Option Nat → Option Nat
  | none, b => b
  | a, none => a
  | some a, some b => some (min a b)

def looserLimit : Option Nat → Option Nat → Option Nat
  | none, _ => none
  | _, none => none
  | some a, some b => some (max a b)

/-- Whether the first limit allows whatever the second allows. -/
def limitAllows : Option Nat → Option Nat → Bool
  | none, _ => true
  | some _, none => false
  | some a, some b => b ≤ a

namespace Quota

/-- What both quotas allow. -/
def meet (a b : Quota) : Quota where
  maxItems := stricterLimit a.maxItems b.maxItems
  rateLimit := stricterLimit a.rateLimit b.rateLimit
  features := a.features.inter b.features

/-- What either quota allows. -/
def join (a b : Quota) : Quota where
  maxItems := looserLimit a.maxItems b.maxItems
  rateLimit := looserLimit a.rateLimit b.rateLimit
  features := a.features.union b.features

def hasFeature (q : Quota) (feature : String) : Bool := q.features.contains feature

/-- Add a layer to the layers combined so far. -/
def restrict : Option Quota → Option Quota → Option Quota
  | acc, none => acc
  | none, some q => some q
  | some acc, some q => some (acc.meet q)

/-- The most restrictive reading of all layers; layers without a quota are skipped. -/
def combine (layers : List (Option Quota)) : Option Quota := layers.foldl restrict none

/-- Loosen a quota by another one; where either is missing, nothing is restricted. -/
def widen : Option Quota → Option Quota → Option Quota
  | none, _ => none
  | _, none => none
  | some a, some b => some (a.join b)

/-- Whether the first quota grants everything that the second grants. -/
def isAtLeastAsPermissive : Option Quota → Option Quota → Bool
  | none, _ => true
  | some _, none => false
  | some hi, some lo =>
    limitAllows hi.maxItems lo.maxItems && limitAllows hi.rateLimit lo.rateLimit &&
      lo.features.subset hi.features

end Quota

/-- Consumption as the caller reports it. -/
structure Usage where
  items : Int
  /-- Requests in the current minute. -/
  requests : Int
  deriving Repr, DecidableEq

/-- A limit that has been reached. -/
inductive LimitReached where
  | items (used : Int) (limit : Nat)
  | rate (used : Int) (limit : Nat)
  deriving Repr, DecidableEq

namespace LimitReached

def message : LimitReached → String
  | .items used limit => "item limit reached (" ++ toString used ++ "/" ++ toString limit ++ ")"
  | .rate used limit =>
    "rate limit reached (" ++ toString used ++ "/" ++ toString limit ++ " per minute)"

end LimitReached

def reaches (used : Int) : Option Nat → Option Nat
  | none => none
  | some limit => if (limit : Int) ≤ used then some limit else none

namespace Quota

/-- The first limit of a quota that usage has reached, items before rate. -/
def exceeded? (q : Quota) (usage : Usage) : Option LimitReached :=
  match reaches usage.items q.maxItems with
  | some limit => some (.items usage.items limit)
  | none => (reaches usage.requests q.rateLimit).map (.rate usage.requests)

/-- The limit that usage has reached; without a quota there is none. -/
def checkUsage (quota : Option Quota) (usage : Usage) : Option LimitReached :=
  quota.bind (·.exceeded? usage)

end Quota

end TenantAccess
