import TenantAccess.Quota
import TenantAccess.Tier

/-! # Decisions

The outcome of a request: allowed with a scope and a privilege, or denied with a code and
a reason. A privilege is a named bundle that a subscription tier opens, with a quota or without.
-/

namespace TenantAccess

/-- A bundle gated by tier; without a quota it is unrestricted. -/
structure Privilege where
  name : String
  tier : Tier
  quota : Option Quota
  deriving Repr, DecidableEq, Inhabited

namespace Privilege

/-- The privilege that nothing limits. -/
def unrestricted : Privilege := ⟨"unrestricted", .enterprise, none⟩

def isAvailableFor (p : Privilege) (tier : Tier) : Bool := tier.isAtLeast p.tier

def maxItems (p : Privilege) : Option Nat := p.quota.bind (·.maxItems)

def rateLimit (p : Privilege) : Option Nat := p.quota.bind (·.rateLimit)

/-- Whether a feature is switched on; without a quota every feature is. -/
def hasFeature (p : Privilege) (feature : String) : Bool :=
  match p.quota with
  | none => true
  | some q => q.hasFeature feature

end Privilege

/-- Stable codes that a client can branch on. -/
inductive DenialCode where
  | insufficientRole
  | subscriptionTierTooLow
  | outOfScope
  | quotaExceeded
  | resolutionError
  deriving Repr, DecidableEq, Inhabited

namespace DenialCode

def name : DenialCode → String
  | .insufficientRole => "insufficient_role"
  | .subscriptionTierTooLow => "subscription_tier_too_low"
  | .outOfScope => "out_of_scope"
  | .quotaExceeded => "quota_exceeded"
  | .resolutionError => "resolution_error"

instance : Vocabulary DenialCode where
  title := "DenialCode"
  members := [.insufficientRole, .subscriptionTierTooLow, .outOfScope, .quotaExceeded, .resolutionError]
  name := name
  complete := by intro a; cases a <;> decide
  name_inj := by intro a b; cases a <;> cases b <;> decide

end DenialCode

/-- The outcome of a request. -/
structure Decision where
  isAllowed : Bool
  scope : Option Scope
  privilege : Option Privilege
  /-- Why access is refused, for machines. -/
  code : Option DenialCode
  /-- Why access is refused, for people. -/
  reason : String
  deriving Repr, DecidableEq, Inhabited

namespace Decision

def allow (scope : Scope) (privilege : Privilege) : Decision :=
  ⟨true, some scope, some privilege, none, ""⟩

def deny (code : DenialCode) (reason : String) : Decision := ⟨false, none, none, some code, reason⟩

def isDenied (d : Decision) : Bool := !d.isAllowed

def quota (d : Decision) : Option Quota := d.privilege.bind (·.quota)

/-- Refuse access that is given while usage is at its limit; refusals stay as they are. -/
def enforceUsage (d : Decision) (usage : Usage) : Decision :=
  if d.isDenied then d
  else
    match Quota.checkUsage d.quota usage with
    | none => d
    | some limit => deny .quotaExceeded ("Quota exceeded: " ++ limit.message)

def limitValue (limit : Option Nat) : Value := Value.ofInt? (limit.map Int.ofNat)

def featuresValue (q : Quota) : Value := .list (q.features.names.map .text)

/-- The decision as log and audit records hold it. -/
def summary (d : Decision) : Value :=
  if d.isAllowed then
    .record [("allowed", .bool true),
      ("scope", Value.ofText? (d.scope.map Scope.name)),
      ("privilege", Value.ofText? (d.privilege.map (·.name))),
      ("max_items", limitValue (d.quota.bind (·.maxItems))),
      ("rate_limit", limitValue (d.quota.bind (·.rateLimit))),
      ("features", (d.quota.map featuresValue).getD .null)]
  else
    .record [("allowed", .bool false),
      ("code", Value.ofText? (d.code.map DenialCode.name)),
      ("reason", .text d.reason)]

end Decision

end TenantAccess
