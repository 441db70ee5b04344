import TenantAccess.Log.Entry
import TenantAccess.Misuse
import TenantAccess.Table

/-! # Entitlements

For every subscription tier a table says which pairs the plan includes and with what quota.
A tier's table is the table below it, widened by that tier's additions, so a higher tier
grants at least as much; the check says where three tables fail to do so.
-/

namespace TenantAccess

/-- Quotas by pair; a pair without a row is not included, one without a quota is unlimited. -/
abbrev QuotaTable := Table Pair (Option Quota)

namespace QuotaTable

variable {κ : Type} [DecidableEq κ]

/-- Add one row; a key that is there already is loosened. -/
def add (t : Table κ (Option Quota)) (key : κ) (quota : Option Quota) : Table κ (Option Quota) :=
  match t.get? key with
  | none => t.put key quota
  | some existing => t.put key (Quota.widen existing quota)

/-- Widen a table by additions; rows are only ever added or loosened. -/
def overlay (base additions : Table κ (Option Quota)) : Table κ (Option Quota) :=
  additions.rows.foldl (fun t row => add t row.1 row.2) base

theorem get?_add (t : Table κ (Option Quota)) (key other : κ) (quota : Option Quota) :
    (add t key quota).get? other =
      if key = other then some (((t.get? key).map (Quota.widen · quota)).getD quota)
      else t.get? other := by
  unfold add
  cases h : t.get? key <;> simp [Table.get?_put]

/-- Whether a row is granted at least as much by another table. -/
def rowHeld (higher : Table κ (Option Quota)) (row : κ × Option Quota) : Bool :=
  match higher.get? row.1 with
  | none => false
  | some upper => Quota.isAtLeastAsPermissive upper row.2

/-- The first key of a table that another table does not grant as much. -/
def firstLoss? (lower higher : Table κ (Option Quota)) : Option κ :=
  (lower.rows.find? fun row => !rowHeld higher row).map (·.1)

end QuotaTable

/-- One table for every tier. -/
structure Entitlements where
  free : QuotaTable
  pro : QuotaTable
  enterprise : QuotaTable
  deriving Repr, DecidableEq

namespace Entitlements

def logger : String := "authzcore.permissions.subscriptions"

/-- Layer the additions of the higher tiers over the free table. -/
def layered (free proAdditions enterpriseAdditions : QuotaTable) : Entitlements :=
  let pro := QuotaTable.overlay free proAdditions
  ⟨free, pro, QuotaTable.overlay pro enterpriseAdditions⟩

def table (e : Entitlements) : Tier → QuotaTable
  | .free => e.free
  | .pro => e.pro
  | .enterprise => e.enterprise

/-- The name of the privilege that a tier opens for a pair. -/
def privilegeName (tier : Tier) (pair : Pair) : String :=
  tier.name ++ "_" ++ pair.resource.name ++ "_" ++ pair.action.name

/-- The privilege of one row of a tier's table. -/
def privilegeOf (tier : Tier) (pair : Pair) (quota : Option Quota) : Privilege :=
  ⟨privilegeName tier pair, tier, quota⟩

def privilege? (e : Entitlements) (tier : Tier) (pair : Pair) : Option Privilege :=
  ((e.table tier).get? pair).map (privilegeOf tier pair)

def privileges (e : Entitlements) (tier : Tier) : Table Pair Privilege :=
  (e.table tier).mapValues (privilegeOf tier)

/-- Check what a caller asks about. -/
def checkPair (r : Offered Resource) (a : Offered Action) : Except Misuse Pair :=
  match Pair.ofOffered? r a with
  | some pair => .ok pair
  | none => .error (.unknownPair r.shown a.shown)

/-- What a plan includes for a pair that has not been checked. -/
def lookup (e : Entitlements) (tier : Tier) (r : Offered Resource) (a : Offered Action) :
    Except Misuse (Option Privilege) :=
  (checkPair r a).map (e.privilege? tier)

/-- The lowest tier whose plan includes a pair. -/
def minimumTier (e : Entitlements) (pair : Pair) : Option Tier :=
  Tier.ordered.find? fun tier => (e.table tier).contains pair

/-- Check that each tier grants everything that the tier below grants. -/
def verify (e : Entitlements) : Except Fault Unit :=
  match QuotaTable.firstLoss? e.free e.pro with
  | some pair => .error (.tierNotMonotone .pro .free pair)
  | none =>
    match QuotaTable.firstLoss? e.pro e.enterprise with
    | some pair => .error (.tierNotMonotone .enterprise .pro pair)
    | none => .ok ()

def verifiedEntry : LogEntry := .plain .debug logger "Subscription tiers verified monotonic"

def verified (e : Entitlements) : Logged (Except Fault Unit) :=
  match e.verify with
  | .ok () => ⟨.ok (), [verifiedEntry]⟩
  | .error f => ⟨.error f, []⟩

/-- Layered tables that passed the check. -/
def make (free proAdditions enterpriseAdditions : QuotaTable) :
    Logged (Except Fault Entitlements) :=
  let e := layered free proAdditions enterpriseAdditions
  e.verified.map fun check => check.map fun _ => e

end Entitlements

end TenantAccess
