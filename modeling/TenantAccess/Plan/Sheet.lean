import TenantAccess.Log.Step
import TenantAccess.Plan.Standard

/-! # Sheets of quotas

A sheet lists quotas under keys as a caller wrote them. A key may be no pair, and a text may
stand for the member it names. Sheets are overlaid and compared like tables, and the first
spelling of a key is the one that stays. Plans are made only of sheets whose keys are spelled as
members.
-/

namespace TenantAccess

structure SheetRow where
  resource : Offered Resource
  action : Offered Action
  quota : Option Quota

namespace SheetRow

def key (row : SheetRow) : PairKey := .ofOffered row.resource row.action

def spelled {α : Type} : Offered α → Except Misuse α
  | .member a => .ok a
  | .raw v => .error (.noAttribute v.typeName "value")

/-- The pair, if the key is spelled as one. -/
def pair (row : SheetRow) : Except Misuse Pair := do
  let r ← spelled row.resource
  let a ← spelled row.action
  return ⟨r, a⟩

/-- The row of a pair. -/
def ofPair (pair : Pair) (quota : Option Quota) : SheetRow :=
  ⟨.member pair.resource, .member pair.action, quota⟩

end SheetRow

/-- Quotas by key as a caller wrote them. -/
abbrev QuotaSheet := List SheetRow

namespace QuotaSheet

def ofTable (t : QuotaTable) : QuotaSheet := t.rows.map fun row => .ofPair row.1 row.2

/-- The quotas of a sheet by key; a later row replaces an earlier one. -/
def byKey (s : QuotaSheet) : Table PairKey (Option Quota) :=
  Table.ofList (s.map fun row => (row.key, row.quota))

def byPair (s : QuotaSheet) : QuotaTable :=
  Table.ofList (s.filterMap fun row => row.key.pair?.map fun pair => (pair, row.quota))

/-- The row that brings a key first. -/
def first? (s : QuotaSheet) (key : PairKey) : Option SheetRow := s.find? fun row => row.key == key

/-- The first mistake in the spelling of the keys. -/
def check (s : QuotaSheet) : Except Misuse Unit :=
  (s.byKey.keys.filterMap s.first?).forM fun row => row.pair.map fun _ => ()

/-- What is wrong with a sheet that the one for the next tier does not grant as much. -/
def lossIn? (lowerTier higherTier : Tier) (lower higher : QuotaSheet) : Option Failure :=
  ((QuotaTable.firstLoss? lower.byKey higher.byKey).bind lower.first?).map fun row =>
    match row.pair with
    | .error m => .misuse m
    | .ok pair => .fault (.tierNotMonotone higherTier lowerTier pair)

end QuotaSheet

namespace Entitlements

/-- Check that each sheet grants everything that the sheet of the tier below grants. -/
def verifySheets (free pro enterprise : QuotaSheet) : Logged (Except Failure Unit) :=
  match (QuotaSheet.lossIn? .free .pro free pro).or
      (QuotaSheet.lossIn? .pro .enterprise pro enterprise) with
  | some failure => .quiet (.error failure)
  | none => ⟨.ok (), [verifiedEntry]⟩

/-- Plans layered from sheets: of the free plan, and of what the higher plans add. -/
def ofSheets (free proAdditions enterpriseAdditions : QuotaSheet) :
    Logged (Except Failure Entitlements) :=
  match QuotaSheet.check (free ++ proAdditions ++ enterpriseAdditions) with
  | .error m => .quiet (.error (.misuse m))
  | .ok () =>
    (make free.byPair proAdditions.byPair enterpriseAdditions.byPair).map Failure.ofFault

end Entitlements

end TenantAccess
