import TenantAccess.Hierarchy.Chain
import TenantAccess.Log.Entry
import TenantAccess.Role.Basic

/-! # Resolution

Which override holds for a role and a pair at a place in the hierarchy. At each level the
role's own row speaks first; where it is silent, a row that denies a higher role binds the
role too, the nearest higher role first. Inner levels replace outer ones, unless a level
forbids rules further down.
-/

namespace TenantAccess

/-- What happened at a level. -/
inductive StepStatus where
  | noRule
  | applied
  | appliedInherited
  /-- There is a rule, and a level above forbids it. -/
  | ignoredLocked
  deriving Repr, DecidableEq, Inhabited

namespace StepStatus

def name : StepStatus → String
  | .noRule => "no_rule"
  | .applied => "applied"
  | .appliedInherited => "applied_inherited"
  | .ignoredLocked => "ignored_locked"

end StepStatus

/-- What a walk found at one level. -/
structure ChainStep where
  level : Level
  status : StepStatus
  role : Option String
  version : Option Int
  locksChildren : Bool
  deriving Repr, DecidableEq

/-- The effective rule and how it came about. -/
structure Resolution (ρ : Type) where
  /-- The rule, if any level has one. -/
  override : Option ρ
  /-- One step per level, outermost first. -/
  steps : List ChainStep
  deriving Repr, DecidableEq

/-- The rule that governs a level. -/
structure Governing (ρ : Type) where
  row : Row
  rule : ρ
  inherited : Bool
  deriving Repr, DecidableEq

/-- A denial of a higher role, with that role's rank. -/
structure HigherDenial (ρ : Type) where
  rank : Int
  row : Row
  rule : ρ
  deriving Repr, DecidableEq

/-- How the rows of a snapshot answer one question. -/
structure Reading (ρ : Type) where
  rule? : Row → Option ρ
  isDeny : ρ → Bool

/-- Rows that are asked for a pair. -/
def Reading.ofPair (pair : Pair) : Reading Override := ⟨fun row => row.ruleFor pair, Override.isDeny⟩

namespace Snapshot

variable {ρ : Type}

/-- The rank of a row's role, if it is above the given one. -/
def higherRank? (roles : RoleTable) (role : String) (roleLevel : Int) (row : Row) : Option Int :=
  if row.role = role then none
  else
    match RoleTable.levelOf? roles row.role with
    | none => none
    | some rank => if rank ≤ roleLevel then none else some rank

/-- The denial that a row holds for a role above the given one. -/
def higherDenial? (roles : RoleTable) (role : String) (roleLevel : Int) (reading : Reading ρ)
    (row : Row) : Option (HigherDenial ρ) :=
  match higherRank? roles role roleLevel row with
  | none => none
  | some rank =>
    match reading.rule? row with
    | none => none
    | some rule => if reading.isDeny rule then some ⟨rank, row, rule⟩ else none

/-- Keep the denial of the lower rank; the earlier one on a tie. -/
def nearer (best next : Option (HigherDenial ρ)) : Option (HigherDenial ρ) :=
  match best, next with
  | none, next => next
  | best, none => best
  | some b, some n => if n.rank < b.rank then some n else some b

/-- The denial of the nearest higher role among some rows. -/
def nearestDenial (roles : RoleTable) (role : String) (roleLevel : Int) (reading : Reading ρ)
    (rows : List Row) : Option (HigherDenial ρ) :=
  rows.foldl (fun best row => nearer best (higherDenial? roles role roleLevel reading row)) none

/-- The rule of the role's own row at a level. -/
def ownRule? (s : Snapshot) (level : Level) (role : String) (reading : Reading ρ) :
    Option (Governing ρ) :=
  (s.row? level.kind level.entityId role).bind fun row =>
    (reading.rule? row).map fun rule => ⟨row, rule, false⟩

/-- The rule that governs a role at a level. A role without a rank inherits nothing. -/
def governing? (s : Snapshot) (roles : RoleTable) (role : String) (reading : Reading ρ)
    (level : Level) : Option (Governing ρ) :=
  match s.ownRule? level role reading with
  | some g => some g
  | none =>
    match RoleTable.levelOf? roles role with
    | none => none
    | some roleLevel =>
      (nearestDenial roles role roleLevel reading (s.rowsAt level.kind level.entityId)).map
        fun d => ⟨d.row, d.rule, true⟩

end Snapshot

namespace Resolution

variable {ρ : Type}

/-- Walk the levels inwards. `locked` says that a level above forbids further rules, and
`effective` is the rule that holds so far. -/
def walk (governing? : Level → Option (Governing ρ)) :
    Bool → Option ρ → List Level → Resolution ρ
  | _, effective, [] => ⟨effective, []⟩
  | locked, effective, level :: inner =>
    match governing? level with
    | none =>
      let rest := walk governing? locked effective inner
      ⟨rest.override, ⟨level, .noRule, none, none, false⟩ :: rest.steps⟩
    | some g =>
      if locked then
        let rest := walk governing? locked effective inner
        ⟨rest.override,
          ⟨level, .ignoredLocked, some g.row.role, some g.row.version, false⟩ :: rest.steps⟩
      else
        let locks := !g.row.allowsChildren
        let status := if g.inherited then .appliedInherited else .applied
        let rest := walk governing? locks (some g.rule) inner
        ⟨rest.override,
          ⟨level, status, some g.row.role, some g.row.version, locks⟩ :: rest.steps⟩

/-- The outermost level that took effect and closed the levels below. -/
def lockedAt (r : Resolution ρ) : Option ChainStep :=
  r.steps.find? fun step =>
    step.locksChildren && (step.status == .applied || step.status == .appliedInherited)

def logger : String := "authzcore.permissions.hierarchy"

def ignoredEntry (level : Level) : LogEntry :=
  .plain .debug logger
    ("Override at " ++ level.kind.name ++ " " ++ level.entityId ++ " ignored: parent rule is final")

def entries (r : Resolution ρ) : List LogEntry :=
  (r.steps.filter (·.status == .ignoredLocked)).map fun step => ignoredEntry step.level

end Resolution

namespace Snapshot

/-- The override for a role and a pair at a department or team, with the walk behind it. -/
def resolve (s : Snapshot) (roles : RoleTable) (maxDepth : Int) (organizationId : String)
    (departmentId teamId : Option String) (role : String) (pair : Pair) :
    Except Fault (Resolution Override) := do
  let levels ← s.levels maxDepth organizationId departmentId teamId
  return Resolution.walk (s.governing? roles role (.ofPair pair)) false none levels

end Snapshot

end TenantAccess
