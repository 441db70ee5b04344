import TenantAccess.Hierarchy.Resolution
import TenantAccess.Matrix.Submission

/-! # Drafts

A draft is a snapshot with rows that nobody has vetted: a row may list rules under keys that are
no pairs, keys without a rule, and rules that are no overrides. Questions are answered all the
same, from whatever is filed under the key in question, up to the first rule that cannot be read.
-/

namespace TenantAccess

/-- A matrix row with its rules as they were written. -/
structure DraftRow where
  /-- The row, with those of its rules that are sound. -/
  row : Row
  /-- The rules as they were written. -/
  written : Submission

namespace DraftRow

/-- Equality of rows; the order of rules does not matter. -/
def alike (a b : DraftRow) : Bool := a.row.alike b.row && a.written.alike b.written

end DraftRow

/-- A snapshot and the rules of its rows as they were written. -/
structure Draft where
  /-- The snapshot, with the rules that are sound. -/
  snapshot : Snapshot
  /-- The rules as they were written, by row. -/
  written : Table RowKey Submission

/-- What a walk through a draft comes to. -/
structure DraftResolution where
  /-- The walk, as far as it went. -/
  walk : Resolution OfferedRule
  /-- The rule that ended it early: of a higher role, and no override. -/
  stumble : Option Value

namespace Draft

/-- A snapshot together with the rules of its rows as they were written. -/
def ofRows (snapshot : Snapshot) (rows : List DraftRow) : Draft :=
  ⟨snapshot, Table.ofList (rows.map fun r => (r.row.key, r.written))⟩

/-- The rules of a row as they were written. -/
def writtenOf (d : Draft) (row : Row) : Submission := (d.written.get? row.key).getD []

/-- A row of the snapshot with its rules as they were written. -/
def draftRow (d : Draft) (row : Row) : DraftRow := ⟨row, d.writtenOf row⟩

/-- Equality of drafts; the order of records does not matter. -/
def alike (a b : Draft) : Bool :=
  a.snapshot.alike b.snapshot && a.written.sameContents Submission.alike b.written

/-- Rows that are asked for what is written under a key. -/
def reading (d : Draft) (key : RuleKey) : Reading OfferedRule :=
  ⟨fun row => (d.writtenOf row).rule? key, OfferedRule.isDeny⟩

/-- What a row of a higher role holds under a key, if that is no override. -/
def unreadable? (d : Draft) (roles : RoleTable) (role : String) (roleLevel : Int) (key : RuleKey)
    (row : Row) : Option Value := do
  let _ ← Snapshot.higherRank? roles role roleLevel row
  match ← (d.writtenOf row).rule? key with
  | .override _ => none
  | .other v => some v

/-- The first rule of a higher role at a level that is no override. The role's own rule is taken
as it is, and no other is looked at. -/
def stumble? (d : Draft) (roles : RoleTable) (role : String) (key : RuleKey) (level : Level) :
    Option Value :=
  match d.snapshot.ownRule? level role (d.reading key) with
  | some _ => none
  | none => do
    let roleLevel ← RoleTable.levelOf? roles role
    (d.snapshot.rowsAt level.kind level.entityId).findSome? (d.unreadable? roles role roleLevel key)

/-- What holds for a role under a key at a department or team, with the walk behind it. -/
def resolve (d : Draft) (roles : RoleTable) (maxDepth : Int) (organizationId : String)
    (departmentId teamId : Option String) (role : String) (key : RuleKey) :
    Except Fault DraftResolution := do
  let levels ← d.snapshot.levels maxDepth organizationId departmentId teamId
  let stumble := d.stumble? roles role key
  return ⟨Resolution.walk (d.snapshot.governing? roles role (d.reading key)) false none
      (levels.takeWhile fun level => (stumble level).isNone),
    levels.findSome? stumble⟩

end Draft

namespace DraftResolution

/-- A rule that is no override, asked whether it takes access away. -/
def notAnOverride (v : Value) : Misuse := .noAttribute v.typeName "is_deny"

/-- The walk, if it came to its end. -/
def finished (r : DraftResolution) : Except Misuse (Resolution OfferedRule) :=
  match r.stumble with
  | none => .ok r.walk
  | some v => .error (notAnOverride v)

/-- The walk, if it came to its end and what holds is an override or nothing. -/
def sound (r : DraftResolution) : Except Misuse (Resolution Override) :=
  match r.finished with
  | .error m => .error m
  | .ok w =>
    match w.override with
    | none => .ok ⟨none, w.steps⟩
    | some (.override o) => .ok ⟨some o, w.steps⟩
    | some (.other v) => .error (notAnOverride v)

end DraftResolution

end TenantAccess
