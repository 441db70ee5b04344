import TenantAccess.Deployment
import TenantAccess.Proofs.Matrix.Outcomes

/-! # Isolation of organizations

Rows are filed by entity and role, and listed by organization. A writer who names the key and
the version of another organization's row therefore takes the row over, and only the writer's own
organization is told. No other call reaches across: a purge lists before it deletes, and a row
that was not taken over stays where it was.
-/

namespace TenantAccess

namespace MatrixStore

variable {s : MatrixStore} {openByDefault : Bool} {w : RowWrite} {held : Row} {other : String}

/-- A sound write at the key and the version of a stored row. -/
structure Replaces (s : MatrixStore) (w : RowWrite) (held : Row) : Prop where
  ids : checkIds w = .ok ()
  rules : ∃ rules, Submission.vet w.rules = .ok rules
  found : s.get? w.key = some held
  current : w.expected = some held.version

theorem Replaces.upsert (replaces : s.Replaces w held) (openByDefault : Bool) :
    ∃ stored : Row, stored.organizationId = w.organizationId ∧
      (s.upsert openByDefault w).store = ⟨s.rows.put w.key stored⟩ := by
  obtain ⟨rules, vetted⟩ := replaces.rules
  have ok : vetRow openByDefault w = .ok _ :=
    vetRow_eq_ok_iff.mpr ⟨replaces.ids, rules, vetted, rfl⟩
  have current : s.version w.key = w.expected :=
    (version_of_get? replaces.found).trans replaces.current.symm
  rw [upsert_of_current ok current]
  exact ⟨_, rfl, rfl⟩

/-- The organization whose row is replaced by one of another loses it. -/
theorem Replaces.lost (replaces : s.Replaces w held) (filed : s.Filed) (openByDefault : Bool)
    (foreign : w.organizationId ≠ held.organizationId) :
    held ∈ s.listFor held.organizationId ∧
      held ∉ (s.upsert openByDefault w).store.listFor held.organizationId := by
  obtain ⟨stored, owner, after⟩ := replaces.upsert openByDefault
  refine ⟨mem_listFor_iff.mpr ⟨rfl, w.key, replaces.found⟩, ?_⟩
  rw [after]
  exact not_mem_listFor_put filed replaces.found (owner ▸ foreign)

/-- A write that replaces no row of an organization leaves it what it has. -/
theorem listFor_upsert (openByDefault : Bool) (differ : w.organizationId ≠ other)
    (spared : ¬ ∃ held, s.Replaces w held ∧ held.organizationId = other) :
    (s.upsert openByDefault w).store.listFor other = s.listFor other := by
  rcases s.upsert_cases openByDefault w with ⟨f, refused⟩ |
    ⟨row, after, stored, vetted, done, result⟩
  · rw [refused]
    rfl
  · obtain ⟨current, counted, rfl⟩ := compareAndSet_eq_ok_iff.mp done
    rw [result]
    refine listFor_put ?_ fun held found => ?_
    · rw [counted]
      exact (organizationId_of_vetRow vetted) ▸ differ
    · intro owned
      rw [key_of_vetRow vetted] at found current
      obtain ⟨ids, rules, sound, -⟩ := vetRow_eq_ok_iff.mp vetted
      refine spared ⟨held, ⟨ids, ⟨rules, sound⟩, found, ?_⟩, owned⟩
      exact current.symm.trans (version_of_get? found)

end MatrixStore

/-- A purge leaves the rows of other organizations. -/
theorem MatrixStore.listFor_purge {s : MatrixStore} {mine other : String} (filed : s.Filed)
    (kind : EntityKind) (entityId : String) (differ : mine ≠ other) :
    (s.purge kind entityId mine).store.listFor other = s.listFor other := by
  rw [purge_eq filed]
  simp only [listFor, Table.values_filter, List.filter_filter]
  refine List.filter_congr fun row _ => ?_
  by_cases theirs : row.organizationId = other
  · simp [Row.isOf, theirs, Ne.symm differ]
  · simp [theirs]

namespace MatrixCall

variable {s : MatrixStore} {c : MatrixCall} {mine other : String}

/-- The call replaces a row that an organization has. -/
def Takes (c : MatrixCall) (s : MatrixStore) (other : String) : Prop :=
  ∃ w held, c.rowWrite? s = some w ∧ s.Replaces w held ∧ held.organizationId = other

theorem organizationId_of_rowWrite? {w : RowWrite} (writes : c.rowWrite? s = some w)
    (carries : c.organizationId? = some mine) : w.organizationId = mine := by
  cases c with
  | upsert => cases writes; cases carries; rfl
  | setRule => cases writes; cases carries; rfl
  | remove => cases writes
  | purge => cases writes

/-- What a call takes from an organization is listed for it before and not after. -/
theorem Takes.lost (takes : c.Takes s other) (filed : s.Filed) (openByDefault : Bool)
    (carries : c.organizationId? = some mine) (differ : mine ≠ other) :
    ∃ held ∈ s.listFor other, held ∉ (c.written openByDefault s).store.listFor other := by
  obtain ⟨w, held, writes, replaces, rfl⟩ := takes
  rw [store_of_rowWrite? openByDefault writes]
  have foreign : w.organizationId ≠ held.organizationId := by
    rw [organizationId_of_rowWrite? writes carries]
    exact differ
  exact ⟨held, replaces.lost filed openByDefault foreign⟩

theorem listFor_written (filed : s.Filed) (openByDefault : Bool)
    (carries : c.organizationId? = some mine) (differ : mine ≠ other)
    (spared : ¬ c.Takes s other) :
    (c.written openByDefault s).store.listFor other = s.listFor other := by
  have upserted {w : RowWrite} (writes : c.rowWrite? s = some w) :
      (s.upsert openByDefault w).store.listFor other = s.listFor other := by
    refine MatrixStore.listFor_upsert openByDefault ?_ fun ⟨held, replaces, owned⟩ =>
      spared ⟨w, held, writes, replaces, owned⟩
    rw [organizationId_of_rowWrite? writes carries]
    exact differ
  cases c with
  | upsert w => exact upserted rfl
  | setRule w => exact upserted rfl
  | remove => cases carries
  | purge kind entityId organizationId =>
      cases carries
      exact MatrixStore.listFor_purge filed kind entityId differ

/-- At most the snapshot of the organization that was named is out of date. -/
theorem outdated_written (filed : s.Filed) (openByDefault : Bool)
    (carries : c.organizationId? = some mine) :
    (c.written openByDefault s).outdated = none ∨
      (c.written openByDefault s).outdated = some mine := by
  have outcome := outcome_written filed openByDefault c
  generalize c.written openByDefault s = w at outcome ⊢
  cases outcome with
  | refused => exact .inl rfl
  | stored writes => exact .inr (congrArg some (organizationId_of_rowWrite? writes carries))
  | removed named =>
      subst named
      cases carries
  | @purged kind entityId organizationId gone named listed =>
      subst named
      cases carries
      cases gone with
      | nil => exact .inl rfl
      | cons row rest => exact .inr rfl

end MatrixCall

/-- A snapshot has the rows of a list and no others. -/
def Snapshot.Shows (s : Snapshot) (rows : List Row) : Prop :=
  ∀ row, row ∈ s.rows.values ↔ row ∈ rows

/-- Finishing a write leaves the snapshots of the organizations that it does not name. -/
theorem Written.held_settle {α : Type} {w : Written α} {mine other : String}
    (named : w.outdated = none ∨ w.outdated = some mine) (differ : mine ≠ other)
    (snapshots : Cache Snapshot) :
    (w.settle snapshots).value.entries.get? other = snapshots.entries.get? other := by
  rcases named with fresh | outdated
  · simp only [settle, fresh]
  · simp only [settle, outdated, Cache.drop, Table.get?_erase, if_neg (Ne.symm differ)]

namespace Deployment

variable {d : Deployment} {c : MatrixCall} {mine other : String}

/-- The deployment after a call of a writer. -/
def afterCall (d : Deployment) (c : MatrixCall) : Deployment :=
  (write (c.written d.openByDefault)).next d

theorem held_afterCall (filed : d.directory.matrix.Filed) (carries : c.organizationId? = some mine) (differ : mine ≠ other) :
    (d.afterCall c).guard.snapshots.entries.get? other =
      d.guard.snapshots.entries.get? other :=
  Written.held_settle (c.outdated_written filed d.openByDefault carries) differ d.guard.snapshots

/-- Whoever writes for one organization leaves the rows of another as they are, unless the call
replaces a row that the other has. The other's cached snapshot stays in any case, so it is then
that it goes wrong, and only then. -/
theorem isolated_iff (reachable : d.directory.matrix.Reachable)
    (carries : c.organizationId? = some mine) (differ : mine ≠ other) :
    let before := d.directory.matrix.listFor other
    let after := (d.afterCall c).directory.matrix.listFor other
    (after = before ↔ ¬ c.Takes d.directory.matrix other) ∧
      (d.afterCall c).guard.snapshots.entries.get? other =
        d.guard.snapshots.entries.get? other ∧
      ∀ entry, d.guard.snapshots.entries.get? other = some entry → entry.value.Shows before →
        (entry.value.Shows after ↔ ¬ c.Takes d.directory.matrix other) := by
  intro before after
  have filed := reachable.filed
  have lost (takes : c.Takes d.directory.matrix other) : ∃ held ∈ before, held ∉ after :=
    takes.lost filed d.openByDefault carries differ
  have kept (spared : ¬ c.Takes d.directory.matrix other) : after = before :=
    MatrixCall.listFor_written filed d.openByDefault carries differ spared
  refine ⟨⟨fun same takes => ?_, kept⟩, held_afterCall filed carries differ, fun entry _ shows =>
    ⟨fun still takes => ?_, fun spared => ?_⟩⟩
  · obtain ⟨held, listed, gone⟩ := lost takes
    rw [same] at gone
    exact gone listed
  · obtain ⟨held, listed, gone⟩ := lost takes
    exact gone ((still held).mp ((shows held).mpr listed))
  · rw [kept spared]
    exact shows

end Deployment

namespace Sample

/-- A write without rules at a team that two organizations both call by one name. -/
def teamWrite (organizationId : String) (expected : Option Int) : RowWrite :=
  ⟨.team, "t-1", organizationId, "viewer", [], expected, none⟩

def theirRow : Row := ⟨.team, "t-1", "org-2", "viewer", .empty, 1, true⟩

def shown : Snapshot := .gather ⟨"org-2", "Other"⟩ [] [⟨"t-1", "org-2", none⟩] [theirRow]

/-- The second organization has its row, and a snapshot that shows it. -/
def shared : Deployment :=
  let guard := Guard.empty .standard .standard ⟨fun _ => Role.standard, 0, none⟩ false
  let held := guard.snapshots.entries.put "org-2" ⟨shown, 0⟩
  .assemble { guard with snapshots := { guard.snapshots with entries := held } }
    ⟨.empty, ((MatrixCall.upsert (teamWrite "org-2" none)).written true .empty).store⟩
    .empty .empty true

end Sample

open Sample in
/-- The first organization takes the row, and the second still has its snapshot of it. -/
theorem Deployment.upsert_takes_row :
    let c := MatrixCall.upsert (teamWrite "org-1" (some 1))
    shared.directory.matrix.Reachable ∧
      c.organizationId? = some "org-1" ∧
      shared.directory.matrix.listFor "org-2" = [theirRow] ∧
      (shared.afterCall c).directory.matrix.listFor "org-2" = [] ∧
      ((shared.afterCall c).guard.snapshots.entries.get? "org-2").map (·.value.rows.values) =
        some [theirRow] :=
  ⟨.call true _ .empty, rfl, by decide, by decide, by decide⟩

open Sample in
/-- A purge of the team for the first organization leaves the row of the second. -/
theorem Deployment.isolated_purge :
    let c := MatrixCall.purge .team "t-1" "org-1"
    shared.directory.matrix.Reachable ∧ c.organizationId? = some "org-1" ∧ "org-1" ≠ "org-2" ∧
      (shared.afterCall c).directory.matrix.listFor "org-2" =
        shared.directory.matrix.listFor "org-2" := by
  have reachable : shared.directory.matrix.Reachable := .call true _ .empty
  have differ : "org-1" ≠ "org-2" := by decide
  refine ⟨reachable, rfl, differ, (isolated_iff reachable rfl differ).1.mpr ?_⟩
  rintro ⟨w, held, writes, -⟩
  cases writes

end TenantAccess
