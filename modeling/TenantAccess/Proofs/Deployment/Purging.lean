import Mathlib.Data.List.Induction
import TenantAccess.Proofs.Deployment.ReadYourWrites

/-! # Purges under way

A purge lists the rows of an entity, deletes them one after another, and drops the snapshot of their
organization once it has deleted the last. In between other clients write, delete, read and drop as they
like. A row that is no longer at the version at which it was listed ends the purge, and then nothing is
dropped: the rows that were deleted before are gone from the matrix, and a snapshot that was held when
the purge began still shows them. While others leave the entity's rows alone, no purge ends that way.
-/

namespace TenantAccess

namespace Happening

/-- It leaves the snapshot that is held for an organization, or that none is. -/
def Spares (organizationId : String) (h : Happening) : Prop :=
  ∀ d : Deployment, (d.after h).guard.snapshots.entries.get? organizationId =
    d.guard.snapshots.entries.get? organizationId

/-- It leaves the rows of an entity at their versions. -/
def Leaves (kind : EntityKind) (entityId : String) (h : Happening) : Prop :=
  ∀ (d : Deployment) (role : String),
    (d.after h).directory.matrix.version ⟨kind, entityId, role⟩ =
      d.directory.matrix.version ⟨kind, entityId, role⟩

end Happening

/-- A purge among other clients. -/
structure Purging where
  deployment : Deployment
  purge : Purge
  /-- What its caller was told, once it has ended. -/
  outcome : Option (Except Fault (List Row))
  /-- The organization whose snapshot it has dropped. -/
  dropped : Option String

/-- What happens next. -/
inductive PurgeMove where
  /-- The purge deletes its next row, or finishes after the last. -/
  | proceed
  | other (h : Happening)

namespace Deployment

/-- Put another matrix in. -/
def withMatrix (d : Deployment) (matrix : MatrixStore) : Deployment :=
  { d with directory := { d.directory with matrix } }

/-- The deployment once a write has come to something. -/
def settling {α : Type} (d : Deployment) (w : Written α) : Deployment :=
  { d.withMatrix w.store with
    guard := { d.guard with snapshots := (w.settle d.guard.snapshots).value } }

end Deployment

theorem MatrixStore.of_delete_error {s : MatrixStore} {key : RowKey} {v : Int} {f : Fault}
    (failed : s.delete key (some v) = .error f) :
    s.version key ≠ some v ∧ (f = .rowNotFound ∨ f = .versionConflict (some v) (s.version key)) := by
  unfold delete at failed
  cases found : s.get? key with
  | none =>
      simp only [found] at failed
      cases failed
      exact ⟨by simp [version, found], .inl rfl⟩
  | some held =>
      simp only [found] at failed
      split at failed
      · next differs =>
          cases failed
          rw [version_of_get? found]
          exact ⟨differs, .inr rfl⟩
      · cases failed

namespace Purge

/-- The key of a row of the entity. -/
def keyOf (p : Purge) (row : Row) : RowKey := ⟨p.kind, p.entityId, row.role⟩

/-- What a purge that has deleted its last row comes to. -/
def finished (p : Purge) (s : MatrixStore) : Written (List Row) :=
  ⟨.ok p.removed, s, p.outdated, p.entries⟩

/-- What a purge comes to if nobody else does anything. -/
def remaining (p : Purge) (s : MatrixStore) : Written (List Row) :=
  match p.deleteAll s p.pending with
  | (.error f, next) => ⟨.error f, next, none, []⟩
  | (.ok done, next) => done.finished next

/-- The purge once a row has been deleted. -/
def past (p : Purge) (row : Row) (rest : List Row) : Purge :=
  { p with pending := rest, removed := p.removed ++ [row] }

/-- Either the next listed row has been changed, or it is deleted and the purge goes on. -/
theorem deleteNext_cases (p : Purge) (row : Row) (rest : List Row) (s : MatrixStore) :
    (∃ f, p.deleteNext row rest s = .error f ∧ s.version (p.keyOf row) ≠ some row.version ∧
      (f = .rowNotFound ∨ f = .versionConflict (some row.version) (s.version (p.keyOf row)))) ∨
    ∃ held, p.deleteNext row rest s = .ok (p.past held rest, ⟨s.rows.erase (p.keyOf row)⟩) ∧
      s.get? (p.keyOf row) = some held ∧ held.version = row.version := by
  cases done : s.delete (p.keyOf row) (some row.version) with
  | error f =>
      obtain ⟨changed, told⟩ := MatrixStore.of_delete_error done
      exact .inl ⟨f, congrArg (Except.map _) done, changed, told⟩
  | ok found =>
      obtain ⟨next, held⟩ := found
      obtain ⟨found, current, rfl⟩ := MatrixStore.delete_eq_ok_iff.mp done
      exact .inr ⟨held, congrArg (Except.map _) done, found, (Option.some.inj current).symm⟩

end Purge

namespace Purging

variable {p : Purging} {d : Deployment} {kind : EntityKind} {entityId organizationId : String}

/-- A purge that has listed its rows. -/
def start (d : Deployment) (kind : EntityKind) (entityId organizationId : String) : Purging :=
  ⟨d, .start d.directory.matrix kind entityId organizationId, none, none⟩

/-- The rows as they are now. -/
def matrix (p : Purging) : MatrixStore := p.deployment.directory.matrix

/-- The purge goes on; one that has ended does not. -/
def proceed (p : Purging) : Purging :=
  match p.outcome with
  | some _ => p
  | none =>
    match p.purge.pending with
    | [] =>
      { p with
        deployment := p.deployment.settling (p.purge.finished p.matrix)
        outcome := some (.ok p.purge.removed)
        dropped := p.purge.outdated }
    | row :: rest =>
      match p.purge.deleteNext row rest p.matrix with
      | .error f => { p with outcome := some (.error f) }
      | .ok (purge, matrix) => { p with deployment := p.deployment.withMatrix matrix, purge }

/-- The state after a move. -/
def after (p : Purging) : PurgeMove → Purging
  | .proceed => p.proceed
  | .other h => { p with deployment := p.deployment.after h }

/-- The state after a run. -/
def afterAll (p : Purging) (run : List PurgeMove) : Purging := run.foldl after p

/-! ## One step -/

/-- All that a purge can do when its turn comes. -/
inductive Proceeds (p : Purging) : Purging → Prop
  | ended (told : p.outcome ≠ none) : Proceeds p p
  | finished (running : p.outcome = none) (last : p.purge.pending = []) :
      Proceeds p { p with
        deployment := p.deployment.settling (p.purge.finished p.matrix)
        outcome := some (.ok p.purge.removed)
        dropped := p.purge.outdated }
  /-- The row is at the version at which it was listed. -/
  | deleted {row held : Row} {rest : List Row} (running : p.outcome = none)
      (following : p.purge.pending = row :: rest) (found : p.matrix.get? (p.purge.keyOf row) = some held)
      (current : held.version = row.version) :
      Proceeds p { p with
        deployment := p.deployment.withMatrix ⟨p.matrix.rows.erase (p.purge.keyOf row)⟩
        purge := p.purge.past held rest }
  /-- The row has been changed since, or is gone. -/
  | failed {row : Row} {rest : List Row} {f : Fault} (running : p.outcome = none)
      (following : p.purge.pending = row :: rest)
      (changed : p.matrix.version (p.purge.keyOf row) ≠ some row.version)
      (told : f = .rowNotFound ∨
        f = .versionConflict (some row.version) (p.matrix.version (p.purge.keyOf row))) :
      Proceeds p { p with outcome := some (.error f) }

theorem proceed_of_told (told : p.outcome ≠ none) : p.proceed = p := by
  cases answered : p.outcome with
  | none => exact absurd answered told
  | some answer => simp only [proceed, answered]

theorem proceed_of_last (running : p.outcome = none) (last : p.purge.pending = []) :
    p.proceed = { p with
      deployment := p.deployment.settling (p.purge.finished p.matrix)
      outcome := some (.ok p.purge.removed)
      dropped := p.purge.outdated } := by
  simp only [proceed, running, last]

section

variable {row : Row} {rest : List Row} (running : p.outcome = none)
  (following : p.purge.pending = row :: rest)

include running following

theorem proceed_of_error {f : Fault} (stops : p.purge.deleteNext row rest p.matrix = .error f) :
    p.proceed = { p with outcome := some (.error f) } := by
  simp only [proceed, running, following, stops]

theorem proceed_of_ok {purge : Purge} {next : MatrixStore}
    (goes : p.purge.deleteNext row rest p.matrix = .ok (purge, next)) :
    p.proceed = { p with deployment := p.deployment.withMatrix next, purge } := by
  simp only [proceed, running, following, goes]

end

theorem proceeds (p : Purging) : p.Proceeds p.proceed := by
  by_cases running : p.outcome = none
  · cases following : p.purge.pending with
    | nil =>
        rw [proceed_of_last running following]
        exact .finished running following
    | cons row rest =>
        cases p.purge.deleteNext_cases row rest p.matrix with
        | inl stopped =>
            obtain ⟨f, stops, changed, told⟩ := stopped
            rw [proceed_of_error running following stops]
            exact .failed running following changed told
        | inr gone =>
            obtain ⟨held, goes, found, current⟩ := gone
            rw [proceed_of_ok running following goes]
            exact .deleted running following found current
  · rw [proceed_of_told running]
    exact .ended running

/-! ## Nobody else -/

theorem afterAll_of_told (told : p.outcome ≠ none) (turns : Nat) :
    p.afterAll (List.replicate turns .proceed) = p := by
  induction turns with
  | zero => rfl
  | succ turns ih =>
      rw [List.replicate_succ, afterAll, List.foldl_cons, after, proceed_of_told told]
      exact ih

/-- A purge that goes on alone comes to what it comes to in one go. -/
theorem afterAll_alone (running : p.outcome = none) (undropped : p.dropped = none) :
    let alone := p.afterAll (List.replicate (p.purge.pending.length + 1) .proceed)
    let written := p.purge.remaining p.matrix
    alone.deployment = p.deployment.settling written ∧ alone.outcome = some written.answer ∧
      alone.dropped = written.outdated := by
  generalize listed : p.purge.pending = rows
  induction rows generalizing p with
  | nil =>
      intro alone written
      have comes : written = p.purge.finished p.matrix := by
        simp only [written, Purge.remaining, listed]
        rfl
      have ended : alone = p.proceed := rfl
      rw [ended, proceed_of_last running listed, comes]
      exact ⟨rfl, rfl, rfl⟩
  | cons row rest ih =>
      intro alone written
      have turns : alone = p.proceed.afterAll (List.replicate (rest.length + 1) .proceed) := rfl
      cases p.purge.deleteNext_cases row rest p.matrix with
      | inl stopped =>
          obtain ⟨f, stops, -⟩ := stopped
          have comes : written = ⟨.error f, p.matrix, none, []⟩ := by
            simp only [written, Purge.remaining, listed, Purge.deleteAll, stops]
          have stopped : alone = { p with outcome := some (.error f) } := by
            rw [turns, proceed_of_error running listed stops]
            exact afterAll_of_told (by simp) _
          rw [stopped, comes]
          exact ⟨rfl, rfl, undropped⟩
      | inr gone =>
          obtain ⟨held, goes, -⟩ := gone
          let p' : Purging := { p with
            deployment := p.deployment.withMatrix ⟨p.matrix.rows.erase (p.purge.keyOf row)⟩
            purge := p.purge.past held rest }
          have comes : written = p'.purge.remaining p'.matrix := by
            simp only [written, Purge.remaining, listed, Purge.deleteAll, goes]
            rfl
          rw [turns, proceed_of_ok running listed goes, comes]
          exact ih (p := p') running undropped rfl

theorem alone_is_call (d : Deployment) (kind : EntityKind) (entityId organizationId : String) :
    let p := start d kind entityId organizationId
    let alone := p.afterAll (List.replicate (p.purge.pending.length + 1) .proceed)
    let written := d.directory.matrix.purge kind entityId organizationId
    alone.deployment = d.afterCall (.purge kind entityId organizationId) ∧
      alone.outcome = some written.answer ∧ alone.dropped = written.outdated :=
  afterAll_alone rfl rfl

/-! ## Whatever else happens -/

/-- The versions at which rows were deleted, and those at which rows are still to be deleted. -/
def versions (p : Purging) : List Int :=
  p.purge.removed.map (·.version) ++ p.purge.pending.map (·.version)

/-- A purge keeps to its organization and to the versions that it listed. -/
theorem listed_after (p : Purging) (m : PurgeMove) :
    (p.after m).purge.organizationId = p.purge.organizationId ∧ (p.after m).versions = p.versions := by
  cases m with
  | other h => exact ⟨rfl, rfl⟩
  | proceed =>
      have step : p.Proceeds (p.after .proceed) := p.proceeds
      generalize p.after .proceed = next at step
      cases step with
      | ended | finished | failed => exact ⟨rfl, rfl⟩
      | deleted running following found current =>
          refine ⟨rfl, ?_⟩
          simp [versions, Purge.past, following, current]

theorem listed_afterAll (p : Purging) (run : List PurgeMove) :
    (p.afterAll run).purge.organizationId = p.purge.organizationId ∧
      (p.afterAll run).versions = p.versions := by
  induction run generalizing p with
  | nil => exact ⟨rfl, rfl⟩
  | cons m rest ih =>
      obtain ⟨about, same⟩ := p.listed_after m
      obtain ⟨about', same'⟩ := ih (p.after m)
      exact ⟨about'.trans about, same'.trans same⟩

/-- How a purge stands: what its caller was told, and what it has dropped. -/
inductive Stands (p : Purging) : Prop
  | running (running : p.outcome = none) (undropped : p.dropped = none)
  | failed {f : Fault} (told : p.outcome = some (.error f)) (undropped : p.dropped = none)
      (known : f = .rowNotFound ∨ ∃ expected current, f = .versionConflict expected current)
  | finished (told : p.outcome = some (.ok p.purge.removed)) (dropped : p.dropped = p.purge.outdated)
      (last : p.purge.pending = [])

theorem Stands.undropped (stands : p.Stands) (running : p.outcome = none) : p.dropped = none := by
  cases stands with
  | running _ undropped => exact undropped
  | failed _ undropped => exact undropped
  | finished told => cases running.symm.trans told

theorem Stands.after (stands : p.Stands) (m : PurgeMove) : (p.after m).Stands := by
  cases m with
  | other h =>
      cases stands with
      | running running undropped => exact .running running undropped
      | failed told undropped known => exact .failed told undropped known
      | finished told dropped last => exact .finished told dropped last
  | proceed =>
      have step : p.Proceeds (p.after .proceed) := p.proceeds
      generalize p.after .proceed = next at step
      cases step with
      | ended => exact stands
      | finished running last => exact .finished rfl rfl last
      | deleted running => exact .running running (stands.undropped running)
      | failed running following changed told =>
          have undropped := stands.undropped running
          apply Stands.failed
          · rfl
          · exact undropped
          · exact told.imp_right fun stale => ⟨_, _, stale⟩

theorem Stands.afterAll (stands : p.Stands) (run : List PurgeMove) : (p.afterAll run).Stands := by
  induction run generalizing p with
  | nil => exact stands
  | cons m rest ih => exact ih (stands.after m)

/-! ## What stays in the cache -/

/-- What is held for an organization. -/
def heldFor (p : Purging) (organizationId : String) : Option (CacheEntry Snapshot) :=
  p.deployment.guard.snapshots.entries.get? organizationId

/-- Until a purge drops a snapshot, it is held as before. -/
theorem Stands.held_after (stands : p.Stands) {m : PurgeMove} {other : String}
    (spared : ∀ h, m = .other h → h.Spares other) (undropped : (p.after m).dropped = none) :
    p.dropped = none ∧ (p.after m).heldFor other = p.heldFor other := by
  cases m with
  | other h => exact ⟨undropped, spared h rfl p.deployment⟩
  | proceed =>
      have step : p.Proceeds (p.after .proceed) := p.proceeds
      generalize p.after .proceed = next at step undropped ⊢
      cases step with
      | ended => exact ⟨undropped, rfl⟩
      | finished running last =>
          refine ⟨stands.undropped running, ?_⟩
          have fresh : p.purge.outdated = none := undropped
          simp only [heldFor, Deployment.settling, Written.settle, Purge.finished, fresh]
      | deleted running => exact ⟨undropped, rfl⟩
      | failed running => exact ⟨undropped, rfl⟩

theorem Stands.held_afterAll (stands : p.Stands) {run : List PurgeMove} {other : String}
    (spared : ∀ h, .other h ∈ run → h.Spares other) (undropped : (p.afterAll run).dropped = none) :
    (p.afterAll run).heldFor other = p.heldFor other := by
  induction run using List.reverseRecOn with
  | nil => rfl
  | append_singleton run last ih =>
      have snoc : p.afterAll (run ++ [last]) = (p.afterAll run).after last := by
        simp only [Purging.afterAll, List.foldl_append, List.foldl_cons, List.foldl_nil]
      rw [snoc] at undropped ⊢
      obtain ⟨before, same⟩ := (stands.afterAll run).held_after
        (fun h this => spared h (by simp [this])) undropped
      exact same.trans (ih (fun h member => spared h (by simp [member])) before)

/-! ## Undisturbed purges -/

/-- The rows that are still to be deleted are there as they were listed. -/
structure Current (kind : EntityKind) (entityId : String) (p : Purging) : Prop where
  about : p.purge.kind = kind ∧ p.purge.entityId = entityId
  distinct : (p.purge.pending.map p.purge.keyOf).Nodup
  held : ∀ row ∈ p.purge.pending, p.matrix.version (p.purge.keyOf row) = some row.version
  unfailed : ∀ f, p.outcome ≠ some (.error f)

theorem current_start {d : Deployment} (filed : d.directory.matrix.Filed) (kind : EntityKind)
    (entityId organizationId : String) :
    (start d kind entityId organizationId).Current kind entityId := by
  have listed := Purge.pending_start d.directory.matrix kind entityId organizationId
  have own : ∀ row ∈ (Purge.start d.directory.matrix kind entityId organizationId).pending,
      row ∈ d.directory.matrix.rows.values ∧ (⟨kind, entityId, row.role⟩ : RowKey) = row.key := by
    intro row pending
    rw [listed] at pending
    obtain ⟨stored, ours⟩ := List.mem_filter.mp pending
    obtain ⟨-, rfl, rfl⟩ := of_decide_eq_true ours
    exact ⟨stored, rfl⟩
  refine ⟨⟨rfl, rfl⟩, ?_, ?_, fun f told => by cases told⟩
  · have keys := List.map_congr_left fun row pending => (own row pending).2
    have distinct := filed.distinct.sublist
      (List.filter_sublist (p := (·.isOf kind entityId organizationId)) |>.map Row.key)
    rw [← listed, ← keys] at distinct
    exact distinct
  · intro row pending
    obtain ⟨stored, key⟩ := own row pending
    have found := MatrixStore.version_of_get? (filed.get?_key stored)
    rw [← key] at found
    exact found

theorem Current.after (current : p.Current kind entityId) {m : PurgeMove}
    (left : ∀ h, m = .other h → h.Leaves kind entityId) : (p.after m).Current kind entityId := by
  cases m with
  | other h =>
      obtain ⟨⟨rfl, rfl⟩, distinct, held, unfailed⟩ := current
      refine ⟨⟨rfl, rfl⟩, distinct, fun row pending => ?_, unfailed⟩
      exact (left h rfl p.deployment row.role).trans (held row pending)
  | proceed =>
      have step : p.Proceeds (p.after .proceed) := p.proceeds
      generalize p.after .proceed = next at step
      cases step with
      | ended => exact current
      | finished running last =>
          refine ⟨current.about, current.distinct, by simp [last], ?_⟩
          intro f told
          cases told
      | @deleted row held rest running following =>
          have distinct := current.distinct
          rw [following] at distinct
          obtain ⟨unseen, distinct⟩ := List.nodup_cons.mp distinct
          refine ⟨current.about, distinct, fun other pending => ?_, current.unfailed⟩
          have differ : p.purge.keyOf other ≠ p.purge.keyOf row :=
            fun same => unseen (same ▸ List.mem_map_of_mem pending)
          have listed : other ∈ p.purge.pending := following ▸ List.mem_cons_of_mem row pending
          have there := current.held other listed
          have kept : MatrixStore.get? ⟨p.matrix.rows.erase (p.purge.keyOf row)⟩ (p.purge.keyOf other) =
              p.matrix.get? (p.purge.keyOf other) :=
            (p.matrix.get?_erase _ _).trans (if_neg differ)
          exact (congrArg (Option.map _) kept).trans there
      | failed running following changed => exact absurd (current.held _ (by simp [following])) changed

theorem Current.afterAll (current : p.Current kind entityId) {run : List PurgeMove}
    (left : ∀ h, .other h ∈ run → h.Leaves kind entityId) :
    (p.afterAll run).Current kind entityId := by
  induction run generalizing p with
  | nil => exact current
  | cons m rest ih =>
      apply ih (current.after fun h this => left h (by simp [this]))
      exact fun h member => left h (List.mem_cons_of_mem _ member)

/-! ## What a purge leaves behind -/

/-- However a purge is interleaved with other clients, it drops the snapshot of its organization exactly
if it deletes all the rows that it listed, and there were some. A purge that fails drops nothing, however
many rows it has deleted by then, so that a snapshot stays held which others do not touch. It fails only
if others touch the rows of its entity; without others it does what it does in one go. -/
theorem dropped_iff (d : Deployment) (kind : EntityKind) (entityId organizationId : String)
    (run : List PurgeMove) :
    let before := start d kind entityId organizationId
    let p := before.afterAll run
    (p.dropped = some organizationId ↔ ∃ rows, p.outcome = some (.ok rows) ∧ rows ≠ []) ∧
      (∀ rows, p.outcome = some (.ok rows) →
        rows.map (·.version) = before.purge.pending.map (·.version)) ∧
      (∀ f, p.outcome = some (.error f) → p.dropped = none ∧
        (f = .rowNotFound ∨ ∃ expected current, f = .versionConflict expected current)) ∧
      (p.dropped = none → ∀ other, (∀ h, .other h ∈ run → h.Spares other) →
        p.heldFor other = before.heldFor other) ∧
      (d.directory.matrix.Filed → (∀ h, .other h ∈ run → h.Leaves kind entityId) →
        ∀ f, p.outcome ≠ some (.error f)) ∧
      (run = List.replicate (before.purge.pending.length + 1) .proceed →
        p.deployment = d.afterCall (.purge kind entityId organizationId)) := by
  intro before p
  have stands : p.Stands := (Stands.running rfl rfl : before.Stands).afterAll run
  have about : p.purge.organizationId = organizationId := (before.listed_afterAll run).1
  have listed : p.versions = before.purge.pending.map (·.version) := (before.listed_afterAll run).2
  refine ⟨?_, ?_, ?_, ?_, ?_, ?_⟩
  · cases stands with
    | running running undropped => simp [running, undropped]
    | failed told undropped => simp [told, undropped]
    | finished told dropped => simp [told, dropped, Purge.outdated, about]
  · intro rows told
    cases stands with
    | running running => cases running.symm.trans told
    | failed told' => cases told'.symm.trans told
    | finished told' dropped last =>
        cases told'.symm.trans told
        simpa [versions, last] using listed
  · intro f told
    cases stands with
    | running running => cases running.symm.trans told
    | failed told' undropped known =>
        cases told'.symm.trans told
        exact ⟨undropped, known⟩
    | finished told' => cases told'.symm.trans told
  · intro undropped other spared
    exact Stands.held_afterAll (.running rfl rfl) spared undropped
  · intro filed left
    exact ((current_start filed kind entityId organizationId).afterAll left).unfailed
  · intro alone
    have call := (alone_is_call d kind entityId organizationId).1
    rw [← alone] at call
    exact call

end Purging

namespace Sample

def viewerRule : Row := ⟨.team, "t-1", "org-1", "viewer", .empty, 1, true⟩

def memberRule : Row := ⟨.team, "t-1", "org-1", "member", .empty, 1, true⟩

/-- A team has two rows, and a snapshot that shows them is held. -/
def ruled : Deployment :=
  let guard := Guard.empty .standard .standard ⟨fun _ => Role.standard, 0, none⟩ false
  let shown := Snapshot.gather ⟨"org-1", "Org"⟩ [] [⟨"t-1", "org-1", none⟩] [viewerRule, memberRule]
  let held := guard.snapshots.entries.put "org-1" ⟨shown, 0⟩
  let rows := [viewerRule, memberRule].map fun row => (row.key, row)
  .assemble { guard with snapshots := { guard.snapshots with entries := held } }
    ⟨.empty, ⟨.ofList rows⟩⟩ .empty .empty true

end Sample

open Sample in
/-- The purge has deleted the first row when somebody else writes or deletes the second, and so it fails.
The first row is gone, and whoever reads the snapshot is shown it. -/
theorem Purging.fails_undropped :
    let before := start ruled .team "t-1" "org-1"
    let rewritten := before.afterAll [.proceed, .other (.store (.set memberRule (some 1))), .proceed]
    let deleted :=
      before.afterAll [.proceed, .other (.store (.delete memberRule.key (some 1))), .proceed]
    let shown (p : Purging) := ((Deployment.readSnapshot "org-1" none).answer p.deployment).toOption.map
      (·.rows.values)
    (rewritten.outcome = some (.error (.versionConflict (some 1) (some 2))) ∧
        rewritten.purge.removed = [viewerRule] ∧ rewritten.dropped = none ∧
        rewritten.matrix.get? viewerRule.key = none ∧
        shown rewritten = some [viewerRule, memberRule]) ∧
      deleted.outcome = some (.error .rowNotFound) ∧ deleted.purge.removed = [viewerRule] ∧
      deleted.dropped = none ∧ deleted.matrix.listFor "org-1" = [] ∧
      shown deleted = some [viewerRule, memberRule] := by
  intro before rewritten deleted shown
  refine ⟨⟨rfl, ?_, ?_, ?_, ?_⟩, rfl, ?_, ?_, ?_, ?_⟩ <;> decide +kernel

end TenantAccess
