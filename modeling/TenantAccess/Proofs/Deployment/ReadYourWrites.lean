import TenantAccess.Proofs.Cache.Entries
import TenantAccess.Proofs.Matrix.Isolation
import TenantAccess.Proofs.Matrix.Outcomes
import TenantAccess.Proofs.OrgTree.ReadBack

/-! # Reading what was written

A call that changes the matrix drops the snapshot of its organization before the writer is answered.
From then on nothing is held for that organization until its snapshot is read again, whatever happens
meanwhile, so that this read is answered from the directory as it is at that moment, or not at all.
-/

namespace TenantAccess

namespace MatrixCall

variable {s : MatrixStore} {openByDefault : Bool} {c : MatrixCall} {rows : List Row}
  {organizationId : String}

/-- A call that was answered with some rows was about an organization, and changed something. -/
inductive Concerns (organizationId : String) : MatrixCall → List Row → Prop
  | upsert {w : RowWrite} {rows : List Row} (named : w.organizationId = organizationId) :
      Concerns organizationId (.upsert w) rows
  | setRule {w : RuleWrite} {rows : List Row} (named : w.organizationId = organizationId) :
      Concerns organizationId (.setRule w) rows
  | remove {key : RowKey} {expected : Option Int} {row : Row}
      (owned : row.organizationId = organizationId) :
      Concerns organizationId (.remove key expected) [row]
  | purge {kind : EntityKind} {entityId : String} {rows : List Row} (nonempty : rows ≠ []) :
      Concerns organizationId (.purge kind entityId organizationId) rows

theorem outdated_of_concerns (filed : s.Filed) (concerns : c.Concerns organizationId rows)
    (ok : (c.written openByDefault s).answer = .ok rows) :
    (c.written openByDefault s).outdated = some organizationId := by
  have outcome := outcome_written filed openByDefault c
  generalize c.written openByDefault s = w at outcome ok ⊢
  cases outcome with
  | refused => cases ok
  | stored writes =>
      cases concerns with
      | upsert named | setRule named =>
          cases writes
          exact congrArg some named
      | remove | purge => cases writes
  | removed named =>
      cases named
      cases ok
      cases concerns with
      | remove owned => exact congrArg some owned
  | purged named =>
      cases named
      cases ok
      cases concerns with
      | purge nonempty => simp [nonempty]

end MatrixCall

/-- Finishing a write puts nothing into the cache. -/
theorem Written.free_settle {α : Type} {organizationId : String} (w : Written α)
    {snapshots : Cache Snapshot} (free : snapshots.entries.get? organizationId = none) :
    (w.settle snapshots).value.entries.get? organizationId = none := by
  unfold settle
  cases w.outdated with
  | none => exact free
  | some dropped => exact Cache.free_drop dropped free

/-! ## Directories -/

namespace Directory

variable {d : Directory} {organizationId : String}

/-- Rows and trees are filed where they belong, and every tree is well-formed. -/
structure Sound (d : Directory) : Prop where
  rows : d.matrix.Filed
  tree : ∀ id t, d.trees.get? id = some t → t.organization.id = id ∧ t.WellFormed

theorem sound_empty : empty.Sound := ⟨MatrixStore.filed_empty, nofun⟩

theorem Sound.putTree (sound : d.Sound) {t : OrgTree} (wf : t.WellFormed) : (d.putTree t).Sound := by
  refine ⟨sound.rows, fun id found held => ?_⟩
  rw [Directory.putTree, Table.get?_put] at held
  split at held
  · next here =>
      cases held
      exact ⟨here, wf⟩
  · exact sound.tree id found held

theorem Sound.removeTree (sound : d.Sound) (organizationId : String) :
    (d.removeTree organizationId).Sound := by
  refine ⟨sound.rows, fun id found held => ?_⟩
  rw [Directory.removeTree, Table.get?_erase] at held
  split at held
  · cases held
  · exact sound.tree id found held

/-- A snapshot of an organization that has a tree never fails. -/
theorem Sound.snapshot (sound : d.Sound) {t : OrgTree} (planted : d.trees.get? organizationId = some t) :
    d.snapshot organizationId = .ok (t.view (d.matrix.listFor organizationId)) := by
  obtain ⟨here, wf⟩ := sound.tree organizationId t planted
  have ours : ∀ row ∈ d.matrix.listFor organizationId, row.organizationId = t.organization.id :=
    fun row listed => (MatrixStore.mem_listFor_iff.mp listed).1.trans here.symm
  simp only [Directory.snapshot, Directory.tree, planted, bind, Except.bind]
  exact OrgTree.snapshot_of_filed wf.toFiled ours

/-- No row that is listed gets lost on the way into a snapshot, and none comes in. -/
theorem Sound.rows_snapshot (sound : d.Sound) {s : Snapshot}
    (found : d.snapshot organizationId = .ok s) :
    s.rows.values = d.matrix.listFor organizationId := by
  cases planted : d.trees.get? organizationId with
  | none => simp [Directory.snapshot, Directory.tree, planted, bind, Except.bind] at found
  | some t =>
      cases (sound.snapshot planted).symm.trans found
      exact Table.values_ofList (sound.rows.distinct.sublist (List.filter_sublist.map Row.key))

end Directory

/-! ## What happens to a deployment -/

/-- What can happen to a deployment beside requests for access. -/
inductive Happening where
  | call (c : MatrixCall)
  /-- The store is called directly, and no snapshot is dropped. -/
  | store (c : StoreCall)
  /-- The snapshot of an organization is read; fetching it may take time. -/
  | read (organizationId : String) (delay : Option Float)
  | drop (organizationId : String)
  | dropAll
  | advance (seconds : Float)
  /-- A tree comes in, as edits have left it. -/
  | plant (organization : Organization) (maxDepth : Int) (edits : List Edit)
  | fell (organizationId : String)
  | edit (organizationId : String) (e : Edit)
  /-- The directory fails from now on, or is in order again. -/
  | outage (failure : Option FetchFailure)
  /-- The directory takes so long from now on. -/
  | pace (pace : Pace)
  /-- A load of a snapshot ends that its reader had left. -/
  | release

/-- The snapshot of an organization is read. -/
def Happening.Reads (organizationId : String) : Happening → Prop
  | .read other _ => other = organizationId
  | _ => False

namespace Deployment

variable {d : Deployment} {organizationId : String}

/-- Read the snapshot of an organization, as the guard does when it is asked. -/
def readSnapshot (organizationId : String) (delay : Option Float) :
    Step Deployment (Except Fault Snapshot) :=
  onGuard fun s => Guard.onSnapshots <|
    Clocked.get organizationId (Clocked.fetching delay (s.snapshot organizationId))

/-- The deployment after something happened. -/
def after (d : Deployment) : Happening → Deployment
  | .call c => d.afterCall c
  | .store c => { d with directory := { d.directory with matrix := c.next d.directory.matrix } }
  | .read organizationId delay => (readSnapshot organizationId delay).next d
  | .drop organizationId =>
    (onGuard fun _ => Guard.onSnapshots (Clocked.invalidate organizationId)).next d
  | .dropAll => (onGuard fun _ => Guard.onSnapshots Clocked.clear).next d
  | .advance seconds => d.advance seconds
  | .plant organization maxDepth edits =>
    { d with directory := d.directory.putTree ((OrgTree.empty organization maxDepth).afterAll edits) }
  | .fell organizationId => { d with directory := d.directory.removeTree organizationId }
  | .edit organizationId e => (Deployment.edit organizationId e).next d
  | .outage failure => { d with directoryOutage := failure }
  | .pace pace => { d with directoryPace := pace }
  | .release => (onGuard fun _ => Guard.onSnapshots Clocked.release).next d

/-- The deployment after a run. -/
def afterAll (d : Deployment) (run : List Happening) : Deployment := run.foldl after d

theorem edit_cases (d : Deployment) (organizationId : String) (e : Edit) :
    (Deployment.edit organizationId e).next d = d ∨
      ∃ t, d.directory.trees.get? organizationId = some t ∧
        (Deployment.edit organizationId e).next d =
          { d with directory := d.directory.putTree (Edit.after t e) } := by
  simp only [Step.next, Deployment.edit, Directory.tree]
  cases planted : d.directory.trees.get? organizationId with
  | none => exact .inl rfl
  | some t =>
      cases ran : e.steps.on t with
      | mk answer next =>
          cases answer with
          | error f =>
              left
              simp only [Edit.apply, ran]
              rfl
          | ok answer =>
              right
              refine ⟨t, rfl, ?_⟩
              simp only [Edit.apply, Edit.after, ran]

theorem sound_after (sound : d.directory.Sound) (h : Happening) : (d.after h).directory.Sound := by
  cases h with
  | call c => exact ⟨MatrixCall.filed_written sound.rows _ c, sound.tree⟩
  | store c => exact ⟨c.filed_next sound.rows, sound.tree⟩
  | read | drop | dropAll | advance | outage | pace | release => exact sound
  | plant organization maxDepth edits =>
      exact sound.putTree ((OrgTree.wellFormed_empty organization maxDepth).afterAll edits)
  | fell organizationId => exact sound.removeTree organizationId
  | edit organizationId e =>
      rcases d.edit_cases organizationId e with same | ⟨t, planted, edited⟩
      · rwa [after, same]
      · rw [after, edited]
        exact sound.putTree ((sound.tree organizationId t planted).2.after e)

theorem sound_afterAll (sound : d.directory.Sound) (run : List Happening) :
    (d.afterAll run).directory.Sound := by
  induction run generalizing d with
  | nil => exact sound
  | cons h rest ih => exact ih (sound_after sound h)

/-- Nothing but a read puts a snapshot into the cache. -/
theorem free_after {h : Happening} (quiet : ¬ h.Reads organizationId)
    (free : d.guard.snapshots.entries.get? organizationId = none) :
    (d.after h).guard.snapshots.entries.get? organizationId = none := by
  cases h with
  | call c => exact Written.free_settle _ free
  | read other delay =>
      have kept := Clocked.held_get d.guard.clockedSnapshots delay (d.sources.snapshot other) quiet
      exact kept.trans free
  | drop other => exact Cache.free_drop other free
  | dropAll => rfl
  | store | advance | plant | fell | outage | pace => exact free
  | release => exact (congrArg (Table.get? · organizationId) d.guard.snapshots.entries_release).trans free
  | edit other e =>
      rcases d.edit_cases other e with same | ⟨t, -, edited⟩
      · rwa [after, same]
      · rw [after, edited]
        exact free

theorem free_afterAll {run : List Happening} (quiet : ∀ h ∈ run, ¬ h.Reads organizationId)
    (free : d.guard.snapshots.entries.get? organizationId = none) :
    (d.afterAll run).guard.snapshots.entries.get? organizationId = none := by
  induction run generalizing d with
  | nil => exact free
  | cons h rest ih =>
      obtain ⟨first, later⟩ := List.forall_mem_cons.mp quiet
      exact ih later (free_after first free)

/-- A call that concerns an organization drops its snapshot. -/
theorem free_afterCall {c : MatrixCall} {rows : List Row} (sound : d.directory.Sound)
    (concerns : c.Concerns organizationId rows)
    (ok : (c.written d.openByDefault d.directory.matrix).answer = .ok rows) :
    (d.afterCall c).guard.snapshots.entries.get? organizationId = none := by
  have outdated := MatrixCall.outdated_of_concerns sound.rows concerns ok
  change ((c.written d.openByDefault d.directory.matrix).settle _).value.entries.get? _ = none
  simp only [Written.settle, outdated]
  exact (Cache.held_drop ..).trans (if_pos rfl)

/-- A call that is refused leaves the deployment as it was. -/
theorem afterCall_of_refused {c : MatrixCall} {f : Fault} (sound : d.directory.Sound)
    (refused : (c.written d.openByDefault d.directory.matrix).answer = .error f) :
    d.afterCall c = d := by
  have unchanged := MatrixCall.written_of_refused sound.rows refused
  simp only [afterCall, Step.next, write, unchanged]
  rfl

theorem answering_eq_ok_iff {α : Type} {outage : Option FetchFailure} {answer : Except Fault α} {a : α} :
    answering outage answer = .ok a ↔ outage = none ∧ answer = .ok a := by
  unfold answering
  cases outage with
  | some failure => simp
  | none => cases answer <;> simp [Except.mapError]

theorem told_read (delay : Option Float)
    (free : d.guard.snapshots.entries.get? organizationId = none) :
    Cache.Told (d.guard.snapshots.heard (d.sources.snapshot organizationId))
      ((readSnapshot organizationId delay).answer d) :=
  Clocked.told_get (s := d.guard.clockedSnapshots) free delay (d.sources.snapshot organizationId)

/-- What a reader of a snapshot is told does not come from before. -/
structure ReadsFresh (d : Deployment) (organizationId : String) (answer : Except Fault Snapshot) :
    Prop where
  /-- A snapshot is the directory's own, with just the rows that the matrix lists. -/
  current : ∀ s, answer = .ok s → d.directory.snapshot organizationId = .ok s ∧
    s.rows.values = d.directory.matrix.listFor organizationId
  /-- Otherwise nothing is there, or it is out of reach. -/
  known : ∀ f, answer = .error f → f.isNotFound = true ∨ f.isUnavailable = true
  /-- While nothing is out of order, and what the directory says reaches its readers, an organization
  that has a tree is told of it. -/
  served : ∀ t, d.directory.trees.get? organizationId = some t → d.directoryOutage = none →
    d.guard.snapshots.Hears d.directoryPace →
    answer = .ok (t.view (d.directory.matrix.listFor organizationId))

theorem readsFresh_of_free (sound : d.directory.Sound) (delay : Option Float)
    (free : d.guard.snapshots.entries.get? organizationId = none) :
    d.ReadsFresh organizationId ((readSnapshot organizationId delay).answer d) := by
  have told := told_read delay free
  generalize fetched : d.guard.snapshots.heard (d.sources.snapshot organizationId) = outcome at told
  generalize (readSnapshot organizationId delay).answer d = answer at told ⊢
  constructor
  · intro s ok
    subst ok
    cases told with
    | value =>
        obtain ⟨-, found⟩ := Cache.heard_eq_ok_iff.mp fetched
        obtain ⟨-, found⟩ := answering_eq_ok_iff.mp found
        exact ⟨found, sound.rows_snapshot found⟩
  · intro f failed
    subst failed
    cases told with
    | nothing known => exact known
  · intro t planted inOrder hears
    have found : (d.sources.snapshot organizationId).outcome = .ok _ :=
      answering_eq_ok_iff.mpr ⟨inOrder, sound.snapshot planted⟩
    have heard := Cache.heard_eq_ok_iff.mpr ⟨hears, found⟩
    cases heard.symm.trans fetched
    cases told
    rfl

/-- Once a call that concerns an organization has been answered, the next read of its snapshot finds
what the directory then has, or nothing: what was cached before is not served, however fresh it is.
A call that is refused leaves matrix and caches as they were. -/
theorem read_your_writes {start : Deployment} (bare : start.directory = .empty)
    (before : List Happening) (c : MatrixCall) :
    let d := start.afterAll before
    let answer := (write (c.written d.openByDefault)).answer d
    (∀ f, answer = .error f → d.afterCall c = d) ∧
      ∀ rows organizationId between delay, answer = .ok rows → c.Concerns organizationId rows →
        (∀ h ∈ between, ¬ h.Reads organizationId) →
        let now := (d.afterCall c).afterAll between
        now.ReadsFresh organizationId ((readSnapshot organizationId delay).answer now) := by
  intro d answer
  have sound : d.directory.Sound := sound_afterAll (bare ▸ Directory.sound_empty) before
  refine ⟨fun f refused => afterCall_of_refused sound refused, ?_⟩
  intro rows organizationId between delay ok concerns quiet now
  have later : now.directory.Sound := sound_afterAll (sound_after sound (.call c)) between
  apply readsFresh_of_free later delay
  exact free_afterAll quiet (free_afterCall sound concerns ok)

end Deployment

namespace Sample

/-- A snapshot is cached from before there were any rows. -/
def outdated : Deployment :=
  let guard := Guard.empty .standard .standard ⟨fun _ => Role.standard, 0, none⟩ false
  let held := guard.snapshots.entries.put "org-1" ⟨.gather ⟨"org-1", "Org"⟩ [] [] [], 0⟩
  .assemble { guard with snapshots := { guard.snapshots with entries := held } } .empty .empty
    .empty true

end Sample

open Sample in
/-- The cached snapshot has no rows, and whoever reads after the write finds one. -/
theorem Deployment.read_your_writes_created :
    let d := outdated.afterAll [.plant ⟨"org-1", "Org"⟩ 3 []]
    let now := (d.afterCall (.upsert (teamWrite "org-1" none))).afterAll [.drop "org-2"]
    outdated.directory = .empty ∧
      (d.guard.snapshots.entries.get? "org-1").map (·.value.rows.values) = some [] ∧
      ∀ s, (readSnapshot "org-1" none).answer now = .ok s →
        s.rows.values = [{ theirRow with organizationId := "org-1" }] := by
  intro d now
  have bare : outdated.directory = .empty := rfl
  have whole := (read_your_writes bare [.plant ⟨"org-1", "Org"⟩ 3 []]
    (.upsert (teamWrite "org-1" none))).2
  have quiet : ∀ h ∈ [Happening.drop "org-2"], ¬ h.Reads "org-1" := by simp [Happening.Reads]
  have fresh := whole _ "org-1" [.drop "org-2"] none rfl (.upsert rfl) quiet
  refine ⟨bare, by decide, fun s read => ?_⟩
  rw [(fresh.current s read).2]
  decide

end TenantAccess
