import TenantAccess.Proofs.Matrix.Calls

/-! # What calls come to

A purge lists rows and then deletes them one after another, each at the version that was listed.
While every row stands under its own key none of these deletions fails, so the purge comes out as one
filter of the store. With that, a call has four outcomes: it is refused and changes nothing, it
stores a row, it deletes one, or it takes out all rows of an entity.
-/

namespace TenantAccess

namespace Table

variable {κ ν : Type} [DecidableEq κ]

/-- Dropping keys one after another keeps the rows of all others. -/
theorem rows_foldl_erase (keys : List κ) (t : Table κ ν) :
    (keys.foldl erase t).rows = t.rows.filter fun row => decide (row.1 ∉ keys) := by
  induction keys generalizing t with
  | nil => simp
  | cons key rest ih =>
      rw [List.foldl_cons, ih, erase, filter, List.filter_filter]
      simp [Bool.and_comm]

omit [DecidableEq κ] in
theorem values_filter (t : Table κ ν) (keep : ν → Bool) :
    (t.filter fun _ value => keep value).values = t.values.filter keep := by
  rw [values, values, filter, List.filter_map]
  rfl

omit [DecidableEq κ] in
theorem eq_of_rows {s t : Table κ ν} (same : s.rows = t.rows) : s = t := by
  cases s
  cases t
  cases same
  rfl

theorem get?_filter (t : Table κ ν) (keep : κ → ν → Bool) (key : κ) :
    (t.filter keep).get? key = (t.get? key).filter (keep key) := by
  refine Option.ext fun value => ?_
  rw [Option.filter_eq_some_iff]
  constructor
  · intro held
    obtain ⟨member, kept⟩ := List.mem_filter.mp (mem_rows_of_get? held)
    exact ⟨get?_of_mem_rows member, kept⟩
  · rintro ⟨held, kept⟩
    exact get?_of_mem_rows (List.mem_filter.mpr ⟨mem_rows_of_get? held, kept⟩)

end Table

/-- The row is about an entity and belongs to an organization. -/
def Row.isOf (row : Row) (kind : EntityKind) (entityId organizationId : String) : Bool :=
  row.organizationId = organizationId ∧ row.kind = kind ∧ row.entityId = entityId

namespace MatrixStore

variable {s : MatrixStore} {row : Row}

theorem Filed.get?_key (filed : s.Filed) (member : row ∈ s.rows.values) :
    s.get? row.key = some row := by
  obtain ⟨key, held⟩ := Table.mem_values_iff.mp member
  have own : row.key = key := filed held
  rwa [own]

theorem Filed.distinct (filed : s.Filed) : (s.rows.values.map Row.key).Nodup := by
  have own : s.rows.values.map Row.key = s.rows.keys := by
    rw [Table.values, Table.keys, List.map_map]
    exact List.map_congr_left fun row member => filed (Table.get?_of_mem_rows member)
  rw [own]
  exact s.rows.keys_nodup

theorem get?_filter (s : MatrixStore) (keep : Row → Bool) (key : RowKey) :
    get? ⟨s.rows.filter fun _ row => keep row⟩ key = (s.get? key).filter keep :=
  s.rows.get?_filter _ key

/-- Among some of the rows, a key finds the row that is stored under it. -/
theorem Filed.find?_key (filed : s.Filed) (keep : Row → Bool) (key : RowKey) :
    (s.rows.values.filter keep).find? (·.key = key) = (s.get? key).filter keep := by
  cases found : (s.rows.values.filter keep).find? (·.key = key) with
  | some row =>
      have own : row.key = key := by simpa using List.find?_some found
      obtain ⟨member, kept⟩ := List.mem_filter.mp (List.mem_of_find?_eq_some found)
      rw [← own, filed.get?_key member]
      exact (Option.filter_some_pos kept).symm
  | none =>
      symm
      refine Option.eq_none_iff_forall_ne_some.mpr fun row held => ?_
      obtain ⟨stored, kept⟩ := Option.filter_eq_some_iff.mp held
      have member : row ∈ s.rows.values.filter keep :=
        List.mem_filter.mpr ⟨Table.mem_values_iff.mpr ⟨key, stored⟩, kept⟩
      have absent := List.find?_eq_none.mp found row member
      exact absent (decide_eq_true (filed stored))

end MatrixStore

namespace Purge

variable {s : MatrixStore}

theorem pending_start (s : MatrixStore) (kind : EntityKind) (entityId organizationId : String) :
    (start s kind entityId organizationId).pending =
      s.rows.values.filter (·.isOf kind entityId organizationId) := by
  rw [start, MatrixStore.listFor, List.filter_filter]
  refine List.filter_congr fun row _ => ?_
  simp [Row.isOf, Bool.and_comm, Bool.and_left_comm]

/-- Rows that are there, each under its own key, are all deleted. -/
theorem deleteAll_of_held (p : Purge) {rows : List Row}
    (entity : ∀ row ∈ rows, row.kind = p.kind ∧ row.entityId = p.entityId)
    (held : ∀ row ∈ rows, s.get? row.key = some row) (distinct : (rows.map Row.key).Nodup) :
    p.deleteAll s rows =
      (.ok { p with pending := [], removed := p.removed ++ rows },
        ⟨(rows.map Row.key).foldl Table.erase s.rows⟩) := by
  induction rows generalizing p s with
  | nil => simp [deleteAll]
  | cons row rest ih =>
      obtain ⟨unseen, distinct⟩ := List.nodup_cons.mp distinct
      have key : (⟨p.kind, p.entityId, row.role⟩ : RowKey) = row.key := by
        obtain ⟨kind, entityId⟩ := entity row List.mem_cons_self
        rw [← kind, ← entityId]
        rfl
      have done : s.delete row.key (some row.version) = .ok (⟨s.rows.erase row.key⟩, row) :=
        MatrixStore.delete_eq_ok_iff.mpr ⟨held row List.mem_cons_self, rfl, rfl⟩
      have later : ∀ other ∈ rest,
          MatrixStore.get? ⟨s.rows.erase row.key⟩ other.key = some other := by
        intro other member
        rw [MatrixStore.get?_erase, if_neg]
        · exact held other (List.mem_cons_of_mem _ member)
        · rintro same
          exact unseen (same ▸ List.mem_map_of_mem member)
      have goes := ih { p with pending := rest, removed := p.removed ++ [row] }
        (fun other member => entity other (List.mem_cons_of_mem _ member)) later distinct
      simp only [deleteAll, deleteNext, key, done, Except.map, goes]
      simp

end Purge

namespace MatrixStore

variable {s : MatrixStore}

/-- A purge takes out the rows of an entity in an organization, and never fails. -/
theorem purge_eq (filed : s.Filed) (kind : EntityKind) (entityId organizationId : String) :
    let gone := s.rows.values.filter (·.isOf kind entityId organizationId)
    s.purge kind entityId organizationId =
      ⟨.ok gone, ⟨s.rows.filter fun _ row => !row.isOf kind entityId organizationId⟩,
        if gone.isEmpty then none else some organizationId,
        if gone.isEmpty then [] else [purgedEntry kind entityId gone.length]⟩ := by
  intro gone
  have entity : ∀ row ∈ gone, row.kind = kind ∧ row.entityId = entityId := fun row member =>
    (of_decide_eq_true (List.mem_filter.mp member).2).2
  have held : ∀ row ∈ gone, s.get? row.key = some row := fun row member =>
    filed.get?_key (List.mem_filter.mp member).1
  have distinct : (gone.map Row.key).Nodup :=
    filed.distinct.sublist (List.filter_sublist.map Row.key)
  have remaining : (gone.map Row.key).foldl Table.erase s.rows =
      s.rows.filter fun _ row => !row.isOf kind entityId organizationId := by
    refine Table.eq_of_rows ?_
    rw [Table.rows_foldl_erase, Table.filter]
    refine List.filter_congr fun entry member => ?_
    obtain ⟨key, row⟩ := entry
    have here : s.get? key = some row := Table.get?_of_mem_rows member
    have listed : key ∈ gone.map Row.key ↔ row.isOf kind entityId organizationId = true := by
      constructor
      · intro inside
        obtain ⟨other, among, rfl⟩ := List.mem_map.mp inside
        cases here.symm.trans (held other among)
        exact (List.mem_filter.mp among).2
      · intro ours
        have mine : row ∈ gone := List.mem_filter.mpr ⟨Table.mem_values_iff.mpr ⟨key, here⟩, ours⟩
        exact List.mem_map.mpr ⟨row, mine, filed here⟩
    simp [listed]
  have listed := Purge.pending_start s kind entityId organizationId
  have ended := (Purge.start s kind entityId organizationId).deleteAll_of_held entity held distinct
  rw [remaining] at ended
  simp only [purge, listed]
  rw [ended]
  rfl

end MatrixStore

namespace MatrixCall

variable {s : MatrixStore} {openByDefault : Bool} {c : MatrixCall}

/-- What a call comes to. -/
inductive Outcome (openByDefault : Bool) (s : MatrixStore) (c : MatrixCall) :
    Written (List Row) → Prop where
  | refused (f : Fault) : Outcome openByDefault s c (s.unchanged f)
  /-- A vetted row is stored over the version that the writer expects. -/
  | stored {w : RowWrite} {row next : Row} (writes : c.rowWrite? s = some w)
      (vetted : MatrixStore.vetRow openByDefault w = .ok row)
      (current : s.version w.key = w.expected)
      (counted : next = { row with version := w.expected.getD 0 + 1 }) :
      Outcome openByDefault s c ⟨.ok [next], ⟨s.rows.put w.key next⟩, some w.organizationId,
        [MatrixStore.storedEntry next]⟩
  | removed {key : RowKey} {row : Row} (named : c = .remove key (some row.version))
      (held : s.get? key = some row) :
      Outcome openByDefault s c ⟨.ok [row], ⟨s.rows.erase key⟩, some row.organizationId,
        [MatrixStore.deletedEntry key]⟩
  | purged {kind : EntityKind} {entityId organizationId : String} {gone : List Row}
      (named : c = .purge kind entityId organizationId)
      (listed : gone = s.rows.values.filter (·.isOf kind entityId organizationId)) :
      Outcome openByDefault s c
        ⟨.ok gone, ⟨s.rows.filter fun _ row => !row.isOf kind entityId organizationId⟩,
          if gone.isEmpty then none else some organizationId,
          if gone.isEmpty then [] else [MatrixStore.purgedEntry kind entityId gone.length]⟩

theorem outcome_written (filed : s.Filed) (openByDefault : Bool) (c : MatrixCall) :
    Outcome openByDefault s c (c.written openByDefault s) := by
  have upserted {w : RowWrite} (writes : c.rowWrite? s = some w) :
      Outcome openByDefault s c (c.written openByDefault s) := by
    rw [written_of_rowWrite? openByDefault writes]
    rcases s.upsert_cases openByDefault w with ⟨f, refused⟩ | ⟨row, after, next, vetted, done, ok⟩
    · rw [refused]
      exact .refused f
    · obtain ⟨current, counted, rfl⟩ := MatrixStore.compareAndSet_eq_ok_iff.mp done
      rw [ok]
      rw [MatrixStore.nextVersion_get?] at counted
      rw [MatrixStore.key_of_vetRow vetted] at counted current ⊢
      exact .stored writes vetted current (current ▸ counted)
  cases c with
  | upsert w => exact upserted rfl
  | setRule w => exact upserted rfl
  | remove key expected =>
      simp only [written]
      rcases s.remove_cases key expected with ⟨f, refused⟩ | ⟨after, row, done, ok⟩
      · rw [refused]
        exact .refused f
      · obtain ⟨held, rfl, rfl⟩ := MatrixStore.delete_eq_ok_iff.mp done
        rw [ok]
        exact .removed rfl held
  | purge kind entityId organizationId =>
      simp only [written]
      rw [MatrixStore.purge_eq filed]
      exact .purged rfl rfl

/-- A call that is refused changes nothing. -/
theorem written_of_refused (filed : s.Filed) {f : Fault}
    (refused : (c.written openByDefault s).answer = .error f) :
    c.written openByDefault s = s.unchanged f := by
  have outcome := outcome_written filed openByDefault c
  generalize c.written openByDefault s = w at outcome refused ⊢
  cases outcome with
  | refused =>
      cases refused
      rfl
  | stored | removed | purged => cases refused

end MatrixCall

end TenantAccess
