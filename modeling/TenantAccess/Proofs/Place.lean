import Mathlib.Data.List.Perm.Subperm
import TenantAccess.Table

/-! # Places in a table

Where the row of a key stands, and what storing and dropping do to the list of rows. Look-ups
alone do not say this; whatever is read off the rows in order needs it.
-/

namespace TenantAccess.Table

variable {κ ν : Type} [DecidableEq κ]

theorem seek_eq_some_iff {key : κ} {value : ν} {rows : List (κ × ν)} :
    seek key rows = some value ↔
      ∃ before after, rows = before ++ (key, value) :: after ∧ key ∉ before.map Prod.fst := by
  induction rows with
  | nil => simp [seek]
  | cons row rest ih =>
      obtain ⟨k, v⟩ := row
      by_cases same : k = key
      · subst same
        simp only [seek, if_true, Option.some.injEq]
        constructor
        · rintro rfl
          exact ⟨[], rest, rfl, by simp⟩
        · rintro ⟨before, after, split, absent⟩
          cases before with
          | nil => simp_all
          | cons first before =>
              obtain ⟨rfl, -⟩ := List.cons.inj split
              exact absurd (by simp) absent
      · simp only [seek, if_neg same, ih]
        constructor
        · rintro ⟨before, after, rfl, absent⟩
          refine ⟨(k, v) :: before, after, rfl, ?_⟩
          simp [absent, Ne.symm same]
        · rintro ⟨before, after, split, absent⟩
          cases before with
          | nil => simp_all
          | cons first before =>
              simp only [List.cons_append, List.cons.injEq] at split
              obtain ⟨rfl, rfl⟩ := split
              exact ⟨before, after, rfl, fun h => absent (by simp [h])⟩

theorem putRow_at {key : κ} (old value : ν) {before : List (κ × ν)} (after : List (κ × ν))
    (absent : key ∉ before.map Prod.fst) :
    putRow key value (before ++ (key, old) :: after) = before ++ (key, value) :: after := by
  induction before with
  | nil => simp [putRow]
  | cons row rest ih =>
      obtain ⟨k, v⟩ := row
      simp only [List.map_cons, List.mem_cons, not_or] at absent
      simp only [List.cons_append, putRow, if_neg (Ne.symm absent.1), ih absent.2]

theorem putRow_new {key : κ} (value : ν) {rows : List (κ × ν)}
    (absent : key ∉ rows.map Prod.fst) : putRow key value rows = rows ++ [(key, value)] := by
  induction rows with
  | nil => rfl
  | cons row rest ih =>
      obtain ⟨k, v⟩ := row
      simp only [List.map_cons, List.mem_cons, not_or] at absent
      simp only [List.cons_append, putRow, if_neg (Ne.symm absent.1), ih absent.2]

/-- Storing under a key that is there changes one place. -/
theorem rows_put_of_get? {t : Table κ ν} {key : κ} {old : ν} (value : ν)
    (held : t.get? key = some old) :
    ∃ before after, t.rows = before ++ (key, old) :: after ∧
      (t.put key value).rows = before ++ (key, value) :: after := by
  obtain ⟨before, after, split, absent⟩ := seek_eq_some_iff.mp held
  refine ⟨before, after, split, ?_⟩
  calc (t.put key value).rows
    _ = putRow key value t.rows := rfl
    _ = before ++ (key, value) :: after := by rw [split, putRow_at old value after absent]

/-- Storing under a key that is not there adds a row at the end. -/
theorem rows_put_of_get?_none {t : Table κ ν} {key : κ} (value : ν) (free : t.get? key = none) :
    (t.put key value).rows = t.rows ++ [(key, value)] :=
  putRow_new value ((get?_eq_none_iff t key).mp free)

theorem keys_put_of_get? {t : Table κ ν} {key : κ} {old : ν} (value : ν)
    (held : t.get? key = some old) : (t.put key value).keys = t.keys := by
  obtain ⟨before, after, split, stored⟩ := rows_put_of_get? value held
  rw [keys, keys, split, stored, List.map_append, List.map_append, List.map_cons, List.map_cons]

theorem keys_erase (t : Table κ ν) (key : κ) :
    (t.erase key).keys = t.keys.filter fun other => other ≠ key := by
  rw [keys, keys, List.filter_map]
  rfl

omit [DecidableEq κ] in
theorem keys_mapValues {μ : Type} (f : κ → ν → μ) (t : Table κ ν) :
    (t.mapValues f).keys = t.keys := by
  simp [keys, mapValues]

theorem get?_of_mem_rows {t : Table κ ν} {key : κ} {value : ν} (h : (key, value) ∈ t.rows) :
    t.get? key = some value := by
  obtain ⟨before, after, split⟩ := List.append_of_mem h
  refine seek_eq_some_iff.mpr ⟨before, after, split, fun absent => ?_⟩
  have distinct := t.keys_nodup
  rw [split, List.map_append, List.map_cons] at distinct
  exact (List.nodup_append.mp distinct).2.2 key absent key (by simp) rfl

theorem mem_rows_of_get? {t : Table κ ν} {key : κ} {value : ν} (held : t.get? key = some value) :
    (key, value) ∈ t.rows := by
  obtain ⟨before, after, split, -⟩ := seek_eq_some_iff.mp held
  simp [split]

theorem mem_values_iff {t : Table κ ν} {value : ν} :
    value ∈ t.values ↔ ∃ key, t.get? key = some value := by
  constructor
  · intro member
    obtain ⟨⟨key, _⟩, row, rfl⟩ := List.mem_map.mp member
    exact ⟨key, get?_of_mem_rows row⟩
  · rintro ⟨key, held⟩
    exact List.mem_map_of_mem (mem_rows_of_get? held)

theorem contains_iff {t : Table κ ν} {key : κ} :
    t.contains key = true ↔ ∃ value, t.get? key = some value := Option.isSome_iff_exists

/-- Different keys that are all there are no more than the rows. -/
theorem length_le_size {t : Table κ ν} {keys : List κ} (distinct : keys.Nodup)
    (held : ∀ key ∈ keys, ∃ value, t.get? key = some value) : keys.length ≤ t.size := by
  have within : keys ⊆ t.rows.map Prod.fst := by
    intro key member
    obtain ⟨value, held⟩ := held key member
    exact List.mem_map_of_mem (mem_rows_of_get? held)
  calc keys.length
    _ ≤ (t.rows.map Prod.fst).length := (distinct.subperm within).length_le
    _ = t.size := List.length_map _

theorem rows_foldl_put (rows : List (κ × ν)) (t : Table κ ν)
    (distinct : ((t.rows ++ rows).map Prod.fst).Nodup) :
    (rows.foldl (fun t row => t.put row.1 row.2) t).rows = t.rows ++ rows := by
  induction rows generalizing t with
  | nil => simp
  | cons row rest ih =>
      have free : t.get? row.1 = none := by
        refine (get?_eq_none_iff t row.1).mpr fun member => ?_
        rw [List.map_append, List.map_cons] at distinct
        exact (List.nodup_append.mp distinct).2.2 row.1 member row.1 (by simp) rfl
      have longer : (t.put row.1 row.2).rows = t.rows ++ [row] := rows_put_of_get?_none row.2 free
      rw [List.foldl_cons, ih _ (by simpa [longer] using distinct), longer, List.append_assoc]
      rfl

/-- Filed again one after another, the rows of a table make the table. -/
theorem ofList_rows (t : Table κ ν) : ofList t.rows = t := by
  have same : (ofList t.rows).rows = t.rows := rows_foldl_put t.rows empty t.keys_nodup
  generalize ofList t.rows = again at same
  cases again
  cases t
  cases same
  rfl

/-- So do its values, where each is filed under a key of its own. -/
theorem ofList_values {t : Table κ ν} (keyOf : ν → κ)
    (filed : ∀ key value, t.get? key = some value → keyOf value = key) :
    ofList (t.values.map fun value => (keyOf value, value)) = t := by
  have same : t.values.map (fun value => (keyOf value, value)) = t.rows := by
    rw [values, List.map_map]
    refine (List.map_congr_left fun row member => ?_).trans (List.map_id t.rows)
    simp [filed row.1 row.2 (get?_of_mem_rows member)]
  rw [same, ofList_rows]

section

variable {t : Table κ ν} {keyOf : ν → κ}

/-- Where each value is filed under a key of its own, the values give back the keys. -/
theorem map_keyOf_values (filed : ∀ key value, t.get? key = some value → keyOf value = key) :
    t.values.map keyOf = t.keys := by
  rw [values, keys, List.map_map]
  refine List.map_congr_left fun row member => ?_
  exact filed row.1 row.2 (get?_of_mem_rows member)

/-- So the values that pass a test have different keys. -/
theorem nodup_map_filter_values
    (filed : ∀ key value, t.get? key = some value → keyOf value = key) (keep : ν → Bool) :
    ((t.values.filter keep).map keyOf).Nodup := by
  have all : (t.values.map keyOf).Nodup := map_keyOf_values filed ▸ t.keys_nodup
  exact all.sublist (List.filter_sublist.map keyOf)

theorem mem_map_filter_values_iff
    (filed : ∀ key value, t.get? key = some value → keyOf value = key) {keep : ν → Bool} {key : κ} :
    key ∈ (t.values.filter keep).map keyOf ↔
      ∃ value, t.get? key = some value ∧ keep value = true := by
  simp only [List.mem_map, List.mem_filter, mem_values_iff]
  constructor
  · rintro ⟨value, ⟨⟨at_key, held⟩, passes⟩, rfl⟩
    rw [filed at_key value held]
    exact ⟨value, held, passes⟩
  · rintro ⟨value, held, passes⟩
    exact ⟨value, ⟨⟨key, held⟩, passes⟩, filed key value held⟩

end

/-- Values with different keys are all filed, in their order. -/
theorem values_ofList {keyOf : ν → κ} {list : List ν} (distinct : (list.map keyOf).Nodup) :
    (ofList (list.map fun value => (keyOf value, value))).values = list := by
  have rows : (ofList (list.map fun value => (keyOf value, value))).rows =
      list.map fun value => (keyOf value, value) := by
    refine rows_foldl_put _ empty ?_
    simpa [empty, Function.comp_def] using distinct
  simp [values, rows, Function.comp_def]

/-- Whatever is found was among the rows that were filed. -/
theorem mem_of_get?_ofList {rows : List (κ × ν)} {key : κ} {value : ν}
    (held : (ofList rows).get? key = some value) : (key, value) ∈ rows := by
  have go (rows : List (κ × ν)) (t : Table κ ν)
      (held : (rows.foldl (fun t row => t.put row.1 row.2) t).get? key = some value) :
      t.get? key = some value ∨ (key, value) ∈ rows := by
    induction rows generalizing t with
    | nil => exact .inl held
    | cons first rest ih =>
        rcases ih (t.put first.1 first.2) held with before | later
        · rw [get?_put] at before
          split at before
          · next here =>
              cases before
              exact .inr (here ▸ List.mem_cons_self)
          · exact .inl before
        · exact .inr (List.mem_cons_of_mem first later)
  rcases go rows empty held with nothing | filed
  · cases nothing
  · exact filed

/-- Values that are filed under keys of their own are found under these. -/
theorem keyOf_of_get?_ofList {keyOf : ν → κ} {list : List ν} {key : κ} {value : ν}
    (held : (ofList (list.map fun value => (keyOf value, value))).get? key = some value) :
    keyOf value = key := by
  obtain ⟨_, -, same⟩ := List.mem_map.mp (mem_of_get?_ofList held)
  obtain ⟨rfl, rfl⟩ := Prod.mk.inj same
  rfl

/-! ## Rows kept by their keys -/

theorem filter_putRow (keep : κ → Bool) (key : κ) (value : ν) (rows : List (κ × ν)) :
    (putRow key value rows).filter (fun row => keep row.1) =
      if keep key then putRow key value (rows.filter fun row => keep row.1)
      else rows.filter fun row => keep row.1 := by
  induction rows with
  | nil => simp only [putRow, List.filter_cons, List.filter_nil]
  | cons row rest ih =>
      obtain ⟨k, v⟩ := row
      by_cases same : k = key
      · subst same
        cases kept : keep k <;> simp [putRow, kept]
      · cases kept : keep k <;> cases stored : keep key <;>
          simp [putRow, same, kept, ih, stored]

theorem filter_put (keep : κ → Bool) (t : Table κ ν) (key : κ) (value : ν) :
    (t.put key value).filter (fun key _ => keep key) =
      if keep key then (t.filter fun key _ => keep key).put key value
      else t.filter fun key _ => keep key := by
  have rows := filter_putRow keep key value t.rows
  cases kept : keep key <;> simp only [kept, if_true, Bool.false_eq_true, if_false] at rows ⊢ <;>
    simp only [Table.filter, put, rows]

/-- Rows may be left out by their keys before they are stored or after. -/
theorem ofList_filter (keep : κ → Bool) (rows : List (κ × ν)) :
    ofList (rows.filter fun row => keep row.1) = (ofList rows).filter fun key _ => keep key := by
  have go (t : Table κ ν) :
      (rows.filter fun row => keep row.1).foldl (fun t row => t.put row.1 row.2)
          (t.filter fun key _ => keep key) =
        (rows.foldl (fun t row => t.put row.1 row.2) t).filter fun key _ => keep key := by
    induction rows generalizing t with
    | nil => rfl
    | cons row rest ih =>
        rw [List.foldl_cons, ← ih, filter_put]
        cases kept : keep row.1 <;> simp [kept]
  exact go empty

/-! ## The same rows in another order -/

theorem get?_of_perm {s t : Table κ ν} (reordered : s.rows.Perm t.rows) (key : κ) :
    s.get? key = t.get? key := by
  refine Option.ext fun value => ⟨fun held => ?_, fun held => ?_⟩
  · exact get?_of_mem_rows (reordered.mem_iff.mp (mem_rows_of_get? held))
  · exact get?_of_mem_rows (reordered.mem_iff.mpr (mem_rows_of_get? held))

theorem sameContents_of_perm {sameValue : ν → ν → Bool} {s t t' : Table κ ν}
    (reordered : t'.rows.Perm t.rows) :
    s.sameContents sameValue t' = s.sameContents sameValue t := by
  simp only [sameContents, size, reordered.length_eq, get?_of_perm reordered]

/-- Bring the rows that pass a test to the front. -/
def bring (first : κ → ν → Bool) (t : Table κ ν) : Table κ ν where
  rows := t.rows.filter (fun row => first row.1 row.2) ++
    t.rows.filter fun row => !first row.1 row.2
  keys_nodup := by
    have reordered := List.filter_append_perm (fun row => first row.1 row.2) t.rows
    exact (reordered.map Prod.fst).nodup_iff.mpr t.keys_nodup

omit [DecidableEq κ] in
theorem rows_bring_perm (first : κ → ν → Bool) (t : Table κ ν) :
    (t.bring first).rows.Perm t.rows := List.filter_append_perm _ _

/-- Tables of the same contents answer alike in all that the values of one key have in common. -/
theorem map_get?_of_sameContents {μ : Type} {sameValue : ν → ν → Bool} {s t : Table κ ν}
    (alike : s.sameContents sameValue t = true) (f : ν → μ)
    (common : ∀ a b, sameValue a b = true → f a = f b) (key : κ) :
    (t.get? key).map f = (s.get? key).map f := by
  simp only [sameContents, Bool.and_eq_true, beq_iff_eq, List.all_eq_true] at alike
  obtain ⟨sizes, values⟩ := alike
  have there {key : κ} {value : ν} (held : s.get? key = some value) :
      ∃ other, t.get? key = some other ∧ sameValue value other = true := by
    have same := values (key, value) (mem_rows_of_get? held)
    cases found : t.get? key with
    | none => simp [found] at same
    | some other => exact ⟨other, rfl, by simpa [found] using same⟩
  cases held : s.get? key with
  | some value =>
      obtain ⟨other, found, same⟩ := there held
      rw [found, Option.map_some, Option.map_some, common value other same]
  | none =>
      -- A key of the second table alone would be one more than there is room for.
      cases found : t.get? key with
      | none => rfl
      | some other =>
          have absent : key ∉ s.keys := (get?_eq_none_iff s key).mp held
          have distinct : (key :: s.keys).Nodup := List.nodup_cons.mpr ⟨absent, s.keys_nodup⟩
          have more := length_le_size (t := t) distinct fun other member => ?_
          · rw [List.length_cons, keys, List.length_map] at more
            change s.size + 1 ≤ t.size at more
            omega
          · rcases List.mem_cons.mp member with rfl | member
            · exact ⟨_, found⟩
            · obtain ⟨row, inside, rfl⟩ := List.mem_map.mp member
              obtain ⟨value, found, -⟩ := there (get?_of_mem_rows inside)
              exact ⟨value, found⟩

end TenantAccess.Table
