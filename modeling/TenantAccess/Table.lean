/-! # Insertion-ordered tables

A table holds at most one value per key and keeps its rows in the order in which
the keys first arrived: writing a key that is already there changes its value and
leaves its place. The rows carry the proof that no key occurs twice.
-/

namespace TenantAccess

/-- Rows in insertion order, no key twice. -/
structure Table (κ ν : Type) where
  /-- The rows, oldest key first. -/
  rows : List (κ × ν)
  keys_nodup : (rows.map Prod.fst).Nodup
  deriving Repr, DecidableEq

namespace Table

variable {κ ν μ : Type}

def empty : Table κ ν := ⟨[], List.nodup_nil⟩

instance : Inhabited (Table κ ν) := ⟨empty⟩

def keys (t : Table κ ν) : List κ := t.rows.map Prod.fst

/-- The values, in the order of their keys. -/
def values (t : Table κ ν) : List ν := t.rows.map Prod.snd

def size (t : Table κ ν) : Nat := t.rows.length

/-- Apply a function to every value; keys and places stay. -/
def mapValues (f : κ → ν → μ) (t : Table κ ν) : Table κ μ :=
  ⟨t.rows.map fun row => (row.1, f row.1 row.2), by
    simpa [List.map_map, Function.comp_def] using t.keys_nodup⟩

def filter (keep : κ → ν → Bool) (t : Table κ ν) : Table κ ν :=
  ⟨t.rows.filter fun row => keep row.1 row.2,
    t.keys_nodup.sublist (List.filter_sublist.map Prod.fst)⟩

variable [DecidableEq κ]

/-- The value of the first row with this key. -/
def seek (key : κ) : List (κ × ν) → Option ν
  | [] => none
  | (k, v) :: rest => if k = key then some v else seek key rest

def get? (t : Table κ ν) (key : κ) : Option ν := seek key t.rows

def contains (t : Table κ ν) (key : κ) : Bool := (t.get? key).isSome

/-- Replace the value of the first row with this key, or add a row at the end. -/
def putRow (key : κ) (value : ν) : List (κ × ν) → List (κ × ν)
  | [] => [(key, value)]
  | (k, v) :: rest => if k = key then (k, value) :: rest else (k, v) :: putRow key value rest

theorem keys_putRow (key : κ) (value : ν) (rows : List (κ × ν)) :
    (putRow key value rows).map Prod.fst =
      if key ∈ rows.map Prod.fst then rows.map Prod.fst else rows.map Prod.fst ++ [key] := by
  induction rows with
  | nil => rfl
  | cons row rest ih =>
    obtain ⟨k, v⟩ := row
    by_cases h : k = key
    · subst h; simp [putRow]
    · have h' : ¬ key = k := fun e => h e.symm
      simp only [putRow, if_neg h, List.map_cons, ih, List.mem_cons, h', false_or]
      split <;> rfl

theorem nodup_putRow (key : κ) (value : ν) {rows : List (κ × ν)}
    (h : (rows.map Prod.fst).Nodup) : ((putRow key value rows).map Prod.fst).Nodup := by
  rw [keys_putRow]
  split
  · exact h
  · next hk =>
    refine List.nodup_append.2 ⟨h, by simp, ?_⟩
    intro a ha b hb
    rw [List.mem_singleton] at hb
    subst hb
    intro e
    exact hk (e ▸ ha)

/-- Store a value: in place when the key is there, else as the newest row. -/
def put (t : Table κ ν) (key : κ) (value : ν) : Table κ ν :=
  ⟨putRow key value t.rows, nodup_putRow key value t.keys_nodup⟩

/-- Drop the row of a key, if there is one. -/
def erase (t : Table κ ν) (key : κ) : Table κ ν := t.filter fun k _ => k ≠ key

/-- Write rows one after another; a later value replaces an earlier one of the same key. -/
def ofList (rows : List (κ × ν)) : Table κ ν :=
  rows.foldl (fun t row => t.put row.1 row.2) empty

/-- Equal contents, whatever the order of the rows, under a test on values. -/
def sameContents (sameValue : ν → ν → Bool) (s t : Table κ ν) : Bool :=
  s.size == t.size && s.rows.all fun row =>
    match t.get? row.1 with
    | some value => sameValue row.2 value
    | none => false

/-! ## What each operation does to a look-up -/

theorem seek_putRow (key other : κ) (value : ν) (rows : List (κ × ν)) :
    seek other (putRow key value rows) = if key = other then some value else seek other rows := by
  induction rows with
  | nil => rfl
  | cons row rest ih =>
    obtain ⟨k, v⟩ := row
    by_cases h : k = key <;> by_cases ho : key = other <;> grind [putRow, seek]

theorem seek_eq_none_iff (key : κ) (rows : List (κ × ν)) :
    seek key rows = none ↔ key ∉ rows.map Prod.fst := by
  induction rows with
  | nil => simp [seek]
  | cons row rest ih =>
    obtain ⟨k, v⟩ := row
    by_cases h : k = key
    · simp [seek, h]
    · have h' : ¬ key = k := fun e => h e.symm
      simp [seek, h, h', ih]

@[simp] theorem get?_empty (key : κ) : (empty : Table κ ν).get? key = none := rfl

theorem get?_eq_none_iff (t : Table κ ν) (key : κ) : t.get? key = none ↔ key ∉ t.keys :=
  seek_eq_none_iff key t.rows

theorem get?_put (t : Table κ ν) (key other : κ) (value : ν) :
    (t.put key value).get? other = if key = other then some value else t.get? other :=
  seek_putRow key other value t.rows

@[simp] theorem get?_put_self (t : Table κ ν) (key : κ) (value : ν) :
    (t.put key value).get? key = some value := by
  rw [get?_put, if_pos rfl]

theorem get?_put_of_ne (t : Table κ ν) {key other : κ} (h : key ≠ other) (value : ν) :
    (t.put key value).get? other = t.get? other := by
  rw [get?_put, if_neg h]

theorem get?_erase (t : Table κ ν) (key other : κ) :
    (t.erase key).get? other = if other = key then none else t.get? other := by
  have go (rows : List (κ × ν)) :
      seek other (rows.filter fun row => decide (row.1 ≠ key)) =
        if other = key then none else seek other rows := by
    induction rows with
    | nil => simp [seek]
    | cons row rest ih =>
      obtain ⟨k, v⟩ := row
      by_cases h : k = key <;> by_cases ho : k = other <;> grind [seek]
  exact go t.rows

@[simp] theorem get?_erase_self (t : Table κ ν) (key : κ) : (t.erase key).get? key = none := by
  rw [get?_erase, if_pos rfl]

theorem get?_mapValues (f : κ → ν → μ) (t : Table κ ν) (key : κ) :
    (t.mapValues f).get? key = (t.get? key).map (f key) := by
  have go (rows : List (κ × ν)) :
      seek key (rows.map fun row => (row.1, f row.1 row.2)) = (seek key rows).map (f key) := by
    induction rows with
    | nil => rfl
    | cons row rest ih =>
      obtain ⟨k, v⟩ := row
      by_cases h : k = key <;> grind [seek]
  exact go t.rows

end Table

end TenantAccess
