/-! # Finite sets of names

A set of names is kept as its names in ascending order of code points, each once.
Equal sets are therefore equal values, and listing a set needs no sorting.
-/

namespace TenantAccess

/-- Names in strictly ascending order. -/
structure NameSet where
  /-- The members, smallest first. -/
  names : List String
  /-- No name occurs twice, and smaller names come first. -/
  ascending : names.Pairwise (· < ·)
  deriving Repr, DecidableEq

namespace NameSet

def empty : NameSet := ⟨[], .nil⟩

instance : Inhabited NameSet := ⟨empty⟩

instance : Membership String NameSet := ⟨fun s name => name ∈ s.names⟩

theorem mem_def (name : String) (s : NameSet) : name ∈ s ↔ name ∈ s.names := Iff.rfl

instance (name : String) (s : NameSet) : Decidable (name ∈ s) :=
  inferInstanceAs (Decidable (name ∈ s.names))

def contains (s : NameSet) (name : String) : Bool := decide (name ∈ s)

def size (s : NameSet) : Nat := s.names.length

/-- Put a name at its place in an ascending list. -/
def place (name : String) : List String → List String
  | [] => [name]
  | first :: rest =>
    if name < first then name :: first :: rest
    else if name = first then first :: rest
    else first :: place name rest

theorem mem_place {other name : String} {names : List String} :
    other ∈ place name names ↔ other = name ∨ other ∈ names := by
  induction names with
  | nil => simp [place]
  | cons first rest ih => grind [place]

theorem ascending_place (name : String) {names : List String}
    (h : names.Pairwise (· < ·)) : (place name names).Pairwise (· < ·) := by
  induction names with
  | nil => simp [place]
  | cons first rest ih =>
    obtain ⟨hfirst, hrest⟩ := List.pairwise_cons.1 h
    by_cases hlt : name < first
    · rw [place, if_pos hlt]
      refine List.pairwise_cons.2 ⟨fun other hmem => ?_, h⟩
      rcases List.mem_cons.1 hmem with rfl | hmem
      · exact hlt
      · exact String.lt_trans hlt (hfirst other hmem)
    · by_cases heq : name = first
      · rw [place, if_neg hlt, if_pos heq]
        exact h
      · rw [place, if_neg hlt, if_neg heq]
        refine List.pairwise_cons.2 ⟨fun other hmem => ?_, ih hrest⟩
        rcases mem_place.1 hmem with rfl | hmem
        · have hle : first ≤ other := String.not_lt.1 hlt
          exact Classical.byContradiction fun hn =>
            heq (String.le_antisymm (String.not_lt.1 hn) hle)
        · exact hfirst other hmem

def insert (s : NameSet) (name : String) : NameSet :=
  ⟨place name s.names, ascending_place name s.ascending⟩

def filter (s : NameSet) (keep : String → Bool) : NameSet :=
  ⟨s.names.filter keep, s.ascending.sublist List.filter_sublist⟩

def erase (s : NameSet) (name : String) : NameSet := s.filter (· ≠ name)

def union (s t : NameSet) : NameSet := t.names.foldl insert s

def inter (s t : NameSet) : NameSet := s.filter t.contains

/-- Whether every member of the first set belongs to the second. -/
def subset (s t : NameSet) : Bool := s.names.all t.contains

/-- The set of the names in a list. -/
def ofList (names : List String) : NameSet := names.foldl insert empty

/-! ## Membership -/

@[simp] theorem not_mem_empty (name : String) : name ∉ empty := by simp [mem_def, empty]

@[simp] theorem mem_insert {s : NameSet} {name other : String} :
    other ∈ s.insert name ↔ other = name ∨ other ∈ s := mem_place

@[simp] theorem mem_filter {s : NameSet} {keep : String → Bool} {name : String} :
    name ∈ s.filter keep ↔ name ∈ s ∧ keep name = true := List.mem_filter

@[simp] theorem mem_erase {s : NameSet} {name other : String} :
    other ∈ s.erase name ↔ other ∈ s ∧ other ≠ name := by simp [erase]

@[simp] theorem contains_iff {s : NameSet} {name : String} : s.contains name = true ↔ name ∈ s := by
  simp [contains]

theorem mem_foldl_insert (names : List String) (s : NameSet) (name : String) :
    name ∈ names.foldl insert s ↔ name ∈ s ∨ name ∈ names := by
  induction names generalizing s with
  | nil => simp
  | cons first rest ih => simp only [List.foldl_cons, ih, mem_insert, List.mem_cons]; grind

@[simp] theorem mem_union {s t : NameSet} {name : String} :
    name ∈ s.union t ↔ name ∈ s ∨ name ∈ t := mem_foldl_insert t.names s name

@[simp] theorem mem_inter {s t : NameSet} {name : String} :
    name ∈ s.inter t ↔ name ∈ s ∧ name ∈ t := by simp [inter]

theorem subset_iff {s t : NameSet} : s.subset t = true ↔ ∀ name, name ∈ s → name ∈ t := by
  simp [subset, mem_def]

@[simp] theorem mem_ofList {names : List String} {name : String} :
    name ∈ ofList names ↔ name ∈ names := by
  rw [ofList, mem_foldl_insert]
  simp

/-- Sets with the same members are equal. -/
theorem ext {s t : NameSet} (h : ∀ name, name ∈ s ↔ name ∈ t) : s = t := by
  have go : ∀ {xs ys : List String}, xs.Pairwise (· < ·) → ys.Pairwise (· < ·) →
      (∀ name, name ∈ xs ↔ name ∈ ys) → xs = ys := by
    intro xs
    induction xs with
    | nil =>
      intro ys _ _ hmem
      cases ys with
      | nil => rfl
      | cons y ys => exact absurd ((hmem y).2 (by simp)) (by simp)
    | cons x xs ih =>
      intro ys hx hy hmem
      cases ys with
      | nil => exact absurd ((hmem x).1 (by simp)) (by simp)
      | cons y ys =>
        obtain ⟨hx1, hx2⟩ := List.pairwise_cons.1 hx
        obtain ⟨hy1, hy2⟩ := List.pairwise_cons.1 hy
        have hxy : x = y := by
          rcases List.mem_cons.1 ((hmem x).1 (by simp)) with e | hxm
          · exact e
          · rcases List.mem_cons.1 ((hmem y).2 (by simp)) with e | hym
            · exact e.symm
            · exact absurd (String.lt_trans (hx1 y hym) (hy1 x hxm)) (String.lt_irrefl x)
        subst hxy
        congr 1
        refine ih hx2 hy2 fun name => ?_
        have := hmem name
        have hxn : name ∈ xs → name ≠ x := fun hm e => String.lt_irrefl x (e ▸ hx1 name hm)
        have hyn : name ∈ ys → name ≠ x := fun hm e => String.lt_irrefl x (e ▸ hy1 name hm)
        grind
  obtain ⟨xs, hxs⟩ := s
  obtain ⟨ys, hys⟩ := t
  have := go hxs hys h
  subst this
  rfl

end NameSet

end TenantAccess
