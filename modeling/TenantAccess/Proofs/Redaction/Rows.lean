import TenantAccess.Redaction.Secret
import Mathlib.Data.List.Forall2

/-! # What a row of pieces takes

A row is read off the front of a text, and what it takes hangs on the classes of its pieces alone. Three
things follow from this, which all that is said of secrets rests on: two texts whose characters no class
tells apart are taken alike; a character that no piece takes ends the row, so that what comes after it does
not matter; and a run at the end of a row goes through all of a word that it may enter.
-/

namespace TenantAccess.Redaction

open TenantAccess.Text

variable {p : Piece} {row front back : List Piece} {cs ds x y word : List Char} {c z : Char}
  {isIn : Char → Bool} {m n : Nat}

theorem takeWhile_append_stop (stops : isIn c = false) (x y : List Char) :
    (x ++ c :: y).takeWhile isIn = x.takeWhile isIn := by
  induction x with
  | nil => simp [stops]
  | cons d x ih => simp only [List.cons_append, List.takeWhile_cons, ih]

theorem length_takeWhile_congr (alike : List.Forall₂ (fun c d => isIn c = isIn d) cs ds) :
    (cs.takeWhile isIn).length = (ds.takeWhile isIn).length := by
  induction alike with
  | nil => rfl
  | cons same rest ih =>
      simp only [List.takeWhile_cons, same]
      split
      · exact congrArg (· + 1) ih
      · rfl

namespace Piece

/-- The characters that a piece can take. -/
def admits : Piece → Char → Bool
  | .one isIn | .maybe isIn | .run _ isIn => isIn

theorem size?_one_eq_some_iff :
    (one isIn).size? cs = some n ↔ ∃ c rest, cs = c :: rest ∧ isIn c = true ∧ n = 1 := by
  cases cs with
  | nil => simp [size?]
  | cons c rest =>
      simp only [size?, Option.ite_none_right_eq_some, Option.some.injEq, List.cons.injEq]
      constructor
      · rintro ⟨taken, rfl⟩
        exact ⟨c, rest, ⟨rfl, rfl⟩, taken, rfl⟩
      · rintro ⟨d, more, ⟨rfl, rfl⟩, taken, rfl⟩
        exact ⟨taken, rfl⟩

theorem size?_run_eq_some_iff {least : Nat} :
    (run least isIn).size? cs = some n ↔ n = (cs.takeWhile isIn).length ∧ least ≤ n := by
  simp only [size?]
  split
  · simp
    omega
  · simp
    omega

theorem size?_le (takes : p.size? cs = some n) : n ≤ cs.length := by
  cases p with
  | one isIn =>
      cases cs with
      | nil => cases takes
      | cons c rest =>
          obtain ⟨-, taken⟩ := Option.ite_none_right_eq_some.mp takes
          cases taken
          simp
  | maybe isIn =>
      cases cs with
      | nil =>
          cases takes
          exact Nat.le_refl 0
      | cons c rest =>
          cases takes
          split <;> simp
  | run least isIn =>
      obtain ⟨-, taken⟩ := Option.ite_none_left_eq_some.mp takes
      cases taken
      exact (List.takeWhile_prefix isIn).length_le

theorem size?_congr (alike : List.Forall₂ (fun c d => p.admits c = p.admits d) cs ds) :
    p.size? cs = p.size? ds := by
  cases p with
  | one isIn =>
      cases alike with
      | nil => rfl
      | cons same rest => exact if_congr (by rw [show isIn _ = isIn _ from same]) rfl rfl
  | maybe isIn =>
      cases alike with
      | nil => rfl
      | cons same rest =>
          exact congrArg some (if_congr (by rw [show isIn _ = isIn _ from same]) rfl rfl)
  | run least isIn =>
      have same : List.Forall₂ (fun c d => isIn c = isIn d) cs ds := alike
      simp only [size?, length_takeWhile_congr same]

/-- Before a character that a piece does not take the rest of a text does not matter. -/
theorem size?_stop (stops : p.admits c = false) (x y : List Char) :
    p.size? (x ++ c :: y) = p.size? x := by
  cases p with
  | one isIn =>
      cases x with
      | nil => exact if_neg (by rw [show isIn c = false from stops]; exact Bool.false_ne_true)
      | cons d x => rfl
  | maybe isIn =>
      cases x with
      | nil => exact congrArg some (if_neg (by rw [show isIn c = false from stops]; exact Bool.false_ne_true))
      | cons d x => rfl
  | run least isIn =>
      have stops : isIn c = false := stops
      simp only [size?, takeWhile_append_stop stops]

/-- A piece that stops within a text does not see what follows. -/
theorem size?_local (takes : p.size? (x ++ y) = some n) (short : n < x.length) (z : List Char) :
    p.size? (x ++ z) = some n := by
  cases x with
  | nil => exact absurd short (Nat.not_lt_zero n)
  | cons c x =>
      cases p with
      | one isIn => exact takes
      | maybe isIn => exact takes
      | run least isIn =>
          obtain ⟨rfl, long⟩ := size?_run_eq_some_iff.mp takes
          refine size?_run_eq_some_iff.mpr ⟨?_, long⟩
          rw [List.takeWhile_append] at short ⊢
          rw [List.takeWhile_append]
          split at short <;> rename_i whole
          · rw [List.length_append] at short
            omega
          · rw [if_neg whole, if_neg whole]

end Piece

/-! ## Rows -/

theorem sizeOfRow?_cons_eq_some_iff :
    sizeOfRow? (p :: row) cs = some n ↔
      ∃ m k, p.size? cs = some m ∧ sizeOfRow? row (cs.drop m) = some k ∧ m + k = n := by
  simp only [sizeOfRow?]
  cases p.size? cs with
  | none => simp
  | some m => simp

theorem sizeOfRow?_append_eq_some_iff :
    sizeOfRow? (front ++ back) cs = some n ↔
      ∃ m k, sizeOfRow? front cs = some m ∧ sizeOfRow? back (cs.drop m) = some k ∧ m + k = n := by
  induction front generalizing cs n with
  | nil => simp [sizeOfRow?]
  | cons p front ih =>
      simp only [List.cons_append, sizeOfRow?_cons_eq_some_iff, ih]
      constructor
      · rintro ⟨m, k, takes, ⟨i, j, first, second, rfl⟩, rfl⟩
        refine ⟨m + i, j, ⟨m, i, takes, first, rfl⟩, ?_, by omega⟩
        rwa [← List.drop_drop]
      · rintro ⟨m, k, ⟨i, j, takes, first, rfl⟩, second, rfl⟩
        refine ⟨i, j + k, takes, ⟨j, k, first, ?_, rfl⟩, by omega⟩
        rwa [List.drop_drop]

theorem sizeOfRow?_le (takes : sizeOfRow? row cs = some n) : n ≤ cs.length := by
  induction row generalizing cs n with
  | nil =>
      cases takes
      exact Nat.zero_le _
  | cons p row ih =>
      obtain ⟨m, k, first, rest, rfl⟩ := sizeOfRow?_cons_eq_some_iff.mp takes
      have most := Piece.size?_le first
      have more := ih rest
      rw [List.length_drop] at more
      omega

theorem exists_of_sizeOfRow? (there : .one isIn ∈ row) (takes : sizeOfRow? row cs = some n) :
    ∃ c ∈ cs, isIn c = true := by
  induction row generalizing cs n with
  | nil => cases there
  | cons p row ih =>
      obtain ⟨m, k, first, rest, -⟩ := sizeOfRow?_cons_eq_some_iff.mp takes
      rcases List.mem_cons.mp there with rfl | later
      · obtain ⟨c, more, rfl, taken, -⟩ := Piece.size?_one_eq_some_iff.mp first
        exact ⟨c, List.mem_cons_self, taken⟩
      · obtain ⟨c, inside, taken⟩ := ih later rest
        exact ⟨c, List.mem_of_mem_drop inside, taken⟩

/-- Texts whose characters no piece of a row tells apart are taken alike. -/
theorem sizeOfRow?_congr
    (alike : List.Forall₂ (fun c d => ∀ p ∈ row, p.admits c = p.admits d) cs ds) :
    sizeOfRow? row cs = sizeOfRow? row ds := by
  induction row generalizing cs ds with
  | nil => rfl
  | cons p row ih =>
      have first : p.size? cs = p.size? ds :=
        Piece.size?_congr (alike.imp fun c d same => same p (by simp))
      have rest (m : Nat) : sizeOfRow? row (cs.drop m) = sizeOfRow? row (ds.drop m) :=
        ih (List.forall₂_drop m (alike.imp fun c d same q there => same q (by simp [there])))
      simp only [sizeOfRow?, first, rest]

/-- A character that no piece of a row takes ends what the row takes. -/
theorem sizeOfRow?_stop (stops : ∀ p ∈ row, p.admits c = false) (x y : List Char) :
    sizeOfRow? row (x ++ c :: y) = sizeOfRow? row x := by
  induction row generalizing x with
  | nil => rfl
  | cons p row ih =>
      have first := Piece.size?_stop (stops p (by simp)) x y
      simp only [sizeOfRow?, first]
      cases taken : p.size? x with
      | none => rfl
      | some m =>
          have most := Piece.size?_le taken
          simp only [List.drop_append_of_le_length most, ih fun q there => stops q (by simp [there])]

theorem sizeOfRow?_local (takes : sizeOfRow? row (x ++ y) = some n) (short : n < x.length)
    (z : List Char) : sizeOfRow? row (x ++ z) = some n := by
  induction row generalizing x n with
  | nil => exact takes
  | cons p row ih =>
      obtain ⟨m, k, first, rest, rfl⟩ := sizeOfRow?_cons_eq_some_iff.mp takes
      have within : m ≤ x.length := by omega
      rw [List.drop_append_of_le_length within] at rest
      have further := ih rest (by rw [List.length_drop]; omega)
      rw [← List.drop_append_of_le_length within] at further
      exact sizeOfRow?_cons_eq_some_iff.mpr
        ⟨m, k, Piece.size?_local first (by omega) z, further, rfl⟩

/-- A row that is over where a text ends in a character `z` and another character `c` follows: no piece
takes `z`, until no piece takes `c`. -/
inductive ClosedBy (z c : Char) : List Piece → Prop
  | ended {row : List Piece} (stops : ∀ p ∈ row, p.admits c = false) : ClosedBy z c row
  | pass {p : Piece} {row : List Piece} (passes : p.admits z = false) (rest : ClosedBy z c row) :
      ClosedBy z c (p :: row)

theorem sizeOfRow?_closed (closed : ClosedBy z c row) (x y : List Char) :
    sizeOfRow? row (x ++ z :: c :: y) = sizeOfRow? row (x ++ [z]) := by
  induction closed generalizing x with
  | ended stops =>
      have same : x ++ z :: c :: y = (x ++ [z]) ++ c :: y := by simp
      rw [same, sizeOfRow?_stop stops]
  | @pass p row passes rest ih =>
      simp only [sizeOfRow?, Piece.size?_stop passes]
      cases taken : p.size? x with
      | none => rfl
      | some m =>
          have most := Piece.size?_le taken
          simp only [List.drop_append_of_le_length most, ih]

/-- So is a row that begins with a name, unless the name ends where the text does. -/
theorem sizeOfRow?_closed_after (stops : ∀ p ∈ front, p.admits c = false) (closed : ClosedBy z c back)
    (before : ∀ m, sizeOfRow? front (x ++ [z]) = some m → m ≤ x.length) (y : List Char) :
    sizeOfRow? (front ++ back) (x ++ z :: c :: y) = sizeOfRow? (front ++ back) (x ++ [z]) := by
  have first : sizeOfRow? front (x ++ z :: c :: y) = sizeOfRow? front (x ++ [z]) := by
    have same : x ++ z :: c :: y = (x ++ [z]) ++ c :: y := by simp
    rw [same, sizeOfRow?_stop stops]
  refine Option.ext fun n => ?_
  rw [sizeOfRow?_append_eq_some_iff, sizeOfRow?_append_eq_some_iff, first]
  refine exists_congr fun m => exists_congr fun k => and_congr_right fun takes => ?_
  have short := before m takes
  rw [List.drop_append_of_le_length short, List.drop_append_of_le_length short,
    sizeOfRow?_closed closed]

theorem le_of_last_ne (isIn : Char → Bool) (other : isIn z = false)
    (takes : sizeOfRow? (front ++ [.one isIn]) (x ++ [z]) = some n) : n ≤ x.length := by
  obtain ⟨m, k, -, last, rfl⟩ := sizeOfRow?_append_eq_some_iff.mp takes
  obtain ⟨one, none, single, nothing, rfl⟩ := sizeOfRow?_cons_eq_some_iff.mp last
  cases nothing
  obtain ⟨d, rest, there, taken, rfl⟩ := Piece.size?_one_eq_some_iff.mp single
  by_contra beyond
  have size := congrArg List.length there
  rw [List.length_drop, List.length_append, List.length_singleton, List.length_cons] at size
  have reached : m = x.length := by omega
  rw [reached, List.drop_left] at there
  cases there
  rw [other] at taken
  cases taken

/-- A run at the end of a row goes through a word all of whose characters it takes, if it gets there. -/
theorem sizeOfRow?_reach {least : Nat} (through : ∀ c ∈ word, isIn c = true)
    (takes : sizeOfRow? (front ++ [.run least isIn]) (x ++ (word ++ y)) = some n) :
    n ≤ x.length ∨ x.length + word.length ≤ n := by
  obtain ⟨m, k, -, last, rfl⟩ := sizeOfRow?_append_eq_some_iff.mp takes
  obtain ⟨found, none, run, nothing, rfl⟩ := sizeOfRow?_cons_eq_some_iff.mp last
  cases nothing
  obtain ⟨rfl, -⟩ := Piece.size?_run_eq_some_iff.mp run
  have goes (cs : List Char) (all : ∀ c ∈ cs, isIn c = true) :
      cs.length ≤ ((cs ++ y).takeWhile isIn).length := by
    rw [List.takeWhile_append_of_pos all, List.length_append]
    omega
  by_cases before : m ≤ x.length
  · rw [List.drop_append_of_le_length before, List.takeWhile_append]
    split
    · have more := goes word through
      rw [List.length_append, List.length_drop]
      omega
    · have most := (List.takeWhile_prefix isIn (l := x.drop m)).length_le
      rw [List.length_drop] at most
      omega
  · by_cases inside : m ≤ x.length + word.length
    · have more := goes (word.drop (m - x.length)) fun c there => through c (List.mem_of_mem_drop there)
      rw [List.drop_append, List.drop_of_length_le (by omega), List.nil_append,
        List.drop_append_of_le_length (by omega)]
      rw [List.length_drop] at more
      omega
    · omega

end TenantAccess.Redaction
