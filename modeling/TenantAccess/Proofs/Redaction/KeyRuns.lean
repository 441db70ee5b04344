import TenantAccess.Proofs.Redaction.Clean
import TenantAccess.Proofs.Redaction.Credentials

/-! # Runs of key digits

Two texts that differ only in the digits of a key are gone through alike. A name cannot reach into the run
and find its tail there, and a tail takes all digits alike; so at each shape the run is either taken by
what was found before it, or left as it was. What is left to the end is replaced if it is long enough, and
shown if it is not.
-/

namespace TenantAccess.Redaction

open TenantAccess.Text

variable {shape : Shape} {shapes : List Shape} {tail : List Piece} {lasts : List Char} {c d : Char}
  {g g' before after x : List Char} {m n : Nat}

/-- The digits of keys. -/
def keyDigits : List Char := "0123456789abcdef".toList

/-- So many key digits. -/
structure IsRun (n : Nat) (g : List Char) : Prop where
  size : g.length = n
  digits : ∀ c ∈ g, c ∈ keyDigits

theorem hex_of_keyDigit (digit : c ∈ keyDigits) : isHexDigit c = true := by
  have all : keyDigits.all isHexDigit = true := by decide
  exact List.all_eq_true.mp all c digit

theorem alphanumeric_of_keyDigit (digit : c ∈ keyDigits) : isFoldedAlphanumeric c = true :=
  alphanumeric_of_hex (hex_of_keyDigit digit)

theorem foldLetter_of_keyDigit (digit : c ∈ keyDigits) : foldLetter c = c := by
  have all : (keyDigits.all fun c => foldLetter c == c) = true := by decide
  exact beq_iff_eq.mp (List.all_eq_true.mp all c digit)

theorem isRun_replicate (digit : d ∈ keyDigits) (n : Nat) : IsRun n (List.replicate n d) :=
  ⟨List.length_replicate, fun _ there => (List.mem_replicate.mp there).2 ▸ digit⟩

theorem IsRun.take (run : IsRun n g) (less : m ≤ n) : IsRun m (g.take m) where
  size := List.length_take_of_le (run.size.symm ▸ less)
  digits := fun c there => run.digits c (List.mem_of_mem_take there)

theorem IsRun.append (run : IsRun n g) (run' : IsRun m g') : IsRun (n + m) (g ++ g') where
  size := by rw [List.length_append, run.size, run'.size]
  digits := fun c there => (List.mem_append.mp there).elim (run.digits c) (run'.digits c)

/-- A character that ends all names and begins no tail. -/
structure Blocks (c : Char) : Prop where
  name : isNameChar (foldLetter c) = false
  joint : isJoint c = false
  blank : isBlank c = false
  assignment : isAssignment c = false
  alphanumeric : isFoldedAlphanumeric c = false

/-- A run that no name can cross: it is too long, or blocked. -/
def Shut (n : Nat) (after : List Char) : Prop := 32 ≤ n ∨ ∃ c rest, after = c :: rest ∧ Blocks c

/-! ## Names that reach into a run -/

theorem assignment_eq_none (unassigned : isAssignment c = false) (unblank : isBlank c = false)
    (y : List Char) : sizeOfRow? assignment (c :: y) = none := by
  simp [assignment, sizeOfRow?, Piece.size?, unassigned, unblank]

theorem credential_eq_none (unblank : isBlank c = false) (y : List Char) :
    sizeOfRow? credential (c :: y) = none := by
  simp [credential, sizeOfRow?, Piece.size?, unblank]

theorem Name.le_of_run (name : Name) (known : tail = assignment ∨ tail = credential)
    (digits : ∀ c ∈ g, c ∈ keyDigits) (shut : Shut g.length after)
    (first : sizeOfRow? name.row (x ++ (g ++ after)) = some m)
    (rest : sizeOfRow? tail ((x ++ (g ++ after)).drop m) = some n) : m ≤ x.length := by
  have nothing {c : Char} (unassigned : isAssignment c = false) (unblank : isBlank c = false)
      (y : List Char) : sizeOfRow? tail (c :: y) = none := by
    rcases known with rfl | rfl
    · exact assignment_eq_none unassigned unblank y
    · exact credential_eq_none unblank y
  by_contra beyond
  obtain ⟨j, rfl⟩ : ∃ j, m = x.length + j := ⟨m - x.length, by omega⟩
  rw [List.drop_length_add_append] at rest
  by_cases inside : j < g.length
  · obtain ⟨d, others, there⟩ := List.exists_cons_of_length_pos
      (show 0 < (g.drop j).length by rw [List.length_drop]; omega)
    have alphanumeric := alphanumeric_of_keyDigit
      (digits d (List.mem_of_mem_drop (there ▸ List.mem_cons_self)))
    rw [List.drop_append_of_le_length inside.le, there, List.cons_append,
      nothing (not_assignment_of_alphanumeric alphanumeric) (not_blank_of_alphanumeric alphanumeric)]
      at rest
    cases rest
  · rcases shut with long | ⟨c, others, rfl, blocks⟩
    · have short := sizeOfRow?_le_length name.naming first
      have size := name.length_row
      omega
    · rw [← List.append_assoc, sizeOfRow?_stop (name.not_admits blocks.name blocks.joint)] at first
      have most := sizeOfRow?_le first
      rw [List.length_append] at most
      have whole : j = g.length := by omega
      rw [whole, List.drop_left, nothing blocks.assignment blocks.blank] at rest
      cases rest

/-! ## Runs alike -/

theorem forall₂_run {R : Char → Char → Prop} (refl : ∀ c, R c c)
    (alike : ∀ c ∈ keyDigits, ∀ d ∈ keyDigits, R c d) (run : IsRun n g) (run' : IsRun n g')
    (x after : List Char) : List.Forall₂ R (x ++ (g ++ after)) (x ++ (g' ++ after)) := by
  have same (cs : List Char) : List.Forall₂ R cs cs := List.forall₂_same.mpr fun c _ => refl c
  refine List.rel_append (same x) (List.rel_append (List.forall₂_iff_zip.mpr ⟨?_, ?_⟩) (same after))
  · rw [run.size, run'.size]
  · intro c d there
    obtain ⟨left, right⟩ := List.of_mem_zip there
    exact alike c (run.digits c left) d (run'.digits d right)

/-- Whether a piece takes all key digits or none. -/
def Piece.isLevel (p : Piece) : Bool := keyDigits.all fun c => p.admits c == p.admits '0'

theorem Piece.admits_congr {p : Piece} (level : p.isLevel = true) :
    ∀ c ∈ keyDigits, ∀ d ∈ keyDigits, p.admits c = p.admits d := by
  have same (c : Char) (digit : c ∈ keyDigits) : p.admits c = p.admits '0' :=
    beq_iff_eq.mp (List.all_eq_true.mp level c digit)
  exact fun c left d right => (same c left).trans (same d right).symm

theorem IsTail.isLevel (known : IsTail tail) : ∀ p ∈ tail, p.isLevel = true := by
  cases known <;> decide

theorem isTail_of_known (known : tail = assignment ∨ tail = credential) : IsTail tail := by
  rcases known with rfl | rfl
  · exact .assignment
  · exact .credential

theorem isLevel_knownKey : ∀ row ∈ knownKey, ∀ p ∈ row, p.isLevel = true := by decide

theorem Names.size?_run_congr (names : Names shape lasts tail)
    (known : tail = assignment ∨ tail = credential) (run : IsRun n g) (run' : IsRun n g')
    (shut : Shut n after) (x : List Char) :
    shape.size? (x ++ (g ++ after)) = shape.size? (x ++ (g' ++ after)) := by
  have isTail := isTail_of_known known
  have half {g g' : List Char} (run : IsRun n g) (run' : IsRun n g') (name : Name) (k : Nat)
      (takes : sizeOfRow? (name.row ++ tail) (x ++ (g ++ after)) = some k) :
      sizeOfRow? (name.row ++ tail) (x ++ (g' ++ after)) = some k := by
    obtain ⟨m, j, first, rest, rfl⟩ := sizeOfRow?_append_eq_some_iff.mp takes
    have within := name.le_of_run known run.digits (run.size.symm ▸ shut) first rest
    refine sizeOfRow?_append_eq_some_iff.mpr ⟨m, j, name.size_local first within _, ?_, rfl⟩
    rw [List.drop_append_of_le_length within] at rest ⊢
    rwa [sizeOfRow?_congr (forall₂_run (fun c p _ => rfl)
      (fun c left d right p there => Piece.admits_congr (isTail.isLevel p there) c left d right)
      run run' _ after)] at rest
  refine Shape.size?_congr fun row there => ?_
  obtain ⟨name, -, rfl⟩ := names row there
  exact Option.ext fun k => ⟨half run run' name k, half run' run name k⟩

/-- Before a run no shape tells which digits are in it. -/
theorem size?_run_congr (named : shape ∈ namedShapes) (run : IsRun n g) (run' : IsRun n g')
    (shut : Shut n after) (x : List Char) :
    shape.size? (x ++ (g ++ after)) = shape.size? (x ++ (g' ++ after)) := by
  simp only [namedShapes, List.mem_cons, List.not_mem_nil, or_false] at named
  rcases named with rfl | rfl | rfl | rfl
  · exact names_assignedSecret.size?_run_congr (.inl rfl) run run' shut x
  · exact names_schemeCredential.size?_run_congr (.inr rfl) run run' shut x
  · exact Shape.size?_congr fun row there => sizeOfRow?_congr (forall₂_run (fun c p _ => rfl)
      (fun c left d right p inside => Piece.admits_congr (isLevel_knownKey row there p inside) c left d right)
      run run' x after)
  · exact names_assignedHeader.size?_run_congr (.inl rfl) run run' shut x

/-! ## One shape after the other -/

/-- What stands before a run and after it: neither goes on with its digits, and no name crosses it. -/
structure Flanks (n : Nat) (before after : List Char) : Prop where
  last : ∀ c ∈ before.getLast?, isHexDigit c = false
  first : ∀ c ∈ after.head?, isHexDigit c = false
  shut : Shut n after

/-- No secret of the shape begins in a run. -/
def Calm (shape : Shape) (g after : List Char) : Prop :=
  ∀ u, u ≠ [] → u <:+ g → shape.size? (u ++ after) = none

theorem Calm.hide_eq (calm : Calm shape g after) : shape.hide (g ++ after) = g ++ shape.hide after :=
  Shape.hide_append_of_none calm

/-- A secret begins in a run, of one of the shapes in turn. -/
def Begins : List Shape → List Char → List Char → Prop
  | [], _, _ => False
  | shape :: shapes, g, after => ¬ Calm shape g after ∨ Begins shapes g (shape.hide after)

theorem secret_of_named (named : shape ∈ namedShapes) : shape ∈ secretShapes := by
  rw [secretShapes_eq]
  exact List.mem_append_left _ named

/-- A name that begins with digits goes beyond them. -/
theorem Name.lt_of_digits (name : Name) (digits : ∀ c ∈ g, c ∈ keyDigits)
    (takes : sizeOfRow? name.row (g ++ after) = some m) : g.length < m := by
  by_contra within
  have inside := name.size_local takes (Nat.le_of_not_lt within) []
  rw [List.append_nil] at inside
  obtain ⟨l, listed, strange⟩ := name.strange_row
  obtain ⟨c, there, same⟩ := exists_of_sizeOfRow? listed inside
  have digit := digits c there
  rw [foldLetter_of_keyDigit digit, beq_iff_eq] at same
  rw [← same, hex_of_keyDigit digit] at strange
  cases strange

/-- Where the text goes on with what is in no name, no secret begins in the run. -/
theorem calm_of_no_name (named : shape ∈ namedShapes) (digits : ∀ c ∈ g, c ∈ keyDigits)
    (ends : ∀ c ∈ after.head?, isNameChar (foldLetter c) = false ∧ isJoint c = false) :
    Calm shape g after := by
  intro u _ inside
  refine Option.eq_none_iff_forall_ne_some.mpr fun n fits => ?_
  obtain ⟨lasts, tail, names, -⟩ := names_of_mem named
  obtain ⟨⟨row, there, takes⟩, -⟩ := Shape.size?_eq_some fits
  obtain ⟨name, -, rfl⟩ := names row there
  obtain ⟨m, k, first, -, -⟩ := sizeOfRow?_append_eq_some_iff.mp takes
  have beyond := name.lt_of_digits (fun c there => digits c (inside.subset there)) first
  have within : sizeOfRow? name.row u = some m := by
    cases after with
    | nil => rwa [List.append_nil] at first
    | cons c after =>
        obtain ⟨other, joint⟩ := ends c rfl
        rwa [sizeOfRow?_stop (name.not_admits other joint)] at first
  exact absurd (sizeOfRow?_le within) (Nat.not_le.mpr beyond)

/-- A run that ends in a decimal digit has no name begin in it, whatever the text goes on with. -/
theorem calm_of_last (named : shape ∈ namedShapes) (digits : ∀ c ∈ g, c ∈ keyDigits)
    (last : g.getLast? = some d) (decimal : isNameChar d = false) (after : List Char) :
    Calm shape g after := by
  obtain ⟨v, rfl⟩ := List.getLast?_eq_some_iff.mp last
  have digit : d ∈ keyDigits := digits d (by simp)
  have other : isNameChar (foldLetter d) = false := by rwa [foldLetter_of_keyDigit digit]
  have joint := not_joint_of_alphanumeric (alphanumeric_of_keyDigit digit)
  intro u begun inside
  obtain ⟨t, rfl⟩ : ∃ t, u = t ++ [d] := by
    obtain ⟨ahead, same⟩ := inside
    refine List.getLast?_eq_some_iff.mp ?_
    rw [← List.getLast?_append_of_ne_nil ahead begun, same, List.getLast?_append_of_ne_nil v (by simp)]
    rfl
  rw [List.append_assoc, List.singleton_append]
  have stops : ∀ c ∈ (d :: after).head?, isNameChar (foldLetter c) = false ∧ isJoint c = false := by
    intro c first
    cases first
    exact ⟨other, joint⟩
  by_cases alone : t = []
  · subst alone
    refine Option.eq_none_iff_forall_ne_some.mpr fun n fits => ?_
    obtain ⟨lasts, tail, names, -⟩ := names_of_mem named
    have small := names.first_of_size? fits
    simp only [isFoldedLetter, Bool.and_eq_true, decide_eq_true_eq] at small
    simp [isNameChar, small] at other
  · exact calm_of_no_name named (fun c there => digits c (inside.subset (by simp [there]))) stops t alone
      (List.suffix_refl t)

theorem calm_replicate (named : shape ∈ namedShapes) (digit : d ∈ keyDigits) (decimal : isNameChar d = false)
    (pos : 0 < n) (after : List Char) : Calm shape (List.replicate n d) after := by
  refine calm_of_last named (isRun_replicate digit n).digits ?_ decimal after
  rw [List.getLast?_replicate, if_neg pos.ne']

theorem not_begins_of_last {shapes : List Shape} (known : ∀ shape ∈ shapes, shape ∈ namedShapes)
    (digits : ∀ c ∈ g, c ∈ keyDigits) (last : g.getLast? = some d) (decimal : isNameChar d = false)
    (after : List Char) : ¬ Begins shapes g after := by
  induction shapes generalizing after with
  | nil => exact id
  | cons shape shapes ih =>
      obtain ⟨named, known⟩ := List.forall_mem_cons.mp known
      exact not_or.mpr ⟨not_not.mpr (calm_of_last named digits last decimal after), ih known _⟩

/-- Where no name goes on behind a run, no secret begins in it, of none of the shapes in turn. -/
theorem not_begins_of_no_name {shapes : List Shape} (known : ∀ shape ∈ shapes, shape ∈ namedShapes)
    (digits : ∀ c ∈ g, c ∈ keyDigits)
    (ends : ∀ c ∈ after.head?, isNameChar (foldLetter c) = false ∧ isJoint c = false) :
    ¬ Begins shapes g after := by
  induction shapes generalizing after with
  | nil => exact id
  | cons shape shapes ih =>
      obtain ⟨named, known⟩ := List.forall_mem_cons.mp known
      refine not_or.mpr ⟨not_not.mpr (calm_of_no_name named digits ends), ih known fun c first => ?_⟩
      cases after with
      | nil =>
          rw [Shape.hide_nil] at first
          cases first
      | cons d after =>
          rcases hide_cons_cases (secret_of_named named) d after with ⟨-, v, mark⟩ | kept
          · rw [mark] at first
            cases first
            decide
          · rw [kept] at first
            exact ends c first

theorem not_begins_replicate {shapes : List Shape} (known : ∀ shape ∈ shapes, shape ∈ namedShapes)
    (digit : d ∈ keyDigits) (decimal : isNameChar d = false) (pos : 0 < n) (after : List Char) :
    ¬ Begins shapes (List.replicate n d) after := by
  refine not_begins_of_last known (isRun_replicate digit n).digits ?_ decimal after
  rw [List.getLast?_replicate, if_neg pos.ne']

theorem Flanks.hide (flanks : Flanks n before after) (secret : shape ∈ secretShapes) (y : List Char) :
    Flanks n (shape.front 0 before y) (shape.hide after) where
  last := by
    intro c last
    rcases Shape.last_front 0 before y last with rfl | ⟨-, same⟩
    · decide
    · exact flanks.last c same
  first := by
    intro c first
    cases after with
    | nil =>
        rw [Shape.hide_nil] at first
        cases first
    | cons d after =>
        rcases hide_cons_cases secret d after with ⟨-, v, mark⟩ | kept
        · rw [mark] at first
          cases first
          decide
        · rw [kept] at first
          exact flanks.first c first
  shut := by
    rcases flanks.shut with long | ⟨c, rest, rfl, blocks⟩
    · exact .inl long
    · rcases hide_cons_cases secret c rest with ⟨alphanumeric, -⟩ | kept
      · rw [blocks.alphanumeric] at alphanumeric
        cases alphanumeric
      · exact .inr ⟨c, _, kept, blocks⟩

/-- One shape either takes a run with what is before it, whatever its digits, or comes to it with what is
before the run dealt with. -/
theorem hide_run (named : shape ∈ namedShapes) (flanks : Flanks n before after) (pos : 0 < n) :
    (∃ out, ∀ g, IsRun n g →
        0 < shape.overhang 0 before (g ++ after) ∧ shape.hide (before ++ (g ++ after)) = out) ∨
      ∃ front, Flanks n front (shape.hide after) ∧ ∀ g, IsRun n g →
        shape.overhang 0 before (g ++ after) = 0 ∧ shape.front 0 before (g ++ after) = front ∧
          shape.hide (before ++ (g ++ after)) = front ++ shape.hide (g ++ after) := by
  have zeros := isRun_replicate (show '0' ∈ keyDigits by decide) n
  have same (g : List Char) (run : IsRun n g) :
      shape.front 0 before (g ++ after) = shape.front 0 before (List.replicate n '0' ++ after) ∧
        shape.overhang 0 before (g ++ after) = shape.overhang 0 before (List.replicate n '0' ++ after) :=
    Shape.front_and_overhang_congr (fun u _ _ => size?_run_congr named run zeros flanks.shut u) 0
  have across (g : List Char) (run : IsRun n g) := Shape.hide_across shape before g after
    fun u k _ _ => reach_of_named named fun c there => alphanumeric_of_keyDigit (run.digits c there)
  by_cases taken : 0 < shape.overhang 0 before (List.replicate n '0' ++ after)
  · refine .inl ⟨shape.front 0 before (List.replicate n '0' ++ after) ++
      shape.hide (after.drop (shape.overhang 0 before (List.replicate n '0' ++ after) - n)),
      fun g run => ?_⟩
    obtain ⟨front, reached⟩ := same g run
    rw [reached]
    refine ⟨taken, ?_⟩
    rcases across g run with ⟨none, -⟩ | ⟨k, whole, parts⟩
    · omega
    · rw [reached, run.size] at whole
      rw [parts, front, whole, Nat.add_sub_cancel_left]
  · refine .inr ⟨shape.front 0 before (List.replicate n '0' ++ after),
      flanks.hide (secret_of_named named) _, fun g run => ?_⟩
    obtain ⟨front, reached⟩ := same g run
    rcases across g run with ⟨none, parts⟩ | ⟨k, whole, -⟩
    · exact ⟨none, front, by rw [parts, front]⟩
    · rw [reached, run.size] at whole
      omega

/-- What becomes of a run in which no secret begins, one shape after the other. -/
inductive Fate (shapes : List Shape) (n : Nat) (before after : List Char) : Prop
  /-- It is taken by a secret that begins before it, and nothing tells which digits were in it. -/
  | taken (out : List Char) (all : ∀ g, IsRun n g → ¬ Begins shapes g after →
      Overtakes shapes before (g ++ after) ∧ hideAll shapes (before ++ (g ++ after)) = out)
  /-- It is left, whatever its digits. -/
  | left (before' after' : List Char) (flanks : Flanks n before' after')
      (all : ∀ g, IsRun n g → ¬ Begins shapes g after →
        ¬ Overtakes shapes before (g ++ after) ∧
          hideAll shapes (before ++ (g ++ after)) = before' ++ (g ++ after'))

theorem fate (known : ∀ shape ∈ shapes, shape ∈ namedShapes) (pos : 0 < n)
    (flanks : Flanks n before after) : Fate shapes n before after := by
  induction shapes generalizing before after with
  | nil => exact .left before after flanks fun g _ _ => ⟨id, rfl⟩
  | cons shape shapes ih =>
      obtain ⟨named, known⟩ := List.forall_mem_cons.mp known
      rcases hide_run named flanks pos with ⟨out, all⟩ | ⟨front, flanks, all⟩
      · refine .taken (hideAll shapes out) fun g run _ => ?_
        obtain ⟨overtaken, same⟩ := all g run
        exact ⟨.inl overtaken, by rw [hideAll_cons, same]⟩
      · have later (g : List Char) (run : IsRun n g) (calm : Calm shape g after) :
            (Overtakes (shape :: shapes) before (g ++ after) ↔
              Overtakes shapes front (g ++ shape.hide after)) ∧
            hideAll (shape :: shapes) (before ++ (g ++ after)) =
              hideAll shapes (front ++ (g ++ shape.hide after)) := by
          obtain ⟨none, first, parts⟩ := all g run
          simp only [Overtakes, none, first, calm.hide_eq, hideAll_cons, parts, Nat.lt_irrefl,
            false_or, and_self]
        cases ih known flanks with
        | taken out all =>
            refine .taken out fun g run begins => ?_
            obtain ⟨calm, begins⟩ := not_or.mp begins
            obtain ⟨overtaken, same⟩ := later g run (not_not.mp calm)
            rw [overtaken, same]
            exact all g run begins
        | left before' after' flanks all =>
            refine .left before' after' flanks fun g run begins => ?_
            obtain ⟨calm, begins⟩ := not_or.mp begins
            obtain ⟨overtaken, same⟩ := later g run (not_not.mp calm)
            rw [overtaken, same]
            exact all g run begins

/-! ## What is shown of a run -/

theorem longHex_size? (cs : List Char) :
    longHex.size? cs =
      if 32 ≤ (cs.takeWhile isHexDigit).length then some (cs.takeWhile isHexDigit).length else none := by
  simp only [longHex, Shape.size?, List.findSome?_cons, List.findSome?_nil, sizeOfRow?, Piece.size?]
  generalize (cs.takeWhile isHexDigit).length = found
  rcases Nat.lt_or_ge found 32 with short | long
  · simp only [if_pos short, if_neg (Nat.not_le.mpr short)]
  · obtain ⟨k, rfl⟩ := Nat.exists_eq_add_of_le long
    simp only [if_neg (Nat.not_lt.mpr long), if_pos long, Option.map_some]
    rw [Nat.add_comm 32 k]

theorem takeWhile_run (digits : ∀ c ∈ g, c ∈ keyDigits) (first : ∀ c ∈ after.head?, isHexDigit c = false) :
    (g ++ after).takeWhile isHexDigit = g := by
  rw [List.takeWhile_append_of_pos fun c there => hex_of_keyDigit (digits c there)]
  cases after with
  | nil => rw [List.takeWhile_nil, List.append_nil]
  | cons c after =>
      rw [List.takeWhile_cons_of_neg (by rw [first c rfl]; exact Bool.false_ne_true), List.append_nil]

/-- The shape of long runs takes all of a run, or nothing of it. -/
theorem longHex_hide (flanks : Flanks n before after) (run : IsRun n g) :
    longHex.hide (before ++ (g ++ after)) =
      longHex.hide before ++ ((if 32 ≤ n then standardMark else g) ++ longHex.hide after) := by
  have apart (u : List Char) (begun : u ≠ []) (inside : u <:+ before) :
      longHex.size? (u ++ (g ++ after)) = longHex.size? u := by
    obtain ⟨d, last⟩ := Option.ne_none_iff_exists'.mp (mt List.getLast?_eq_none_iff.mp begun)
    obtain ⟨front, rfl⟩ := inside
    obtain ⟨v, rfl⟩ := exists_eq_append_of_suffix begun (List.suffix_refl u) last
    have stops := flanks.last d (by rw [List.getLast?_append_of_ne_nil front begun, last]; rfl)
    rw [longHex_size?, longHex_size?, List.append_assoc, List.cons_append, takeWhile_append_stop stops,
      takeWhile_append_stop stops]
  rw [Shape.hide_append apart]
  congr 1
  by_cases long : 32 ≤ n
  · have found : longHex.size? (g ++ after) = some n := by
      rw [longHex_size?, takeWhile_run run.digits flanks.first, run.size, if_pos long]
    rw [if_pos long, Shape.hide_of_size? found, List.drop_left' run.size]
  · rw [if_neg long]
    refine Shape.hide_append_of_none fun u _ inside => ?_
    have most := inside.length_le
    rw [run.size] at most
    rw [longHex_size?, takeWhile_run (fun c there => run.digits c (inside.subset there)) flanks.first,
      if_neg (by omega)]

/-- Texts with one run or another in which no secret begins come out alike just if the run is long enough
to be replaced, or taken by a secret that begins before it. -/
theorem redact_calm_iff (pos : 0 < n) (flanks : Flanks n before after) :
    (∀ g g', IsRun n g → IsRun n g' → ¬ Begins namedShapes g after → ¬ Begins namedShapes g' after →
        redact (before ++ (g ++ after)) = redact (before ++ (g' ++ after))) ↔
      32 ≤ n ∨ Overtakes namedShapes before (List.replicate n '0' ++ after) := by
  have rounds (cs : List Char) : redact cs = longHex.hide (hideAll namedShapes cs) := rfl
  have zeros := isRun_replicate (show '0' ∈ keyDigits by decide) n
  have ones := isRun_replicate (show '1' ∈ keyDigits by decide) n
  have calm := not_begins_replicate (fun _ => id) (show '0' ∈ keyDigits by decide) (by decide) pos after
  have calm' := not_begins_replicate (fun _ => id) (show '1' ∈ keyDigits by decide) (by decide) pos after
  simp only [rounds]
  cases fate (fun _ => id) pos flanks with
  | taken out all =>
      refine iff_of_true (fun g g' run run' begins begins' => ?_) (.inr (all _ zeros calm).1)
      rw [(all g run begins).2, (all g' run' begins').2]
  | left before' after' flanks all =>
      have shown (g : List Char) (run : IsRun n g) (begins : ¬ Begins namedShapes g after) :
          longHex.hide (hideAll namedShapes (before ++ (g ++ after))) =
            longHex.hide before' ++ ((if 32 ≤ n then standardMark else g) ++ longHex.hide after') := by
        rw [(all g run begins).2, longHex_hide flanks run]
      rw [or_iff_left (all _ zeros calm).1]
      constructor
      · intro same
        by_contra short
        have told := same _ _ zeros ones calm calm'
        rw [shown _ zeros calm, shown _ ones calm', if_neg short, if_neg short,
          List.append_cancel_left_eq, List.append_cancel_right_eq, List.replicate_inj] at told
        rcases told.2 with none | other
        · omega
        · exact absurd other (by decide)
      · intro long g g' run run' begins begins'
        rw [shown g run begins, shown g' run' begins', if_pos long, if_pos long]

end TenantAccess.Redaction
