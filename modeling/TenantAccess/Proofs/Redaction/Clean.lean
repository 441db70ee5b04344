import TenantAccess.Proofs.Redaction.Secrets

/-! # Texts without secrets

The mark begins with a bracket, and stands where a letter or a digit stood. Nothing but a value takes a
bracket, and a value takes letters and digits as well; so whatever is found once a mark is in its place
could have been found before. No shape that has been dealt with comes back, and a second look at a text
finds nothing.
-/

namespace TenantAccess.Redaction

open TenantAccess.Text

variable {shape other : Shape} {row tail : List Piece} {isIn : Char → Bool} {u v cs : List Char} {c : Char}
  {n : Nat}

/-- Nothing in a text has the shape. -/
def Clean (shape : Shape) (cs : List Char) : Prop := ∀ u, u ≠ [] → u <:+ cs → shape.size? u = none

theorem Clean.hide_eq (clean : Clean shape cs) : shape.hide cs = cs := Shape.hide_eq_self clean

/-! ## Rows over a mark -/

theorem hide_cons_cases (secret : shape ∈ secretShapes) (c : Char) (u : List Char) :
    (isFoldedAlphanumeric c = true ∧ ∃ v, shape.hide (c :: u) = '[' :: v) ∨
      shape.hide (c :: u) = c :: shape.hide u := by
  cases found : shape.size? (c :: u) with
  | some n => exact .inl ⟨first_of_size? secret found, _, Shape.hide_of_some found⟩
  | none => exact .inr (Shape.hide_of_none found)

/-- A class with neither the opening bracket nor any letter or digit. -/
structure Firm (isIn : Char → Bool) : Prop where
  bracket : isIn '[' = false
  alphanumeric : ∀ c, isFoldedAlphanumeric c = true → isIn c = false

/-- Rows that find nothing over a mark that they would not have found without it. -/
inductive Robust : List Piece → Prop
  | done : Robust []
  | one {isIn : Char → Bool} {row : List Piece} (bracket : isIn '[' = false) (rest : Robust row) :
      Robust (.one isIn :: row)
  | maybe {isIn : Char → Bool} {row : List Piece} (firm : Firm isIn) (rest : Robust row) :
      Robust (.maybe isIn :: row)
  | run {least : Nat} {isIn : Char → Bool} {row : List Piece} (firm : Firm isIn) (rest : Robust row) :
      Robust (.run least isIn :: row)
  /-- The mark ends the run. -/
  | stop {least : Nat} {isIn : Char → Bool} (bracket : isIn '[' = false) : Robust [.run least isIn]
  /-- The run goes through whatever the mark was put for. -/
  | wide {isIn : Char → Bool} (alphanumeric : ∀ c, isFoldedAlphanumeric c = true → isIn c = true) :
      Robust [.run 1 isIn]

theorem Firm.takeWhile_hide (firm : Firm isIn) (secret : shape ∈ secretShapes) (u : List Char) :
    ((shape.hide u).takeWhile isIn).length = (u.takeWhile isIn).length ∧
      (shape.hide u).drop (u.takeWhile isIn).length = shape.hide (u.drop (u.takeWhile isIn).length) := by
  induction u with
  | nil => simp [Shape.hide_nil]
  | cons c u ih =>
      rcases hide_cons_cases secret c u with ⟨begins, v, mark⟩ | kept
      · simp [mark, firm.bracket, firm.alphanumeric c begins]
      · cases inside : isIn c with
        | true =>
            rw [kept, List.takeWhile_cons_of_pos inside, List.takeWhile_cons_of_pos inside]
            exact ⟨congrArg (· + 1) ih.1, ih.2⟩
        | false => simp [kept, inside]

theorem Firm.size?_maybe_hide (firm : Firm isIn) (secret : shape ∈ secretShapes) (u : List Char) :
    ∃ m, (Piece.maybe isIn).size? (shape.hide u) = some m ∧ (Piece.maybe isIn).size? u = some m ∧
      (shape.hide u).drop m = shape.hide (u.drop m) := by
  cases u with
  | nil => exact ⟨0, by rw [Shape.hide_nil]; rfl, rfl, rfl⟩
  | cons c u =>
      rcases hide_cons_cases secret c u with ⟨begins, v, mark⟩ | kept
      · exact ⟨0, by simp [mark, Piece.size?, firm.bracket],
          by simp [Piece.size?, firm.alphanumeric c begins], rfl⟩
      · cases inside : isIn c with
        | true => exact ⟨1, by simp [kept, Piece.size?, inside], by simp [Piece.size?, inside],
            by simp [kept]⟩
        | false => exact ⟨0, by simp [kept, Piece.size?, inside], by simp [Piece.size?, inside], rfl⟩

theorem length_takeWhile_hide_le (bracket : isIn '[' = false) (secret : shape ∈ secretShapes)
    (u : List Char) : ((shape.hide u).takeWhile isIn).length ≤ (u.takeWhile isIn).length := by
  induction u with
  | nil => simp [Shape.hide_nil]
  | cons c u ih =>
      rcases hide_cons_cases secret c u with ⟨-, v, mark⟩ | kept
      · simp [mark, bracket]
      · cases inside : isIn c with
        | true =>
            rw [kept, List.takeWhile_cons_of_pos inside, List.takeWhile_cons_of_pos inside]
            exact Nat.succ_le_succ ih
        | false => simp [kept, inside]

theorem Robust.exists_of_hide (robust : Robust row) (secret : shape ∈ secretShapes)
    (takes : sizeOfRow? row (shape.hide u) = some n) : ∃ m, sizeOfRow? row u = some m := by
  induction robust generalizing u n with
  | done => exact ⟨0, rfl⟩
  | @one isIn row bracket rest ih =>
      obtain ⟨m, k, first, more, -⟩ := sizeOfRow?_cons_eq_some_iff.mp takes
      obtain ⟨c, v, same, taken, rfl⟩ := Piece.size?_one_eq_some_iff.mp first
      cases u with
      | nil =>
          rw [Shape.hide_nil] at same
          cases same
      | cons d u =>
          rcases hide_cons_cases secret d u with ⟨-, w, mark⟩ | kept
          · rw [mark] at same
            cases same
            rw [bracket] at taken
            cases taken
          · rw [kept] at same more
            cases same
            obtain ⟨j, further⟩ := ih more
            exact ⟨1 + j, sizeOfRow?_cons_eq_some_iff.mpr
              ⟨1, j, Piece.size?_one_eq_some_iff.mpr ⟨c, u, rfl, taken, rfl⟩, further, rfl⟩⟩
  | @maybe isIn row firm rest ih =>
      obtain ⟨m, k, first, more, -⟩ := sizeOfRow?_cons_eq_some_iff.mp takes
      obtain ⟨i, marked, without, after⟩ := firm.size?_maybe_hide secret u
      rw [marked] at first
      cases first
      rw [after] at more
      obtain ⟨j, further⟩ := ih more
      exact ⟨m + j, sizeOfRow?_cons_eq_some_iff.mpr ⟨m, j, without, further, rfl⟩⟩
  | @run least isIn row firm rest ih =>
      obtain ⟨m, k, first, more, -⟩ := sizeOfRow?_cons_eq_some_iff.mp takes
      obtain ⟨rfl, long⟩ := Piece.size?_run_eq_some_iff.mp first
      obtain ⟨same, after⟩ := firm.takeWhile_hide secret u
      rw [same, after] at more
      obtain ⟨j, further⟩ := ih more
      exact ⟨_, sizeOfRow?_cons_eq_some_iff.mpr
        ⟨_, j, Piece.size?_run_eq_some_iff.mpr ⟨rfl, same ▸ long⟩, further, rfl⟩⟩
  | @stop least isIn bracket =>
      obtain ⟨m, k, first, -, -⟩ := sizeOfRow?_cons_eq_some_iff.mp takes
      obtain ⟨rfl, long⟩ := Piece.size?_run_eq_some_iff.mp first
      have most := length_takeWhile_hide_le bracket secret u
      exact ⟨_, sizeOfRow?_cons_eq_some_iff.mpr
        ⟨_, 0, Piece.size?_run_eq_some_iff.mpr ⟨rfl, long.trans most⟩, rfl, rfl⟩⟩
  | @wide isIn alphanumeric =>
      obtain ⟨m, k, first, -, -⟩ := sizeOfRow?_cons_eq_some_iff.mp takes
      obtain ⟨rfl, long⟩ := Piece.size?_run_eq_some_iff.mp first
      cases u with
      | nil =>
          rw [Shape.hide_nil] at long
          exact absurd long (by simp)
      | cons c u =>
          have inside : isIn c = true := by
            rcases hide_cons_cases secret c u with ⟨begins, -⟩ | kept
            · exact alphanumeric c begins
            · by_contra outside
              rw [kept, List.takeWhile_cons_of_neg outside] at long
              exact absurd long (by simp)
          have some : 1 ≤ ((c :: u).takeWhile isIn).length := by
            rw [List.takeWhile_cons_of_pos inside]
            exact Nat.le_add_left 1 _
          exact ⟨_, sizeOfRow?_cons_eq_some_iff.mpr
            ⟨_, 0, Piece.size?_run_eq_some_iff.mpr ⟨rfl, some⟩, rfl, rfl⟩⟩

/-! ## The rows of secrets -/

theorem firm_isBlank : Firm isBlank := ⟨by decide, fun _ => not_blank_of_alphanumeric⟩

theorem IsTail.robust (known : IsTail tail) : Robust tail := by
  cases known with
  | assignment =>
      exact .run firm_isBlank (.one (by decide) (.run firm_isBlank
        (.maybe ⟨by decide, fun _ => not_quote_of_alphanumeric⟩ (.wide fun _ => value_of_alphanumeric))))
  | credential => exact .run firm_isBlank (.stop (by decide))
  | keyRun => exact .stop (by decide)

theorem robust_append {front : List Piece} (naming : ∀ p ∈ front, p.IsNaming) (rest : Robust tail) :
    Robust (front ++ tail) := by
  induction front with
  | nil => exact rest
  | cons p front ih =>
      obtain ⟨first, naming⟩ := List.forall_mem_cons.mp naming
      have further := ih naming
      cases first with
      | @letter l known =>
          refine .one (beq_eq_false_iff_ne.mpr ?_) further
          rintro rfl
          exact absurd known (by decide)
      | joint => exact .maybe ⟨by decide, fun _ => not_joint_of_alphanumeric⟩ further

theorem robust_of_mem (secret : shape ∈ secretShapes) (there : row ∈ shape) : Robust row := by
  rw [secretShapes_eq, List.mem_append, List.mem_singleton] at secret
  rcases secret with named | rfl
  · obtain ⟨lasts, tail, names, known⟩ := names_of_mem named
    obtain ⟨name, -, rfl⟩ := names row there
    exact robust_append name.naming known.robust
  · cases List.mem_singleton.mp there
    exact .stop (by decide)

theorem pos_of_row (secret : shape ∈ secretShapes) (there : row ∈ shape)
    (takes : sizeOfRow? row cs = some n) : 0 < n := by
  rw [secretShapes_eq, List.mem_append, List.mem_singleton] at secret
  rcases secret with named | rfl
  · obtain ⟨lasts, tail, names, -⟩ := names_of_mem named
    obtain ⟨name, -, rfl⟩ := names row there
    obtain ⟨m, k, first, -, rfl⟩ := sizeOfRow?_cons_eq_some_iff.mp takes
    obtain ⟨-, -, -, -, rfl⟩ := Piece.size?_one_eq_some_iff.mp first
    exact Nat.lt_of_lt_of_le Nat.zero_lt_one (Nat.le_add_right 1 k)
  · cases List.mem_singleton.mp there
    obtain ⟨m, k, run, -, rfl⟩ := sizeOfRow?_cons_eq_some_iff.mp takes
    obtain ⟨-, long⟩ := Piece.size?_run_eq_some_iff.mp run
    omega

/-! ## Shapes that have been dealt with -/

/-- What is not found without the mark is not found over it. -/
theorem size?_hide (secret : shape ∈ secretShapes) (dealt : other ∈ secretShapes)
    (nothing : shape.size? u = none) : shape.size? (other.hide u) = none := by
  refine Option.eq_none_iff_forall_ne_some.mpr fun n fits => ?_
  obtain ⟨⟨row, there, takes⟩, -⟩ := Shape.size?_eq_some fits
  obtain ⟨m, before⟩ := (robust_of_mem secret there).exists_of_hide dealt takes
  obtain ⟨k, found, -⟩ := Shape.lt_size?_of_row there before fun row there m => pos_of_row secret there
  rw [nothing] at found
  cases found

theorem size?_in_mark (secret : shape ∈ secretShapes) (begun : u ≠ []) (inside : u <:+ standardMark)
    (rest : List Char) : shape.size? (u ++ rest) = none := by
  have listed : u ∈ standardMark.tails := (List.mem_tails u standardMark).mpr inside
  have parts : standardMark.tails = ["[REDACTED]".toList, "REDACTED]".toList, "EDACTED]".toList,
    "DACTED]".toList, "ACTED]".toList, "CTED]".toList, "TED]".toList, "ED]".toList, "D]".toList,
    "]".toList, []] := by decide
  simp only [parts, List.mem_cons, List.not_mem_nil, or_false] at listed
  simp only [secretShapes, List.mem_cons, List.not_mem_nil, or_false] at secret
  rcases listed with rfl | rfl | rfl | rfl | rfl | rfl | rfl | rfl | rfl | rfl | rfl
  all_goals first
    | exact absurd rfl begun
    | rcases secret with rfl | rfl | rfl | rfl | rfl <;> rfl

/-- Dealing with a shape leaves nothing of it, and brings nothing of another. -/
theorem clean_hide (secret : shape ∈ secretShapes) (dealt : other ∈ secretShapes)
    (before : Clean shape cs ∨ shape = other) : Clean shape (other.hide cs) := by
  intro part begun inside
  rcases Shape.suffix_hideFrom begun inside with ⟨mark, rest, some, within, rfl⟩ | ⟨u, some, there, left, rfl⟩
  · exact size?_in_mark secret some within rest
  · refine size?_hide secret dealt ?_
    rcases before with clean | rfl
    · exact clean u some there
    · exact left

theorem clean_hideAll {shapes : List Shape} (known : ∀ other ∈ shapes, other ∈ secretShapes)
    (secret : shape ∈ secretShapes) (before : Clean shape cs ∨ shape ∈ shapes) :
    Clean shape (hideAll shapes cs) := by
  induction shapes generalizing cs with
  | nil => exact before.resolve_right (List.not_mem_nil)
  | cons other shapes ih =>
      obtain ⟨dealt, known⟩ := List.forall_mem_cons.mp known
      refine ih known ?_
      rw [List.mem_cons, ← or_assoc] at before
      exact before.imp_left (clean_hide secret dealt)

/-- No secret is left in a text once its secrets are replaced. -/
theorem clean_redact (secret : shape ∈ secretShapes) (cs : List Char) : Clean shape (redact cs) :=
  clean_hideAll (fun _ => id) secret (.inr secret)

theorem hideAll_eq {shapes : List Shape} (clean : ∀ shape ∈ shapes, Clean shape cs) :
    hideAll shapes cs = cs := by
  induction shapes with
  | nil => rfl
  | cons shape shapes ih =>
      obtain ⟨first, clean⟩ := List.forall_mem_cons.mp clean
      rw [hideAll_cons, first.hide_eq, ih clean]

/-- A text stays as it is just if it has no secret. -/
theorem redact_eq_self_iff : redact cs = cs ↔ ∀ shape ∈ secretShapes, Clean shape cs :=
  ⟨fun same _ secret => same ▸ clean_redact secret cs, hideAll_eq⟩

theorem redact_redact (cs : List Char) : redact (redact cs) = redact cs :=
  redact_eq_self_iff.mpr fun _ secret => clean_redact secret cs

theorem toList_redactText (text : String) : (redactText text).toList = redact text.toList :=
  String.toList_ofList

theorem redactText_eq_self_iff {text : String} :
    redactText text = text ↔ ∀ shape ∈ secretShapes, Clean shape text.toList := by
  rw [← redact_eq_self_iff, ← toList_redactText, String.toList_inj]

theorem redactText_redactText (text : String) : redactText (redactText text) = redactText text := by
  rw [← String.toList_inj, toList_redactText, toList_redactText, redact_redact]

end TenantAccess.Redaction
