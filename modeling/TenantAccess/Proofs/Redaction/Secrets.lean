import TenantAccess.Proofs.Redaction.Scan

/-! # What the shapes of secrets have in common

Every shape but that of long hexadecimal runs is a name, whatever its case, with a tail that is the same
for all names of the shape. A blank is in no name and in no value, so it separates secrets from each
other: only between a name and its value may there be blanks.
-/

namespace TenantAccess.Redaction

open TenantAccess.Text

variable {p : Piece} {shape : Shape} {tail : List Piece} {lasts word x y : List Char} {c z : Char} {n : Nat}

/-! ## Classes of characters -/

/-- Whether a character may stand in a name. -/
def isNameChar (c : Char) : Bool := ('a' ≤ c && c ≤ 'z') || c == '-'

/-- The codes of all blanks. -/
def blankCodes : List Nat :=
  blankRanges.flatMap fun range => List.range' range.1 (range.2 + 1 - range.1)

theorem of_blank {P : Char → Bool} (all : blankCodes.all (fun n => P (Char.ofNat n)) = true)
    (blank : isBlank c = true) : P c = true := by
  obtain ⟨range, listed, within⟩ := List.any_eq_true.mp blank
  have inside : c.toNat ∈ blankCodes := by
    refine List.mem_flatMap.mpr ⟨range, listed, ?_⟩
    simp only [Bool.and_eq_true, decide_eq_true_eq] at within
    exact List.mem_range'_1.mpr ⟨within.1, by omega⟩
  simpa only [Char.ofNat_toNat] using List.all_eq_true.mp all _ inside

/-- A character that is neither in a name nor in what goes with it. -/
structure Separates (c : Char) : Prop where
  name : isNameChar (foldLetter c) = false
  joint : isJoint c = false
  assignment : isAssignment c = false
  quote : isQuote c = false
  value : isValueChar c = false
  credential : isCredentialChar c = false
  alphanumeric : isFoldedAlphanumeric c = false
  hex : isHexDigit c = false

theorem separates_of_blank (blank : isBlank c = true) : Separates c := by
  have none : (!isNameChar (foldLetter c) && !isJoint c && !isAssignment c && !isQuote c &&
      !isValueChar c && !isCredentialChar c && !isFoldedAlphanumeric c && !isHexDigit c) = true := by
    revert blank
    exact of_blank (P := fun c => !isNameChar (foldLetter c) && !isJoint c && !isAssignment c &&
      !isQuote c && !isValueChar c && !isCredentialChar c && !isFoldedAlphanumeric c &&
      !isHexDigit c) (by decide +kernel)
  simp only [Bool.and_eq_true, Bool.not_eq_true'] at none
  obtain ⟨⟨⟨⟨⟨⟨⟨name, joint⟩, assignment⟩, quote⟩, value⟩, credential⟩, alphanumeric⟩, hex⟩ := none
  exact ⟨name, joint, assignment, quote, value, credential, alphanumeric, hex⟩

theorem alphanumeric_of_hex (hex : isHexDigit c = true) : isFoldedAlphanumeric c = true := by
  simp only [isHexDigit, Bool.or_eq_true, Bool.and_eq_true, decide_eq_true_eq] at hex
  simp only [isFoldedAlphanumeric, isFoldedLetter, Bool.or_eq_true, Bool.and_eq_true,
    decide_eq_true_eq]
  exact hex.imp_left fun small => ⟨small.1, Char.le_trans small.2 (by decide)⟩

theorem not_blank_of_alphanumeric (alphanumeric : isFoldedAlphanumeric c = true) : isBlank c = false := by
  refine Bool.eq_false_iff.mpr fun blank => ?_
  rw [(separates_of_blank blank).alphanumeric] at alphanumeric
  cases alphanumeric

theorem not_assignment_of_alphanumeric (alphanumeric : isFoldedAlphanumeric c = true) :
    isAssignment c = false := by
  refine Bool.eq_false_iff.mpr fun assigns => ?_
  simp only [isAssignment, Bool.or_eq_true, beq_iff_eq] at assigns
  rcases assigns with rfl | rfl <;> revert alphanumeric <;> decide

theorem not_quote_of_alphanumeric (alphanumeric : isFoldedAlphanumeric c = true) : isQuote c = false := by
  refine Bool.eq_false_iff.mpr fun quote => ?_
  simp only [isQuote, Bool.or_eq_true, beq_iff_eq] at quote
  rcases quote with rfl | rfl <;> revert alphanumeric <;> decide

theorem not_joint_of_alphanumeric (alphanumeric : isFoldedAlphanumeric c = true) : isJoint c = false := by
  refine Bool.eq_false_iff.mpr fun joins => ?_
  simp only [isJoint, Bool.or_eq_true, beq_iff_eq] at joins
  rcases joins with rfl | rfl <;> revert alphanumeric <;> decide

theorem value_of_alphanumeric (alphanumeric : isFoldedAlphanumeric c = true) : isValueChar c = true := by
  simp only [isValueChar, not_quote_of_alphanumeric alphanumeric, not_blank_of_alphanumeric alphanumeric,
    Bool.or_false, Bool.not_false]

theorem credential_of_alphanumeric (alphanumeric : isFoldedAlphanumeric c = true) :
    isCredentialChar c = true := by
  simp only [isCredentialChar, alphanumeric, Bool.true_or]

/-! ## Names -/

/-- A letter of a name. -/
def letter (l : Char) : Piece := .one fun c => foldLetter c == l

/-- What a name consists of: letters, and what may join its parts. -/
inductive Piece.IsNaming : Piece → Prop
  | letter {l : Char} (known : isNameChar l = true) : IsNaming (letter l)
  | joint : IsNaming (.maybe isJoint)

theorem Piece.IsNaming.not_admits (naming : p.IsNaming) (name : isNameChar (foldLetter c) = false)
    (joint : isJoint c = false) : p.admits c = false := by
  cases naming with
  | @letter l known =>
      refine beq_eq_false_iff_ne.mpr ?_
      rintro rfl
      rw [known] at name
      cases name
  | joint => exact joint

/-- A name, as a row of pieces. -/
structure Name where
  first : Char
  inner : List Piece
  last : Char
  begins : ('a' ≤ first && first ≤ 'z') = true
  inside : ∀ p ∈ inner, p.IsNaming
  ends : isNameChar last = true
  strange : ∃ l, letter l ∈ inner ∧ isHexDigit l = false
  short : inner.length < 30

theorem sizeOfRow?_le_length {row : List Piece} (naming : ∀ p ∈ row, p.IsNaming)
    (takes : sizeOfRow? row x = some n) : n ≤ row.length := by
  induction row generalizing x n with
  | nil =>
      cases takes
      exact Nat.le_refl 0
  | cons p row ih =>
      obtain ⟨first, naming⟩ := List.forall_mem_cons.mp naming
      obtain ⟨m, k, single, rest, rfl⟩ := sizeOfRow?_cons_eq_some_iff.mp takes
      have most : m ≤ 1 := by
        cases first with
        | letter known =>
            obtain ⟨-, -, -, -, rfl⟩ := Piece.size?_one_eq_some_iff.mp single
            exact Nat.le_refl 1
        | joint =>
            cases x with
            | nil =>
                cases single
                exact Nat.zero_le 1
            | cons c x =>
                cases single
                split <;> omega
      have more := ih naming rest
      rw [List.length_cons]
      omega

/-- The row of a name. -/
def Name.row (name : Name) : List Piece := letter name.first :: (name.inner ++ [letter name.last])

theorem naming_word {text : String} (known : text.toList.all isNameChar = true) :
    ∀ p ∈ Piece.word text, p.IsNaming := by
  intro p there
  obtain ⟨l, listed, rfl⟩ := List.mem_map.mp there
  exact .letter (List.all_eq_true.mp known l listed)

theorem naming_joined {first second : String} (known : first.toList.all isNameChar = true)
    (known' : second.toList.all isNameChar = true) :
    ∀ p ∈ joined first second, p.IsNaming := by
  intro p there
  rcases List.mem_append.mp there with there | there
  · exact naming_word known p there
  · rcases List.mem_cons.mp there with rfl | there
    · exact .joint
    · exact naming_word known' p there

/-- The rows of a shape are names, whose last characters are among these, each with the same tail. -/
def Names (shape : Shape) (lasts : List Char) (tail : List Piece) : Prop :=
  ∀ row ∈ shape, ∃ name : Name, name.last ∈ lasts ∧ row = name.row ++ tail

/-- What an assigned value is read by, after its name. -/
def assignment : List Piece :=
  [.run 0 isBlank, .one isAssignment, .run 0 isBlank, .maybe isQuote, .run 1 isValueChar]

/-- What a credential is read by, after its scheme. -/
def credential : List Piece := [.run 1 isBlank, .run 1 isCredentialChar]

/-- What a key is read by, after its usual beginning. -/
def keyRun : List Piece := [.run 32 isFoldedAlphanumeric]

theorem strange_word {text : String} (known : text.toList.any (fun l => !isHexDigit l) = true) :
    ∃ l, letter l ∈ Piece.word text ∧ isHexDigit l = false := by
  obtain ⟨l, listed, strange⟩ := List.any_eq_true.mp known
  exact ⟨l, List.mem_map_of_mem (f := letter) listed, by simpa using strange⟩

/-- A name in one word. -/
def Name.ofWord (first : Char) (inner : String) (last : Char)
    (known : ('a' ≤ first && first ≤ 'z') = true ∧ inner.toList.all isNameChar = true ∧
      isNameChar last = true ∧ inner.toList.any (fun l => !isHexDigit l) = true ∧
      (Piece.word inner).length < 30) : Name where
  first := first
  inner := Piece.word inner
  last := last
  begins := known.1
  inside := naming_word known.2.1
  ends := known.2.2.1
  strange := strange_word known.2.2.2.1
  short := known.2.2.2.2

/-- A name in two words. -/
def Name.ofWords (first : Char) (inner inner' : String) (last : Char)
    (known : ('a' ≤ first && first ≤ 'z') = true ∧
      (inner.toList.all isNameChar = true ∧ inner'.toList.all isNameChar = true) ∧
      isNameChar last = true ∧ inner.toList.any (fun l => !isHexDigit l) = true ∧
      (joined inner inner').length < 30) : Name where
  first := first
  inner := joined inner inner'
  last := last
  begins := known.1
  inside := naming_joined known.2.1.1 known.2.1.2
  ends := known.2.2.1
  strange := by
    obtain ⟨l, listed, strange⟩ := strange_word known.2.2.2.1
    exact ⟨l, List.mem_append_left _ listed, strange⟩
  short := known.2.2.2.2

theorem names_assignedSecret : Names assignedSecret ['d', 't', 'n', 'y'] assignment := by
  simp only [Names, assignedSecret, List.map_cons, List.map_nil, List.forall_mem_cons,
    List.not_mem_nil, false_implies, implies_true, and_true]
  exact ⟨⟨.ofWord 'p' "asswor" 'd' (by decide), by decide, rfl⟩,
    ⟨.ofWord 'p' "assw" 'd' (by decide), by decide, rfl⟩,
    ⟨.ofWord 'p' "w" 'd' (by decide), by decide, rfl⟩,
    ⟨.ofWord 's' "ecre" 't' (by decide), by decide, rfl⟩,
    ⟨.ofWord 't' "oke" 'n' (by decide), by decide, rfl⟩,
    ⟨.ofWords 'a' "pi" "ke" 'y' (by decide), by decide, rfl⟩,
    ⟨.ofWords 'a' "uth" "toke" 'n' (by decide), by decide, rfl⟩⟩

theorem names_schemeCredential : Names schemeCredential ['r', 'c'] credential := by
  simp only [Names, schemeCredential, List.map_cons, List.map_nil, List.forall_mem_cons,
    List.not_mem_nil, false_implies, implies_true, and_true]
  exact ⟨⟨.ofWord 'b' "eare" 'r' (by decide), by decide, rfl⟩,
    ⟨.ofWord 'b' "asi" 'c' (by decide), by decide, rfl⟩⟩

theorem names_knownKey : Names knownKey ['-'] keyRun := by
  simp only [Names, knownKey, List.map_cons, List.map_nil, List.forall_mem_cons,
    List.not_mem_nil, false_implies, implies_true, and_true]
  exact ⟨⟨.ofWord 's' "k" '-' (by decide), by decide, rfl⟩,
    ⟨.ofWord 'p' "k" '-' (by decide), by decide, rfl⟩⟩

theorem names_assignedHeader : Names assignedHeader ['y', 'n'] assignment := by
  simp only [Names, assignedHeader, List.map_cons, List.map_nil, List.forall_mem_cons,
    List.not_mem_nil, false_implies, implies_true, and_true]
  exact ⟨⟨.ofWord 'x' "-api-ke" 'y' (by decide), by decide, rfl⟩,
    ⟨.ofWord 'x' "-auth-toke" 'n' (by decide), by decide, rfl⟩,
    ⟨.ofWord 'a' "uthorizatio" 'n' (by decide), by decide, rfl⟩⟩

namespace Name

variable (name : Name)

theorem naming : ∀ p ∈ name.row, p.IsNaming := by
  have first : isNameChar name.first = true := by
    have begins := name.begins
    simp only [isNameChar, begins, Bool.true_or]
  intro p there
  rcases List.mem_cons.mp there with rfl | there
  · exact .letter first
  · rcases List.mem_append.mp there with there | there
    · exact name.inside p there
    · rw [List.mem_singleton.mp there]
      exact .letter name.ends

theorem length_row : name.row.length < 32 := by
  have short := name.short
  simp only [row, List.length_cons, List.length_append, List.length_nil]
  omega

theorem strange_row : ∃ l, letter l ∈ name.row ∧ isHexDigit l = false := by
  obtain ⟨l, listed, strange⟩ := name.strange
  exact ⟨l, List.mem_cons_of_mem _ (List.mem_append_left _ listed), strange⟩

/-- A name goes no further than the characters by which it ends. -/
theorem size_local {m : Nat} (takes : sizeOfRow? name.row (x ++ y) = some m) (within : m ≤ x.length)
    (y' : List Char) : sizeOfRow? name.row (x ++ y') = some m := by
  have split : name.row = (letter name.first :: name.inner) ++ [letter name.last] := rfl
  rw [split] at takes ⊢
  obtain ⟨i, j, front, last, rfl⟩ := sizeOfRow?_append_eq_some_iff.mp takes
  obtain ⟨one, none, single, nothing, rfl⟩ := sizeOfRow?_cons_eq_some_iff.mp last
  cases nothing
  obtain ⟨-, -, -, -, rfl⟩ := Piece.size?_one_eq_some_iff.mp single
  have inside : i < x.length := by omega
  refine sizeOfRow?_append_eq_some_iff.mpr ⟨i, 1, sizeOfRow?_local front inside y', ?_, rfl⟩
  obtain ⟨d, rest, there⟩ := List.exists_cons_of_length_pos
    (show 0 < (x.drop i).length by rw [List.length_drop]; omega)
  rw [List.drop_append_of_le_length inside.le, there] at single ⊢
  exact sizeOfRow?_cons_eq_some_iff.mpr ⟨1, 0, single, rfl, rfl⟩

end Name

/-! ## Blanks between secrets -/

theorem Name.not_admits (name : Name) (inner : isNameChar (foldLetter c) = false)
    (joint : isJoint c = false) : ∀ p ∈ name.row, p.admits c = false :=
  fun p there => (name.naming p there).not_admits inner joint

/-- The tails that a name can have. -/
inductive IsTail : List Piece → Prop
  | assignment : IsTail assignment
  | credential : IsTail credential
  | keyRun : IsTail keyRun

theorem IsTail.closed (known : IsTail tail) (inner : isBlank z = false)
    (unassigned : isAssignment z = false) (apart : Separates c) : ClosedBy z c tail := by
  cases known with
  | assignment =>
      refine .pass inner (.pass unassigned (.pass inner (.ended ?_)))
      simp only [List.forall_mem_cons, List.not_mem_nil, false_implies, implies_true, and_true]
      exact ⟨apart.quote, apart.value⟩
  | credential =>
      refine .pass inner (.ended ?_)
      simp only [List.forall_mem_cons, List.not_mem_nil, false_implies, implies_true, and_true]
      exact apart.credential
  | keyRun => exact .ended (List.forall_mem_singleton.mpr apart.alphanumeric)

/-- A tail ends in a run that goes through letters and digits, and has none of them before. -/
theorem IsTail.last (known : IsTail tail) :
    ∃ (before : List Piece) (least : Nat) (isIn : Char → Bool), tail = before ++ [.run least isIn] ∧
      least ≤ 32 ∧ ∀ c, isFoldedAlphanumeric c = true →
        isIn c = true ∧ ∀ p ∈ before, p.admits c = false := by
  cases known with
  | assignment =>
      refine ⟨[.run 0 isBlank, .one isAssignment, .run 0 isBlank, .maybe isQuote], 1, isValueChar, rfl,
        by decide, fun c alphanumeric => ⟨value_of_alphanumeric alphanumeric, ?_⟩⟩
      have inner := not_blank_of_alphanumeric alphanumeric
      simp only [List.forall_mem_cons, List.not_mem_nil, false_implies, implies_true, and_true]
      exact ⟨inner, not_assignment_of_alphanumeric alphanumeric, inner,
        not_quote_of_alphanumeric alphanumeric⟩
  | credential =>
      refine ⟨[.run 1 isBlank], 1, isCredentialChar, rfl, by decide, fun c alphanumeric =>
        ⟨credential_of_alphanumeric alphanumeric, ?_⟩⟩
      exact List.forall_mem_singleton.mpr (not_blank_of_alphanumeric alphanumeric)
  | keyRun =>
      exact ⟨[], 32, isFoldedAlphanumeric, rfl, Nat.le_refl _, fun c alphanumeric =>
        ⟨alphanumeric, fun _ => List.not_mem_nil.elim⟩⟩

/-- Where a text ends that is no name, a blank ends all that begins in it. -/
theorem Names.size?_closed (names : Names shape lasts tail) (known : IsTail tail)
    (inner : isBlank z = false) (unassigned : isAssignment z = false) (apart : Separates c)
    (before : ∀ name : Name, name.last ∈ lasts →
      ∀ m, sizeOfRow? name.row (x ++ [z]) = some m → m ≤ x.length) (y : List Char) :
    shape.size? (x ++ z :: c :: y) = shape.size? (x ++ [z]) := by
  refine Shape.size?_congr fun row there => ?_
  obtain ⟨name, last, rfl⟩ := names row there
  exact sizeOfRow?_closed_after (name.not_admits apart.name apart.joint)
    (known.closed inner unassigned apart) (before name last) y

theorem Name.le_of_last_ne (name : Name) (other : foldLetter z ≠ name.last) :
    ∀ m, sizeOfRow? name.row (x ++ [z]) = some m → m ≤ x.length := by
  intro m takes
  have split : name.row = (letter name.first :: name.inner) ++ [letter name.last] := rfl
  rw [split] at takes
  exact Redaction.le_of_last_ne (fun c => foldLetter c == name.last) (beq_eq_false_iff_ne.mpr other) takes

theorem size?_letter (l : Char) (y : List Char) :
    (letter l).size? (c :: y) = if foldLetter c = l then some 1 else none := by
  simp only [letter, Piece.size?, beq_iff_eq]

/-- What a name may begin with is a letter. -/
theorem Names.first_of_size? (names : Names shape lasts tail)
    (fits : shape.size? (c :: y) = some n) : isFoldedLetter c = true := by
  obtain ⟨⟨row, there, takes⟩, -⟩ := Shape.size?_eq_some fits
  obtain ⟨name, -, rfl⟩ := names row there
  obtain ⟨m, k, first, -, -⟩ := sizeOfRow?_cons_eq_some_iff.mp takes
  rw [size?_letter] at first
  obtain ⟨same, -⟩ := Option.ite_none_right_eq_some.mp first
  simp only [isFoldedLetter, same, name.begins]

/-- The shapes that begin with a name. -/
def namedShapes : List Shape := [assignedSecret, schemeCredential, knownKey, assignedHeader]

theorem secretShapes_eq : secretShapes = namedShapes ++ [longHex] := rfl

theorem names_of_mem (there : shape ∈ namedShapes) :
    ∃ lasts tail, Names shape lasts tail ∧ IsTail tail := by
  simp only [namedShapes, List.mem_cons, List.not_mem_nil, or_false] at there
  rcases there with rfl | rfl | rfl | rfl
  · exact ⟨_, _, names_assignedSecret, .assignment⟩
  · exact ⟨_, _, names_schemeCredential, .credential⟩
  · exact ⟨_, _, names_knownKey, .keyRun⟩
  · exact ⟨_, _, names_assignedHeader, .assignment⟩

/-- What is found before a word of letters and digits stops short of it or takes all of it. -/
theorem reach_of_named (there : shape ∈ namedShapes) (through : ∀ c ∈ word, isFoldedAlphanumeric c = true)
    (fits : shape.size? (x ++ (word ++ y)) = some n) : n ≤ x.length ∨ x.length + word.length ≤ n := by
  obtain ⟨lasts, tail, names, known⟩ := names_of_mem there
  obtain ⟨⟨row, listed, takes⟩, -⟩ := Shape.size?_eq_some fits
  obtain ⟨name, -, rfl⟩ := names row listed
  obtain ⟨before, least, isIn, rfl, -, wide⟩ := known.last
  rw [← List.append_assoc] at takes
  exact sizeOfRow?_reach (fun c there => (wide c (through c there)).1) takes

/-- Every secret begins with a letter or a digit. -/
theorem first_of_size? (secret : shape ∈ secretShapes)
    (fits : shape.size? (c :: y) = some n) : isFoldedAlphanumeric c = true := by
  rw [secretShapes_eq, List.mem_append, List.mem_singleton] at secret
  rcases secret with named | rfl
  · obtain ⟨lasts, tail, names, -⟩ := names_of_mem named
    simp only [isFoldedAlphanumeric, names.first_of_size? fits, Bool.true_or]
  · obtain ⟨⟨row, there, takes⟩, -⟩ := Shape.size?_eq_some fits
    cases List.mem_singleton.mp there
    obtain ⟨m, k, run, -, -⟩ := sizeOfRow?_cons_eq_some_iff.mp takes
    obtain ⟨rfl, long⟩ := Piece.size?_run_eq_some_iff.mp run
    cases hex : isHexDigit c with
    | false => simp [hex] at long
    | true => exact alphanumeric_of_hex hex

theorem size?_of_blank (secret : shape ∈ secretShapes) (blank : isBlank c = true) (y : List Char) :
    shape.size? (c :: y) = none := by
  refine Option.eq_none_iff_forall_ne_some.mpr fun n fits => ?_
  have begins := first_of_size? secret fits
  rw [(separates_of_blank blank).alphanumeric] at begins
  cases begins

/-- After a mark a blank ends all that came before. -/
theorem size?_marked (secret : shape ∈ secretShapes) (blank : isBlank c = true) (x y : List Char) :
    shape.size? (x ++ ']' :: c :: y) = shape.size? (x ++ [']']) := by
  have apart := separates_of_blank blank
  rw [secretShapes_eq, List.mem_append, List.mem_singleton] at secret
  rcases secret with named | rfl
  · obtain ⟨lasts, tail, names, known⟩ := names_of_mem named
    refine names.size?_closed known (by decide) (by decide) apart (fun name _ => ?_) y
    refine name.le_of_last_ne fun same => ?_
    have ends := name.ends
    rw [← same] at ends
    exact absurd ends (by decide)
  · refine Shape.size?_congr fun row there => ?_
    cases List.mem_singleton.mp there
    refine sizeOfRow?_closed (.ended fun p there => ?_) x y
    cases List.mem_singleton.mp there
    exact apart.hex

end TenantAccess.Redaction
