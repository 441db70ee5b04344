import TenantAccess.Proofs.Redaction.Secrets

/-! # Credentials after a scheme

The word for a scheme is what gives the credential behind it away, and it is looked for only in what the
shapes before have left. A secret that begins further ahead may take the word as its value; then the
credential is left to itself, and stays unless it looks like a secret on its own. In all other texts
nothing of it is left.
-/

namespace TenantAccess.Redaction

open TenantAccess.Text

variable {shapes : List Shape} {scheme word blanks part before after cs x y z : List Char} {n : Nat}

/-! ## Blanks and marks -/

theorem hide_blanks {shape : Shape} (secret : shape ∈ secretShapes)
    (blank : ∀ d ∈ blanks, isBlank d = true) (y : List Char) :
    shape.hide (blanks ++ y) = blanks ++ shape.hide y := by
  refine Shape.hide_append_of_none fun u begun inside => ?_
  cases u with
  | nil => exact absurd rfl begun
  | cons d u => exact size?_of_blank secret (blank d (inside.subset List.mem_cons_self)) (u ++ y)

/-- Behind a mark and blanks a text is gone through as if it began there. -/
theorem hideAll_marked (known : ∀ shape ∈ shapes, shape ∈ secretShapes) (between : blanks ≠ [])
    (blank : ∀ d ∈ blanks, isBlank d = true) (marked : x.getLast? = some ']') (y : List Char) :
    hideAll shapes (x ++ (blanks ++ y)) = hideAll shapes x ++ (blanks ++ hideAll shapes y) := by
  induction shapes generalizing x y with
  | nil => rfl
  | cons shape shapes ih =>
      obtain ⟨secret, known⟩ := List.forall_mem_cons.mp known
      have apart (u : List Char) (begun : u ≠ []) (inside : u <:+ x) :
          shape.size? (u ++ (blanks ++ y)) = shape.size? u := by
        obtain ⟨v, rfl⟩ := exists_eq_append_of_suffix begun inside marked
        obtain ⟨d, blanks, rfl⟩ := List.exists_cons_of_ne_nil between
        rw [List.append_assoc]
        exact size?_marked secret (blank d List.mem_cons_self) v (blanks ++ y)
      have still : (shape.hide x).getLast? = some ']' := by
        have begun : shape.hide x ≠ [] := Shape.hide_ne_nil fun nothing => by simp [nothing] at marked
        obtain ⟨d, last⟩ := Option.ne_none_iff_exists'.mp (mt List.getLast?_eq_none_iff.mp begun)
        rw [← Shape.front_nil_right] at last ⊢
        rcases Shape.last_front 0 x [] last with rfl | ⟨-, same⟩
        · exact last
        · exact last.trans (same.symm.trans marked)
      simp only [hideAll_cons, Shape.hide_append apart, hide_blanks secret blank]
      exact ih known still (shape.hide y)

/-! ## The word for a scheme -/

/-- The words for authorization schemes. -/
def schemes : List (List Char) := ["bearer".toList, "basic".toList]

theorem schemeCredential_eq :
    schemeCredential = schemes.map fun scheme => scheme.map letter ++ credential := rfl

theorem sizeOfRow?_letters_eq_some_iff :
    sizeOfRow? (word.map letter) cs = some n ↔ word <+: cs.map foldLetter ∧ n = word.length := by
  induction word generalizing cs n with
  | nil => simp [sizeOfRow?, eq_comm]
  | cons l word ih =>
      cases cs with
      | nil => simp [sizeOfRow?, letter, Piece.size?]
      | cons d cs =>
          simp only [List.map_cons, sizeOfRow?_cons_eq_some_iff, size?_letter, List.cons_prefix_cons,
            Option.ite_none_right_eq_some, Option.some.injEq, List.length_cons]
          constructor
          · rintro ⟨m, k, ⟨same, rfl⟩, rest, rfl⟩
            obtain ⟨begins, rfl⟩ := ih.mp rest
            exact ⟨⟨same.symm, begins⟩, Nat.add_comm 1 _⟩
          · rintro ⟨⟨same, begins⟩, rfl⟩
            exact ⟨1, word.length, ⟨same.symm, rfl⟩, ih.mpr ⟨begins, rfl⟩, Nat.add_comm 1 _⟩

theorem small_of_scheme (known : scheme ∈ schemes) : ∀ l ∈ scheme, ('a' ≤ l && l ≤ 'z') = true := by
  have small : ∀ scheme ∈ schemes, (scheme.all fun l => 'a' ≤ l && l ≤ 'z') = true := by decide
  exact List.all_eq_true.mp (small scheme known)

theorem alphanumeric_of_scheme (known : word.map foldLetter ∈ schemes) :
    ∀ d ∈ word, isFoldedAlphanumeric d = true := by
  intro d there
  have counts := small_of_scheme known _ (List.mem_map_of_mem there)
  simp only [isFoldedAlphanumeric, isFoldedLetter, counts, Bool.true_or]

theorem exists_last_of_scheme (known : word.map foldLetter ∈ schemes) :
    ∃ last, word.getLast? = some last ∧ foldLetter last ∈ ['r', 'c'] := by
  have ends : ∀ scheme ∈ schemes, scheme.getLast? = some 'r' ∨ scheme.getLast? = some 'c' := by decide
  have same := ends _ known
  rw [List.getLast?_map] at same
  rcases same with same | same
  · obtain ⟨last, there, folded⟩ := Option.map_eq_some_iff.mp same
    exact ⟨last, there, by simp [folded]⟩
  · obtain ⟨last, there, folded⟩ := Option.map_eq_some_iff.mp same
    exact ⟨last, there, by simp [folded]⟩

theorem scheme_ne_nil (known : word.map foldLetter ∈ schemes) : word ≠ [] := by
  rintro rfl
  exact absurd known (by decide)

/-- A blank behind the word for a scheme ends all assigned values before it. -/
theorem assignedSecret_before_blank (known : word.map foldLetter ∈ schemes) {d : Char}
    (blank : isBlank d = true) {u : List Char} (begun : u ≠ []) (inside : u <:+ x ++ word) (y : List Char) :
    assignedSecret.size? (u ++ d :: y) = assignedSecret.size? u := by
  obtain ⟨last, there, ends⟩ := exists_last_of_scheme known
  have alphanumeric := alphanumeric_of_scheme known last (List.mem_of_getLast? there)
  have apart : ∀ l ∈ ['d', 't', 'n', 'y'], ['r', 'c'].elem l = false := by
    simp only [List.forall_mem_cons, List.not_mem_nil, false_implies, implies_true, and_true]
    decide
  obtain ⟨v, rfl⟩ := exists_eq_append_of_suffix begun inside
    ((List.getLast?_append_of_ne_nil x (scheme_ne_nil known)).trans there)
  rw [List.append_assoc]
  exact names_assignedSecret.size?_closed .assignment (not_blank_of_alphanumeric alphanumeric)
    (not_assignment_of_alphanumeric alphanumeric) (separates_of_blank blank)
    (fun name listed => name.le_of_last_ne fun same => by
      have other := apart _ listed
      rw [← same, List.elem_eq_true_of_mem ends] at other
      cases other) y

theorem assignedSecret_size?_of_letters (through : ∀ c ∈ x, isFoldedAlphanumeric c = true) :
    assignedSecret.size? x = none := by
  refine Option.eq_none_iff_forall_ne_some.mpr fun n fits => ?_
  obtain ⟨⟨row, there, takes⟩, -⟩ := Shape.size?_eq_some fits
  obtain ⟨name, -, rfl⟩ := names_assignedSecret row there
  have assigned : Piece.one isAssignment ∈ name.row ++ assignment :=
    List.mem_append_right name.row (List.mem_cons_of_mem _ List.mem_cons_self)
  obtain ⟨c, inside, assigns⟩ := exists_of_sizeOfRow? assigned takes
  rw [not_assignment_of_alphanumeric (through c inside)] at assigns
  cases assigns

/-- It ends the credentials too, but for the one that the word itself begins. -/
theorem schemeCredential_before_blank (known : word.map foldLetter ∈ schemes) {d : Char}
    (blank : isBlank d = true) (further : x ≠ []) (y : List Char) :
    schemeCredential.size? (x ++ (word ++ d :: y)) = schemeCredential.size? (x ++ word) := by
  have longest : ∀ s ∈ schemes, ∀ s' ∈ schemes, s <:+ s' → s = s' := by decide
  obtain ⟨last, there, -⟩ := exists_last_of_scheme known
  have alphanumeric := alphanumeric_of_scheme known last (List.mem_of_getLast? there)
  obtain ⟨front, rfl⟩ := exists_eq_append_of_suffix (scheme_ne_nil known) (List.suffix_refl _) there
  have apart := separates_of_blank blank
  have closed : schemeCredential.size? ((x ++ front) ++ last :: d :: y) =
      schemeCredential.size? ((x ++ front) ++ [last]) := by
    refine Shape.size?_congr fun row there => ?_
    rw [schemeCredential_eq] at there
    obtain ⟨scheme, listed, rfl⟩ := List.mem_map.mp there
    refine sizeOfRow?_closed_after (fun p there => ?_) (IsTail.credential.closed
      (not_blank_of_alphanumeric alphanumeric) (not_assignment_of_alphanumeric alphanumeric) apart)
      (fun m takes => ?_) y
    · obtain ⟨l, within, rfl⟩ := List.mem_map.mp there
      have name : isNameChar l = true := by
        simp only [isNameChar, small_of_scheme listed l within, Bool.true_or]
      exact (Piece.IsNaming.letter name).not_admits apart.name apart.joint
    · -- a scheme that ends where the word does would end in the word, and begin ahead of it
      obtain ⟨begins, rfl⟩ := sizeOfRow?_letters_eq_some_iff.mp takes
      by_contra beyond
      rw [List.append_assoc, List.map_append] at begins
      have whole := begins.eq_of_length_le (by
        simp only [List.length_append, List.length_map, List.length_singleton] at beyond ⊢
        omega)
      have same := longest _ known scheme listed ⟨_, whole.symm⟩
      rw [← same] at whole
      have nothing := List.self_eq_append_left.mp whole
      exact further (List.map_eq_nil_iff.mp nothing)
  simpa only [List.append_assoc, List.cons_append, List.nil_append] using closed

theorem not_blank_of_credential {d : Char} (begins : isCredentialChar d = true) : isBlank d = false := by
  refine Bool.eq_false_iff.mpr fun blank => ?_
  rw [(separates_of_blank blank).credential] at begins
  cases begins

theorem sizeOfRow?_credential (between : blanks ≠ []) (blank : ∀ d ∈ blanks, isBlank d = true) {d : Char}
    (begins : isCredentialChar d = true) (y : List Char) :
    sizeOfRow? credential (blanks ++ d :: y) =
      some (blanks.length + ((d :: y).takeWhile isCredentialChar).length) := by
  have first : (blanks ++ d :: y).takeWhile isBlank = blanks := by
    rw [List.takeWhile_append_of_pos blank, List.takeWhile_cons_of_neg (by
      rw [not_blank_of_credential begins]; exact Bool.false_ne_true), List.append_nil]
  have some : 1 ≤ blanks.length := List.length_pos_iff.mpr between
  refine sizeOfRow?_cons_eq_some_iff.mpr ⟨blanks.length, _,
    Piece.size?_run_eq_some_iff.mpr ⟨by rw [first], some⟩, ?_, rfl⟩
  rw [List.drop_left]
  refine sizeOfRow?_cons_eq_some_iff.mpr ⟨_, 0,
    Piece.size?_run_eq_some_iff.mpr ⟨rfl, ?_⟩, rfl, rfl⟩
  rw [List.takeWhile_cons_of_pos begins, List.length_cons]
  exact Nat.le_add_left 1 _

/-- The word, blanks and what can begin a credential are taken, and more than the word and the blanks. -/
theorem schemeCredential_size? (known : word.map foldLetter ∈ schemes) (between : blanks ≠ [])
    (blank : ∀ d ∈ blanks, isBlank d = true) {d : Char} (begins : isCredentialChar d = true)
    (y : List Char) :
    ∃ n, schemeCredential.size? (word ++ (blanks ++ d :: y)) = some n ∧
      word.length + blanks.length < n := by
  have first : ∀ s ∈ schemes, ∀ s' ∈ schemes, s <+: s' → s = s' := by decide
  have here : word.map foldLetter <+: (word ++ (blanks ++ d :: y)).map foldLetter := by
    rw [List.map_append]
    exact List.prefix_append _ _
  have after := sizeOfRow?_credential between blank begins y
  have name : sizeOfRow? ((word.map foldLetter).map letter) (word ++ (blanks ++ d :: y)) =
      some word.length := sizeOfRow?_letters_eq_some_iff.mpr ⟨here, (List.length_map foldLetter).symm⟩
  have own : sizeOfRow? ((word.map foldLetter).map letter ++ credential) (word ++ (blanks ++ d :: y)) =
      some (word.length + (blanks.length + ((d :: y).takeWhile isCredentialChar).length)) :=
    sizeOfRow?_append_eq_some_iff.mpr ⟨_, _, name, by rwa [List.drop_left], rfl⟩
  rw [schemeCredential_eq]
  refine Shape.lt_size?_of_row (List.mem_map_of_mem known) own fun row there m takes => ?_
  obtain ⟨scheme, listed, rfl⟩ := List.mem_map.mp there
  obtain ⟨i, j, name, rest, rfl⟩ := sizeOfRow?_append_eq_some_iff.mp takes
  obtain ⟨there, rfl⟩ := sizeOfRow?_letters_eq_some_iff.mp name
  have same : scheme = word.map foldLetter := by
    rcases List.prefix_or_prefix_of_prefix there here with shorter | longer
    · exact first scheme listed _ known shorter
    · exact (first _ known scheme listed longer).symm
  rw [same, List.length_map, List.drop_left, after] at rest
  cases rest
  rw [same, List.length_map, List.takeWhile_cons_of_pos begins, List.length_cons]
  omega

/-! ## What the credential is left to -/

/-- Where the blanks behind a word end all that begins before it, what is found there stops short of the
word or takes all of it, and the text goes on at the word or at the blanks. -/
theorem hide_before_blanks {shape : Shape} (named : shape ∈ namedShapes) (x y : List Char)
    (begun : word ≠ []) (through : ∀ c ∈ word, isFoldedAlphanumeric c = true)
    (closed : ∀ u, u ≠ [] → u <:+ x → shape.size? (u ++ (word ++ y)) = shape.size? (u ++ word)) :
    shape.overhang 0 x word = 0 ∧
        shape.hide (x ++ (word ++ y)) = shape.front 0 x word ++ shape.hide (word ++ y) ∨
      0 < shape.overhang 0 x word ∧
        shape.hide (x ++ (word ++ y)) = shape.front 0 x word ++ shape.hide y := by
  obtain ⟨same, reached⟩ := Shape.front_and_overhang_congr closed 0
  rw [← reached, ← same]
  have most : shape.overhang 0 x (word ++ y) ≤ word.length := by
    rw [reached]
    exact Shape.overhang_le (Nat.zero_le _)
  rcases Shape.hide_across shape x word y fun u n _ _ => reach_of_named named through with short | ⟨k, whole, parts⟩
  · exact .inl short
  · have none : k = 0 := by omega
    rw [none] at whole parts
    exact .inr ⟨whole ▸ List.length_pos_iff.mpr begun, parts⟩

/-- Whether a secret that begins before a word takes the word, of one of the shapes in turn. -/
def Overtakes : List Shape → List Char → List Char → Prop
  | [], _, _ => False
  | shape :: shapes, x, word =>
    0 < shape.overhang 0 x word ∨ Overtakes shapes (shape.front 0 x word) (shape.hide word)

instance decidableOvertakes : (shapes : List Shape) → (x word : List Char) → Decidable (Overtakes shapes x word)
  | [], _, _ => .isFalse id
  | shape :: shapes, x, word =>
    have := decidableOvertakes shapes (shape.front 0 x word) (shape.hide word)
    inferInstanceAs (Decidable (_ ∨ _))

/-- A credential after a scheme, in a text that has it in no other place. -/
structure Presents (before word blanks part after : List Char) : Prop where
  scheme : word.map foldLetter ∈ schemes
  between : blanks ≠ []
  blank : ∀ d ∈ blanks, isBlank d = true
  credential : ∀ d ∈ part, isCredentialChar d = true
  once : ∀ front back,
    before ++ word ++ blanks ++ part ++ after = front ++ part ++ back → front = before ++ word ++ blanks
  unmarked : ¬ part <:+: standardMark

namespace Presents

variable (here : Presents before word blanks part after)

include here

theorem foreign : Foreign part where
  opening := fun there => absurd (here.credential _ there) (by decide)
  closing := fun there => absurd (here.credential _ there) (by decide)
  unmarked := here.unmarked

theorem not_ahead : ¬ part <:+: before ++ word := by
  rintro ⟨front, back, same⟩
  have twice := here.once front (back ++ (blanks ++ (part ++ after))) (by
    simp only [← same, List.append_assoc])
  have size := congrArg List.length same
  have most := List.length_pos_iff.mpr here.foreign.ne_nil
  rw [twice] at size
  simp only [List.length_append] at size
  omega

theorem not_behind : ¬ part <:+: (part ++ after).tail := by
  rintro ⟨front, back, same⟩
  obtain ⟨d, rest, begins⟩ := List.exists_cons_of_ne_nil here.foreign.ne_nil
  have whole : part ++ after = d :: (part ++ after).tail := by rw [begins]; rfl
  have twice := here.once (before ++ word ++ blanks ++ d :: front) back (by
    rw [List.append_assoc _ part after, whole, ← same]
    simp only [List.append_assoc, List.cons_append])
  exact absurd (List.append_right_eq_self.mp twice) (List.cons_ne_nil d front)

theorem infix_across (x y : List Char) :
    part <:+: x ++ (blanks ++ y) ↔ part <:+: x ∨ part <:+: y :=
  infix_across_all here.foreign.ne_nil here.between (fun d there inside => by
    have blank := here.blank d there
    rw [not_blank_of_credential (here.credential d inside)] at blank
    cases blank) x y

theorem assignedSecret_hide (y : List Char) :
    assignedSecret.hide (before ++ word ++ (blanks ++ y)) =
      assignedSecret.hide (before ++ word) ++ (blanks ++ assignedSecret.hide y) := by
  obtain ⟨d, rest, begins⟩ := List.exists_cons_of_ne_nil here.between
  have blank : isBlank d = true := here.blank d (begins ▸ List.mem_cons_self)
  have apart (u : List Char) (begun : u ≠ []) (inside : u <:+ before ++ word) :
      assignedSecret.size? (u ++ (blanks ++ y)) = assignedSecret.size? u := by
    rw [begins]
    exact assignedSecret_before_blank here.scheme blank begun inside (rest ++ y)
  rw [Shape.hide_append apart, hide_blanks (by simp [secretShapes]) here.blank]

theorem assignedSecret_word : assignedSecret.hide word = word := by
  have letters := alphanumeric_of_scheme here.scheme
  exact Shape.hide_eq_self fun u _ inside =>
    assignedSecret_size?_of_letters fun c there => letters c (inside.subset there)

/-- The word is left where it was, or with what takes it as its value. -/
theorem assignedSecret_cases :
    assignedSecret.overhang 0 before word = 0 ∧
        assignedSecret.hide (before ++ word) = assignedSecret.front 0 before word ++ word ∨
      0 < assignedSecret.overhang 0 before word ∧
        assignedSecret.hide (before ++ word) = assignedSecret.front 0 before word := by
  have named : assignedSecret ∈ namedShapes := by simp [namedShapes]
  have parts := hide_before_blanks named before [] (scheme_ne_nil here.scheme)
    (alphanumeric_of_scheme here.scheme) fun u _ _ => by rw [List.append_nil]
  simpa only [List.append_nil, Shape.hide_nil, here.assignedSecret_word] using parts

/-- The word that a secret took leaves the credential to itself. -/
theorem left_iff (known : ∀ shape ∈ shapes, shape ∈ secretShapes) (marked : x.getLast? = some ']')
    (absent : ¬ part <:+: x) (y : List Char) :
    part <:+: hideAll shapes (x ++ (blanks ++ y)) ↔ part <:+: hideAll shapes y := by
  rw [hideAll_marked known here.between here.blank marked, here.infix_across]
  exact or_iff_right fun left => absent (here.foreign.of_hideAll left)

/-- A credential whose beginning is taken before the schemes are looked for is in no other place. -/
theorem not_left_of_taken (left : assignedSecret.hide (before ++ word) = x ++ word)
    (found : assignedSecret.size? (part ++ after) = some n) :
    ¬ part <:+: x ++ (word ++ (blanks ++ assignedSecret.hide (part ++ after))) := by
  rw [← List.append_assoc, here.infix_across, ← left, Shape.hide_of_size? found,
    here.foreign.behind_mark]
  rintro (ahead | behind)
  · exact here.not_ahead (here.foreign.of_hide ahead)
  · have further : (part ++ after).drop n <:+ (part ++ after).drop 1 :=
      List.drop_suffix_drop_left _ (Shape.size?_eq_some found).2
    rw [List.drop_one] at further
    exact here.not_behind ((here.foreign.of_hide behind).trans further.isInfix)

/-- One whose beginning is left is taken with the word. -/
theorem not_left_of_kept (found : assignedSecret.size? (part ++ after) = none)
    (absent : ¬ part <:+: z) :
    ¬ part <:+: z ++ schemeCredential.hide (word ++ (blanks ++ assignedSecret.hide (part ++ after))) := by
  obtain ⟨d, rest, begins⟩ := List.exists_cons_of_ne_nil here.foreign.ne_nil
  have whole : part ++ after = d :: (part ++ after).tail := by rw [begins]; rfl
  have kept : assignedSecret.hide (part ++ after) = d :: assignedSecret.hide (part ++ after).tail := by
    rw [whole] at found ⊢
    exact Shape.hide_of_none found
  obtain ⟨n, takes, more⟩ := schemeCredential_size? here.scheme here.between here.blank
    (here.credential d (begins ▸ List.mem_cons_self)) (assignedSecret.hide (part ++ after).tail)
  have further := List.drop_suffix_drop_left
    (word ++ (blanks ++ d :: assignedSecret.hide (part ++ after).tail)) more
  rw [Nat.succ_eq_add_one, Nat.add_assoc, List.drop_length_add_append,
    List.drop_length_add_append, List.drop_one, List.tail_cons] at further
  rw [kept, Shape.hide_of_size? takes, here.foreign.across_mark]
  rintro (ahead | behind)
  · exact absent ahead
  · have last := (here.foreign.of_hide behind).trans further.isInfix
    exact here.not_behind (here.foreign.of_hide last)

/-- Where the word is left, the credential goes with it, or has gone already. -/
theorem not_left (left : assignedSecret.hide (before ++ word) = x ++ word)
    (parts : schemeCredential.hide (x ++ (word ++ (blanks ++ assignedSecret.hide (part ++ after)))) =
      z ++ schemeCredential.hide (word ++ (blanks ++ assignedSecret.hide (part ++ after))))
    (absent : ¬ part <:+: z) :
    ¬ part <:+:
      schemeCredential.hide (x ++ (word ++ (blanks ++ assignedSecret.hide (part ++ after)))) := by
  cases found : assignedSecret.size? (part ++ after) with
  | some n => exact fun there => here.not_left_of_taken left found (here.foreign.of_hide there)
  | none =>
      rw [parts]
      exact here.not_left_of_kept found absent

end Presents

/-- Nothing of a credential after a scheme is left, unless a secret that begins further ahead takes the
word for the scheme and the credential does not look like a secret on its own. -/
theorem credential_left_iff (here : Presents before word blanks part after) :
    part <:+: redact (before ++ word ++ blanks ++ part ++ after) ↔
      Overtakes [assignedSecret, schemeCredential] before word ∧ part <:+: redact (part ++ after) := by
  have gone : ¬ part <:+: assignedSecret.front 0 before word := fun there =>
    here.not_ahead ((here.foreign.of_front there).trans (List.prefix_append before word).isInfix)
  have first : redact (before ++ word ++ blanks ++ part ++ after) =
      hideAll [schemeCredential, knownKey, assignedHeader, longHex]
        (assignedSecret.hide (before ++ word) ++ (blanks ++ assignedSecret.hide (part ++ after))) := by
    rw [← here.assignedSecret_hide]
    simp only [List.append_assoc]
    rfl
  have overtakes : Overtakes [assignedSecret, schemeCredential] before word ↔
      0 < assignedSecret.overhang 0 before word ∨
        0 < schemeCredential.overhang 0 (assignedSecret.front 0 before word) word := by
    simp only [Overtakes, here.assignedSecret_word, or_false]
  rw [first, overtakes]
  rcases here.assignedSecret_cases with ⟨none, left⟩ | ⟨taken, left⟩
  · rw [none, or_iff_right (Nat.lt_irrefl 0), left, List.append_assoc, hideAll_cons]
    obtain ⟨d, rest, begins⟩ := List.exists_cons_of_ne_nil here.between
    have blank : isBlank d = true := here.blank d (begins ▸ List.mem_cons_self)
    have named : schemeCredential ∈ namedShapes := by simp [namedShapes]
    have second := hide_before_blanks named (assignedSecret.front 0 before word)
      (blanks ++ assignedSecret.hide (part ++ after)) (scheme_ne_nil here.scheme)
      (alphanumeric_of_scheme here.scheme) fun u begun _ => by
        rw [begins]
        exact schemeCredential_before_blank here.scheme blank begun _
    have still : ¬ part <:+: schemeCredential.front 0 (assignedSecret.front 0 before word) word :=
      fun there => gone (here.foreign.of_front there)
    rcases second with ⟨none, parts⟩ | ⟨taken, parts⟩
    · rw [none, iff_false_intro (Nat.lt_irrefl 0), false_and, iff_false]
      exact fun there => here.not_left left parts still (here.foreign.of_hideAll there)
    · rw [parts, hide_blanks (by simp [secretShapes]) here.blank,
        here.left_iff (by simp [secretShapes]) (Shape.getLast?_front taken) still, and_iff_right taken]
      rfl
  · rw [left, here.left_iff (by simp [secretShapes]) (Shape.getLast?_front taken) gone,
      and_iff_right (.inl taken)]
    rfl

theorem only_there {d : Char} {rest : List Char} (ahead : d ∉ x) (behind : d ∉ rest ++ y)
    (front back : List Char) (same : x ++ d :: rest ++ y = front ++ d :: rest ++ back) : front = x := by
  rw [List.append_assoc, List.append_assoc, List.cons_append, List.cons_append] at same
  exact ((List.append_cons_inj_of_notMem ahead behind).mp same).1.symm

/-- A credential after a word in capitals. -/
theorem credential_gone :
    Presents "sent ".toList "BEARER".toList [' ', '\t'] "xyz.789".toList [] ∧
      ¬ "xyz.789".toList <:+: redact "sent BEARER \txyz.789".toList := by
  have here : Presents "sent ".toList "BEARER".toList [' ', '\t'] "xyz.789".toList [] :=
    ⟨by decide, by decide, List.all_eq_true.mp (by decide), List.all_eq_true.mp (by decide),
      only_there (by decide) (by decide), by decide⟩
  refine ⟨here, fun left => ?_⟩
  have overtaken := ((credential_left_iff here).mp left).1
  exact absurd overtaken (by decide)

/-- Behind the name of a secret the word for a scheme is taken for the value. -/
theorem credential_left_behind_name :
    Presents "token: ".toList "Bearer".toList [' '] "xyz.789".toList [] ∧
      redact "token: Bearer xyz.789".toList = "[REDACTED] xyz.789".toList ∧
      "xyz.789".toList <:+: "[REDACTED] xyz.789".toList := by
  have here : Presents "token: ".toList "Bearer".toList [' '] "xyz.789".toList [] :=
    ⟨by decide, by decide, List.all_eq_true.mp (by decide), List.all_eq_true.mp (by decide),
      only_there (by decide) (by decide), by decide⟩
  exact ⟨here, by decide, by decide⟩

end TenantAccess.Redaction
