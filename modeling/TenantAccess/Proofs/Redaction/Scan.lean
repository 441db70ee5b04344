import TenantAccess.Proofs.Redaction.Rows
import TenantAccess.Proofs.Text.Parts

/-! # Going through a text in two parts

A text is gone through from left to right. Where it is cut in two, what is found in the first part may
reach into the second, and by so much the second is passed over; beyond this the two parts have nothing to
do with each other. What is found is always taken out as a whole, so nothing that the mark does not itself
contain can appear that was not there before.
-/

namespace TenantAccess.Redaction

namespace Shape

variable {shape : Shape} {cs ds x y y' part : List Char} {c : Char} {n skip : Nat}

/-! ## What is found -/

theorem size?_eq_some (fits : shape.size? cs = some n) :
    (∃ row ∈ shape, sizeOfRow? row cs = some n) ∧ 0 < n := by
  unfold size? at fits
  split at fits
  · next m found =>
      cases fits
      exact ⟨List.exists_of_findSome?_eq_some found, Nat.succ_pos m⟩
  · cases fits

/-- Where a row fits, and every row that fits takes more than so many, so does the shape. -/
theorem lt_size?_of_row {row : List Piece} (there : row ∈ shape) (fits : sizeOfRow? row cs = some n)
    {k : Nat} (more : ∀ row ∈ shape, ∀ n, sizeOfRow? row cs = some n → k < n) :
    ∃ n, shape.size? cs = some n ∧ k < n := by
  obtain ⟨m, found⟩ : ∃ m, shape.findSome? (fun row => sizeOfRow? row cs) = some m := by
    refine Option.ne_none_iff_exists'.mp fun nothing => ?_
    rw [List.findSome?_eq_none_iff.mp nothing row there] at fits
    cases fits
  obtain ⟨first, listed, takes⟩ := List.exists_of_findSome?_eq_some found
  have beyond := more first listed m takes
  cases m with
  | zero => exact absurd beyond (Nat.not_lt_zero k)
  | succ m => exact ⟨m + 1, by simp only [size?, found], beyond⟩

theorem size?_le (fits : shape.size? cs = some n) : n ≤ cs.length := by
  obtain ⟨⟨row, -, takes⟩, -⟩ := size?_eq_some fits
  exact sizeOfRow?_le takes

theorem size?_congr (same : ∀ row ∈ shape, sizeOfRow? row cs = sizeOfRow? row ds) :
    shape.size? cs = shape.size? ds := by
  have found : shape.findSome? (fun row => sizeOfRow? row cs) =
      shape.findSome? fun row => sizeOfRow? row ds := by
    induction shape with
    | nil => rfl
    | cons row shape ih =>
        simp only [List.findSome?_cons, same row (by simp),
          ih fun other there => same other (by simp [there])]
  simp only [size?, found]

/-- The first row that fits decides; rows that fit and take more than so many do not come to their turn
where what is found takes no more. -/
theorem size?_eq_within {most : Nat} (taken : ∀ row ∈ shape, ∀ n, sizeOfRow? row cs = some n → 0 < n)
    (short : ∀ n, shape.size? cs = some n → n ≤ most)
    (same : ∀ row ∈ shape, (∀ n, sizeOfRow? row cs = some n → n ≤ most) →
      sizeOfRow? row ds = sizeOfRow? row cs) : shape.size? ds = shape.size? cs := by
  induction shape with
  | nil => rfl
  | cons row shape ih =>
      obtain ⟨more, taken⟩ := List.forall_mem_cons.mp taken
      obtain ⟨here, same⟩ := List.forall_mem_cons.mp same
      cases found : sizeOfRow? row cs with
      | none =>
          have later (xs : List Char) (nothing : sizeOfRow? row xs = none) :
              Shape.size? (row :: shape) xs = Shape.size? shape xs := by
            simp only [size?, List.findSome?_cons, nothing]
          have nothing := (here fun n fits => (by cases found.symm.trans fits)).trans found
          rw [later cs found] at short
          rw [later cs found, later ds nothing, ih taken short same]
      | some n =>
          obtain ⟨m, rfl⟩ := Nat.exists_eq_add_one_of_ne_zero (more n found).ne'
          have first (xs : List Char) (takes : sizeOfRow? row xs = some (m + 1)) :
              Shape.size? (row :: shape) xs = some (m + 1) := by
            simp only [size?, List.findSome?_cons, takes]
          have within := short _ (first cs found)
          rw [first cs found]
          refine first ds ((here fun n fits => ?_).trans found)
          cases found.symm.trans fits
          exact within

/-! ## The mark in the place of what is found -/

/-- Put the mark in the place of what has the shape, after passing over the next characters. -/
def hideFrom (shape : Shape) (skip : Nat) (cs : List Char) : List Char :=
  shape.replaceFrom (fun _ => standardMark) skip cs

/-- Put the mark in the place of everything that has the shape. -/
def hide (shape : Shape) (cs : List Char) : List Char := shape.hideFrom 0 cs

theorem hideFrom_nil (skip : Nat) : shape.hideFrom skip [] = [] := by
  simp only [hideFrom, replaceFrom]

theorem hide_nil : shape.hide [] = [] := hideFrom_nil 0

theorem hide_of_some (fits : shape.size? (c :: cs) = some n) :
    shape.hide (c :: cs) = standardMark ++ shape.hideFrom (n - 1) cs := by
  simp only [hide, hideFrom, replaceFrom, fits]

theorem hide_of_none (nothing : shape.size? (c :: cs) = none) :
    shape.hide (c :: cs) = c :: shape.hide cs := by
  simp only [hide, hideFrom, replaceFrom, nothing]

theorem hideFrom_eq (skip : Nat) (cs : List Char) :
    shape.hideFrom skip cs = shape.hide (cs.drop skip) := by
  induction cs generalizing skip with
  | nil => rw [hideFrom_nil, List.drop_nil, hide, hideFrom_nil]
  | cons c cs ih =>
      cases skip with
      | zero => rfl
      | succ skip => exact ih skip

theorem hide_of_size? (fits : shape.size? cs = some n) :
    shape.hide cs = standardMark ++ shape.hide (cs.drop n) := by
  have more := (size?_eq_some fits).2
  have most := size?_le fits
  cases cs with
  | nil => exact absurd (Nat.lt_of_lt_of_le more most) (Nat.lt_irrefl 0)
  | cons c cs =>
      obtain ⟨m, rfl⟩ := Nat.exists_eq_add_one_of_ne_zero more.ne'
      rw [hide_of_some fits, hideFrom_eq, Nat.add_sub_cancel, List.drop_succ_cons]

/-! ## Two parts -/

/-- What becomes of the first part of a text. -/
def front (shape : Shape) : Nat → List Char → List Char → List Char
  | _, [], _ => []
  | skip + 1, _ :: x, y => front shape skip x y
  | 0, c :: x, y =>
    match shape.size? (c :: x ++ y) with
    | some n => standardMark ++ front shape (n - 1) x y
    | none => c :: front shape 0 x y

/-- How many characters of the second part are taken with what is found in the first. -/
def overhang (shape : Shape) : Nat → List Char → List Char → Nat
  | skip, [], _ => skip
  | skip + 1, _ :: x, y => overhang shape skip x y
  | 0, c :: x, y =>
    match shape.size? (c :: x ++ y) with
    | some n => overhang shape (n - 1) x y
    | none => overhang shape 0 x y

theorem hideFrom_append (shape : Shape) (skip : Nat) (x y : List Char) :
    shape.hideFrom skip (x ++ y) = shape.front skip x y ++ shape.hideFrom (shape.overhang skip x y) y := by
  induction x generalizing skip with
  | nil => simp only [front, overhang, List.nil_append]
  | cons c x ih =>
      cases skip with
      | succ skip => exact ih skip
      | zero =>
          simp only [front, overhang]
          cases found : shape.size? (c :: x ++ y) with
          | some n =>
              simp only [List.append_assoc, ← ih]
              exact hide_of_some found
          | none =>
              simp only [List.cons_append, ← ih]
              exact hide_of_none found

/-- The first part sees of the second only what its own secrets reach of it. -/
theorem front_and_overhang_congr
    (same : ∀ u, u ≠ [] → u <:+ x → shape.size? (u ++ y) = shape.size? (u ++ y')) (skip : Nat) :
    shape.front skip x y = shape.front skip x y' ∧
      shape.overhang skip x y = shape.overhang skip x y' := by
  induction x generalizing skip with
  | nil => exact ⟨rfl, rfl⟩
  | cons c x ih =>
      have rest := ih fun u nonempty inside => same u nonempty (inside.trans (List.suffix_cons c x))
      cases skip with
      | succ skip => exact rest skip
      | zero =>
          have here := same (c :: x) (List.cons_ne_nil c x) (List.suffix_refl _)
          simp only [front, overhang, here]
          cases shape.size? (c :: x ++ y') with
          | some n =>
              obtain ⟨before, reached⟩ := rest (n - 1)
              exact ⟨congrArg (standardMark ++ ·) before, reached⟩
          | none =>
              obtain ⟨before, reached⟩ := rest 0
              exact ⟨congrArg (c :: ·) before, reached⟩

theorem le_of_overhang_eq_zero (none : shape.overhang skip x y = 0) : skip ≤ x.length := by
  induction x generalizing skip with
  | nil => exact none.le
  | cons c x ih =>
      cases skip with
      | zero => exact Nat.zero_le _
      | succ skip => exact Nat.succ_le_succ (ih none)

/-- Where nothing that is found in the first part reaches into the second, all that matters of the second
is that it leaves this as it is. -/
theorem front_eq_of_overhang
    (same : ∀ u, u ≠ [] → u <:+ x → (∀ n, shape.size? (u ++ y) = some n → n ≤ u.length) →
      shape.size? (u ++ y') = shape.size? (u ++ y)) (none : shape.overhang skip x y = 0) :
    shape.front skip x y' = shape.front skip x y ∧ shape.overhang skip x y' = 0 := by
  induction x generalizing skip with
  | nil => exact ⟨rfl, none⟩
  | cons c x ih =>
      have rest (skip : Nat) (none : shape.overhang skip x y = 0) :
          shape.front skip x y' = shape.front skip x y ∧ shape.overhang skip x y' = 0 :=
        ih (fun u nonempty inside => same u nonempty (inside.trans (List.suffix_cons c x))) none
      cases skip with
      | succ skip => exact rest skip none
      | zero =>
          have here := same (c :: x) (List.cons_ne_nil c x) (List.suffix_refl _)
          simp only [front, overhang] at none ⊢
          cases found : shape.size? (c :: x ++ y) with
          | some n =>
              simp only [found] at none
              have short := le_of_overhang_eq_zero none
              rw [here fun m fits => ?_, found]
              · obtain ⟨before, reached⟩ := rest (n - 1) none
                exact ⟨congrArg (standardMark ++ ·) before, reached⟩
              · cases found.symm.trans fits
                rw [List.length_cons]
                omega
          | none =>
              simp only [found] at none
              rw [here fun m fits => ?_, found]
              · obtain ⟨before, reached⟩ := rest 0 none
                exact ⟨congrArg (c :: ·) before, reached⟩
              · cases found.symm.trans fits

theorem hide_append_of_overhang (none : shape.overhang 0 x y = 0) :
    shape.hide (x ++ y) = shape.front 0 x y ++ shape.hide y := by
  have parts := hideFrom_append shape 0 x y
  rwa [none] at parts

/-- Where what is found stops short of a word or takes all of it, so does the first part as a whole. -/
theorem overhang_cases {k : Nat}
    (reach : ∀ u n, u ≠ [] → u <:+ x → shape.size? (u ++ y) = some n →
      n ≤ u.length ∨ u.length + k ≤ n)
    (before : skip ≤ x.length ∨ x.length + k ≤ skip) :
    shape.overhang skip x y = 0 ∨ k ≤ shape.overhang skip x y := by
  induction x generalizing skip with
  | nil => simpa [overhang] using before
  | cons c x ih =>
      have rest (skip : Nat) (before : skip ≤ x.length ∨ x.length + k ≤ skip) :
          shape.overhang skip x y = 0 ∨ k ≤ shape.overhang skip x y :=
        ih (fun u n nonempty inside => reach u n nonempty (inside.trans (List.suffix_cons c x))) before
      simp only [List.length_cons] at before
      cases skip with
      | succ skip => exact rest skip (by omega)
      | zero =>
          simp only [overhang]
          cases found : shape.size? (c :: x ++ y) with
          | none => exact rest 0 (.inl (Nat.zero_le _))
          | some n =>
              have here := reach (c :: x) n (List.cons_ne_nil c x) (List.suffix_refl _) found
              have some := (size?_eq_some found).2
              rw [List.length_cons] at here
              exact rest (n - 1) (by omega)

theorem overhang_le (before : skip ≤ x.length + y.length) : shape.overhang skip x y ≤ y.length := by
  induction x generalizing skip with
  | nil => simpa [overhang] using before
  | cons c x ih =>
      simp only [List.length_cons] at before
      cases skip with
      | succ skip => exact ih (by omega)
      | zero =>
          simp only [overhang]
          cases found : shape.size? (c :: x ++ y) with
          | none => exact ih (Nat.zero_le _)
          | some n =>
              have most := size?_le found
              rw [List.length_append, List.length_cons] at most
              exact ih (by omega)

/-- So it is passed over to where the word begins, or to somewhere behind the word. -/
theorem hide_across (shape : Shape) (x word y : List Char)
    (reach : ∀ u n, u ≠ [] → u <:+ x → shape.size? (u ++ (word ++ y)) = some n →
      n ≤ u.length ∨ u.length + word.length ≤ n) :
    shape.overhang 0 x (word ++ y) = 0 ∧
        shape.hide (x ++ (word ++ y)) = shape.front 0 x (word ++ y) ++ shape.hide (word ++ y) ∨
      ∃ k, shape.overhang 0 x (word ++ y) = word.length + k ∧
        shape.hide (x ++ (word ++ y)) = shape.front 0 x (word ++ y) ++ shape.hide (y.drop k) := by
  have parts := hideFrom_append shape 0 x (word ++ y)
  rw [hideFrom_eq (shape.overhang 0 x (word ++ y))] at parts
  rcases overhang_cases reach (.inl (Nat.zero_le _)) with short | long
  · rw [short] at parts
    exact .inl ⟨short, parts⟩
  · obtain ⟨k, reached⟩ := Nat.exists_eq_add_of_le long
    rw [reached, List.drop_length_add_append] at parts
    exact .inr ⟨k, reached, parts⟩

theorem front_nil_right (x : List Char) : shape.front 0 x [] = shape.hide x := by
  have parts := hideFrom_append shape 0 x []
  rw [List.append_nil, hideFrom_nil, List.append_nil] at parts
  exact parts.symm

/-- Where nothing in the first part minds the second, the two have nothing to do with each other. -/
theorem hide_append (apart : ∀ u, u ≠ [] → u <:+ x → shape.size? (u ++ y) = shape.size? u) :
    shape.hide (x ++ y) = shape.hide x ++ shape.hide y := by
  have alone : ∀ u, u ≠ [] → u <:+ x → shape.size? (u ++ y) = shape.size? (u ++ []) := by
    intro u nonempty inside
    rw [List.append_nil]
    exact apart u nonempty inside
  obtain ⟨before, reached⟩ := front_and_overhang_congr alone 0
  have ends : shape.overhang 0 x [] = 0 := Nat.le_zero.mp (overhang_le (Nat.zero_le _))
  rw [hide, hideFrom_append, before, reached, ends, front_nil_right]
  rfl

theorem hide_append_of_none (nothing : ∀ u, u ≠ [] → u <:+ x → shape.size? (u ++ y) = none) :
    shape.hide (x ++ y) = x ++ shape.hide y := by
  induction x with
  | nil => rfl
  | cons c x ih =>
      have here := nothing (c :: x) (List.cons_ne_nil c x) (List.suffix_refl _)
      have rest := ih fun u nonempty inside =>
        nothing u nonempty (inside.trans (List.suffix_cons c x))
      exact (hide_of_none here).trans (congrArg (c :: ·) rest)

theorem hide_eq_self (nothing : ∀ u, u ≠ [] → u <:+ x → shape.size? u = none) : shape.hide x = x := by
  have whole : shape.hide (x ++ []) = x ++ shape.hide [] :=
    hide_append_of_none fun u begun inside => by
      rw [List.append_nil]
      exact nothing u begun inside
  rwa [List.append_nil, hide_nil, List.append_nil] at whole

/-! ## What is left -/

theorem mark_ne_nil : standardMark ≠ [] := by decide

theorem front_ne_nil (nonempty : x ≠ []) (y : List Char) : shape.front 0 x y ≠ [] := by
  cases x with
  | nil => exact absurd rfl nonempty
  | cons c x =>
      simp only [front]
      cases shape.size? (c :: x ++ y) with
      | some n => exact List.append_ne_nil_of_left_ne_nil mark_ne_nil _
      | none => exact List.cons_ne_nil _ _

theorem hide_ne_nil (nonempty : x ≠ []) : shape.hide x ≠ [] := by
  rw [← front_nil_right]
  exact front_ne_nil nonempty []

/-- What becomes of the first part ends in the mark, or as it did if nothing reaches beyond it. -/
theorem last_front {d : Char} (skip : Nat) (x y : List Char)
    (last : (shape.front skip x y).getLast? = some d) :
    d = ']' ∨ shape.overhang skip x y = 0 ∧ x.getLast? = some d := by
  induction x generalizing skip with
  | nil => cases last
  | cons c x ih =>
      have grow (last : x.getLast? = some d) : (c :: x).getLast? = some d := by
        rw [List.getLast?_cons, last, Option.getD_some]
      cases skip with
      | succ skip => exact (ih skip last).imp_right fun h => ⟨h.1, grow h.2⟩
      | zero =>
          simp only [front, overhang] at last ⊢
          cases found : shape.size? (c :: x ++ y) with
          | some n =>
              simp only [found] at last ⊢
              by_cases nothing : shape.front (n - 1) x y = []
              · rw [nothing, List.append_nil] at last
                exact .inl (Option.some.inj last).symm
              · rw [List.getLast?_append_of_ne_nil _ nothing] at last
                exact (ih (n - 1) last).imp_right fun h => ⟨h.1, grow h.2⟩
          | none =>
              simp only [found] at last ⊢
              by_cases alone : x = []
              · subst alone
                exact .inr ⟨rfl, last⟩
              · rw [List.getLast?_cons_of_ne_nil (front_ne_nil alone y)] at last
                exact (ih 0 last).imp_right fun h => ⟨h.1, grow h.2⟩

theorem prefix_of_prefix_front (bare : '[' ∉ part) (first : part <+: shape.front 0 x y) :
    part <+: x := by
  induction part generalizing x with
  | nil => exact List.nil_prefix
  | cons d part ih =>
      cases x with
      | nil => exact first
      | cons c x =>
          simp only [front] at first
          cases found : shape.size? (c :: x ++ y) with
          | some n =>
              simp only [found] at first
              have opening : d = '[' := (List.cons_prefix_cons.mp first).1
              exact absurd (opening ▸ List.mem_cons_self) bare
          | none =>
              simp only [found] at first
              obtain ⟨same, rest⟩ := List.cons_prefix_cons.mp first
              exact List.cons_prefix_cons.mpr ⟨same, ih (fun there => bare (by simp [there])) rest⟩

theorem getLast?_front (reached : 0 < shape.overhang 0 x y) : (shape.front 0 x y).getLast? = some ']' := by
  have begun : shape.front 0 x y ≠ [] := by
    refine front_ne_nil (fun nothing => ?_) y
    rw [nothing] at reached
    exact Nat.lt_irrefl 0 reached
  obtain ⟨d, last⟩ := Option.ne_none_iff_exists'.mp (mt List.getLast?_eq_none_iff.mp begun)
  rcases last_front 0 x y last with rfl | ⟨none, -⟩
  · exact last
  · omega

/-- What a text ends in once the mark is put in begins in the mark, or where something was left. -/
theorem suffix_hideFrom (nonempty : part ≠ []) (last : part <:+ shape.hideFrom skip cs) :
    (∃ mark rest, mark ≠ [] ∧ mark <:+ standardMark ∧ part = mark ++ rest) ∨
      ∃ u, u ≠ [] ∧ u <:+ cs ∧ shape.size? u = none ∧ part = shape.hide u := by
  induction cs generalizing skip with
  | nil =>
      rw [hideFrom_nil, List.suffix_nil] at last
      exact absurd last nonempty
  | cons c cs ih =>
      have further (skip : Nat) (last : part <:+ shape.hideFrom skip cs) :
          (∃ mark rest, mark ≠ [] ∧ mark <:+ standardMark ∧ part = mark ++ rest) ∨
            ∃ u, u ≠ [] ∧ u <:+ c :: cs ∧ shape.size? u = none ∧ part = shape.hide u := by
        obtain marked | ⟨u, begun, inside, rest⟩ := ih last
        · exact .inl marked
        · exact .inr ⟨u, begun, inside.trans (List.suffix_cons c cs), rest⟩
      cases skip with
      | succ skip => exact further skip last
      | zero =>
          cases found : shape.size? (c :: cs) with
          | some n =>
              rw [← hide, hide_of_some found] at last
              obtain ⟨before, same⟩ := last
              rcases List.append_eq_append_iff.mp same with ⟨mark, whole, rfl⟩ | ⟨between, -, after⟩
              · by_cases within : mark = []
                · subst within
                  exact further (n - 1) (List.suffix_refl _)
                · exact .inl ⟨mark, _, within, ⟨before, whole.symm⟩, rfl⟩
              · exact further (n - 1) ⟨between, after.symm⟩
          | none =>
              rw [← hide, hide_of_none found] at last
              rcases List.suffix_cons_iff.mp last with here | after
              · exact .inr ⟨c :: cs, List.cons_ne_nil c cs, List.suffix_refl _, found,
                  here.trans (hide_of_none found).symm⟩
              · exact further 0 after

end Shape

/-! ## One shape after the other -/

/-- Put the mark in the place of everything that has one of the shapes, one shape after the other. -/
def hideAll (shapes : List Shape) (cs : List Char) : List Char :=
  shapes.foldl (fun cs shape => shape.hide cs) cs

theorem hideAll_cons (shape : Shape) (shapes : List Shape) (cs : List Char) :
    hideAll (shape :: shapes) cs = hideAll shapes (shape.hide cs) := rfl

/-- A text that no mark can bring: it has no brackets, and is no part of the mark. -/
structure Foreign (part : List Char) : Prop where
  opening : '[' ∉ part
  closing : ']' ∉ part
  unmarked : ¬ part <:+: standardMark

namespace Foreign

variable {shape : Shape} {shapes : List Shape} {cs x y part : List Char} {skip : Nat}

variable (foreign : Foreign part)

include foreign

theorem ne_nil : part ≠ [] := fun nothing => foreign.unmarked (nothing ▸ List.nil_infix)

theorem across_mark (before after : List Char) :
    part <:+: before ++ (standardMark ++ after) ↔ part <:+: before ∨ part <:+: after := by
  have mark : before ++ (standardMark ++ after) =
      before ++ '[' :: ("REDACTED".toList ++ ']' :: after) := rfl
  have inside : ¬ part <:+: "REDACTED".toList := fun there =>
    foreign.unmarked (there.trans ⟨['['], [']'], rfl⟩)
  rw [mark, Text.infix_across foreign.opening, Text.infix_across foreign.closing, or_iff_right inside]

theorem behind_mark (after : List Char) : part <:+: standardMark ++ after ↔ part <:+: after :=
  (foreign.across_mark [] after).trans
    (or_iff_right fun nothing => foreign.ne_nil (List.infix_nil.mp nothing))

/-- Such a text is left only where it was. -/
theorem of_front (left : part <:+: shape.front skip x y) : part <:+: x := by
  induction x generalizing skip with
  | nil => exact left
  | cons c x ih =>
      cases skip with
      | succ skip => exact (ih left).trans (List.suffix_cons c x).isInfix
      | zero =>
          simp only [Shape.front] at left
          cases found : shape.size? (c :: x ++ y) with
          | some n =>
              simp only [found, foreign.behind_mark] at left
              exact (ih left).trans (List.suffix_cons c x).isInfix
          | none =>
              simp only [found] at left
              rcases List.infix_cons_iff.mp left with first | after
              · have kept : shape.front 0 (c :: x) y = c :: shape.front 0 x y := by
                  simp only [Shape.front, found]
                rw [← kept] at first
                exact (Shape.prefix_of_prefix_front foreign.opening first).isInfix
              · exact (ih after).trans (List.suffix_cons c x).isInfix

theorem of_hide (left : part <:+: shape.hide x) : part <:+: x := by
  rw [← Shape.front_nil_right] at left
  exact foreign.of_front left

theorem of_hideAll (left : part <:+: hideAll shapes cs) : part <:+: cs := by
  induction shapes generalizing cs with
  | nil => exact left
  | cons shape shapes ih => exact foreign.of_hide (ih left)

end Foreign

end TenantAccess.Redaction
