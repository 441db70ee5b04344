import TenantAccess.Text.Blank
import Mathlib.Data.List.Chain

/-! # One space between words

The blanks of a text are brought down to a single space between any two words. What comes out is tidy,
and a tidy text stays as it is. A character that is not blank stays in its place, so the two sides of it
can be brought down apart from each other.
-/

namespace TenantAccess.Text

variable {c d : Char} {cs front rest run : List Char}

/-- A text on one line whose only blanks are single spaces between words. -/
structure IsTidy (cs : List Char) : Prop where
  spaces : ∀ c ∈ cs, isBlank c = true → c = ' '
  single : cs.IsChain fun c next => ¬ (isBlank c = true ∧ isBlank next = true)
  first : ∀ c ∈ cs.head?, isBlank c = false
  last : ∀ c ∈ cs.getLast?, isBlank c = false

/-- What follows a word, on the line. -/
def trail (cs : List Char) : List Char :=
  if beginsWord cs = false ∧ collapse cs ≠ [] then ' ' :: collapse cs else collapse cs

/-- Whether a text begins with a blank. -/
def beginsBlank (cs : List Char) : Bool := cs.head?.any isBlank

/-- What comes before a word, on the line: a space stands where the words before it have ended. -/
def lead : List Char → List Char
  | [] => []
  | c :: rest =>
    if isBlank c then lead rest
    else c :: (if beginsBlank rest then ' ' :: lead rest else lead rest)

/-! ## From the front -/

theorem collapse_of_blank (blank : isBlank c = true) : collapse (c :: rest) = collapse rest := by
  simp only [collapse, words, blank, if_true]

theorem intercalate_growFirst (c : Char) {ws : List (List Char)} (some : ws ≠ []) :
    [' '].intercalate (growFirst c ws) = c :: [' '].intercalate ws := by
  cases ws with
  | nil => exact absurd rfl some
  | cons w more => cases more <;> simp [growFirst, List.intercalate_cons_cons]

theorem words_ne_nil (begins : beginsWord cs = true) : words cs ≠ [] := by
  cases cs with
  | nil => cases begins
  | cons c rest =>
      have nonblank : isBlank c = false := by simpa [beginsWord] using begins
      simp only [words, nonblank, Bool.false_eq_true, if_false]
      split
      · cases words rest <;> simp [growFirst]
      · simp

theorem words_eq_nil_of_collapse (nothing : collapse cs = []) : words cs = [] := by
  induction cs with
  | nil => rfl
  | cons c rest ih =>
      by_cases blank : isBlank c = true
      · rw [words, if_pos blank]
        exact ih (collapse_of_blank blank ▸ nothing)
      · exfalso
        rw [collapse, words, if_neg blank] at nothing
        split at nothing
        · next begins =>
            rw [intercalate_growFirst c (words_ne_nil begins)] at nothing
            cases nothing
        · cases words rest <;> simp at nothing

theorem collapse_of_nonblank (nonblank : isBlank c = false) :
    collapse (c :: rest) = c :: trail rest := by
  rw [collapse, words, nonblank, if_neg Bool.false_ne_true]
  cases begins : beginsWord rest with
  | true =>
      rw [if_pos rfl, intercalate_growFirst c (words_ne_nil begins), trail, begins,
        if_neg (by simp)]
      rfl
  | false =>
      rw [if_neg Bool.false_ne_true, trail, begins]
      cases found : words rest with
      | nil =>
          have nothing : collapse rest = [] := by rw [collapse, found]; rfl
          simp [nothing]
      | cons w more =>
          have something : collapse rest ≠ [] := fun nothing => by
            rw [words_eq_nil_of_collapse nothing] at found
            cases found
          rw [if_pos ⟨rfl, something⟩, List.intercalate_cons_cons, collapse, found]
          rfl

theorem trail_of_blank (blank : isBlank c = true) :
    trail (c :: rest) = if collapse rest ≠ [] then ' ' :: collapse rest else [] := by
  rw [trail, collapse_of_blank blank]
  by_cases nothing : collapse rest = [] <;> simp [beginsWord, blank, nothing]

theorem trail_of_nonblank (nonblank : isBlank c = false) :
    trail (c :: rest) = c :: trail rest := by
  rw [trail, if_neg (by simp [beginsWord, nonblank]), collapse_of_nonblank nonblank]

theorem trail_nil : trail [] = [] := rfl

/-! ## The two sides of a word -/

theorem collapse_and_trail_around (nonblank : isBlank c = false) (p q : List Char) :
    collapse (p ++ c :: q) = lead p ++ c :: trail q ∧
      trail (p ++ c :: q) = (if beginsBlank p then ' ' :: lead p else lead p) ++ c :: trail q := by
  induction p with
  | nil => exact ⟨collapse_of_nonblank nonblank, trail_of_nonblank nonblank⟩
  | cons x p ih =>
      obtain ⟨collapsed, trailing⟩ := ih
      cases blank : isBlank x with
      | true =>
          have same : lead (x :: p) = lead p := if_pos blank
          have begins : beginsBlank (x :: p) = true := blank
          rw [List.cons_append, collapse_of_blank blank, trail_of_blank blank, collapsed, same, begins]
          simp
      | false =>
          have grows : lead (x :: p) = x :: (if beginsBlank p then ' ' :: lead p else lead p) := by
            simp only [lead, blank, Bool.false_eq_true, if_false]
          have begins : beginsBlank (x :: p) = false := blank
          rw [List.cons_append, collapse_of_nonblank blank, trail_of_nonblank blank, trailing, grows,
            begins]
          simp

/-- A word stays where it is, between what its two sides are brought down to. -/
theorem collapse_around (nonempty : run ≠ []) (nonblank : ∀ c ∈ run, isBlank c = false)
    (p q : List Char) : collapse (p ++ run ++ q) = lead p ++ run ++ trail q := by
  cases run with
  | nil => exact absurd rfl nonempty
  | cons c more =>
      have inside : ∀ cs : List Char, (∀ d ∈ cs, isBlank d = false) →
          trail (cs ++ q) = cs ++ trail q := by
        intro cs nonblank
        induction cs with
        | nil => rfl
        | cons d cs ih =>
            rw [List.cons_append, trail_of_nonblank (nonblank d (by simp)),
              ih fun e there => nonblank e (by simp [there]), List.cons_append]
      have first : isBlank c = false := nonblank c (by simp)
      rw [List.append_assoc, List.cons_append, (collapse_and_trail_around first p _).1,
        inside more fun d there => nonblank d (by simp [there])]
      simp

theorem last_lead (cs : List Char) : ∀ c ∈ (lead cs).getLast?, c = ' ' ∨ c ∈ cs.getLast? := by
  induction cs with
  | nil => exact fun _ last => .inr last
  | cons x rest ih =>
      have further : ∀ c ∈ (lead rest).getLast?, c = ' ' ∨ c ∈ (x :: rest).getLast? := by
        intro c last
        refine (ih c last).imp_right fun inside => ?_
        rw [List.getLast?_cons, Option.mem_def.mp inside]
        rfl
      intro c last
      simp only [lead] at last
      split at last
      · exact further c last
      · split at last
        · rw [List.getLast?_cons_cons, List.getLast?_cons] at last
          cases found : (lead rest).getLast? with
          | none =>
              rw [found] at last
              exact .inl (Option.some.inj last).symm
          | some d =>
              rw [found] at last
              exact further c (found.trans last)
        · next begins =>
            cases rest with
            | nil => exact .inr last
            | cons y rest =>
                have grows : lead (y :: rest) =
                    y :: (if beginsBlank rest then ' ' :: lead rest else lead rest) := by
                  simp only [lead, if_neg (show ¬ isBlank y = true from begins)]
                refine further c ?_
                rw [grows] at last ⊢
                exact List.getLast?_cons_cons.symm.trans last

theorem first_trail (cs : List Char) : ∀ c ∈ (trail cs).head?, c = ' ' ∨ c ∈ cs.head? := by
  cases cs with
  | nil => simp [trail_nil]
  | cons x rest =>
      cases blank : isBlank x with
      | true =>
          rw [trail_of_blank blank]
          split <;> simp +contextual
      | false =>
          rw [trail_of_nonblank blank]
          exact fun c first => .inr first

/-! ## Tidy texts -/

theorem isTidy_nil : IsTidy [] := ⟨by simp, .nil, by simp, by simp⟩

theorem isTidy_word (nonblank : isBlank c = false) : IsTidy [c] :=
  ⟨by simp [nonblank], .singleton c, by simp [nonblank], by simp [nonblank]⟩

theorem IsTidy.cons (tidy : IsTidy (d :: rest)) (nonblank : isBlank c = false) :
    IsTidy (c :: d :: rest) where
  spaces := by
    intro x there blank
    rcases List.mem_cons.mp there with rfl | there
    · rw [nonblank] at blank
      cases blank
    · exact tidy.spaces x there blank
  single := tidy.single.cons_cons (by simp [nonblank])
  first := by simp [nonblank]
  last := by simpa using tidy.last

theorem IsTidy.next (tidy : IsTidy (d :: rest)) (nonblank : isBlank c = false) :
    IsTidy (c :: ' ' :: d :: rest) where
  spaces := by
    intro x there blank
    rcases List.mem_cons.mp there with rfl | there
    · rw [nonblank] at blank
      cases blank
    · rcases List.mem_cons.mp there with rfl | there
      · rfl
      · exact tidy.spaces x there blank
  single := (tidy.single.cons_cons (by simp [tidy.first d rfl])).cons_cons (by simp [nonblank])
  first := by simp [nonblank]
  last := by simpa using tidy.last

theorem tidy_collapse_and_trail (cs : List Char) :
    IsTidy (collapse cs) ∧ ∀ c, isBlank c = false → IsTidy (c :: trail cs) := by
  induction cs with
  | nil => exact ⟨isTidy_nil, fun c => isTidy_word⟩
  | cons x rest ih =>
      obtain ⟨collapsed, trailing⟩ := ih
      cases blank : isBlank x with
      | true =>
          rw [collapse_of_blank blank, trail_of_blank blank]
          refine ⟨collapsed, fun c nonblank => ?_⟩
          cases found : collapse rest with
          | nil => exact isTidy_word nonblank
          | cons d more =>
              rw [found] at collapsed
              exact collapsed.next nonblank
      | false =>
          rw [collapse_of_nonblank blank, trail_of_nonblank blank]
          exact ⟨trailing x blank, fun c nonblank => (trailing x blank).cons nonblank⟩

theorem isTidy_collapse (cs : List Char) : IsTidy (collapse cs) := (tidy_collapse_and_trail cs).1

theorem IsTidy.of_append (tidy : IsTidy (front ++ rest))
    (nonblank : ∀ c ∈ rest.head?, isBlank c = false) : IsTidy rest where
  spaces := fun c there => tidy.spaces c (by simp [there])
  single := tidy.single.right_of_append
  first := nonblank
  last := by
    cases rest with
    | nil => simp
    | cons d more => simpa using tidy.last

/-- A tidy text that is broken off after a character of its own, which is not blank, is tidy. -/
theorem IsTidy.cut (tidy : IsTidy cs) (kept : front <+: cs) (nonblank : isBlank c = false) :
    IsTidy (front ++ [c]) := by
  obtain ⟨rest, rfl⟩ := kept
  refine ⟨fun d there blank => ?_, ?_, ?_, by simp [nonblank]⟩
  · rcases List.mem_append.mp there with there | there
    · exact tidy.spaces d (by simp [there]) blank
    · rw [List.mem_singleton.mp there, nonblank] at blank
      cases blank
  · exact tidy.single.left_of_append.append (.singleton c) (by simp [nonblank])
  · cases front with
    | nil => simp [nonblank]
    | cons d more => simpa using tidy.first

theorem IsTidy.same_collapse_and_trail (cs : List Char) :
    (IsTidy cs → collapse cs = cs) ∧ ∀ c, IsTidy (c :: cs) → trail cs = cs := by
  induction cs with
  | nil => exact ⟨fun _ => rfl, fun _ _ => rfl⟩
  | cons x rest ih =>
      obtain ⟨collapsed, trailing⟩ := ih
      constructor
      · intro tidy
        rw [collapse_of_nonblank (tidy.first x rfl), trailing x tidy]
      · intro c tidy
        cases blank : isBlank x with
        | false =>
            have inner : IsTidy (x :: rest) :=
              (show IsTidy ([c] ++ x :: rest) from tidy).of_append (by simp [blank])
            rw [trail_of_nonblank blank, trailing x inner]
        | true =>
            -- a blank is one space, and a word follows it
            have space : x = ' ' := tidy.spaces x (by simp) blank
            have more : rest ≠ [] := by
              rintro rfl
              have last := tidy.last x rfl
              rw [blank] at last
              cases last
            have inner : IsTidy rest := by
              refine (show IsTidy ([c, x] ++ rest) from tidy).of_append ?_
              cases rest with
              | nil => simp
              | cons y _ =>
                  have apart := (List.isChain_cons_cons.mp (List.isChain_cons_cons.mp tidy.single).2).1
                  simpa [blank] using apart
            rw [trail_of_blank blank, collapsed inner, if_pos more, space]

theorem IsTidy.collapse_eq (tidy : IsTidy cs) : collapse cs = cs :=
  (IsTidy.same_collapse_and_trail cs).1 tidy

end TenantAccess.Text
