import Mathlib.Data.List.Infix

/-! # Parts of a text

A text without a separator lies on one side of it, and what a text ends in ends as it does.
-/

namespace TenantAccess.Text

variable {α : Type} {part : List α} {separator : α}

theorem prefix_across (within : separator ∉ part) (before after : List α) :
    part <+: before ++ separator :: after ↔ part <+: before := by
  induction before generalizing part with
  | nil =>
      cases part with
      | nil => simp
      | cons first rest =>
          have other : first ≠ separator := fun same => within (by simp [same])
          simp [other]
  | cons x before ih =>
      cases part with
      | nil => simp
      | cons first rest =>
          have within : separator ∉ rest := fun there => within (by simp [there])
          simp only [List.cons_append, List.cons_prefix_cons, ih within]

theorem infix_across (within : separator ∉ part) (before after : List α) :
    part <:+: before ++ separator :: after ↔ part <:+: before ∨ part <:+: after := by
  induction before with
  | nil =>
      have first : part <+: separator :: after ↔ part = [] := by
        simpa using prefix_across within [] after
      rw [List.nil_append, List.infix_cons_iff, first, List.infix_nil]
  | cons x before ih =>
      have first : part <+: x :: (before ++ separator :: after) ↔ part <+: x :: before :=
        prefix_across within (x :: before) after
      rw [List.cons_append, List.infix_cons_iff, first, ih, List.infix_cons_iff, or_assoc]

theorem infix_across_all {separators : List α} (begun : part ≠ []) (between : separators ≠ [])
    (within : ∀ d ∈ separators, d ∉ part) (before after : List α) :
    part <:+: before ++ (separators ++ after) ↔ part <:+: before ∨ part <:+: after := by
  have nowhere : ¬ part <:+: [] := fun there => begun (List.infix_nil.mp there)
  have rest (separators : List α) (within : ∀ d ∈ separators, d ∉ part) :
      part <:+: separators ++ after ↔ part <:+: after := by
    induction separators with
    | nil => rfl
    | cons d separators ih =>
        obtain ⟨here, further⟩ := List.forall_mem_cons.mp within
        exact (infix_across here [] (separators ++ after)).trans
          ((or_iff_right nowhere).trans (ih further))
  cases separators with
  | nil => exact absurd rfl between
  | cons d separators =>
      obtain ⟨here, further⟩ := List.forall_mem_cons.mp within
      rw [List.cons_append, infix_across here, rest separators further]

theorem exists_eq_append_of_suffix {u x : List α} {d : α} (begun : u ≠ []) (inside : u <:+ x)
    (last : x.getLast? = some d) : ∃ v, u = v ++ [d] := by
  obtain ⟨front, rfl⟩ := inside
  rw [List.getLast?_append_of_ne_nil front begun] at last
  exact ⟨_, (List.dropLast_append_getLast? d last).symm⟩

end TenantAccess.Text
