import TenantAccess.Log.Preview
import TenantAccess.Proofs.Text.Collapse

/-! # One line of bounded length

A text is shown as one tidy line: all of it with its blanks brought down where it fits, and otherwise
as much of it as leaves room for the mark of a cut. Showing the line again changes nothing, since it is
tidy and fits. A limit of zero has no room for the mark; the cut then counts from the end, and every text
but an empty one is shown without its last character, beyond the limit.
-/

namespace TenantAccess.Preview

open TenantAccess.Text

variable {limit : Int} {cs : List Char}

theorem ellipsis_nonblank : isBlank ellipsis = false := by decide

theorem line_of_fits (fits : ((collapse cs).length : Int) ≤ limit) : line limit cs = collapse cs := by
  rw [line, if_neg (by omega)]

/-- As many characters as stay of a line that is cut. -/
def kept (limit : Int) (size : Nat) : Nat := if 0 < limit then (limit - 1).toNat else size - 1

theorem kept_lt {size : Nat} (nonneg : 0 ≤ limit) (cut : limit < size) : kept limit size < size := by
  unfold kept
  split <;> omega

theorem line_of_cut (nonneg : 0 ≤ limit) (cut : limit < (collapse cs).length) :
    line limit cs = (collapse cs).take (kept limit (collapse cs).length) ++ [ellipsis] := by
  rw [line, if_pos cut, before, kept]
  by_cases room : 0 < limit
  · rw [if_pos (by omega), if_pos room]
  · have zero : limit = 0 := by omega
    subst zero
    rfl

theorem length_of_cut (nonneg : 0 ≤ limit) (cut : limit < (collapse cs).length) :
    (line limit cs).length = kept limit (collapse cs).length + 1 := by
  have short := kept_lt nonneg cut
  rw [line_of_cut nonneg cut, List.length_append, List.length_take_of_le short.le]
  rfl

theorem isTidy_line (nonneg : 0 ≤ limit) (cs : List Char) : IsTidy (line limit cs) := by
  by_cases cut : limit < (collapse cs).length
  · rw [line_of_cut nonneg cut]
    exact (isTidy_collapse cs).cut (List.take_prefix _ _) ellipsis_nonblank
  · rw [line_of_fits (by omega)]
    exact isTidy_collapse cs

theorem line_le_iff (nonneg : 0 ≤ limit) (cs : List Char) :
    ((line limit cs).length : Int) ≤ limit ↔ 0 < limit ∨ collapse cs = [] := by
  by_cases cut : limit < (collapse cs).length
  · have some : collapse cs ≠ [] := by
      intro nothing
      rw [nothing, List.length_nil] at cut
      omega
    simp only [length_of_cut nonneg cut, kept, some, or_false]
    split <;> omega
  · rw [line_of_fits (by omega), ← List.length_eq_zero_iff]
    omega

theorem line_line (nonneg : 0 ≤ limit) (cs : List Char) : line limit (line limit cs) = line limit cs := by
  have same : collapse (line limit cs) = line limit cs := (isTidy_line nonneg cs).collapse_eq
  by_cases fits : ((line limit cs).length : Int) ≤ limit
  · rw [line_of_fits (by rwa [same]), same]
  · -- only the mark of a cut goes beyond a limit, and it takes the place of what is left out
    have none : ¬ 0 < limit := fun room => fits ((line_le_iff nonneg cs).mpr (.inl room))
    have cut : limit < (collapse cs).length := by
      by_contra whole
      rw [line_of_fits (by omega)] at fits
      exact fits (by omega)
    have again : kept limit (line limit cs).length = kept limit (collapse cs).length := by
      rw [length_of_cut nonneg cut]
      simp only [kept, none, if_false, Nat.add_sub_cancel]
    have size := List.length_take_of_le (kept_lt nonneg cut).le
    rw [line_of_cut nonneg (by rw [same]; omega), same, again, line_of_cut nonneg cut,
      List.take_left' size]

/-- A text is shown as one tidy line, whatever its blanks: all of it where it fits, and otherwise what
stands before a cut, with its mark. Shown again it is the same. It keeps to the limit, but for a text with
a word in it under a limit of zero. -/
theorem one_bounded_line (limit : Int) (nonneg : 0 ≤ limit) (text : String) :
    let whole := collapse text.toList
    let shown := ofValue limit (.text text)
    ((shown.length : Int) ≤ limit ↔ 0 < limit ∨ whole = []) ∧
      IsTidy shown.toList ∧
      ((whole.length : Int) ≤ limit → shown.toList = whole) ∧
      (limit < whole.length →
        ∃ front, front <+: whole ∧ shown.toList = front ++ [ellipsis]) ∧
      ofValue limit (.text shown) = shown := by
  intro whole shown
  have line_of (s : String) : ofValue limit (.text s) = String.ofList (line limit s.toList) := rfl
  have chars : shown.toList = line limit text.toList := String.toList_ofList
  refine ⟨?_, ?_, fun fits => ?_, fun cut => ?_, ?_⟩
  · rw [← String.length_toList, chars]
    exact line_le_iff nonneg text.toList
  · rw [chars]
    exact isTidy_line nonneg text.toList
  · exact chars.trans (line_of_fits fits)
  · exact ⟨_, List.take_prefix _ _, chars.trans (line_of_cut nonneg cut)⟩
  · rw [line_of shown, chars, line_line nonneg, ← line_of text]

/-- A text whose cut falls behind a space. -/
theorem one_bounded_line_cut :
    let shown := ofValue 6 (.text "  team\n\tof viewers ")
    (0 : Int) ≤ 6 ∧ shown = "team …" ∧ (shown.length : Int) ≤ 6 ∧ IsTidy shown.toList ∧
      ofValue 6 (.text shown) = shown := by
  intro shown
  obtain ⟨bounded, tidy, -, -, again⟩ :=
    one_bounded_line 6 (by decide) "  team\n\tof viewers "
  exact ⟨by decide, by decide, bounded.mpr (.inl (by decide)), tidy, again⟩

/-- Under a limit of zero a text is as long as it was. -/
theorem unbounded_at_zero :
    ofValue 0 (.text "ab") = "a…" ∧ ¬ ((ofValue 0 (.text "ab")).length : Int) ≤ 0 := by decide

end TenantAccess.Preview
