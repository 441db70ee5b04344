import Mathlib.Data.List.Induction

/-! # Runs of moves

What holds of a state because of a move that was made some time before, and of nothing that was done
to the state since then: such a fact splits the run that led there at the move that it comes from.
-/

namespace TenantAccess.Moves

variable {σ μ : Type} {step : σ → μ → σ} {s : σ} {first second run : List μ} {m : μ}
  {does : σ → μ → Prop}

/-- No move of a run does something where the run has come to. -/
def Never (step : σ → μ → σ) (does : σ → μ → Prop) : σ → List μ → Prop
  | _, [] => True
  | s, m :: rest => ¬ does s m ∧ Never step does (step s m) rest

theorem never_append :
    Never step does s (first ++ second) ↔
      Never step does s first ∧ Never step does (first.foldl step s) second := by
  induction first generalizing s with
  | nil => simp [Never]
  | cons m rest ih => simp only [List.cons_append, Never, ih, List.foldl_cons, and_assoc]

theorem never_snoc :
    Never step does s (run ++ [m]) ↔ Never step does s run ∧ ¬ does (run.foldl step s) m := by
  simp only [never_append, Never, and_true]

/-- What a move always does is never done where the move is not made. -/
theorem Never.not_mem (never : Never step does s run) (always : ∀ s, does s m) : m ∉ run := by
  induction run generalizing s with
  | nil => simp
  | cons first rest ih =>
      intro member
      rcases List.mem_cons.mp member with rfl | later
      · exact never.1 (always s)
      · exact ih never.2 later

/-- Where each move either brings a fact about, or leaves it as it is, or loses it, the fact holds
after a run iff a move of the run brought it about and no later one lost it. -/
theorem holds_iff_since (holds : σ → Prop) {brings loses : σ → μ → Prop} {start : σ}
    (change : ∀ s m, holds (step s m) ↔ brings s m ∨ holds s ∧ ¬ loses s m) (not_yet : ¬ holds start)
    (run : List μ) :
    holds (run.foldl step start) ↔
      ∃ before m after, run = before ++ m :: after ∧ brings (before.foldl step start) m ∧
        Never step loses (step (before.foldl step start) m) after := by
  induction run using List.reverseRecOn with
  | nil => simp [not_yet]
  | append_singleton run last ih =>
      rw [List.foldl_append, List.foldl_cons, List.foldl_nil, change, ih]
      constructor
      · rintro (brought | ⟨⟨before, m, after, rfl, brought, kept⟩, lasting⟩)
        · exact ⟨run, last, [], rfl, brought, trivial⟩
        · refine ⟨before, m, after ++ [last], by simp, brought, never_snoc.mpr ⟨kept, ?_⟩⟩
          simpa only [List.foldl_append, List.foldl_cons] using lasting
      · rintro ⟨before, m, after, split, brought, kept⟩
        cases after using List.reverseRecOn with
        | nil =>
            obtain ⟨rfl, same⟩ := List.append_inj' split rfl
            cases same
            exact .inl brought
        | append_singleton after end_ =>
            have split : run ++ [last] = (before ++ m :: after) ++ [end_] := by simpa using split
            obtain ⟨rfl, same⟩ := List.append_inj' split rfl
            cases same
            obtain ⟨kept, lasting⟩ := never_snoc.mp kept
            refine .inr ⟨⟨before, m, after, rfl, brought, kept⟩, ?_⟩
            simpa only [List.foldl_append, List.foldl_cons] using lasting

end TenantAccess.Moves
