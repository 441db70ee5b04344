import TenantAccess.Proofs.Log.OneLine
import TenantAccess.Proofs.Redaction.BegunRuns

/-! # Keys on a line that is cut

A line is cut before its secrets are looked for. Where the cut falls behind a key, or ahead of it, the line
does not tell which key it was, unless a name goes on behind the key that its last digits begin. Where it
falls into the key and leaves fewer digits than a key must have, these digits are shown, unless a secret that
begins before them takes them.
-/

namespace TenantAccess.Preview

open TenantAccess.Redaction TenantAccess.Text

variable {limit : Int} {p q g : List Char} {m n : Nat}

/-- What is on a line, around so many digits. -/
structure Shown where
  ahead : List Char
  digits : Nat
  behind : List Char

/-- What a line shows of a run of digits between two texts. -/
def shownAround (limit : Int) (p : List Char) (n : Nat) (q : List Char) : Shown :=
  let size := (lead p).length + n + (trail q).length
  let room := if size ≤ limit then size else (limit - 1).toNat
  { ahead := (lead p).take room
    digits := min (room - (lead p).length) n
    behind := (trail q).take (room - (lead p).length - n) ++ if size ≤ limit then [] else [ellipsis] }

theorem blocks_ellipsis : Blocks ellipsis := ⟨by decide, by decide, by decide, by decide, by decide⟩

theorem line_around (positive : 1 ≤ limit) (some : 0 < n) (run : IsRun n g) :
    line limit (p ++ g ++ q) =
      (shownAround limit p n q).ahead ++
        (g.take (shownAround limit p n q).digits ++ (shownAround limit p n q).behind) := by
  have begun : g ≠ [] := List.length_pos_iff.mp (run.size.symm ▸ some)
  have whole : collapse (p ++ g ++ q) = lead p ++ (g ++ trail q) := by
    rw [collapse_around begun (fun c there =>
      not_blank_of_alphanumeric (alphanumeric_of_keyDigit (run.digits c there))), List.append_assoc]
  have size : (collapse (p ++ g ++ q)).length = (lead p).length + n + (trail q).length := by
    rw [whole, List.length_append, List.length_append, run.size, Nat.add_assoc]
  have taken (k : Nat) : (collapse (p ++ g ++ q)).take k =
      (lead p).take k ++ (g.take (min (k - (lead p).length) n) ++
        (trail q).take (k - (lead p).length - n)) := by
    rw [whole, List.take_append, List.take_append, ← run.size, ← List.take_eq_take_min]
  by_cases fits : (((lead p).length + n + (trail q).length : Nat) : Int) ≤ limit
  · simp only [shownAround, if_pos fits, List.append_nil]
    rw [line_of_fits (by rwa [size]), ← taken, List.take_of_length_le size.le]
  · have cut : limit < (collapse (p ++ g ++ q)).length := by
      rw [size]
      exact Int.not_le.mp fits
    have more : 0 < limit := by omega
    rw [line_of_cut (by omega) cut, kept, if_pos more, taken]
    simp only [shownAround, if_neg fits, List.append_assoc]

/-- Where not all digits are on the line, it ends behind them. -/
theorem behind_of_lt (less : (shownAround limit p n q).digits < n) :
    (shownAround limit p n q).behind = [ellipsis] := by
  by_cases fits : (((lead p).length + n + (trail q).length : Nat) : Int) ≤ limit
  · simp only [shownAround, if_pos fits] at less
    omega
  · simp only [shownAround, if_neg fits] at less ⊢
    have none : (limit - 1).toNat - (lead p).length - n = 0 := by omega
    rw [none, List.take_zero, List.nil_append]

theorem ahead_of_pos (some : 0 < (shownAround limit p n q).digits) :
    (shownAround limit p n q).ahead = lead p := by
  simp only [shownAround] at some ⊢
  exact List.take_of_length_le (by omega)

theorem first_behind :
    ∀ c ∈ (shownAround limit p n q).behind.head?, c = ' ' ∨ c = ellipsis ∨ c ∈ q.head? := by
  intro c first
  simp only [shownAround, List.head?_append, List.head?_take] at first
  rcases Option.or_eq_some_iff.mp first with begins | ⟨-, marked⟩
  · exact (first_trail q c (Option.ite_none_left_eq_some.mp begins).2).imp_right .inr
  · split at marked
    · cases marked
    · cases marked
      exact .inr (.inl rfl)

/-- Where no name goes on behind a run, no secret begins in what a line shows of it. -/
theorem not_begins_behind (ends : ∀ c ∈ q.head?, isNameChar (foldLetter c) = false ∧ isJoint c = false)
    (run : IsRun m g) : ¬ Begins namedShapes g (shownAround limit p n q).behind := by
  refine not_begins_of_no_name (fun _ => id) run.digits fun c first => ?_
  rcases first_behind c first with rfl | rfl | inside
  · decide
  · exact ⟨blocks_ellipsis.name, blocks_ellipsis.joint⟩
  · exact ends c inside

theorem flanks_of_pos (some : 0 < (shownAround limit p n q).digits) (long : 32 ≤ n)
    (opens : ∀ c ∈ p.getLast?, isHexDigit c = false) (closes : ∀ c ∈ q.head?, isHexDigit c = false) :
    Flanks (shownAround limit p n q).digits (shownAround limit p n q).ahead
      (shownAround limit p n q).behind where
  last := by
    rw [ahead_of_pos some]
    intro c last
    rcases last_lead p c last with rfl | inside
    · decide
    · exact opens c inside
  first := by
    intro c first
    rcases first_behind c first with rfl | rfl | inside
    · decide
    · decide
    · exact closes c inside
  shut := by
    by_cases whole : 32 ≤ (shownAround limit p n q).digits
    · exact .inl whole
    · exact .inr ⟨ellipsis, [], behind_of_lt (by omega), blocks_ellipsis⟩

theorem logged_text (cs : List Char) :
    logged limit true (.text (String.ofList cs)) = String.ofList (redact (line limit cs)) := by
  simp only [logged, guarded, if_true, redactText, ofValue, textOf, Value.shown, String.toList_ofList]

/-- Runs that are logged alike are those whose digits on the line come out alike. -/
theorem logged_alike_iff (positive : 1 ≤ limit) (some : 0 < n) :
    (∀ g g', IsRun n g → IsRun n g' →
        logged limit true (.text (String.ofList (p ++ g ++ q))) =
          logged limit true (.text (String.ofList (p ++ g' ++ q)))) ↔
      ∀ g g', IsRun (shownAround limit p n q).digits g → IsRun (shownAround limit p n q).digits g' →
        redact ((shownAround limit p n q).ahead ++ (g ++ (shownAround limit p n q).behind)) =
          redact ((shownAround limit p n q).ahead ++ (g' ++ (shownAround limit p n q).behind)) := by
  simp only [logged_text, String.ofList_inj]
  generalize seen : shownAround limit p n q = shown
  have less : shown.digits ≤ n := by
    rw [← seen]
    exact Nat.min_le_right _ _
  have shows {g : List Char} (run : IsRun n g) :
      line limit (p ++ g ++ q) = shown.ahead ++ (g.take shown.digits ++ shown.behind) := by
    rw [line_around positive some run, seen]
  constructor
  · -- the digits on the line are those of a whole run
    intro same g g' run run'
    have whole {g : List Char} (run : IsRun shown.digits g) :
        IsRun n (g ++ List.replicate (n - shown.digits) '0') := by
      have longer := run.append (isRun_replicate (show '0' ∈ keyDigits by decide) (n - shown.digits))
      rwa [Nat.add_sub_cancel' less] at longer
    have told := same _ _ (whole run) (whole run')
    rwa [shows (whole run), shows (whole run'), List.take_left' run.size, List.take_left' run'.size]
      at told
  · intro same g g' run run'
    rw [shows run, shows run']
    exact same _ _ (run.take less) (run'.take less)

/-- What is logged of a text with a key in it does not tell the key just if no digit of it is on the line;
if as many are as a key must have, and no secret begins in them, whichever they are; or if a secret that begins
before them takes them, and leaves of those in which a secret begins what it leaves of the others. -/
theorem logged_run_iff (positive : 1 ≤ limit) (long : 32 ≤ n)
    (opens : ∀ c ∈ p.getLast?, isHexDigit c = false) (closes : ∀ c ∈ q.head?, isHexDigit c = false) :
    let shown := shownAround limit p n q
    let zeros := List.replicate shown.digits '0'
    (∀ g g', IsRun n g → IsRun n g' →
        logged limit true (.text (String.ofList (p ++ g ++ q))) =
          logged limit true (.text (String.ofList (p ++ g' ++ q)))) ↔
      shown.digits = 0 ∨
      32 ≤ shown.digits ∧ (∀ g, IsRun shown.digits g → ¬ Begins namedShapes g shown.behind) ∨
      Overtakes namedShapes shown.ahead (zeros ++ shown.behind) ∧
        ∀ g, IsRun shown.digits g → Begins namedShapes g shown.behind →
          redact (shown.ahead ++ (g ++ shown.behind)) = redact (shown.ahead ++ (zeros ++ shown.behind)) := by
  intro shown zeros
  rw [logged_alike_iff positive (by omega)]
  rcases Nat.eq_zero_or_pos shown.digits with none | some
  · refine iff_of_true (fun g g' run run' => ?_) (.inl none)
    rw [List.length_eq_zero_iff.mp (run.size.trans none), List.length_eq_zero_iff.mp (run'.size.trans none)]
  · rw [redact_run_iff some (flanks_of_pos some long opens closes), or_iff_right some.ne']

/-- On a line that has room for it a key is not told from another. -/
theorem whole_key_hidden :
    (shownAround 60 "key ".toList 32 " end".toList).digits = 32 ∧
      logged 60 true (.text (String.ofList ("key ".toList ++ List.replicate 32 '0' ++ " end".toList))) =
        logged 60 true (.text (String.ofList ("key ".toList ++ List.replicate 32 'f' ++ " end".toList))) := by
  have whole : (shownAround 60 "key ".toList 32 " end".toList).digits = 32 := by decide
  have opens : ∀ c ∈ "key ".toList.getLast?, isHexDigit c = false := fun c last => by
    cases last
    decide
  have closes : ∀ c ∈ " end".toList.head?, isHexDigit c = false := fun c first => by
    cases first
    decide
  have told := (logged_run_iff (by decide) (by decide) opens closes).mpr
    (.inr (.inl ⟨whole.ge, fun g run => not_begins_behind (fun c first => by cases first; decide) run⟩))
  exact ⟨whole, told _ _ (isRun_replicate (by decide) 32) (isRun_replicate (by decide) 32)⟩

/-- A key that is cut shows its first digits. One behind which the name of a secret goes on from its last
digit shows all but that. -/
theorem digits_shown :
    IsRun 32 (List.replicate 32 '0') ∧ IsRun 32 (List.replicate 32 '1') ∧
      IsRun 32 (List.replicate 31 '0' ++ ['a']) ∧
      logged 10 true (.text (String.ofList ("key ".toList ++ List.replicate 32 '0'))) = "key 00000…" ∧
      logged 10 true (.text (String.ofList ("key ".toList ++ List.replicate 32 '1'))) = "key 11111…" ∧
      logged standardLimit true (.text (String.ofList
        ("key ".toList ++ (List.replicate 31 '0' ++ ['a']) ++ "pi_key=xyz".toList))) =
        "key 0000000000000000000000000000000[REDACTED]" := by
  have zeros := isRun_replicate (show '0' ∈ keyDigits by decide)
  exact ⟨zeros 32, isRun_replicate (by decide) 32, (zeros 31).append (isRun_replicate (by decide) 1),
    by decide, by decide, by decide⟩

end TenantAccess.Preview
