import TenantAccess.Proofs.Rpc.Passages
import TenantAccess.Proofs.Text.Parts

/-! # Paths that nobody asks about

A gate lets the calls to a path through unasked if an exempt text occurs in the path, wherever it does.
So the services whose names begin with an exempt text are let through, as they should be, but so is any
other one with such a text further on in its name, or in the name of a method. Whatever goes through
besides, the guard has been asked about.

An exempt text has no slash in it, and so it never reaches from one part of a path into the next.
-/

namespace TenantAccess

namespace Gate

variable {gate : Gate} {path : String} {chars : List Char}

theorem occursIn_iff {part : List Char} : occursIn part chars = true ↔ part <:+: chars := by
  induction chars with
  | nil => simp [occursIn]
  | cons c rest ih =>
      rw [occursIn, Bool.or_eq_true, List.isPrefixOf_iff_prefix, ih, List.infix_cons_iff]

/-! ## Exempt texts -/

/-- An exempt text begins a text. -/
def Leads (chars : List Char) : Prop := ∃ part ∈ exemptParts, part.toList <+: chars

/-- An exempt text occurs in a text. -/
def Mentioned (chars : List Char) : Prop := ∃ part ∈ exemptParts, part.toList <:+: chars

/-- A path without the slash it begins with. -/
def bare (path : String) : List Char :=
  match path.toList with
  | '/' :: rest => rest
  | chars => chars

theorem slash_not_in_exempt {part : String} (exempt : part ∈ exemptParts) : '/' ∉ part.toList := by
  revert part
  decide +kernel

theorem isExempt_iff : isExempt path = true ↔ Mentioned path.toList := by
  simp only [isExempt, Mentioned, List.any_eq_true, occursIn_iff]

theorem Leads.mentioned (h : Leads chars) : Mentioned chars := by
  obtain ⟨part, exempt, first⟩ := h
  exact ⟨part, exempt, first.isInfix⟩

theorem leads_across (before after : List Char) : Leads (before ++ '/' :: after) ↔ Leads before :=
  exists_congr fun _ => and_congr_right fun exempt =>
    Text.prefix_across (slash_not_in_exempt exempt) before after

theorem mentioned_across (before after : List Char) :
    Mentioned (before ++ '/' :: after) ↔ Mentioned before ∨ Mentioned after := by
  simp only [Mentioned, ← exists_or, ← and_or_left]
  apply exists_congr
  intro part
  apply and_congr_right
  intro exempt
  exact Text.infix_across (slash_not_in_exempt exempt) before after

theorem not_mentioned_nil : ¬ Mentioned [] := by
  intro ⟨part, exempt, inside⟩
  have named : ∀ part ∈ exemptParts, part.toList ≠ [] := by decide +kernel
  exact named part exempt (List.infix_nil.mp inside)

/-- Without its slash a path mentions what it mentioned with it. -/
theorem mentioned_bare (path : String) : Mentioned (bare path) ↔ Mentioned path.toList := by
  unfold bare
  split
  · next rest slashed =>
      rw [slashed, show '/' :: rest = [] ++ '/' :: rest from rfl, mentioned_across]
      simp [not_mentioned_nil]
  · rfl

/-! ## Calls that pass unasked -/

/-- Calls to a path go through whoever the caller is, and whatever would be said of them, and leave no
trace. -/
def Unasked (gate : Gate) (g : Guard) (path : String) : Prop :=
  ∀ authorize caller, gate.receive authorize caller path g = .quiet (.ok .through, g)

/-- What goes through although its path is not exempt has been asked about, and not refused. -/
theorem asked_of_through {authorize : User → Pair → Step Guard (Except Failure Decision)}
    {caller : Except Fault (Option User)} {g : Guard} (subject : isExempt path = false)
    (passed : ((gate.under .enforce).receive authorize caller path).answer g = .ok .through) :
    ∃ user pair d, gate.Asks caller path user pair ∧ (authorize user pair).answer g = .ok d ∧
      refusalOf d = none := by
  by_cases asked : ∃ user pair, gate.Asks caller path user pair
  · obtain ⟨user, pair, asks⟩ := asked
    rw [answer_of_asks asks] at passed
    cases answered : (authorize user pair).answer g with
    | ok d =>
        cases refused : refusalOf d with
        | none => exact ⟨user, pair, d, asks, answered, refused⟩
        | some r => simp [answered, refused] at passed
    | error f =>
        cases f with
        | misuse m => simp [answered] at passed
        | fault f =>
            simp only [answered] at passed
            split at passed <;> cases passed
  · have notAsked : ∀ user pair, ¬ gate.Asks caller path user pair :=
      fun user pair asks => asked ⟨user, pair, asks⟩
    cases answer_of_not_asks subject notAsked authorize g with
    | inl unmapped => cases passed.symm.trans unmapped.2
    | inr anonymous =>
        obtain ⟨pair, mapped, nobody, ended⟩ := anonymous
        cases passed.symm.trans ended

theorem unasked_iff (gate : Gate) (g : Guard) (path : String) :
    (gate.under .enforce).Unasked g path ↔ isExempt path = true := by
  constructor
  · intro unasked
    cases subject : isExempt path with
    | true => rfl
    | false =>
        -- Not even a caller who is nobody would be stopped.
        have passed : ((gate.under .enforce).receive (fun _ _ => return .error (.misuse .waitTooLong))
            (.ok none) path).answer g = .ok .through := by
          rw [Step.answer, unasked]
          rfl
        obtain ⟨user, pair, d, asks, -⟩ := asked_of_through subject passed
        cases asks.known
  · intro exempt authorize caller
    rw [receive, if_pos exempt]
    rfl

/-- A gate that enforces lets the calls to a path through unasked exactly if an exempt text occurs in the
path: at its beginning, as it does in the paths of the exempt services, or further on, in the name of the
service or of the method. The guard has been asked about all else that goes through. -/
theorem unasked_iff_mentioned (gate : Gate) (g : Guard) (path : String) :
    let strict := gate.under .enforce
    (strict.Unasked g path ↔ Mentioned (bare path)) ∧
      (Leads (bare path) → strict.Unasked g path) ∧
      (¬ strict.Unasked g path → ∀ authorize caller,
        (strict.receive authorize caller path).answer g = .ok .through →
        ∃ user pair d, gate.Asks caller path user pair ∧ (authorize user pair).answer g = .ok d ∧
          refusalOf d = none) ∧
      ∀ service method, path = "/" ++ service ++ "/" ++ method →
        (strict.Unasked g path ↔ Mentioned service.toList ∨ Mentioned method.toList) ∧
        (Leads (bare path) ↔ Leads service.toList) := by
  intro strict
  have unasked : strict.Unasked g path ↔ Mentioned (bare path) :=
    (unasked_iff gate g path).trans (isExempt_iff.trans (mentioned_bare path).symm)
  refine ⟨unasked, fun leads => unasked.mpr leads.mentioned, ?_, ?_⟩
  · intro asked authorize caller passed
    have subject : isExempt path = false :=
      Bool.eq_false_iff.mpr fun exempt => asked ((unasked_iff gate g path).mpr exempt)
    exact asked_of_through subject passed
  · intro service method composed
    have named : bare path = service.toList ++ '/' :: method.toList := by
      simp [bare, composed]
    rw [unasked, named]
    exact ⟨mentioned_across _ _, leads_across _ _⟩

end Gate

namespace Sample

def healthTask : String := "/tasks.grpc.health.v1.TaskService/DeleteTask"

def healthMethod : String := "/tasks.TaskService/grpc.health.v1.DropAll"

end Sample

open Sample in
/-- A service with an exempt text in the middle of its name goes through unasked, and so does a method
with one at the beginning of its own. -/
theorem Gate.unasked_elsewhere :
    let strict := tasksGate.under .enforce
    ((∀ g, strict.Unasked g healthTask) ∧ ¬ Leads (bare healthTask)) ∧
      (∀ g, strict.Unasked g healthMethod) ∧ ¬ Leads (bare healthMethod) := by
  intro strict
  have exempt : isExempt healthTask = true := by decide +kernel
  have exempt' : isExempt healthMethod = true := by decide +kernel
  refine ⟨⟨?_, ?_⟩, ?_, ?_⟩
  · exact fun g => (unasked_iff tasksGate g healthTask).mpr exempt
  · unfold Leads
    decide +kernel
  · exact fun g => (unasked_iff tasksGate g healthMethod).mpr exempt'
  · unfold Leads
    decide +kernel

end TenantAccess
