import TenantAccess.Proofs.Decision.Conditions
import TenantAccess.Proofs.Rpc.Exemptions

/-! # Denials at the gate

A gate tells a denial by its code and its reason, and not by its being one. So whether a denial ends a
call depends on how it is worded: without a code, or without a reason, it passes for a permission. The
guard words its denials so that they are told, even before its role table is there. What is in the way
of its denials, then, is only that it may not be asked.
-/

namespace TenantAccess

theorem Decision.explained_iff {d : Decision} (denied : d.isAllowed = false) :
    d.Explained ↔ (∃ code, d.code = some code) ∧ d.reason ≠ "" := by
  have refused : d.isDenied = true := by simp [isDenied, denied]
  simp [Explained, refused]

/-! ## Denials of the guard -/

theorem Policy.decided_of_decidePair {p : Policy} {user : User} {pair : Pair} {target : Option Target}
    {snapshot : Option Snapshot} {registry : Registry} {d : Decision}
    (decided : (p.decidePair user pair target snapshot).answer registry = .ok d) :
    ∃ roles, d = (p.engine roles).decide user pair target snapshot := by
  simp only [decidePair, Step.answer_bind] at decided
  cases given : (rolesFor user).answer registry with
  | error m =>
      rw [given] at decided
      cases decided
  | ok roles =>
      rw [given] at decided
      cases decided
      exact ⟨roles, rfl⟩

namespace Guard

variable {g : Guard} {s : Sources} {q : AccessRequest} {d : Decision}

theorem explained_decideWith {user : User} {snapshot : Option Snapshot}
    (decided : (decideWith q user snapshot).answer g = .ok d) : d.Explained := by
  obtain ⟨roles, rfl⟩ := Policy.decided_of_decidePair decided
  exact Engine.explained_decide _ _ _ _ _

theorem explained_refusalFor (f : Fault) : (refusalFor f).Explained := by
  unfold refusalFor
  split
  · exact Decision.explained_deny (by decide)
  · exact Decision.explained_deny (by decide)

theorem explained_resolve (resolved : (resolve s q).answer g = .ok d) : d.Explained := by
  unfold resolve at resolved
  split at resolved
  · exact explained_decideWith resolved
  · simp only [Step.answer_bind] at resolved
    cases found : (materialize s q).answer g with
    | error f =>
        rw [found] at resolved
        cases resolved
        exact explained_refusalFor f
    | ok looked =>
        rw [found] at resolved
        exact explained_decideWith resolved

/-- What a guard hands out explains itself, whatever state the guard is in. -/
theorem explained_authorize (handed : (authorize s q).answer g = .ok d) : d.Explained := by
  cases resolved : (resolve s q).answer g with
  | ok d' =>
      cases eq_of_authorize resolved handed
      exact explained_resolve resolved
  | error m =>
      simp only [authorize, Step.answer_bind, resolved] at handed
      cases handed

end Guard

namespace Gate

variable {authorize : User → Pair → Step Guard (Except Failure Decision)} {path : String} {user : User}
  {pair : Pair} {d : Decision} {g : Guard}

/-! ## Denials that are handed to a gate -/

theorem refusalOf_of_unexplained (unexplained : ¬ d.Explained) : refusalOf d = none := by
  have denied : d.isAllowed = false := by
    cases allowed : d.isAllowed with
    | false => rfl
    | true => exact absurd (fun denied => by simp [Decision.isDenied, allowed] at denied) unexplained
  unfold refusalOf
  cases coded : d.code with
  | none => rfl
  | some code =>
      have wordless : d.reason = "" := by
        apply Classical.byContradiction
        intro reasoned
        exact unexplained ((Decision.explained_iff denied).mpr ⟨⟨code, coded⟩, reasoned⟩)
      simp [wordless]

/-- How a call ends for which a denial is handed out. -/
def endOf (gate : Gate) (path : String) (d : Decision) (code : DenialCode) : CallEnd :=
  ⟨.ofDenial code, gate.endText path d.reason, [("denial-code", code.name)]⟩

section

variable (gate : Gate) (mapped : gate.methods.get? (methodName path) = some pair)
  (handed : (authorize user pair).answer g = .ok d)

include mapped handed

theorem ended_of_explained (subject : isExempt path = false) (denied : d.isAllowed = false)
    (explained : d.Explained) :
    ∃ code, d.code = some code ∧
      ((gate.under .enforce).receive authorize (.ok (some user)) path).answer g =
        .ok (.ended (gate.endOf path d code)) := by
  have asks : gate.Asks (.ok (some user)) path user pair := ⟨subject, mapped, rfl⟩
  obtain ⟨code, coded, -, refused⟩ := refusalOf_of_denied explained denied
  refine ⟨code, coded, ?_⟩
  rw [answer_of_asks asks, handed]
  simp only [refused]
  rfl

theorem through_of_unexplained (unexplained : ¬ d.Explained) :
    ((gate.under .enforce).receive authorize (.ok (some user)) path).answer g = .ok .through := by
  cases subject : isExempt path with
  | true => exact (receive_exempt _ _ _ subject g).1
  | false =>
      have asks : gate.Asks (.ok (some user)) path user pair := ⟨subject, mapped, rfl⟩
      rw [answer_of_asks asks, handed]
      simp only [refusalOf_of_unexplained unexplained]

end

/-- A denial that is handed out for a mapped method and a known user ends the call if the path is not
exempt and the denial has a code and a reason; otherwise the call goes through. Each denial of the guard
has a code and a reason. -/
theorem denial_ends_iff (gate : Gate) (mapped : gate.methods.get? (methodName path) = some pair)
    (handed : (authorize user pair).answer g = .ok d) (denied : d.isAllowed = false) :
    let answer := ((gate.under .enforce).receive authorize (.ok (some user)) path).answer g
    ((∃ e, answer = .ok (.ended e)) ↔
        isExempt path = false ∧ (∃ code, d.code = some code) ∧ d.reason ≠ "") ∧
      (∀ e, answer = .ok (.ended e) →
        ∃ code, d.code = some code ∧ e = gate.endOf path d code) ∧
      ((∃ e, answer = .ok (.ended e)) ∨ answer = .ok .through) ∧
      ∀ s, authorize = authorizing s →
        ((∃ e, answer = .ok (.ended e)) ↔ isExempt path = false) := by
  intro answer
  have either : (isExempt path = false ∧ d.Explained ∧
        ∃ code, d.code = some code ∧ answer = .ok (.ended (gate.endOf path d code))) ∨
      ¬ (isExempt path = false ∧ d.Explained) ∧ answer = .ok .through := by
    by_cases explained : d.Explained
    · cases subject : isExempt path with
      | false =>
          exact .inl ⟨rfl, explained, gate.ended_of_explained mapped handed subject denied explained⟩
      | true => exact .inr ⟨by simp, (receive_exempt _ _ _ subject g).1⟩
    · exact .inr ⟨fun both => explained both.2, gate.through_of_unexplained mapped handed explained⟩
  have ended : (∃ e, answer = .ok (.ended e)) ↔ isExempt path = false ∧ d.Explained := by
    cases either with
    | inl told =>
        obtain ⟨subject, explained, code, -, ended⟩ := told
        exact ⟨fun _ => ⟨subject, explained⟩, fun _ => ⟨_, ended⟩⟩
    | inr untold =>
        obtain ⟨untold, passed⟩ := untold
        exact ⟨fun ⟨e, ended⟩ => (by cases passed.symm.trans ended), fun told => absurd told untold⟩
  refine ⟨?_, ?_, ?_, ?_⟩
  · rw [ended, Decision.explained_iff denied]
  · intro e ends
    cases either with
    | inl told =>
        obtain ⟨-, -, code, coded, ended⟩ := told
        cases ends.symm.trans ended
        exact ⟨code, coded, rfl⟩
    | inr untold => cases untold.2.symm.trans ends
  · cases either with
    | inl told =>
        obtain ⟨-, -, code, -, ended⟩ := told
        exact .inl ⟨_, ended⟩
    | inr untold => exact .inr untold.2
  · intro s guarded
    subst guarded
    rw [ended]
    exact ⟨And.left, fun subject => ⟨subject, Guard.explained_authorize handed⟩⟩

end Gate

namespace Sample

def quiet : Guard := .empty .standard .standard .standard false

/-- Memberships cannot be had. -/
def unreachable : Sources := ⟨fun _ => ⟨.prompt, .error .overrun⟩, fun _ => ⟨.prompt, .error .overrun⟩⟩

/-- One decision, whoever asks for whatever. -/
def handing (d : Decision) (_ : User) (_ : Pair) : Step Guard (Except Failure Decision) :=
  return .ok d

end Sample

open Sample in
/-- Where memberships cannot be had, the guard's denial ends the call. -/
theorem Gate.denial_ends_unreachable :
    let d := Guard.unavailable
    tasksGate.methods.get? (methodName deleteTask) = some deletion ∧
      (authorizing unreachable viewer deletion).answer quiet = .ok d ∧ d.isAllowed = false ∧
      ∃ e, ((tasksGate.under .enforce).receive (authorizing unreachable) (.ok (some viewer))
        deleteTask).answer quiet = .ok (.ended e) := by
  intro d
  have mapped : tasksGate.methods.get? (methodName deleteTask) = some deletion := by decide +kernel
  have handed : (authorizing unreachable viewer deletion).answer quiet = .ok d := rfl
  have subject : isExempt deleteTask = false := by decide +kernel
  obtain ⟨-, -, -, guarded⟩ := tasksGate.denial_ends_iff mapped handed rfl
  exact ⟨mapped, handed, rfl, (guarded unreachable rfl).mpr subject⟩

open Sample in
/-- Denials without a code or without a reason let the call through, and so does any denial of a mapped
method in whose path an exempt text occurs. -/
theorem Gate.denial_passes :
    let wordless : Decision := .deny .insufficientRole ""
    let codeless : Decision := ⟨false, none, none, none, "no"⟩
    let told : Decision := .deny .insufficientRole "no"
    let answer (d : Decision) (path : String) :=
      ((tasksGate.under .enforce).receive (handing d) (.ok (some viewer)) path).answer quiet
    tasksGate.methods.get? (methodName deleteTask) = some deletion ∧
      tasksGate.methods.get? (methodName healthTask) = some deletion ∧
      answer wordless deleteTask = .ok .through ∧ answer codeless deleteTask = .ok .through ∧
      answer told healthTask = .ok .through := by
  intro wordless codeless told answer
  have mapped : tasksGate.methods.get? (methodName deleteTask) = some deletion := by decide +kernel
  have mapped' : tasksGate.methods.get? (methodName healthTask) = some deletion := by decide +kernel
  have exempt : isExempt healthTask = true := by decide +kernel
  have untold : ¬ wordless.Explained := by
    simp [Decision.explained_iff, wordless, Decision.deny]
  have uncoded : ¬ codeless.Explained := by
    simp [Decision.explained_iff, codeless]
  refine ⟨mapped, mapped', ?_, ?_, ?_⟩
  · exact through_of_unexplained tasksGate mapped rfl untold
  · exact through_of_unexplained tasksGate mapped rfl uncoded
  · exact (receive_exempt _ _ _ exempt quiet).1

end TenantAccess
