import TenantAccess.Log.Entry
import TenantAccess.Misuse

/-! # Steps

A step of a stateful part: it answers, leaves a new state and writes entries. A step that
fails answers with its failure and still leaves a state.
-/

namespace TenantAccess

/-- A step over a state. -/
abbrev Step (σ α : Type) : Type := StateT σ Logged α

namespace Step

variable {σ τ α : Type}

def log (entry : LogEntry) : Step σ Unit := fun state => ⟨((), state), [entry]⟩

def logAll (entries : List LogEntry) : Step σ Unit := fun state => ⟨((), state), entries⟩

/-- Run a step on one part of a larger state. -/
def within (part : σ → τ) (put : τ → σ → σ) (step : Step τ α) : Step σ α := fun state =>
  let ran := step (part state)
  ⟨(ran.value.1, put ran.value.2 state), ran.entries⟩

def answer (step : Step σ α) (state : σ) : α := (step state).value.1

/-- The state that a step leaves. -/
def next (step : Step σ α) (state : σ) : σ := (step state).value.2

def written (step : Step σ α) (state : σ) : List LogEntry := (step state).entries

section

variable {β : Type} (state : σ)

theorem answer_bind (x : Step σ α) (f : α → Step σ β) :
    (x >>= f).answer state = (f (x.answer state)).answer (x.next state) := rfl

theorem next_bind (x : Step σ α) (f : α → Step σ β) :
    (x >>= f).next state = (f (x.answer state)).next (x.next state) := rfl

theorem answer_pure (a : α) : (pure a : Step σ α).answer state = a := rfl

theorem next_pure (a : α) : (pure a : Step σ α).next state = state := rfl

theorem answer_get : (get : Step σ σ).answer state = state := rfl

theorem next_get : (get : Step σ σ).next state = state := rfl

theorem next_log (entry : LogEntry) : (log entry : Step σ Unit).next state = state := rfl

theorem next_logAll (entries : List LogEntry) :
    (logAll entries : Step σ Unit).next state = state := rfl

theorem answer_within (part : σ → τ) (put : τ → σ → σ) (step : Step τ α) :
    (step.within part put).answer state = step.answer (part state) := rfl

theorem next_within (part : σ → τ) (put : τ → σ → σ) (step : Step τ α) :
    (step.within part put).next state = put (step.next (part state)) state := rfl

end

end Step

/-- A step that may fail. -/
abbrev Attempt (σ α : Type) : Type := Step σ (Except Failure α)

def Failure.ofFault {α : Type} : Except Fault α → Except Failure α
  | .ok a => .ok a
  | .error f => .error (.fault f)

/-- A mistake of the caller as an answer. -/
def Failure.ofMisuse {α : Type} : Except Misuse α → Except Failure α
  | .ok a => .ok a
  | .error m => .error (.misuse m)

end TenantAccess
