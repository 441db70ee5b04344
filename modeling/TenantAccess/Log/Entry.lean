import TenantAccess.Vocabulary

/-! # Log entries

Every part of the library tells what it did in entries; a caller decides where they go. An
entry has a level, the name of the part that wrote it, a message and extra fields.
-/

namespace TenantAccess

/-- How urgent an entry is. -/
inductive LogLevel where
  | debug
  | info
  | warning
  | error
  | critical
  deriving Repr, DecidableEq, Inhabited

namespace LogLevel

def name : LogLevel → String
  | .debug => "DEBUG"
  | .info => "INFO"
  | .warning => "WARNING"
  | .error => "ERROR"
  | .critical => "CRITICAL"

instance : Vocabulary LogLevel where
  title := "LogLevel"
  members := [.debug, .info, .warning, .error, .critical]
  name := name
  complete := by intro a; cases a <;> decide
  name_inj := by intro a b; cases a <;> cases b <;> decide

def rank : LogLevel → Nat
  | .debug => 10
  | .info => 20
  | .warning => 30
  | .error => 40
  | .critical => 50

end LogLevel

structure LogEntry where
  level : LogLevel
  logger : String
  message : String
  extra : List (String × Value)
  deriving Repr, Inhabited

namespace LogEntry

def plain (level : LogLevel) (logger message : String) : LogEntry := ⟨level, logger, message, []⟩

/-- The name above the names of all parts of the library. -/
def library : String := "authzcore"

/-- Whether a name is that of the library or of a part of it. -/
def isOfLibrary (logger : String) : Bool := logger == library || logger.startsWith (library ++ ".")

def knownAs (logger : String) : String := if logger = "" then "root" else logger

/-- The field that makes an entry an alert. -/
def alertField : String × Value := ("alert", .bool true)

end LogEntry

/-- A result together with the entries that were written on the way. -/
structure Logged (α : Type) where
  value : α
  /-- The entries, oldest first. -/
  entries : List LogEntry
  deriving Repr, Inhabited

namespace Logged

variable {α β : Type}

/-- A result without entries. -/
def quiet (value : α) : Logged α := ⟨value, []⟩

/-- Change the result and keep the entries. -/
def map (f : α → β) (l : Logged α) : Logged β := ⟨f l.value, l.entries⟩

/-- Go on with the result; later entries follow earlier ones. -/
def andThen (l : Logged α) (f : α → Logged β) : Logged β :=
  let next := f l.value
  ⟨next.value, l.entries ++ next.entries⟩

instance : Monad Logged where
  pure := quiet
  bind := andThen

def tell (entries : List LogEntry) : Logged Unit := ⟨(), entries⟩

end Logged

end TenantAccess
