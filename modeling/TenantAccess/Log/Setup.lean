import TenantAccess.Log.Style
import TenantAccess.Settings.Basic

/-! # Log setup

Which records are written at all, and in which style. The library's own loggers hear every record
that has a level, whether or not it is written as a line.
-/

namespace TenantAccess

/-- Where records are cut off, and the style of the others. -/
structure LogSetup where
  threshold : LogLevel
  style : LogStyle
  deriving Repr

/-- The entry that a record of a logger is, with its message filled. -/
def LogRecord.entry (r : LogRecord) (logger : String) (level : LogLevel) : Except Misuse LogEntry :=
  r.text.map fun message => ⟨level, logger, message, r.extra⟩

namespace LogSetup

/-- The setup that settings ask for; whether lines are in JSON may be decided otherwise. -/
def ofSettings (s : Settings) (asJson : Option Bool) (redacts : Bool) : LogSetup :=
  ⟨s.logLevel, asJson.getD s.logJson, redacts, s.serviceName⟩

/-- Whether records of a level are written. -/
def isEnabled (s : LogSetup) (level : LogLevel) : Bool := s.threshold.rank ≤ level.rank

/-- What a logger makes of a record of some level with attached fields: an entry, if it is one of
the library, and a line, if the level is enabled. A record whose message cannot be filled has no
line, and it is a mistake to make an entry of it. -/
def emitAt (s : LogSetup) (logger : String) (level : LogLevel) (r : LogRecord)
    (extra : List (String × Value)) : Except Misuse (Logged (Option String)) := do
  let isHeard := LogEntry.isOfLibrary logger
  if !(isHeard || s.isEnabled level) then return .quiet none
  let r ← ({ r with logger := .text logger }).attachNew extra
  let entries ← if isHeard then (r.entry logger level).map ([·]) else .ok []
  return ⟨if s.isEnabled level then (s.style.line r).toOption else none, entries⟩

/-- What a logger makes of a record; of one without a level it makes nothing. -/
def emit (s : LogSetup) (logger : String) (level : Option LogLevel) (r : LogRecord)
    (extra : List (String × Value)) : Except Misuse (Logged (Option String)) :=
  match level with
  | none => .ok (.quiet none)
  | some level => s.emitAt (LogEntry.knownAs logger) level r extra

end LogSetup

end TenantAccess
