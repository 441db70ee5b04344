import TenantAccess.Log.Preview
import TenantAccess.Log.Record

/-! # Log lines

How a record becomes a line: as a record in JSON, or as plain text. The context of a request
comes before the fields that callers attach; secrets are taken out of the message and of every
attached field, the context is shown as it is.
-/

namespace TenantAccess

/-- How records become lines. -/
structure LogStyle where
  asJson : Bool
  redacts : Bool
  serviceName : Option String
  deriving Repr, DecidableEq

namespace LogStyle

/-- The names of the fields that make up the context of a request. -/
def contextNames : List String := ["actor_id", "request_id", "organization_id", "denial_code"]

/-- One field of the context, where the record has it. -/
def contextField? (r : LogRecord) (name : String) : Option (String × String) :=
  ((Fields.value? r.extra name).filter Value.isPresent).map fun v => (name, v.shown)

def context (r : LogRecord) : List (String × String) := contextNames.filterMap (contextField? r)

/-- What a line is made of beside the attached fields. -/
structure Parts where
  timestamp : String
  /-- The message, with its places filled. -/
  message : String
  /-- The text of the exception, if there is one. -/
  exception : Option String

/-- What the line of a record is made of. -/
def partsOf (r : LogRecord) : Except Misuse Parts := do
  let timestamp ← r.timestamp
  let message ← r.text
  let exception ← r.exceptionText
  return { timestamp, message, exception }

def asValues (fields : List (String × String)) : List (String × Value) :=
  fields.map fun f => (f.1, .text f.2)

/-- The fields of a line before those that callers attach. -/
def leading (s : LogStyle) (r : LogRecord) (p : Parts) : List (String × Value) :=
  [("timestamp", .text p.timestamp), ("level", r.level), ("logger", r.logger),
      ("message", .text (Preview.guarded s.redacts p.message))] ++
    ((s.serviceName.filter (· ≠ "")).map fun name => ("service", Value.text name)).toList ++
    asValues (context r) ++ (p.exception.map fun text => ("exception", Value.text text)).toList

/-- The names under which attached fields are not shown. -/
def isTaken (leading : List (String × Value)) (name : String) : Bool :=
  LogRecord.standardNames.contains name || contextNames.contains name ||
    leading.any (·.1 == name)

/-- The fields that callers attach, as they are shown. -/
def attached (s : LogStyle) (r : LogRecord) (leading : List (String × Value)) :
    List (String × String) :=
  (r.extra.filter fun f => !isTaken leading f.1).map fun f =>
    (f.1, Preview.logged Preview.standardLimit s.redacts f.2)

def fields (s : LogStyle) (r : LogRecord) (p : Parts) : List (String × Value) :=
  let leading := s.leading r p
  leading ++ asValues (s.attached r leading)

/-- A part of a plain line, which has to be a text. -/
def textPart (place : Nat) : Value → Except Misuse String
  | .text s => .ok s
  | v => .error (.partNotText place v.typeName)

def plainLine (s : LogStyle) (r : LogRecord) (p : Parts) : Except Misuse String := do
  let level ← textPart 1 r.level
  let logger ← textPart 2 r.logger
  return " ".intercalate <|
    ["[" ++ p.timestamp ++ "]", level, logger] ++ (context r).map (fun f => f.1 ++ "=" ++ f.2) ++
      [": " ++ Preview.guarded s.redacts p.message]

def jsonLine (s : LogStyle) (r : LogRecord) (p : Parts) : String :=
  (Value.record (s.fields r p)).toJson

def line (s : LogStyle) (r : LogRecord) : Except Misuse String := do
  let p ← partsOf r
  if s.asJson then return s.jsonLine r p else s.plainLine r p

end LogStyle

end TenantAccess
