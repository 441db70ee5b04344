import TenantAccess.Format.Fill

/-! # Log records

A record is what a logger hands on: who logs, how urgent it is, a message with places for
arguments, when it happened, and fields that the caller attached. A field that has the name of an
attribute stands for it as it is, whether or not such an attribute makes sense; what does not is
found out when the line is written.
-/

namespace TenantAccess

/-- What the places of a message are filled with. -/
inductive LogArguments where
  | several (items : List Value)
  /-- One value; nothing, or an empty one, fills no place. -/
  | single (v : Value)
  deriving Repr

/-- The exception that goes with a record. -/
inductive LogException where
  /-- One that was raised, by its text. -/
  | raised (text : String)
  | attached (v : Value)
  deriving Repr

/-- What a logger hands on. -/
structure LogRecord where
  logger : Value
  level : Value
  /-- The message, with places for arguments. -/
  message : String
  arguments : LogArguments
  /-- When it happened, in seconds since the beginning of 1970. -/
  created : Value
  /-- The milliseconds of that second. -/
  milliseconds : Value
  /-- Attached fields, in order. -/
  extra : List (String × Value)
  /-- The exception that goes with it. -/
  exception : LogException
  deriving Repr

namespace LogRecord

/-- The names of the attributes that a new record has. -/
def attributeNames : List String :=
  ["name", "msg", "args", "created", "filename", "funcName", "levelname", "levelno", "lineno",
    "module", "msecs", "pathname", "process", "processName", "relativeCreated", "thread",
    "threadName", "exc_info", "exc_text", "stack_info"]

/-- The names of the attributes that are no attached fields. -/
def standardNames : List String := attributeNames ++ ["message", "taskName"]

/-- The message with its places filled; without arguments it is left as it is. -/
def text (r : LogRecord) : Except Misuse String :=
  match r.arguments with
  | .several [] => .ok r.message
  | .several items => Format.fill r.message (.ofArguments items)
  | .single v => if v.isPresent then Format.fill r.message (.ofValue v) else .ok r.message

/-- The second that a value stands for; fractions are dropped towards the past. -/
def secondOf : Value → Except ClockFlaw Int
  | .null => .ok 0
  | .int n => .ok n
  | .bool b => .ok (if b then 1 else 0)
  | .float x =>
    match Format.Settled.truncated x with
    | .ok n => .ok (if x < Setting.ofInteger n then n - 1 else n)
    | .error _ => .error (if x.isNaN then .notANumber else .beyondSeconds)
  | v => .error (.numberExpected v.typeName)

def timestamp (r : LogRecord) : Except Misuse String :=
  match secondOf r.created >>= dateTime with
  | .error flaw => .error (.clock flaw)
  | .ok text => Format.fill "%s,%03d" (.ofArguments [.text text, r.milliseconds])

/-- The text of a value that stands for an exception: three items, of which the third leads to
where it was raised and the second is the exception itself. Only nothing will do for them. -/
def attachedText : Value → Except Misuse String
  | .list (_ :: raised :: place :: _) =>
    match raised, place with
    | .null, .null => .ok "NoneType: None"
    | raised, .null => .error (.noAttribute raised.typeName "__suppress_context__")
    | _, place => .error (.noAttribute place.typeName "tb_frame")
  | .list _ => .error (.pastTheEnd false)
  | .text s =>
    .error (if s.length < 3 then .pastTheEnd true else .noAttribute (Value.text s).typeName "tb_frame")
  | .record _ => .error (.itemMissing 2)
  | v => .error (.noItems v.typeName)

/-- The text of the exception, if there is one. -/
def exceptionText (r : LogRecord) : Except Misuse (Option String) :=
  match r.exception with
  | .raised text => .ok (some text)
  | .attached v => if v.isPresent then (attachedText v).map some else .ok none

/-- Set an attribute that the attached field of the same name stands for. -/
def overrideBy (r : LogRecord) (field : String × Value) : LogRecord :=
  match field with
  | ("name", v) => { r with logger := v }
  | ("levelname", v) => { r with level := v }
  | ("msg", v) => { r with message := v.shown }
  | ("args", v) => { r with arguments := .single v }
  | ("created", v) => { r with created := v }
  | ("msecs", v) => { r with milliseconds := v }
  | ("exc_info", v) => { r with exception := .attached v }
  | _ => r

/-- Attach fields; one that has the name of an attribute replaces it. -/
def attach (r : LogRecord) (extra : List (String × Value)) : LogRecord :=
  { extra.foldl overrideBy r with extra := r.extra ++ extra }

/-- Attach fields, none of which may have the name of an attribute. -/
def attachNew (r : LogRecord) (extra : List (String × Value)) : Except Misuse LogRecord :=
  match extra.find? fun f => ("message" :: "asctime" :: attributeNames).contains f.1 with
  | some f => .error (.fieldTaken f.1)
  | none => .ok { r with extra := r.extra ++ extra }

end LogRecord

end TenantAccess
