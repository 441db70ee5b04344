import TenantAccess.Log.Context
import TenantAccess.Log.Setup
import TenantAccess.Plain.Command

/-! # Log records and contexts from plain data

What a logger is called with, from plain data. A context, a user and a decision may be given as
parts of a call; they end up among its extra fields.
-/

namespace TenantAccess

/-- The name of a level, which some levels have two of. -/
def LogLevel.settledName : String → String
  | "WARN" => "WARNING"
  | "FATAL" => "CRITICAL"
  | name => name

/-- A level; there is a name for none. -/
def LogLevel.ofPlain (v : Value) : Except Misuse (Option LogLevel) :=
  match v.shown with
  | "NOTSET" => .ok none
  | name => (Vocabulary.read (.text (settledName name))).map some

/-- A record without attached fields. -/
def LogRecord.ofPlain (v : Value) : Except Misuse LogRecord := do
  let exception ← Value.optional Raised.ofPlain (v.part "exc")
  return {
    logger := (v.field? "name").getD (.text "test")
    level := .text (LogLevel.settledName (v.textAtOr "level" "INFO"))
    message := ((v.field? "msg").map Value.shown).getD ""
    arguments := .several (v.itemsAt "args")
    created := v.part "created"
    milliseconds := (v.field? "msecs").getD (.int 0)
    extra := []
    exception := (exception.map fun e => .raised e.text).getD (.attached .null) }

/-- A style; lines are in JSON and without secrets unless told otherwise. -/
def LogStyle.ofPlain (v : Value) : LogStyle :=
  ⟨v.truthAtOr "json_format" true, v.truthAtOr "redact_secrets" true, v.textAt? "service_name"⟩

namespace LogContext

def ofPlain (v : Value) : LogContext :=
  ⟨v.part "actor_id", v.part "request_id", v.part "organization_id"⟩

/-- The parts of a call that are not handed on. -/
def ownParts : List String := ["actor_id", "request_id", "organization_id", "user", "decision", "extra"]

/-- A user or a decision of a call; a text is neither. -/
def bodyOf {α : Type} (read : Value → Except Misuse α) : Value → Except Misuse (Option α)
  | .record fields => (read (.record fields)).map some
  | _ => .ok none

/-- The parts of a call once the context is stamped on its extra fields. -/
def stampCall (c : LogContext) (call : Value) : Except Misuse Value := do
  let c := c.override (call.field? "actor_id") (call.field? "request_id")
    (call.field? "organization_id")
  let user ← bodyOf User.ofPlain (call.part "user")
  let decision ← bodyOf Decision.ofPlain (call.part "decision")
  let extra ← c.stampOn user decision ((call.field? "extra").getD (.record []))
  return .record ((call.parts.filter fun f => !ownParts.contains f.1) ++ [("extra", extra)])

end LogContext

end TenantAccess
