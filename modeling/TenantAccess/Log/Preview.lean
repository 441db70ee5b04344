import TenantAccess.Redaction.Secret
import TenantAccess.Value.Json

/-! # Previews

Values that callers supply are logged as a single line of bounded length. Blanks between words
become one space first, then the line is cut, and only then are secrets replaced: a secret that
the cut has damaged may no longer look like one.
-/

namespace TenantAccess

open TenantAccess.Redaction TenantAccess.Text

namespace Preview

/-- The mark of a line that was cut. -/
def ellipsis : Char := '\u2026'

/-- The bound on a line unless another is asked for. -/
def standardLimit : Int := 240

/-- The characters before a bound; a bound below zero counts from the end. -/
def before (bound : Int) (cs : List Char) : List Char :=
  if 0 ≤ bound then cs.take bound.toNat else cs.take (cs.length - bound.natAbs)

/-- A text as one line of at most `limit` characters. -/
def line (limit : Int) (cs : List Char) : List Char :=
  let words := collapse cs
  if limit < words.length then before (limit - 1) words ++ [ellipsis] else words

/-- A value as a text: lists and records are in JSON. -/
def textOf : Value → String
  | .list items => (Value.list items).toJson
  | .record fields => (Value.record fields).toJson
  | v => v.shown

/-- A value as one line of at most `limit` characters; nothing is empty. -/
def ofValue (limit : Int) : Value → String
  | .null => ""
  | v => String.ofList (line limit (textOf v).toList)

/-- Take the secrets out of a text, if they are not to be shown. -/
def guarded (redacts : Bool) (text : String) : String := if redacts then redactText text else text

def logged (limit : Int) (redacts : Bool) (v : Value) : String :=
  guarded redacts (ofValue limit v)

end Preview

end TenantAccess
