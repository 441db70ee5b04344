import TenantAccess.Text.Quoted

/-! # Flaws of replacement templates

What can be wrong with the text that is to stand in the place of a secret, and how a message
points at it.
-/

namespace TenantAccess.Redaction

open TenantAccess.Text

/-- What is wrong with a template. -/
inductive TemplateFlaw where
  | unknownEscape (letter : Char)
  | danglingBackslash
  | codeTooLarge (digits : String)
  | referenceUnopened
  | referenceUnnamed
  | referenceUnclosed
  | referenceMisnamed (name : String)
  | referenceUnknown (number : Nat)
  deriving Repr, DecidableEq

namespace TemplateFlaw

def message : TemplateFlaw → String
  | unknownEscape letter => "bad escape \\" ++ letter.toString
  | danglingBackslash => "bad escape (end of pattern)"
  | codeTooLarge digits => "octal escape value \\" ++ digits ++ " outside of range 0-0o377"
  | referenceUnopened => "missing <"
  | referenceUnnamed => "missing group name"
  | referenceUnclosed => "missing >, unterminated name"
  | referenceMisnamed name => "bad character in group name " ++ quoted name
  | referenceUnknown number => "invalid group reference " ++ toString number

/-- Line and column of a position, for texts of several lines. -/
def lineText (cs : List Char) (position : Nat) : String :=
  if cs.contains '\n' then
    let before := cs.take position
    let column := (before.reverse.takeWhile (· ≠ '\n')).length + 1
    " (line " ++ toString (before.count '\n' + 1) ++ ", column " ++ toString column ++ ")"
  else ""

/-- What is said about a flaw at a position of a template. -/
def messageAt (flaw : TemplateFlaw) (template : String) (position : Nat) : String :=
  flaw.message ++ " at position " ++ toString position ++ lineText template.toList position

end TemplateFlaw

end TenantAccess.Redaction
