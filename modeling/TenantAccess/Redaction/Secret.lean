import TenantAccess.Redaction.Shape

/-! # Secrets

Five shapes of secrets: a password, secret, token or key that something is assigned to, the
credential after a word for an authorization scheme, a key with its usual beginning, the value
of a header for credentials, and any long run of hexadecimal digits. They are replaced one
shape after the other, each in the outcome of the one before.
-/

namespace TenantAccess.Redaction

open TenantAccess.Text

/-- Quotes that a value may stand between. -/
def isQuote (c : Char) : Bool := c == '"' || c == '\''

/-- What stands between a name and its value. -/
def isAssignment (c : Char) : Bool := c == ':' || c == '='

/-- What an assigned value consists of. -/
def isValueChar (c : Char) : Bool := !(isQuote c || isBlank c)

/-- What a credential consists of. -/
def isCredentialChar (c : Char) : Bool := isFoldedAlphanumeric c || "+/=._-".toList.contains c

/-- What joins the parts of a name. -/
def isJoint (c : Char) : Bool := c == '_' || c == '-'

/-- A name with a value assigned to it; an opening quote goes with the name. -/
def assigned (name : List Piece) : List Piece :=
  name ++ [.run 0 isBlank, .one isAssignment, .run 0 isBlank, .maybe isQuote, .run 1 isValueChar]

/-- Two words, joined or not. -/
def joined (first second : String) : List Piece :=
  Piece.word first ++ .maybe isJoint :: Piece.word second

/-- A password, secret, token or key with its value. -/
def assignedSecret : Shape :=
  [Piece.word "password", Piece.word "passwd", Piece.word "pwd", Piece.word "secret",
    Piece.word "token", joined "api" "key", joined "auth" "token"].map assigned

/-- An authorization scheme and the credential after it. -/
def schemeCredential : Shape :=
  ["bearer", "basic"].map fun scheme =>
    Piece.word scheme ++ [.run 1 isBlank, .run 1 isCredentialChar]

/-- A key with its usual beginning. -/
def knownKey : Shape :=
  ["sk-", "pk-"].map fun start => Piece.word start ++ [.run 32 isFoldedAlphanumeric]

/-- A header for credentials with its value. -/
def assignedHeader : Shape :=
  ["x-api-key", "x-auth-token", "authorization"].map fun name => assigned (Piece.word name)

/-- A long run of hexadecimal digits. -/
def longHex : Shape := [[.run 32 isHexDigit]]

/-- The shapes of secrets, in the order in which they are replaced. -/
def secretShapes : List Shape :=
  [assignedSecret, schemeCredential, knownKey, assignedHeader, longHex]

def replaceSecrets (put : List Char → List Char) (cs : List Char) : List Char :=
  secretShapes.foldl (fun cs shape => shape.replace put cs) cs

/-- What stands in the place of a secret unless something else is asked for. -/
def standardMark : List Char := "[REDACTED]".toList

/-- A text without its secrets. -/
def redact (cs : List Char) : List Char := replaceSecrets (fun _ => standardMark) cs

def redactText (text : String) : String := String.ofList (redact text.toList)

end TenantAccess.Redaction
