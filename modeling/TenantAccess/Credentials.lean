import TenantAccess.Table
import TenantAccess.Tenancy
import TenantAccess.Text.Blank

/-! # Credentials

Callers show an access token in the metadata of a call. A token that is registered stands
for a user; without a token, or with an unknown one, the caller is nobody.
-/

namespace TenantAccess

open TenantAccess.Text

abbrev Metadata := Table String String

namespace Metadata

/-- What comes after the word for a bearer token. -/
def afterBearer? (text : String) : Option String :=
  let word := "Bearer ".toList
  if word.isPrefixOf text.toList then some (String.ofList (text.toList.drop word.length)) else none

/-- The token in the field for tokens. -/
def accessToken (m : Metadata) : String := trim ((m.get? "x-access-token").getD "")

/-- The token in the field for authorization, if it is a bearer token. -/
def bearerToken (m : Metadata) : String :=
  (afterBearer? ((m.get? "authorization").getD "")).elim "" trim

/-- The token that a caller shows, the field for tokens first; empty if there is none. -/
def token (m : Metadata) : String :=
  if m.accessToken = "" then m.bearerToken else m.accessToken

end Metadata

/-- Users by token. -/
structure Credentials where
  users : Table String User
  deriving Repr

namespace Credentials

def empty : Credentials := ⟨.empty⟩

def register (c : Credentials) (token : String) (user : User) : Credentials :=
  ⟨c.users.put token user⟩

def revoke (c : Credentials) (token : String) : Credentials := ⟨c.users.erase token⟩

/-- Whom the token in some metadata stands for. -/
def authenticate (c : Credentials) (m : Metadata) : Option User :=
  if m.token = "" then none else c.users.get? m.token

end Credentials

end TenantAccess
