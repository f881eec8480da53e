import TokenGate.Claims.Registered
import TokenGate.Identity.Subject

/-!
# Profiles

What the tokens of one kind of provider say beyond the registered claims: contact, name and roles of
the caller, each under the names that this provider uses.
-/

namespace TokenGate

/-- Which members a payload is read for. The minimal one knows none beyond the registered claims. -/
inductive Dialect
  | oidc
  | entra
  | cognito
  | minimal
  deriving DecidableEq, Repr

structure OidcProfile where
  email : Option String
  name : Option String
  roles : List String
  deriving DecidableEq

structure EntraProfile where
  email : Option String
  /-- The sign-in name, which older tokens carry in place of the e-mail address. -/
  signInName : Option String
  name : Option String
  objectId : Option String
  tenantId : Option String
  roles : List String
  deriving DecidableEq

/-- Its tokens are of two uses, for identity and for access. -/
structure CognitoProfile where
  email : Option String
  name : Option String
  username : Option String
  groups : List String
  tokenUse : Option String
  clientId : Option String
  deriving DecidableEq

inductive Profile
  | oidc (p : OidcProfile)
  | entra (p : EntraProfile)
  | cognito (p : CognitoProfile)
  | minimal
  deriving DecidableEq

namespace Profile

def dialect : Profile → Dialect
  | oidc _ => .oidc
  | entra _ => .entra
  | cognito _ => .cognito
  | minimal => .minimal

def empty : Dialect → Profile
  | .oidc => oidc ⟨none, none, []⟩
  | .entra => entra ⟨none, none, none, none, none, []⟩
  | .cognito => cognito ⟨none, none, none, [], none, none⟩
  | .minimal => minimal

/-- A list of texts that is empty when absent. Null is refused. -/
def textsOrEmpty (v? : Option Json) : Option (List String) :=
  match v? with
  | none => some []
  | some v => v.texts?

/-- Members may be absent, and texts also null. A member of the wrong type makes the profile
unreadable. -/
def ofMembers? (d : Dialect) (members : List (String × Json)) : Option Profile :=
  let text name := Json.optional Json.text? (Json.lookup name members)
  let texts name := textsOrEmpty (Json.lookup name members)
  match d with
  | .oidc => do some (oidc ⟨← text "email", ← text "name", ← texts "roles"⟩)
  | .entra => do
    some (entra ⟨← text "email", ← text "upn", ← text "name", ← text "oid", ← text "tid",
      ← texts "roles"⟩)
  | .cognito => do
    some (cognito ⟨← text "email", ← text "name", ← text "cognito:username",
      ← texts "cognito:groups", ← text "token_use", ← text "client_id"⟩)
  | .minimal => some minimal

/-- Everything is written, and nothing known as null. -/
def members : Profile → List (String × Json)
  | oidc p =>
    [("email", .ofOption p.email), ("name", .ofOption p.name), ("roles", .ofTexts p.roles)]
  | entra p =>
    [("email", .ofOption p.email), ("upn", .ofOption p.signInName), ("name", .ofOption p.name),
      ("oid", .ofOption p.objectId), ("tid", .ofOption p.tenantId), ("roles", .ofTexts p.roles)]
  | cognito p =>
    [("email", .ofOption p.email), ("name", .ofOption p.name),
      ("cognito:username", .ofOption p.username), ("cognito:groups", .ofTexts p.groups),
      ("token_use", .ofOption p.tokenUse), ("client_id", .ofOption p.clientId)]
  | minimal => []

/-- The sign-in name has the form of an e-mail address, and stands in for one. -/
def email : Profile → Option String
  | oidc p => p.email
  | entra p => p.email.or p.signInName
  | cognito p => p.email
  | minimal => none

/-- The user name stands in for a name. -/
def name : Profile → Option String
  | oidc p => p.name
  | entra p => p.name
  | cognito p => p.name.or p.username
  | minimal => none

/-- What a provider calls a group is a role here. -/
def roles : Profile → List String
  | oidc p => p.roles
  | entra p => p.roles
  | cognito p => p.groups
  | minimal => []

/-- The client of an access token: such a token is meant for it, whatever its audience says. -/
def accessClient? : Profile → Option (Option String)
  | cognito p => if p.tokenUse = some "access" then some p.clientId else none
  | _ => none

/-- The one id that is the same in all tokens of a person, whatever the application. -/
def objectUuid? : Profile → Option Uuid
  | entra p => p.objectId.bind Uuid.ofText?
  | _ => none

/-- Says that there is something, and not what. -/
def hidden (s? : Option String) : String := Text.diagnosticOption (fun _ => Text.redacted) s?

def shown (s? : Option String) : String := Text.diagnosticOption Text.diagnostic s?

/-- Whom the token speaks of is not shown. -/
def diagnosticParts : Profile → String × List (String × String)
  | oidc p =>
    ("OidcClaims", [("email", hidden p.email), ("name", hidden p.name),
      ("roles", Text.diagnosticList Text.diagnostic p.roles)])
  | entra p =>
    ("EntraClaims", [("email", hidden p.email), ("upn", hidden p.signInName),
      ("name", hidden p.name), ("oid", hidden p.objectId), ("tid", shown p.tenantId),
      ("roles", Text.diagnosticList Text.diagnostic p.roles)])
  | cognito p =>
    ("CognitoClaims", [("email", hidden p.email), ("name", hidden p.name),
      ("username", hidden p.username), ("groups", Text.diagnosticList Text.diagnostic p.groups),
      ("token_use", shown p.tokenUse), ("client_id", shown p.clientId)])
  | minimal => ("MinimalClaims", [])

end Profile

end TokenGate
