import TokenGate.Claims.Profile
import TokenGate.Text.Upper

/-!
# Claims

The registered claims of a token with the profile of its provider, and what they answer about the
caller.
-/

namespace TokenGate

structure Claims where
  registered : Registered
  profile : Profile
  deriving DecidableEq

namespace Claims

def dialect (c : Claims) : Dialect := c.profile.dialect

def empty (d : Dialect) : Claims := ⟨default, Profile.empty d⟩

/-- The claims in a payload. Members that the dialect does not know are not looked at. -/
def ofJson? (d : Dialect) (payload : Json) : Option Claims := do
  let members ← payload.record?
  let profile ← Profile.ofMembers? d members
  let registered ← Registered.ofMembers? members
  some { registered, profile }

/-- The profile comes first. No name stands in both. -/
def json (c : Claims) : Json := .record (c.profile.members ++ c.registered.members)

def email (c : Claims) : Option String := c.profile.email

def name (c : Claims) : Option String := c.profile.name

def roles (c : Claims) : List String := c.profile.roles

/-- Roles are compared without regard to case, of any script. -/
def hasRole (c : Claims) (role : String) : Bool := c.roles.any (Text.sameLetters · role)

/-- The object id, if it is a UUID, identifies a caller better than the subject does. -/
def subject (c : Claims) : Subject :=
  match c.profile.objectUuid? with
  | some id => .uuid id
  | none => Subject.ofText c.registered.subject

/-- Issuers are compared as they stand, the slash at the end included. -/
def isFrom (c : Claims) (issuer : String) : Bool := c.registered.issuer == issuer

/-- Whom the token is meant for: the client of an access token, else the audience. -/
def presentedAudience (c : Claims) : List String :=
  match c.profile.accessClient? with
  | some client? => client?.toList
  | none => c.registered.audience.values

/-- An access token without a client is meant for nobody. -/
def isFor (c : Claims) (audience : String) : Bool :=
  match c.profile.accessClient? with
  | some client? => client? == some audience
  | none => c.registered.audience.contains audience

/-- Fit for logs: it hides whom the token speaks of. -/
def diagnostic (c : Claims) : String :=
  let (name, parts) := c.profile.diagnosticParts
  Text.diagnosticRecord name (parts ++ [("registered", c.registered.diagnostic)])

/-- The answer to a caller that asks how we see it. E-mail address and name are left out when the token has
none. -/
def me (c : Claims) : Json :=
  .record ([("subject_id", c.subject.json)]
    ++ Registered.member? "email" (c.email.map .text)
    ++ Registered.member? "name" (c.name.map .text)
    ++ [("roles", .ofTexts c.roles), ("issuer", .text c.registered.issuer),
      ("exp", NumericDate.json c.registered.times.expiry)])

end Claims

/-!
## Building claims

A factory makes a blank claims value for each payload and fills it. Nothing of the blank value, and
nothing of earlier payloads, is left in the result.
-/

/-- `blank` is what the constructor last returned, and `made` counts the claims that have been built. -/
structure Factory where
  dialect : Dialect
  blank : Claims
  made : Nat

namespace Factory

def new (d : Dialect) (blank : Claims) : Factory := ⟨d, blank, 0⟩

/-- Replaces a claims value by the claims of a payload. -/
def fill (d : Dialect) (_blank : Claims) (payload : Json) : Option Claims := Claims.ofJson? d payload

/-- The claims of a payload, and the factory for the next one. -/
def build (f : Factory) (payload : Json) : Option Claims × Factory :=
  (fill f.dialect f.blank payload, { f with made := f.made + 1 })

def typeName : Dialect → String
  | .oidc => "bearer_auth::auth::providers::oidc::OidcClaims"
  | .entra => "bearer_auth::auth::providers::entra::EntraClaims"
  | .cognito => "bearer_auth::auth::providers::cognito::CognitoClaims"
  | .minimal => "bearer_auth::MinimalClaims"

def diagnostic (f : Factory) : String :=
  Text.diagnosticRecord "ClaimsFactory" [("claims", Text.diagnostic (typeName f.dialect))]

end Factory

end TokenGate
