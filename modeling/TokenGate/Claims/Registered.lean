import TokenGate.Json.Basic
import TokenGate.Text.Quoted
import TokenGate.Time.Stamp
import TokenGate.Time.Window

/-!
# Registered claims

The claims that tokens of every provider share. Only the expiry must be there.
-/

/-!
## Dates

A date is a number of seconds. Fractions are cut off towards the past, and a date beyond the range
of stamps is refused.
-/

namespace TokenGate.NumericDate

/-- Rounded down, also before 1970. -/
def ofNumber? : Number → Option Stamp
  | .int n => Stamp.ofInt? n
  | .real x => Stamp.ofInt? x.floor

def ofJson? : Json → Option Stamp
  | .number n => ofNumber? n
  | _ => none

def json (s : Stamp) : Json := .ofInt s.seconds

theorem ofJson?_json (s : Stamp) : ofJson? (json s) = some s := Stamp.ofInt?_seconds s

end TokenGate.NumericDate

/-!
## Audiences

The parties that a token is meant for: one name, or a list of names.
-/

namespace TokenGate

/-- The two spellings of an audience are kept apart, so that it is written as it was read. -/
inductive Audience
  | one (name : String)
  | many (names : List String)
  deriving DecidableEq, Repr

namespace Audience

instance : Inhabited Audience := ⟨many []⟩

def ofJson? : Json → Option Audience
  | .text s => some (one s)
  | v => v.texts?.map many

def json : Audience → Json
  | one name => .text name
  | many names => .ofTexts names

def values : Audience → List String
  | one name => [name]
  | many names => names

def contains : Audience → String → Bool
  | one name, expected => name == expected
  | many names, expected => names.any (· == expected)

/-- There is no audience, or an empty list of names. -/
def isEmpty : Audience → Bool
  | one _ => false
  | many names => names.isEmpty

def diagnostic : Audience → String
  | one name => "Single(" ++ Text.diagnostic name ++ ")"
  | many names => "Multiple(" ++ Text.diagnosticList Text.diagnostic names ++ ")"

theorem ofJson?_json (a : Audience) : ofJson? a.json = some a := by
  cases a with
  | one name => rfl
  | many names =>
    have := Json.texts?_ofTexts names
    simp only [json, Json.ofTexts] at this ⊢
    simp [ofJson?, this]

end Audience

/-! ## All of them -/

/-- Issuer and subject may be absent, and are then empty. -/
structure Registered where
  issuer : String
  subject : String
  audience : Audience
  times : Window
  tokenId : Option String
  deriving DecidableEq

namespace Registered

instance : Inhabited Registered := ⟨"", "", default, ⟨.zero, none, none⟩, none⟩

/-- A text that is empty when absent. Null is refused. -/
def textOrEmpty (v? : Option Json) : Option String :=
  match v? with
  | none => some ""
  | some v => v.text?

/-- Dates and audience must be readable if they are there at all, even where nobody asks for them. -/
def ofMembers? (members : List (String × Json)) : Option Registered := do
  let get name := Json.lookup name members
  let issuer ← textOrEmpty (get "iss")
  let subject ← textOrEmpty (get "sub")
  let audience ← match get "aud" with
    | none => some default
    | some v => Audience.ofJson? v
  let expiry ← NumericDate.ofJson? (← get "exp")
  let notBefore ← Json.optional NumericDate.ofJson? (get "nbf")
  let issuedAt ← Json.optional NumericDate.ofJson? (get "iat")
  let tokenId ← Json.optional Json.text? (get "jti")
  some { issuer, subject, audience, times := { expiry, notBefore, issuedAt }, tokenId }

/-- A member that is left out when there is nothing to say. -/
def member? (name : String) (v? : Option Json) : List (String × Json) :=
  v?.elim [] fun v => [(name, v)]

def members (c : Registered) : List (String × Json) :=
  [("iss", .text c.issuer), ("sub", .text c.subject), ("aud", c.audience.json),
    ("exp", NumericDate.json c.times.expiry)]
    ++ member? "nbf" (c.times.notBefore.map NumericDate.json)
    ++ member? "iat" (c.times.issuedAt.map NumericDate.json)
    ++ member? "jti" (c.tokenId.map .text)

/-- Of the subject only that there is one. -/
def diagnostic (c : Registered) : String :=
  let date (s : Stamp) := toString s.seconds
  Text.diagnosticRecord "RegisteredClaims"
    [("iss", Text.diagnostic c.issuer), ("sub", Text.redacted), ("aud", c.audience.diagnostic),
      ("exp", date c.times.expiry), ("nbf", Text.diagnosticOption date c.times.notBefore),
      ("iat", Text.diagnosticOption date c.times.issuedAt),
      ("jti", Text.diagnosticOption Text.diagnostic c.tokenId)]

end Registered

end TokenGate
