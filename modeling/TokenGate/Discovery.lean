import TokenGate.AuthError
import TokenGate.Http.Exchange
import TokenGate.Json.Reading
import TokenGate.Text.Basic

/-!
# Discovery

A provider says in a document at a well-known place where its keys are and which issuer its tokens
name.
-/

namespace TokenGate

/-- All that is used of a discovery document. -/
structure ProviderMetadata where
  keyEndpoint : String
  issuer : String
  deriving DecidableEq, Repr

namespace Discovery

/-- Discovery happens at the start, so it does not wait for as long as a refresh may. -/
def standardTimeout : Span := .ofSeconds 5

/-- Both fields as texts. Null counts as absent, and any other value makes the document unreadable. -/
def fields? (body : String) : Option (Option String × Option String) := do
  let form ← Json.Form.ofText? body
  match ← form.fields? ["jwks_uri", "issuer"] with
  | [endpoint, issuer] => some (← text? endpoint, ← text? issuer)
  | _ => none
where
  text? (f : Option Json.Form) : Option (Option String) :=
    match f with
    | none => some none
    | some f => (f.value? Json.maxDepth).bind fun v => Json.optional Json.text? (some v)

/-- A field that is missing and one that is blank are told alike. -/
def require (url name : String) (v : Option String) : Except AuthError String :=
  match v.filter fun s => Text.stripBlanks s ≠ "" with
  | some s => .ok s
  | none => .error (.discovery (url ++ " is missing required field " ++ name))

/-- Only the status 200 is taken here. The key endpoint is looked for first. -/
def ofAnswer (url : String) (a : Http.Answer) : Except AuthError ProviderMetadata := do
  if a.status ≠ 200 then
    throw (.discovery ("error downloading " ++ url ++ ": " ++ Http.Status.text a.status))
  match a.body.bind fields? with
  | none => throw (.discovery ("error decoding " ++ url ++ ": " ++ Http.Answer.unreadable))
  | some (endpoint, issuer) =>
    let keyEndpoint ← require url "jwks_uri" endpoint
    return { keyEndpoint, issuer := ← require url "issuer" issuer }

/-- What an exchange with the provider comes to. -/
def ofExchange (url : String) (e : Http.Exchange) : Except AuthError ProviderMetadata :=
  match e.result with
  | .error reason => .error (.discovery ("error downloading " ++ url ++ ": " ++ reason.message))
  | .ok answer => ofAnswer url answer

end Discovery

end TokenGate
