import TokenGate.AuthError
import TokenGate.Http.Message
import TokenGate.Json.Writing

/-!
# Responses

What a client gets to see. Of a refused token it learns whether the token has expired, and nothing
else.
-/

namespace TokenGate.Service

/-- Fields stand in the order in which the layers add them. -/
structure Response where
  status : Nat
  fields : Http.Fields
  body : String
  deriving DecidableEq

namespace Response

def ofJson (status : Nat) (body : Json) : Response :=
  ⟨status, [("content-type", "application/json")], body.write⟩

def ofText (status : Nat) (body : String) : Response :=
  ⟨status, [("content-type", "text/plain; charset=utf-8")], body⟩

def ofStatus (status : Nat) : Response := ⟨status, [], ""⟩

def realm : String := "bearer-auth"

/-- For programs. It tells less than the status and the kind of failure do. -/
def code : AuthError → String
  | .discovery _ => "INTERNAL_ERROR"
  | .keysUnavailable _ => "SERVICE_UNAVAILABLE"
  | .expired => "TOKEN_EXPIRED"
  | .unauthenticated => "UNAUTHENTICATED"
  | _ => "INVALID_TOKEN"

def publicMessage : AuthError → String
  | .discovery _ => "An internal error occurred"
  | .keysUnavailable _ => "Authentication service temporarily unavailable"
  | .expired => Token.Fault.expired.message
  | .unauthenticated => "Authentication required"
  | _ => Token.Fault.malformed.message

def challenge (e : AuthError) : String :=
  let plain := "Bearer realm=\"" ++ realm ++ "\""
  match e with
  | .unauthenticated => plain
  | .expired =>
    plain ++ ", error=\"invalid_token\", error_description=\"" ++ Token.Fault.expired.message ++ "\""
  | _ => plain ++ ", error=\"invalid_token\""

def errorBody (e : AuthError) : Json :=
  .record [("error", .record [("code", .text (code e)), ("message", .text (publicMessage e))])]

/-- The response to a failure. Only callers that may try again with another token are challenged. -/
def ofError (e : AuthError) : Response :=
  let response := ofJson e.status (errorBody e)
  if e.status = 401 then
    { response with fields := response.fields ++ [("www-authenticate", challenge e)] }
  else response

/-- For comparison with others, the order of fields does not count. -/
def sortedFields (r : Response) : Http.Fields :=
  r.fields.mergeSort fun a b => decide (a.1 < b.1 ∨ a.1 = b.1 ∧ a.2 ≤ b.2)

end Response

end TokenGate.Service
