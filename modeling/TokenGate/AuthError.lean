/-!
# Why a caller is not let in

Each failure of the pipeline has its own cause, for logs and metrics. What a client is told is
coarser, and is settled where responses are made.
-/

namespace TokenGate.Token

/-- The faults that can be told before a key is looked up, and those of the time window. -/
inductive Fault
  | tooLarge
  | malformed
  | missingKeyId
  | expired
  | notYetValid
  deriving DecidableEq, Repr

/-- The public text. It tells an expired token from an invalid one, and no more. -/
def Fault.message : Fault → String
  | .expired => "The access token has expired"
  | .tooLarge | .malformed | .missingKeyId | .notYetValid => "The access token is invalid"

end TokenGate.Token

namespace TokenGate

/-- The details are for the logs. They may quote the token, and no client is shown them. -/
inductive AuthError
  | discovery (detail : String)
  | keysUnavailable (detail : String)
  | malformed (detail : String)
  /-- The key is not in the set, not even after a refresh. -/
  | unknownKey (keyId : String)
  | algorithmMismatch (declared allowed : String)
  | signatureInvalid
  | wrongIssuer (issuer : String)
  | wrongAudience (audience : String)
  | expired
  | notYetValid
  | unauthenticated
  deriving DecidableEq, Repr

namespace AuthError

/-- The word under which the failure is logged. -/
def kind : AuthError → String
  | discovery _ => "discovery"
  | keysUnavailable _ => "key_fetch"
  | malformed _ => "malformed_token"
  | unknownKey _ => "unknown_key"
  | algorithmMismatch _ _ => "algorithm_mismatch"
  | signatureInvalid => "signature_invalid"
  | wrongIssuer _ => "invalid_issuer"
  | wrongAudience _ => "invalid_audience"
  | expired => "token_expired"
  | notYetValid => "token_not_yet_valid"
  | unauthenticated => "unauthenticated"

def message : AuthError → String
  | discovery detail => "OIDC discovery failed: " ++ detail
  | keysUnavailable detail => "Signing keys unavailable: " ++ detail
  | malformed detail => "Malformed token: " ++ detail
  | unknownKey keyId => "Unknown signing key: " ++ keyId
  | algorithmMismatch declared allowed =>
    "Algorithm mismatch: token declares " ++ declared ++ ", key allows " ++ allowed
  | signatureInvalid => "Signature verification failed"
  | wrongIssuer issuer => "Invalid issuer: " ++ issuer
  | wrongAudience audience => "Invalid audience: " ++ audience
  | expired => "Token expired"
  | notYetValid => "Token not yet valid"
  | unauthenticated => "Authentication required"

/-- Only a failure of ours is told by another status than 401. -/
def status : AuthError → Nat
  | discovery _ => 500
  | keysUnavailable _ => 503
  | _ => 401

/-- The token itself was refused: there was one, and we were able to judge it. -/
def isRejection : AuthError → Bool
  | discovery _ | keysUnavailable _ | unauthenticated => false
  | _ => true

/-- What a fault of the token is called in the pipeline. Three of them are one kind of failure there. -/
def ofFault : Token.Fault → AuthError
  | .tooLarge => malformed "token exceeds size limit"
  | .malformed => malformed "invalid JWT structure"
  | .missingKeyId => malformed "missing kid header"
  | .expired => expired
  | .notYetValid => notYetValid

end AuthError

end TokenGate
