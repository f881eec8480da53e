import TokenGate.Claims.Basic
import TokenGate.Crypto.Signature
import TokenGate.Key.Usage
import TokenGate.Token.Header
import TokenGate.Token.SignedHeader

/-!
# Judging tokens

Everything that is decided about a token once its key is there: algorithm, signature, claims, issuer,
audience and time, in this order. No claim is looked at before the signature has been checked.
-/

namespace TokenGate

/-- What is expected of a token, and where its keys are. -/
structure Validator where
  issuer : String
  audience : String
  leeway : Span
  endpoint : String
  claims : Factory

/-- A token that has been accepted: what it says, and what it was checked with. -/
structure ValidatedToken where
  claims : Claims
  keyId : String
  algorithm : Algorithm
  deriving DecidableEq

namespace ValidatedToken

/-- There is no validated token without this. -/
def isVerified (_ : ValidatedToken) : Bool := true

def diagnostic (t : ValidatedToken) : String :=
  Text.diagnosticRecord "ValidatedToken"
    [("claims", t.claims.diagnostic), ("key_id", Text.diagnostic t.keyId),
      ("algorithm", t.algorithm.name), ("signature_verified", if t.isVerified then "true" else "false")]

end ValidatedToken

namespace Token

/-- The texts of these failures are those of the library that checks signatures. -/
def badJson : AuthError := .malformed "JSON error"

def badEncoding : AuthError := .malformed "Base64 error"

/-- The payload is readable, and yet no claims of this dialect. -/
def badClaims : AuthError := .malformed "invalid claims"

/-- Reads a part as the signature check does, which tells bad encoding from bad content. -/
def jsonOfPart (part : List Char) : Except AuthError Json :=
  match Text.Base64Url.decode part with
  | none => .error badEncoding
  | some bytes =>
    match (Text.ofBytes? bytes).bind Json.ofText? with
    | none => .error badJson
    | some v => .ok v

/-- The names that a payload may have at most once. -/
def singleClaims : List String := ["exp", "nbf", "sub", "iss", "aud"]

/-- A list or record with something in it. Where a date should be, the check lets only an empty one pass. -/
def isFilled : Json → Bool
  | .list items => !items.isEmpty
  | .record members => !members.isEmpty
  | _ => false

def isNested : Json → Bool
  | .list _ | .record _ => true
  | _ => false

/-- The signature check reads over the payload, and accepts only what it can read over. -/
def isReadable : Json → Bool
  | .record members =>
    let none? (p : Json → Bool) (name : String) := !(Json.lookup name members).any p
    singleClaims.all (fun name => (Json.once? name members).isSome)
      && none? isFilled "exp" && none? isFilled "nbf" && none? isNested "sub"
  | _ => false

/-- The payload, once the signature is known to cover it. -/
def payload (t : Compact) : Except AuthError Json := do
  let v ← jsonOfPart t.payload
  if isReadable v then .ok v else .error badJson

/-- The header again, this time with all that the signature check wants to know of it. -/
def signedHeader (t : Compact) : Except AuthError SignedHeader := do
  match SignedHeader.ofJson? (← jsonOfPart t.header) with
  | some h => .ok h
  | none => .error badJson

/-- The key must fit, then the header must declare this algorithm, then the signature must verify. Only
then is the payload read. -/
def verifiedPayload (check : SignatureCheck) (t : Compact) (key : PublicKey) (a : Algorithm) :
    Except AuthError Json := do
  let mismatch := AuthError.algorithmMismatch a.name a.name
  if !key.fits a then throw mismatch
  let header ← signedHeader t
  if header.algorithm ≠ a then throw mismatch
  match Text.Base64Url.decode t.signature with
  | none => throw badEncoding
  | some signature =>
    if check key a t.signedBytes signature then payload t else throw .signatureInvalid

end Token

namespace Validator

def standardLeeway : Span := .ofSeconds 10

/-- Issuer, audience and time, in this order. -/
def accept (v : Validator) (c : Claims) (now : Stamp) : Except AuthError Unit :=
  if !c.isFrom v.issuer then .error (.wrongIssuer c.registered.issuer)
  else if !c.isFor v.audience then
    .error (.wrongAudience (",".intercalate c.presentedAudience))
  else (c.registered.times.check v.leeway now).mapError AuthError.ofFault

/-- All checks in order. The first that fails is the answer. -/
def judge (v : Validator) (check : SignatureCheck) (token : String) (header : Token.Header)
    (key : Jwk) (now : Stamp) : Except AuthError ValidatedToken := do
  let algorithm ← key.pin header.algorithm
  match PublicKey.ofJwk? key, Token.Compact.ofText? token with
  | some publicKey, some parts =>
    let payload ← Token.verifiedPayload check parts publicKey algorithm
    match (v.claims.build payload).1 with
    | none => throw Token.badClaims
    | some claims =>
      v.accept claims now
      return { claims, keyId := header.keyId, algorithm }
  | _, _ => throw .signatureInvalid

end Validator

end TokenGate
