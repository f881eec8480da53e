import TokenGate.AuthError
import TokenGate.Json.Reading
import TokenGate.Text.Base64Url
import TokenGate.Text.Basic

/-!
# Tokens before their signature is checked

A signed token has three parts with dots between them: header, payload and signature, each in Base64 for
URLs. Of an unchecked token only the header is used.
-/

namespace TokenGate.Token

structure Compact where
  header : List Char
  payload : List Char
  signature : List Char

namespace Compact

def ofText? (token : String) : Option Compact :=
  match Text.fields '.' token.toList with
  | [header, payload, signature] => some ⟨header, payload, signature⟩
  | _ => none

/-- The bytes that the signature covers. -/
def signedBytes (t : Compact) : List UInt8 :=
  Text.toBytes (String.ofList (t.header ++ '.' :: t.payload))

end Compact

/-- A part must be Base64 of UTF-8 of JSON. -/
def decodeJson? (part : List Char) : Option Json := do
  Json.ofText? (← Text.ofBytes? (← Text.Base64Url.decode part))

/-!
## The header of a token, before its signature is checked

The header says which key to look up and which algorithm to expect. Nothing else may be done with
it, since nobody has vouched for it yet.
-/

/-- Both are the word of whoever made the token. -/
structure Header where
  keyId : String
  algorithm : String
  deriving DecidableEq, Repr

namespace Header

/-- Longer tokens are refused unread. -/
def maxBytes : Nat := 8192

/-- A member that must be a text, and not the empty one. -/
def filledText? (name : String) (header : Json) : Option String :=
  ((header.member? name).bind Json.text?).filter (· ≠ "")

/-- The header in a JSON value. A missing algorithm is reported before a missing key. -/
def ofJson (header : Json) : Except Fault Header :=
  match filledText? "alg" header, filledText? "kid" header with
  | none, _ => .error .malformed
  | some _, none => .error .missingKeyId
  | some algorithm, some keyId => .ok { keyId, algorithm }

/-- Size, form and header of a token, in this order. -/
def ofToken (token : String) : Except Fault Header :=
  if maxBytes < token.utf8ByteSize then .error .tooLarge
  else
    match (Compact.ofText? token).bind (decodeJson? ·.header) with
    | none => .error .malformed
    | some header => ofJson header

end Header

end TokenGate.Token
