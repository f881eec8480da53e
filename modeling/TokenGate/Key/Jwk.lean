import TokenGate.Json.Basic
import TokenGate.Token.Algorithm

/-!
# JSON web keys

A key as a provider publishes it. Only its type must be there; everything else may be absent.
-/

namespace TokenGate

/-- The parameters are kept as they were sent. They are decoded when a signature is to be checked. -/
structure Jwk where
  keyType : String
  keyId : Option String
  algorithm : Option String
  purpose : Option String
  modulus : Option String
  exponent : Option String
  curve : Option String
  x : Option String
  y : Option String
  deriving DecidableEq, Repr

namespace Jwk

def memberNames : List String := ["kty", "kid", "alg", "use", "n", "e", "crv", "x", "y"]

/-- A member of the wrong type makes the key unreadable. Unknown members do no harm. -/
def ofMembers? (members : List (String × Json)) : Option Jwk := do
  let text name := Json.optional Json.text? (Json.lookup name members)
  some {
    keyType := ← (← Json.lookup "kty" members).text?
    keyId := ← text "kid"
    algorithm := ← text "alg"
    purpose := ← text "use"
    modulus := ← text "n"
    exponent := ← text "e"
    curve := ← text "crv"
    x := ← text "x"
    y := ← text "y" }

/-- A key is a record, or a list of the values of its first members. -/
def ofJson? : Json → Option Jwk
  | .record members => ofMembers? members
  | .list items =>
    if items.length ≤ memberNames.length then ofMembers? (memberNames.zip items) else none
  | _ => none

def json (k : Jwk) : Json :=
  .record (memberNames.zip [.text k.keyType, .ofOption k.keyId, .ofOption k.algorithm,
    .ofOption k.purpose, .ofOption k.modulus, .ofOption k.exponent, .ofOption k.curve,
    .ofOption k.x, .ofOption k.y])

/-- The id under which the key can be looked up. Encryption keys have none. -/
def signingId? (k : Jwk) : Option String :=
  if k.purpose = some "enc" then none else k.keyId.filter (· ≠ "")

end Jwk

end TokenGate
