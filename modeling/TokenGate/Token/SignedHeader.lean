import TokenGate.Json.Basic
import TokenGate.Token.Algorithm

/-!
# The header of a token, as the signature check reads it

The signature check reads the header anew and is stricter: no name that it knows may repeat, and
each must have its type.
-/

namespace TokenGate.Token

/-- What is used of the header then. The rest only has to be well-formed. -/
structure SignedHeader where
  algorithm : Algorithm
  keyId : Option String
  deriving DecidableEq, Repr

namespace SignedHeader

/-- A name, written as a text or as a record with that name and a null. -/
def symbol? : Json → Option String
  | .text s => some s
  | .record [(s, .null)] => some s
  | _ => none

/-- Names of a list stand for the cases of an enumeration. -/
def oneOf (names : List String) (v : Json) : Bool := (symbol? v).any (· ∈ names)

/-- A member that may be absent or null, and otherwise must be read. It must not repeat. -/
def mayRead {α : Type} (read : Json → Option α) (name : String) (members : List (String × Json)) :
    Bool :=
  (Json.once? name members).any fun v => (Json.optional read v).isSome

def mayBeText (name : String) (members : List (String × Json)) : Bool :=
  mayRead Json.text? name members

/-- A member that must be there, once. -/
def mustBe (p : Json → Bool) (name : String) (members : List (String × Json)) : Bool :=
  (Json.once? name members).any (·.any p)

def isText (v : Json) : Bool := v.text?.isSome

def curves : List String := ["P-256", "P-384", "P-521", "Ed25519"]

/-- More than tokens may be signed with: a key can be meant for encryption. -/
def keyAlgorithms : List String :=
  ["HS256", "HS384", "HS512", "ES256", "ES384", "RS256", "RS384", "RS512", "PS256", "PS384",
    "PS512", "EdDSA", "RSA1_5", "RSA-OAEP", "RSA-OAEP-256"]

/-- Each type of key has parameters of its own. -/
def hasKeyParameters (members : List (String × Json)) : Bool :=
  let type (name : String) := mustBe (oneOf [name]) "kty" members
  let curve := mustBe (oneOf curves) "crv" members
  let param (name : String) := mustBe isText name members
  (type "EC" && curve && param "x" && param "y")
    || (type "RSA" && param "n" && param "e")
    || (type "oct" && param "k")
    || (type "OKP" && curve && param "x")

/-- A key that the header carries along. It is checked for its shape and not used. -/
def isKey : Json → Bool
  | .record members =>
    mayBeText "use" members && mayRead Json.texts? "key_ops" members
      && mayRead (fun v => if oneOf keyAlgorithms v then some () else none) "alg" members
      && mayBeText "kid" members && mayBeText "x5u" members && mayRead Json.texts? "x5c" members
      && mayBeText "x5t" members && mayBeText "x5t#S256" members
      && hasKeyParameters members
  | _ => false

/-- None for any header that the signature check cannot read, whatever else it says. -/
def ofJson? : Json → Option SignedHeader
  | .record members => do
    let algorithm ← Algorithm.ofName? (← (← (← Json.once? "alg" members)).text?)
    let keyId ← Json.optional Json.text? (← Json.once? "kid" members)
    if mayBeText "typ" members && mayBeText "cty" members && mayBeText "jku" members
        && mayRead (fun v => if isKey v then some () else none) "jwk" members
        && mayBeText "x5u" members && mayRead Json.texts? "x5c" members
        && mayBeText "x5t" members && mayBeText "x5t#S256" members then
      some { algorithm, keyId }
    else none
  | _ => none

end SignedHeader

end TokenGate.Token
