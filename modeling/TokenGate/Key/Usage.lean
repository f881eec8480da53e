import TokenGate.AuthError
import TokenGate.Key.Jwk
import TokenGate.Text.Base64Url

/-!
# What a key is good for

The key decides which algorithms may be used with it. The token's own word is only compared with
that, so a token cannot talk us into a weaker algorithm.
-/

namespace TokenGate.Jwk

/-- The algorithms for keys of this type, and of this curve. Those with a shared secret are in no
family. -/
def family (k : Jwk) : List Algorithm :=
  match k.keyType, k.curve with
  | "RSA", _ =>
    [.rsaPkcs1 .sha256, .rsaPkcs1 .sha384, .rsaPkcs1 .sha512, .rsaPss .sha256, .rsaPss .sha384,
      .rsaPss .sha512]
  | "EC", some "P-256" => [.ecdsa256]
  | "EC", some "P-384" => [.ecdsa384]
  | "OKP", some "Ed25519" => [.eddsa]
  | _, _ => []

/-- What the key allows, for the error text. -/
def allowedText (k : Jwk) : String := k.algorithm.getD ("|".intercalate (k.family.map (·.name)))

/-- The key's own algorithm comes first. Whatever is wrong, the failure reads the same. -/
def pin (k : Jwk) (declared : String) : Except AuthError Algorithm :=
  let mismatch := AuthError.algorithmMismatch declared k.allowedText
  if k.algorithm.any (· ≠ declared) then .error mismatch
  else
    match Algorithm.ofName? declared with
    | none => .error mismatch
    | some a => if a ∈ k.family then .ok a else .error mismatch

end TokenGate.Jwk

/-!
## Public keys

The parameters of a key as bytes. Whether they make a usable key is seen when a signature is checked.
-/

namespace TokenGate

/-- What a signature is checked with. -/
inductive PublicKey
  | rsa (modulus exponent : List UInt8)
  /-- An uncompressed point: the byte 4 and both coordinates. -/
  | curve (point : List UInt8)
  | edwards (point : List UInt8)
  deriving DecidableEq

namespace PublicKey

/-- A parameter must be there. -/
def bytes? (param : Option String) : Option (List UInt8) :=
  param.bind fun s => Text.Base64Url.decode s.toList

/-- None if a parameter is missing or not encoded right, or the key type is unknown. -/
def ofJwk? (k : Jwk) : Option PublicKey :=
  match k.keyType with
  | "RSA" => do some (rsa (← bytes? k.modulus) (← bytes? k.exponent))
  | "EC" => do some (curve (4 :: (← bytes? k.x) ++ (← bytes? k.y)))
  | "OKP" => (bytes? k.x).map edwards
  | _ => none

/-- RSA keys are for both paddings, and points for any curve until they are checked. -/
def fits : PublicKey → Algorithm → Bool
  | rsa _ _, .rsaPkcs1 _ | rsa _ _, .rsaPss _ => true
  | curve _, .ecdsa256 | curve _, .ecdsa384 => true
  | edwards _, .eddsa => true
  | _, _ => false

end PublicKey

end TokenGate
