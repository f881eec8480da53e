import TokenGate.Crypto.Ecdsa
import TokenGate.Crypto.Ed25519
import TokenGate.Crypto.Rsa
import TokenGate.Key.Usage

/-!
# Checking signatures

One function for all algorithms. A key that does not fit the algorithm verifies nothing.
-/

namespace TokenGate

/-- A way to check signatures: key, algorithm, signed bytes and signature. -/
abbrev SignatureCheck := PublicKey → Algorithm → List UInt8 → List UInt8 → Bool

namespace Crypto

/-- A key that cannot be used verifies nothing. -/
def rsaCheck (verify : Rsa.Key → List UInt8 → List UInt8 → Bool) (modulus exponent : List UInt8)
    (message signature : List UInt8) : Bool :=
  (Rsa.Key.ofBytes? modulus exponent).any fun key => verify key message signature

/-- The check that the service uses. -/
def check : SignatureCheck
  | .rsa n e, .rsaPkcs1 digest => rsaCheck (Rsa.verifyPkcs1 digest) n e
  | .rsa n e, .rsaPss digest => rsaCheck (Rsa.verifyPss digest) n e
  | .curve point, .ecdsa256 => fun message => Ecdsa.verify Curve.p256 point (Digest.sha256.hash message)
  | .curve point, .ecdsa384 => fun message => Ecdsa.verify Curve.p384 point (Digest.sha384.hash message)
  | .edwards point, .eddsa => Ed25519.verify point
  | _, _ => fun _ _ => false

end Crypto

end TokenGate
