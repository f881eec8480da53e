import TokenGate.Crypto.Number
import TokenGate.Crypto.Sha2

/-!
# RSA signatures

The two ways of padding a hash before it is raised to the key's power: the older one with fixed
padding, and the newer one with a random salt.
-/

namespace TokenGate.Crypto.Rsa

/-- `size` is the number of bytes of the modulus. -/
structure Key where
  modulus : Nat
  exponent : Nat
  size : Nat

/-- A key that is long enough, and odd in both parts. Neither part starts with a zero byte. -/
def Key.ofBytes? (modulus exponent : List UInt8) : Option Key :=
  let n := toNat modulus
  let e := toNat exponent
  if modulus.head? ≠ some 0 ∧ 2041 ≤ bitLength n ∧ bitLength n ≤ 8192 ∧ n % 2 = 1
      ∧ exponent.head? ≠ some 0 ∧ 3 ≤ e ∧ e < Nat.pow 2 33 ∧ e % 2 = 1 then
    some ⟨n, e, modulus.length⟩
  else none

/-- What the signature hides, if it can be one of this key. -/
def opened? (key : Key) (signature : List UInt8) : Option (List UInt8) :=
  let s := toNat signature
  if signature.length = key.size ∧ s < key.modulus then
    some (toBytes key.size (powMod key.modulus s key.exponent))
  else none

/-! ## Fixed padding -/

/-- Says with which function the hash has been made. -/
def hashLabel : Digest → List UInt8
  | .sha256 => [0x30, 0x31, 0x30, 0x0d, 0x06, 0x09, 0x60, 0x86, 0x48, 0x01, 0x65, 0x03, 0x04, 0x02,
      0x01, 0x05, 0x00, 0x04, 0x20]
  | .sha384 => [0x30, 0x41, 0x30, 0x0d, 0x06, 0x09, 0x60, 0x86, 0x48, 0x01, 0x65, 0x03, 0x04, 0x02,
      0x02, 0x05, 0x00, 0x04, 0x30]
  | .sha512 => [0x30, 0x51, 0x30, 0x0d, 0x06, 0x09, 0x60, 0x86, 0x48, 0x01, 0x65, 0x03, 0x04, 0x02,
      0x03, 0x05, 0x00, 0x04, 0x40]

/-- The one padding of a message. -/
def fixedPadding (d : Digest) (size : Nat) (message : List UInt8) : List UInt8 :=
  let tail := hashLabel d ++ d.hash message
  0x00 :: 0x01 :: List.replicate (size - 3 - tail.length) 0xff ++ 0x00 :: tail

/-- The padding is made anew and compared as a whole. -/
def verifyPkcs1 (d : Digest) (key : Key) (message signature : List UInt8) : Bool :=
  opened? key signature == some (fixedPadding d key.size message)

/-! ## Salted padding -/

/-- As many bytes as needed, from hashes of a seed and a counter. -/
def mask (d : Digest) (seed : List UInt8) (count : Nat) : List UInt8 :=
  let blocks := (count + d.size - 1) / d.size
  ((List.range blocks).flatMap fun i => d.hash (seed ++ toBytes 4 i)).take count

/-- Is this the salted padding of a message, in `bits` bits? The salt is as long as the hash. -/
def isSaltedPadding (d : Digest) (bits : Nat) (padded message : List UInt8) : Bool :=
  let size := (bits + 7) / 8
  let topBits := bits - 8 * (size - 1)
  let dataSize := size - d.size - 1
  let masked := padded.take dataSize
  let imprint := (padded.drop dataSize).take d.size
  let unmasked := List.zipWith (· ^^^ ·) masked (mask d imprint dataSize)
  let data := match unmasked with
    | top :: rest => UInt8.ofNat (top.toNat % Nat.pow 2 topBits) :: rest
    | [] => []
  let zeros := dataSize - d.size - 1
  let salt := data.drop (zeros + 1)
  padded.length == size && padded.getLast? == some 0xbc
    && masked.head?.all (fun top => top.toNat < Nat.pow 2 topBits)
    && data.take (zeros + 1) == List.replicate zeros 0 ++ [1]
    && imprint == d.hash (List.replicate 8 0 ++ d.hash message ++ salt)

/-- The padding has one bit less than the modulus, which may save it a byte. -/
def verifyPss (d : Digest) (key : Key) (message signature : List UInt8) : Bool :=
  let bits := bitLength key.modulus - 1
  match opened? key signature with
  | none => false
  | some padded =>
    if bits % 8 = 0 then
      padded.head? == some 0 && isSaltedPadding d bits padded.tail message
    else isSaltedPadding d bits padded message

end TokenGate.Crypto.Rsa
