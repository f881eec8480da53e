import TokenGate.Crypto.Number

/-!
# ECDSA signatures

Signatures with points of a curve `y² = x³ - 3x + b` over the integers modulo a prime. Sums of points are
worked out in scaled coordinates, which need no division.
-/

namespace TokenGate.Crypto

/-- The point `(x / z², y / z³)`. With `z = 0` it is the point at infinity. -/
structure Scaled where
  x : Nat
  y : Nat
  z : Nat

/-- `order` is the number of points that the generator spans, and `size` the bytes of a coordinate. -/
structure Curve where
  prime : Nat
  b : Nat
  order : Nat
  generator : Nat × Nat
  size : Nat

namespace Curve

def holds (c : Curve) (x y : Nat) : Bool :=
  let p := c.prime
  y * y % p == subMod p ((x * x * x + c.b) % p) (3 * x % p)

def infinity : Scaled := ⟨1, 1, 0⟩

def ofAffine (point : Nat × Nat) : Scaled := ⟨point.1, point.2, 1⟩

def double (c : Curve) (a : Scaled) : Scaled :=
  let p := c.prime
  let zz := a.z * a.z % p
  let yy := a.y * a.y % p
  let t := a.x * yy % p
  let slope := 3 * subMod p a.x zz * (a.x + zz) % p
  let x := subMod p (slope * slope) (8 * t % p)
  ⟨x, subMod p (slope * subMod p (4 * t) x) (8 * yy * yy % p), 2 * a.y * a.z % p⟩

def add (c : Curve) (a b : Scaled) : Scaled :=
  if a.z = 0 then b
  else if b.z = 0 then a
  else
    let p := c.prime
    let az := a.z * a.z % p
    let bz := b.z * b.z % p
    let x1 := a.x * bz % p
    let y1 := a.y * b.z % p * bz % p
    let h := subMod p (b.x * az) x1
    let r := subMod p (b.y * a.z % p * az) y1
    if h = 0 then if r = 0 then c.double a else infinity
    else
      let hh := h * h % p
      let hhh := h * hh % p
      let v := x1 * hh % p
      let x := subMod p (subMod p (r * r) hhh) (2 * v % p)
      ⟨x, subMod p (r * subMod p v x) (y1 * hhh % p), h * a.z % p * b.z % p⟩

def times (c : Curve) (n : Nat) (a : Scaled) : Scaled :=
  if n = 0 then infinity
  else
    let rest := c.times (n / 2) (c.double a)
    if n % 2 = 1 then c.add rest a else rest
  termination_by n
  decreasing_by omega

/-- The first coordinate. The point at infinity has none. -/
def x? (c : Curve) (a : Scaled) : Option Nat :=
  if a.z = 0 then none
  else
    let i := inverse c.prime a.z
    some (a.x * (i * i % c.prime) % c.prime)

/-! ## The curves in use -/

def p256 : Curve where
  prime := 0xffffffff00000001000000000000000000000000ffffffffffffffffffffffff
  b := 0x5ac635d8aa3a93e7b3ebbd55769886bc651d06b0cc53b0f63bce3c3e27d2604b
  order := 0xffffffff00000000ffffffffffffffffbce6faada7179e84f3b9cac2fc632551
  generator := (
    0x6b17d1f2e12c4247f8bce6e563a440f277037d812deb33a0f4a13945d898c296,
    0x4fe342e2fe1a7f9b8ee7eb4a7c0f9e162bce33576b315ececbb6406837bf51f5)
  size := 32

def p384 : Curve where
  prime := 0xfffffffffffffffffffffffffffffffffffffffffffffffffffffffffffffffeffffffff0000000000000000ffffffff
  b := 0xb3312fa7e23ee7e4988e056be3f82d19181d9c6efe8141120314088f5013875ac656398d8a2ed19d2a85c8edd3ec2aef
  order := 0xffffffffffffffffffffffffffffffffffffffffffffffffc7634d81f4372ddf581a0db248b0a77aecec196accc52973
  generator := (
    0xaa87ca22be8b05378eb1c71ef320ad746e1d3b628ba79b9859f741e082542a385502f25dbf55296c3a545e3872760ab7,
    0x3617de4a96262c6f5d9e98bf9292dc29f8f41dbd289a147ce9da3113b5f0b8c00a60b1ce1d7e819d7a431d7c90ea0e5f)
  size := 48

end Curve

end TokenGate.Crypto

/-!
## Signatures

A signature is two numbers of fixed length, one after the other.
-/

namespace TokenGate.Crypto.Ecdsa

/-- An uncompressed point of the curve. -/
def point? (c : Curve) (bytes : List UInt8) : Option (Nat × Nat) :=
  match bytes with
  | 4 :: coordinates =>
    let x := toNat (coordinates.take c.size)
    let y := toNat (coordinates.drop c.size)
    if coordinates.length = 2 * c.size ∧ x < c.prime ∧ y < c.prime ∧ c.holds x y then
      some (x, y)
    else none
  | _ => none

/-- `hash` is the hash of the message, as long as the order of the curve. -/
def verify (c : Curve) (key hash signature : List UInt8) : Bool :=
  match point? c key with
  | none => false
  | some q =>
    let r := toNat (signature.take c.size)
    let s := toNat (signature.drop c.size)
    if signature.length = 2 * c.size ∧ 1 ≤ r ∧ r < c.order ∧ 1 ≤ s ∧ s < c.order then
      let w := inverse c.order s
      let sum := c.add (c.times (toNat hash * w % c.order) (Curve.ofAffine c.generator))
        (c.times (r * w % c.order) (Curve.ofAffine q))
      (c.x? sum).any fun x => x % c.order == r
    else false

end TokenGate.Crypto.Ecdsa
