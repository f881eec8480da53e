import TokenGate.Crypto.Number
import TokenGate.Crypto.Sha2

/-!
# Ed25519 signatures

Points of the curve `y² - x² = 1 + d x² y²` modulo `2^255 - 19`, and the signatures made with them.
-/

namespace TokenGate.Crypto.Ed25519

def prime : Nat := Nat.pow 2 255 - 19

/-- The number of points that the base spans. -/
def order : Nat := Nat.pow 2 252 + 27742317777372353535851937790883648493

/-- The constant of the curve equation. -/
def d : Nat := 37095705934669439343138083508754565189542113879843219016388785533085940283555

def rootOfMinusOne : Nat := powMod prime 2 ((prime - 1) / 4)

/-- The point `(x / z, y / z)`, with `t / z` the product of its coordinates. -/
structure Scaled where
  x : Nat
  y : Nat
  z : Nat
  t : Nat

def ofAffine (x y : Nat) : Scaled := ⟨x, y, 1, x * y % prime⟩

def zero : Scaled := ofAffine 0 1

/-- The point that all public keys are multiples of. -/
def base : Scaled :=
  ofAffine 15112221349535400772501151409588531511454012693041857206046113283949847762202
    46316835694926478169428394003475163141307993866256225615783033603165251855960

def add (p q : Scaled) : Scaled :=
  let m := prime
  let a := subMod m p.y p.x * subMod m q.y q.x % m
  let b := (p.y + p.x) * (q.y + q.x) % m
  let c := p.t * (2 * d) % m * q.t % m
  let e := 2 * p.z * q.z % m
  let f := subMod m b a
  let g := subMod m e c
  ⟨f * g % m, (e + c) * (b + a) % m, g * (e + c) % m, f * (b + a) % m⟩

def negate (p : Scaled) : Scaled := { p with x := subMod prime 0 p.x, t := subMod prime 0 p.t }

def times (n : Nat) (p : Scaled) : Scaled :=
  if n = 0 then zero
  else
    let rest := times (n / 2) (add p p)
    if n % 2 = 1 then add rest p else rest
  termination_by n
  decreasing_by omega

/-- A number `x` with `v x² = u`. -/
def ratioRoot? (u v : Nat) : Option Nat :=
  let m := prime
  let x := u * powMod m v 3 % m * powMod m (u * powMod m v 7 % m) ((m - 5) / 8) % m
  let square := v * x % m * x % m
  if square = u % m then some x
  else if square = subMod m 0 (u % m) then some (x * rootOfMinusOne % m)
  else none

/-- The point of an encoding: the second coordinate, and the lowest bit of the first one on top.
The coordinate may be larger than the prime. -/
def point? (bytes : List UInt8) : Option Scaled :=
  let n := toNatLittle bytes
  let y := n % Nat.pow 2 255 % prime
  let square := y * y % prime
  if bytes.length ≠ 32 then none
  else
    (ratioRoot? (subMod prime square 1) ((d * square + 1) % prime)).map fun x =>
      if x % 2 = n / Nat.pow 2 255 then ofAffine x y else ofAffine (subMod prime 0 x) y

/-- The one encoding of a point. -/
def encode (p : Scaled) : List UInt8 :=
  let i := inverse prime p.z
  toBytesLittle 32 (p.y * i % prime + p.x * i % prime % 2 * Nat.pow 2 255)

/-- The encoding of the first half of a signature is compared, so it must be the one encoding. -/
def verify (key message signature : List UInt8) : Bool :=
  match point? key with
  | none => false
  | some a =>
    let r := signature.take 32
    let s := toNatLittle (signature.drop 32)
    if signature.length = 64 ∧ s < order then
      let h := toNatLittle (Digest.sha512.hash (r ++ key ++ message)) % order
      encode (add (times s base) (times h (negate a))) == r
    else false

end TokenGate.Crypto.Ed25519
