/-!
# Large numbers

Numbers are written as bytes with the highest one first, unless said otherwise. Arithmetic on them is
modulo a number.
-/

namespace TokenGate.Crypto

def toNat (bytes : List UInt8) : Nat := bytes.foldl (fun n b => n * 256 + b.toNat) 0

/-- In so many bytes. Higher ones are lost. -/
def toBytes (count n : Nat) : List UInt8 :=
  (List.range count).map fun i => .ofNat (n / Nat.pow 256 (count - 1 - i))

/-- A number written with the lowest byte first. -/
def toNatLittle (bytes : List UInt8) : Nat := bytes.foldr (fun b n => n * 256 + b.toNat) 0

def toBytesLittle (count n : Nat) : List UInt8 := (toBytes count n).reverse

def bitLength (n : Nat) : Nat := if n = 0 then 0 else n.log2 + 1

def groups {α : Type} (size : Nat) (items : List α) : List (List α) :=
  match items with
  | [] => []
  | a :: rest => (a :: rest.take (size - 1)) :: groups size (rest.drop (size - 1))
  termination_by items.length
  decreasing_by simp only [List.length_drop, List.length_cons]; omega

/-! ## Arithmetic modulo a number -/

def powMod (m base e : Nat) : Nat :=
  if e = 0 then 1 % m
  else
    let half := powMod m (base * base % m) (e / 2)
    if e % 2 = 1 then half * base % m else half
  termination_by e
  decreasing_by omega

/-- Modulo a prime. -/
def inverse (p a : Nat) : Nat := powMod p a (p - 2)

/-- `a - b` modulo `m`, for `b` below `m`. -/
def subMod (m a b : Nat) : Nat := (a + m - b) % m

end TokenGate.Crypto
