/-!
# Binary floating point, 64 bits

A finite double is a whole number of units of 2^-1074, so its value is exact and all arithmetic on
it is arithmetic on naturals. Rounding goes to the nearest double, a tie to the even significand.
-/

namespace TokenGate

/-- The double `± significand · 2^shift` units. -/
structure Binary64 where
  negative : Bool
  significand : Nat
  shift : Nat
  deriving DecidableEq, Repr

namespace Binary64

/-- All doubles are whole multiples of this power of a half. -/
def fractionBits : Nat := 1074

-- Powers are spelled out, since what `^` stands for depends on the imports.
def unitsPerOne : Nat := Nat.pow 2 fractionBits

def units (x : Binary64) : Nat := x.significand * Nat.pow 2 x.shift

def scaled (x : Binary64) : Int := if x.negative then -x.units else x.units

def isZero (x : Binary64) : Bool := x.significand == 0

/-- The quotient, rounded to the nearest natural, a tie to the even one. -/
def divHalfEven (num den : Nat) : Nat :=
  let q := num / den
  let twice := 2 * (num % den)
  if twice < den then q
  else if den < twice then q + 1
  else if q % 2 = 0 then q else q + 1

/-- None beyond the greatest double. -/
def finite? (significand shift : Nat) : Option Binary64 :=
  if shift ≤ 2045 then some ⟨false, significand, shift⟩ else none

/-- Rounding may have filled up one digit more than a significand has. -/
def normal? (significand shift : Nat) : Option Binary64 :=
  if significand = Nat.pow 2 53 then finite? (Nat.pow 2 52) (shift + 1) else finite? significand shift

/-- The double nearest to `num / den`, or none when it would be infinite. -/
def ofRatio? (num den : Nat) : Option Binary64 :=
  let exact := num * unitsPerOne
  let shift := (exact / den).log2 + 1 - 53
  normal? (divHalfEven exact (den * Nat.pow 2 shift)) shift

def ofNat? (n : Nat) : Option Binary64 := ofRatio? n 1

/-- Signs are left aside. -/
def mulAbs? (x y : Binary64) : Option Binary64 :=
  ofRatio? (x.units * y.units) (unitsPerOne * unitsPerOne)

def divAbs? (x y : Binary64) : Option Binary64 := ofRatio? x.units y.units

/-- The greatest integer that is not above the value. -/
def floor (x : Binary64) : Int := x.scaled / unitsPerOne

theorem unitsPerOne_pos : 0 < unitsPerOne := by
  exact Nat.two_pow_pos fractionBits

end Binary64

end TokenGate
