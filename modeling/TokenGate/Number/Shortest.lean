import TokenGate.Number.Binary64

/-!
# The shortest decimal digits of a double

Of the decimals that read back as a given double, those with the fewest digits are candidates, and
the nearest of them is written.
-/

namespace TokenGate.Binary64

/-- Digits `d₁ d₂ … dₙ` and a point position `p`: the number `0.d₁d₂…dₙ · 10^p`. -/
structure Digits where
  digits : List Nat
  point : Int
  deriving DecidableEq, Repr

def digitsOf (n : Nat) : List Nat :=
  if n = 0 then [] else digitsOf (n / 10) ++ [n % 10]
decreasing_by omega

/-- The numbers between `low` and `high` read back; the ends do when `closed`. All are quarter units. -/
structure Reach where
  low : Nat
  middle : Nat
  high : Nat
  closed : Bool

/-- The way to the next double is half as long below a power of two. -/
def reach (x : Binary64) : Reach :=
  let gap := 2 * Nat.pow 2 x.shift
  let below := if x.significand = Nat.pow 2 52 ∧ 0 < x.shift then Nat.pow 2 x.shift else gap
  { low := 4 * x.units - below
    middle := 4 * x.units
    high := 4 * x.units + gap
    closed := x.significand % 2 == 0 }

def tenPower (e : Int) : Nat × Nat := (Nat.pow 10 e.toNat, Nat.pow 10 (-e).toNat)

def Reach.holds (r : Reach) (n : Nat) (e : Int) : Bool :=
  let (num, den) := tenPower e
  let value := n * num * (4 * unitsPerOne)
  if r.closed then r.low * den ≤ value && value ≤ r.high * den
  else r.low * den < value && value < r.high * den

def Reach.distance (r : Reach) (n : Nat) (e : Int) : Nat :=
  let (num, den) := tenPower e
  let value := n * num * (4 * unitsPerOne)
  let middle := r.middle * den
  (value - middle) + (middle - value)

/-- The best multiple of `10^e` within reach. A tie goes to the even one. -/
def Reach.best? (r : Reach) (e : Int) : Option Nat :=
  let (num, den) := tenPower e
  let below := r.middle * den / (num * (4 * unitsPerOne))
  match r.holds below e, r.holds (below + 1) e with
  | false, false => none
  | true, false => some below
  | false, true => some (below + 1)
  | true, true =>
    let a := r.distance below e
    let b := r.distance (below + 1) e
    if a < b then some below
    else if b < a then some (below + 1)
    else if below % 2 = 0 then some below else some (below + 1)

/-- From coarse powers of ten to finer ones, until a multiple is within reach. -/
def Reach.search (r : Reach) : (tries : Nat) → (e : Int) → Nat × Int
  | 0, e => (((r.best? e).getD 0), e)
  | tries + 1, e =>
    match r.best? e with
    | some n => if n = 0 then r.search tries (e - 1) else (n, e)
    | none => r.search tries (e - 1)

/-- An exponent that is surely coarse enough to start from. -/
def coarse (x : Binary64) : Int :=
  ((x.units.log2 : Int) - 1074) * 30103 / 100000 + 2

/-- Zeros at the end are not digits. -/
def shortest (x : Binary64) : Digits :=
  if x.isZero then ⟨[], 0⟩
  else
    let (n, e) := x.reach.search 400 x.coarse
    let ds := digitsOf n
    let kept := (ds.reverse.dropWhile (· == 0)).reverse
    ⟨kept, e + ds.length⟩

def digitChar (d : Nat) : Char := Char.ofNat (d + 48)

/-- Positional text: no exponent, and no point where there is no fraction. -/
def toPositional (x : Binary64) : String :=
  let d := x.shortest
  let sign := if x.negative then "-" else ""
  let whole :=
    if d.point ≤ 0 then ['0']
    else (d.digits.take d.point.toNat).map digitChar
      ++ List.replicate (d.point.toNat - d.digits.length) '0'
  let fraction :=
    if d.point ≤ 0 then List.replicate (-d.point).toNat '0' ++ d.digits.map digitChar
    else (d.digits.drop d.point.toNat).map digitChar
  let fraction := if d.digits.isEmpty then [] else fraction
  sign ++ String.ofList whole ++ (if fraction.isEmpty then "" else "." ++ String.ofList fraction)

/-- Text with a point or an exponent: positional while the point stands within 16 digits left and 4
zeros right, `1e300` and `1.5e-7` outside. -/
def toScientific (x : Binary64) : String :=
  let d := x.shortest
  let sign := if x.negative then "-" else ""
  if d.digits.isEmpty then sign ++ "0.0"
  else if -5 < d.point ∧ d.point ≤ 16 then
    let text := { x with negative := false }.toPositional
    sign ++ text ++ (if text.toList.contains '.' then "" else ".0")
  else
    let head := (d.digits.take 1).map digitChar
    let tail := (d.digits.drop 1).map digitChar
    sign ++ String.ofList head ++ (if tail.isEmpty then "" else "." ++ String.ofList tail)
      ++ "e" ++ toString (d.point - 1)

end TokenGate.Binary64
