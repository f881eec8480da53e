import TokenGate.Number.Binary64

/-!
# Numbers written in decimal

A written number is an integer where 64 bits hold it, and else a double. The double comes from a
significand of 64 bits, of which later digits are dropped, and one scaling by a power of ten.
-/

namespace TokenGate

/-- Integers are kept exact. -/
inductive Number
  | int (n : Int)
  | real (x : Binary64)
  deriving DecidableEq, Repr

/-- The digits of a written number. A number without fraction and exponent is written whole. -/
structure Decimal where
  negative : Bool
  whole : List Nat
  fraction : List Nat
  exponent : Option (Bool × List Nat)
  deriving DecidableEq, Repr

namespace Decimal

def wordMax : Nat := Nat.pow 2 64 - 1

/-- Appends digits to `n` while 64 bits hold the result. Gives the result and the digits left over. -/
def absorb : (n : Nat) → List Nat → Nat × List Nat
  | n, [] => (n, [])
  | n, d :: rest => if n * 10 + d ≤ wordMax then absorb (n * 10 + d) rest else (n, d :: rest)

/-- The exponent digits, or none when they are beyond 31 bits. -/
def exponentOf? (digits : List Nat) : Option Nat :=
  digits.foldl (fun n? d => n?.bind fun n => if n * 10 + d < Nat.pow 2 31 then some (n * 10 + d) else none)
    (some 0)

def tenTo (k : Nat) : Binary64 := (Binary64.ofNat? (Nat.pow 10 k)).getD ⟨false, 0, 0⟩

/-- Divides by 10^308 as often as told. Zero stays zero. -/
def shrink : (n : Nat) → Binary64 → Option Binary64
  | 0, x => some x
  | n + 1, x => if x.isZero then some x else (x.divAbs? (tenTo 308)).bind (shrink n)

/-- A division by more than 10^308 takes several steps. -/
def scaleDown (x : Binary64) (k : Nat) : Option Binary64 :=
  let steps := (k - 1) / 308
  (shrink steps x).bind fun y => y.divAbs? (tenTo (k - 308 * steps))

/-- None where the result is not a finite double. -/
def scaleUp (x : Binary64) (k : Nat) : Option Binary64 :=
  if k ≤ 308 then x.mulAbs? (tenTo k)
  else if x.isZero then some x
  else none

/-- The significand times a power of ten, rounded once for each step. -/
def scale (significand : Nat) (e : Int) : Option Binary64 := do
  let x ← Binary64.ofNat? significand
  if 0 ≤ e then scaleUp x e.toNat else scaleDown x (-e).toNat

/-- The written number as a double, without its sign. An exponent out of range makes it zero, or too
large. -/
def absReal? (d : Decimal) : Option Binary64 :=
  let (n, dropped) := absorb 0 d.whole
  let (significand, unread) := absorb n d.fraction
  let point : Int := dropped.length - (d.fraction.length - unread.length : Nat)
  match d.exponent with
  | none => scale significand point
  | some (negative, digits) =>
    match exponentOf? digits with
    | some e => scale significand (if negative then point - e else point + e)
    | none => if significand = 0 ∨ negative then some ⟨false, 0, 0⟩ else none

/-- The number, or none when it is too large for a double. Minus zero is a double. -/
def number? (d : Decimal) : Option Number :=
  let real := (absReal? d).map fun x => Number.real { x with negative := d.negative }
  if d.fraction.isEmpty && d.exponent.isNone then
    match absorb 0 d.whole with
    | (n, []) =>
      if d.negative then (if n = 0 ∨ Nat.pow 2 63 < n then real else some (.int (-n)))
      else some (.int n)
    | _ => real
  else real

end Decimal

end TokenGate
