import TokenGate.Time.Instant

/-!
# Seconds on the Unix clock

A stamp is a second that 64 bits with a sign can hold. Sums stop at the ends of that range.
-/

namespace TokenGate

/-- The second is counted from the beginning of 1970. -/
structure Stamp where
  seconds : Int
  least_le : -9223372036854775808 ≤ seconds
  lt_end : seconds < 9223372036854775808
  deriving DecidableEq

namespace Stamp

def zero : Stamp := ⟨0, by omega, by omega⟩

instance : Inhabited Stamp := ⟨zero⟩

def least : Stamp := ⟨-9223372036854775808, by omega, by omega⟩

def greatest : Stamp := ⟨9223372036854775807, by omega, by omega⟩

/-- None beyond the range. -/
def ofInt? (n : Int) : Option Stamp :=
  if h : -9223372036854775808 ≤ n ∧ n < 9223372036854775808 then some ⟨n, h.1, h.2⟩ else none

/-- The nearest stamp. -/
def clamp (n : Int) : Stamp :=
  if h : n < -9223372036854775808 then least
  else if h' : n < 9223372036854775808 then ⟨n, by omega, h'⟩
  else greatest

def plus (s : Stamp) (n : Nat) : Stamp := clamp (s.seconds + n)

instance : LE Stamp := ⟨fun a b => a.seconds ≤ b.seconds⟩
instance : LT Stamp := ⟨fun a b => a.seconds < b.seconds⟩
instance (a b : Stamp) : Decidable (a ≤ b) := inferInstanceAs (Decidable (a.seconds ≤ b.seconds))
instance (a b : Stamp) : Decidable (a < b) := inferInstanceAs (Decidable (a.seconds < b.seconds))

theorem ext {a b : Stamp} (h : a.seconds = b.seconds) : a = b := by
  cases a; cases b; simp_all

theorem lt_iff (a b : Stamp) : a < b ↔ a.seconds < b.seconds := Iff.rfl

theorem seconds_plus (s : Stamp) (n : Nat) :
    (s.plus n).seconds = min (s.seconds + n) greatest.seconds := by
  have := s.least_le
  have := s.lt_end
  simp only [plus, clamp, greatest]
  split
  · omega
  · split <;> simp only <;> omega

theorem ofInt?_seconds (s : Stamp) : ofInt? s.seconds = some s := by
  simp [ofInt?, s.least_le, s.lt_end]

end Stamp

end TokenGate

/-!
## The two clocks

The wall clock and the clock of instants move together. They are tied by the Unix second that the
wall clock showed at the start.
-/

namespace TokenGate.Clock

/-- Nanoseconds of the Unix clock. -/
def wallNanos (epoch : Stamp) (now : Instant) : Int :=
  epoch.seconds * Span.nanosPerSecond + now.nanos

/-- The second that the wall clock shows. -/
def wallStamp (epoch : Stamp) (now : Instant) : Stamp :=
  .clamp (wallNanos epoch now / Span.nanosPerSecond)

end TokenGate.Clock
