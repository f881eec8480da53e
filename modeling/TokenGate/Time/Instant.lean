import TokenGate.Time.Span

/-!
# Instants

Points on a clock that only goes forward, counted from its start. The clock can show instants whose
whole seconds fit 63 bits.
-/

namespace TokenGate

/-- Nanoseconds since the clock started. -/
structure Instant where
  nanos : Nat
  deriving DecidableEq

namespace Instant

def start : Instant := ⟨0⟩

instance : Inhabited Instant := ⟨start⟩
instance : LE Instant := ⟨fun a b => a.nanos ≤ b.nanos⟩
instance : LT Instant := ⟨fun a b => a.nanos < b.nanos⟩
instance (a b : Instant) : Decidable (a ≤ b) := inferInstanceAs (Decidable (a.nanos ≤ b.nanos))
instance (a b : Instant) : Decidable (a < b) := inferInstanceAs (Decidable (a.nanos < b.nanos))

/-- May lie beyond what the clock can show. -/
def plus (t : Instant) (s : Span) : Instant := ⟨t.nanos + s.nanos⟩

/-- The instant `s` later, if the clock can show it. -/
def plus? (t : Instant) (s : Span) : Option Instant :=
  if (t.plus s).nanos / Span.nanosPerSecond < Nat.pow 2 63 then some (t.plus s) else none

/-- Zero if `earlier` is in fact the later one. -/
def since (t earlier : Instant) : Span := .ofNanos (t.nanos - earlier.nanos)

/-- The first whole millisecond that is not before `t`. Timers go off at whole milliseconds. -/
def ceilMilli (t : Instant) : Instant :=
  ⟨(t.nanos + (Span.nanosPerMilli - 1)) / Span.nanosPerMilli * Span.nanosPerMilli⟩

/-- When a timer of this length goes off. -/
def wake (t : Instant) (s : Span) : Instant := (t.plus s).ceilMilli

def millis (t : Instant) : Nat := t.nanos / Span.nanosPerMilli

theorem ext {a b : Instant} (h : a.nanos = b.nanos) : a = b := by
  cases a; cases b; simp_all

theorem le_def (a b : Instant) : a ≤ b ↔ a.nanos ≤ b.nanos := Iff.rfl

theorem lt_def (a b : Instant) : a < b ↔ a.nanos < b.nanos := Iff.rfl

theorem le_ceilMilli (t : Instant) : t ≤ t.ceilMilli := by
  simp only [le_def, ceilMilli, Span.nanosPerMilli]; omega

theorem ceilMilli_lt (t : Instant) : t.ceilMilli.nanos < t.nanos + Span.nanosPerMilli := by
  simp only [ceilMilli, Span.nanosPerMilli]; omega

theorem le_wake (t : Instant) (s : Span) : t.nanos + s.nanos ≤ (t.wake s).nanos :=
  le_ceilMilli (t.plus s)

end Instant

end TokenGate
