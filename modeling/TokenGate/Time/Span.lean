/-!
# Spans of time

A span is a number of nanoseconds that fits 64 bits of whole seconds. Arithmetic that would leave
that range stops at its end.
-/

namespace TokenGate

/-- A span is never negative. -/
structure Span where
  nanos : Nat
  nanos_lt : nanos < 18446744073709551616 * 1000000000
  deriving DecidableEq

namespace Span

def nanosPerSecond : Nat := 1000000000

def nanosPerMilli : Nat := 1000000

def longest : Span := ⟨18446744073709551616 * 1000000000 - 1, by omega⟩

/-- The span of so many nanoseconds, or the longest one. -/
def ofNanos (n : Nat) : Span :=
  if h : n < 18446744073709551616 * 1000000000 then ⟨n, h⟩ else longest

def ofMillis (n : Nat) : Span := ofNanos (n * nanosPerMilli)

def ofSeconds (n : Nat) : Span := ofNanos (n * nanosPerSecond)

def zero : Span := ⟨0, by omega⟩

def seconds (s : Span) : Nat := s.nanos / nanosPerSecond

def rest (s : Span) : Nat := s.nanos % nanosPerSecond

def plus (a b : Span) : Span := ofNanos (a.nanos + b.nanos)

def times (s : Span) (k : Nat) : Span := ofNanos (s.nanos * k)

instance : LE Span := ⟨fun a b => a.nanos ≤ b.nanos⟩
instance : LT Span := ⟨fun a b => a.nanos < b.nanos⟩
instance (a b : Span) : Decidable (a ≤ b) := inferInstanceAs (Decidable (a.nanos ≤ b.nanos))
instance (a b : Span) : Decidable (a < b) := inferInstanceAs (Decidable (a.nanos < b.nanos))
instance : Min Span := ⟨fun a b => if a ≤ b then a else b⟩
instance : Max Span := ⟨fun a b => if a ≤ b then b else a⟩
instance : Inhabited Span := ⟨zero⟩

theorem ext {a b : Span} (h : a.nanos = b.nanos) : a = b := by
  cases a; cases b; simp_all

theorem nanos_ofNanos (n : Nat) : (ofNanos n).nanos = min n longest.nanos := by
  have := longest.nanos_lt
  simp only [ofNanos]
  split <;> simp only [longest] <;> omega

theorem nanos_ofSeconds {n : Nat} (h : n < Nat.pow 2 64) : (ofSeconds n).nanos = n * nanosPerSecond := by
  have : n < 18446744073709551616 := h
  rw [ofSeconds, nanos_ofNanos]
  simp only [longest, nanosPerSecond]
  omega

theorem nanos_times (s : Span) (k : Nat) : (s.times k).nanos = min (s.nanos * k) longest.nanos :=
  nanos_ofNanos _

theorem nanos_min (a b : Span) : (min a b).nanos = min a.nanos b.nanos := by
  by_cases h : a.nanos ≤ b.nanos
  · rw [show min a b = a from if_pos h, Nat.min_eq_left h]
  · rw [show min a b = b from if_neg h, Nat.min_eq_right (by omega)]

theorem nanos_max (a b : Span) : (max a b).nanos = max a.nanos b.nanos := by
  by_cases h : a.nanos ≤ b.nanos
  · rw [show max a b = b from if_pos h, Nat.max_eq_right h]
  · rw [show max a b = a from if_neg h, Nat.max_eq_left (by omega)]

theorem le_longest (s : Span) : s.nanos ≤ longest.nanos := by
  have := s.nanos_lt
  simp only [longest]; omega

end Span

end TokenGate
