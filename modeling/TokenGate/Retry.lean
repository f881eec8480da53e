import TokenGate.Time.Instant

/-!
# Retries with growing pauses

A failed attempt is repeated while the failure may pass and the budget lasts. The pause doubles with
each failure, up to a limit.
-/

namespace TokenGate

/-- How often to try, and how long to wait in between. -/
structure RetryPolicy where
  /-- All attempts, the first included. Zero counts as one. -/
  maxAttempts : Nat
  firstPause : Span
  longestPause : Span
  deriving DecidableEq

namespace RetryPolicy

instance : Inhabited RetryPolicy := ⟨3, .ofMillis 250, .ofMillis 2000⟩

/-- No second attempt, whatever happens. -/
def once : RetryPolicy := ⟨1, .zero, .zero⟩

/-- More doublings would leave the range of 32 bits. -/
def maxDoublings : Nat := 31

/-- The pause after the `failures`-th failure in a row, counted from one. -/
def pause (p : RetryPolicy) (failures : Nat) : Span :=
  min (p.firstPause.times (Nat.pow 2 (min (failures - 1) maxDoublings))) p.longestPause

/-- What a series of attempts came to: the last result, when it was there, and what is left of the
world that the attempts were made in. -/
structure Run (ε α σ : Type) where
  result : Except ε α
  ended : Instant
  state : σ

variable {ε α σ : Type}

theorem Run.exists_eq (r : Run ε α σ) : ∃ result ended state, r = ⟨result, ended, state⟩ :=
  ⟨_, _, _, rfl⟩

/-- Attempts until one succeeds or fails for good. `spare` more attempts may follow the next one. -/
def attempts (p : RetryPolicy) (mayPass : ε → Bool) (attempt : σ → Instant → Run ε α σ) :
    (spare failures : Nat) → σ → Instant → Run ε α σ
  | 0, _, s, now => attempt s now
  | spare + 1, failures, s, now =>
    match attempt s now with
    | ⟨.ok a, ended, s⟩ => ⟨.ok a, ended, s⟩
    | ⟨.error e, ended, s⟩ =>
      if mayPass e then
        attempts p mayPass attempt spare (failures + 1) s (ended.wake (p.pause failures))
      else ⟨.error e, ended, s⟩

/-- All attempts that the policy grants. There is always a first one. -/
def run (p : RetryPolicy) (mayPass : ε → Bool) (attempt : σ → Instant → Run ε α σ) (s : σ)
    (now : Instant) : Run ε α σ :=
  attempts p mayPass attempt (max 1 p.maxAttempts - 1) 1 s now

end RetryPolicy

end TokenGate
