import Mathlib.Algebra.GroupWithZero.Nat
import TokenGate.Proofs.Cache.Requests

/-!
# How long a refresh takes

A refresh takes as long as its attempts, and the pauses between them. Each pause may be a millisecond
longer than asked for, since timers go off at whole milliseconds.
-/

namespace TokenGate

namespace RetryPolicy

variable {ε α σ : Type} (p : RetryPolicy) (mayPass : ε → Bool) (attempt : σ → Instant → Run ε α σ)

/-- The longest that so many pauses in a row may take, in nanoseconds. -/
def pausesFrom : (count failures : Nat) → Nat
  | 0, _ => 0
  | count + 1, failures =>
    (p.pause failures).nanos + Span.nanosPerMilli + pausesFrom count (failures + 1)

/-- How long an attempt takes, in nanoseconds. -/
def took (t : σ × Instant) : Nat := (attempt t.1 t.2).ended.nanos - t.2.nanos

theorem wake_le (t : Instant) (s : Span) :
    (t.wake s).nanos ≤ t.nanos + s.nanos + Span.nanosPerMilli :=
  Nat.le_of_lt (Instant.ceilMilli_lt (t.plus s))

theorem ended_attempts_le (spare failures : Nat) (s : σ) (now : Instant) :
    (attempts p mayPass attempt spare failures s now).ended.nanos ≤ now.nanos +
      ((triesFrom p mayPass attempt spare failures s now).map (took attempt)).sum +
      p.pausesFrom ((triesFrom p mayPass attempt spare failures s now).length - 1) failures := by
  induction spare generalizing failures s now with
  | zero =>
    simp only [attempts, triesFrom, took, List.map_cons, List.map_nil, List.sum_cons, List.sum_nil]
    omega
  | succ spare ih =>
    obtain ⟨result, ended, s', ran⟩ := (attempt s now).exists_eq
    have first : took attempt (s, now) = ended.nanos - now.nanos := by simp [took, ran]
    cases result with
    | ok a =>
      simp only [attempts, triesFrom, ran, List.map_cons, List.map_nil, List.sum_cons, List.sum_nil, first]
      omega
    | error e =>
      simp only [attempts, triesFrom, ran]
      by_cases again : mayPass e
      · simp only [again, if_true, List.map_cons, List.sum_cons, List.length_cons, first]
        have rest := ih (failures + 1) s' (ended.wake (p.pause failures))
        have some := (length_triesFrom p mayPass attempt spare (failures + 1) s'
          (ended.wake (p.pause failures))).1
        have woken := wake_le ended (p.pause failures)
        generalize triesFrom p mayPass attempt spare (failures + 1) s' (ended.wake (p.pause failures)) = ts
          at rest some ⊢
        -- The rest has an attempt, so the pause after this failure counts.
        obtain ⟨count, length⟩ : ∃ count, ts.length = count + 1 := ⟨ts.length - 1, by omega⟩
        rw [length] at rest ⊢
        simp only [Nat.add_sub_cancel, pausesFrom] at rest ⊢
        omega
      · simp only [again, Bool.false_eq_true, if_false, List.map_cons, List.map_nil, List.sum_cons,
          List.sum_nil, first]
        omega

end RetryPolicy

namespace Fetched

variable (s : FetchSettings) (epoch : Stamp) (uri : String) (n : Http.Network) (now : Instant)

/-- How long each attempt of a refresh takes, in nanoseconds. -/
def durations : List Nat :=
  (tries s epoch uri n now).map fun (n, t) => (attempt s epoch uri n t).ended.nanos - t.nanos

theorem duration_le {d : Nat} (h : d ∈ durations s epoch uri n now) : d ≤ s.timeout.nanos := by
  obtain ⟨⟨n', t⟩, -, rfl⟩ := List.mem_map.1 h
  have ended : (attempt s epoch uri n' t).ended.nanos ≤ t.nanos + s.timeout.nanos :=
    Http.Exchange.doneAt_run_le ..
  simp only
  omega

theorem length_durations :
    1 ≤ (durations s epoch uri n now).length ∧
      (durations s epoch uri n now).length ≤ max 1 s.retry.maxAttempts := by
  rw [durations, List.length_map]
  exact s.retry.length_tries ..

theorem sum_durations_le :
    (durations s epoch uri n now).sum ≤ (durations s epoch uri n now).length * s.timeout.nanos := by
  simpa using List.sum_le_card_nsmul _ _ fun d h => duration_le s epoch uri n now h

theorem ended_run_le_durations :
    (run s epoch uri n now).ended.nanos ≤ now.nanos + (durations s epoch uri n now).sum +
      s.retry.pausesFrom ((durations s epoch uri n now).length - 1) 1 := by
  rw [durations, List.length_map]
  exact RetryPolicy.ended_attempts_le ..

/-! ## The default settings -/

theorem length_durations_default : (durations default epoch uri n now).length ≤ 3 :=
  (length_durations default epoch uri n now).2

theorem ended_run_default_le :
    (run default epoch uri n now).ended.nanos ≤ now.nanos + 30752000000 ∧
      (now.nanos + 30000000000 ≤ (run default epoch uri n now).ended.nanos →
        (durations default epoch uri n now).length = 3 ∧
          29248000000 ≤ (durations default epoch uri n now).sum) := by
  have most := ended_run_le_durations default epoch uri n now
  have each := sum_durations_le default epoch uri n now
  have few := length_durations_default epoch uri n now
  have timeout : (default : FetchSettings).timeout.nanos = 10000000000 := by decide
  have none : (default : RetryPolicy).pausesFrom 0 1 = 0 := by decide
  have one : (default : RetryPolicy).pausesFrom 1 1 = 251000000 := by decide
  have two : (default : RetryPolicy).pausesFrom 2 1 = 752000000 := by decide
  rw [timeout] at each
  change _ ≤ _ + (default : RetryPolicy).pausesFrom _ 1 at most
  generalize (durations default epoch uri n now).length = count at most each few ⊢
  obtain rfl | rfl | rfl | rfl : count = 0 ∨ count = 1 ∨ count = 2 ∨ count = 3 := by omega
  all_goals
    simp only [Nat.zero_sub, Nat.sub_self, Nat.reduceSub, none, one, two] at most
    omega

end Fetched

end TokenGate
