import Mathlib.Algebra.Order.BigOperators.Group.List
import Mathlib.Algebra.Order.Group.Nat
import TokenGate.Cache.Fetch
import TokenGate.Proofs.Http.Places

/-!
# The requests of one refresh

A refresh makes a series of attempts, each at its own time in the network that the one before left. Each
attempt is one exchange.
-/

namespace TokenGate

namespace RetryPolicy

variable {ε α σ : Type}

/-- Where and when the attempts are made. -/
def triesFrom (p : RetryPolicy) (mayPass : ε → Bool) (attempt : σ → Instant → Run ε α σ) :
    (spare failures : Nat) → σ → Instant → List (σ × Instant)
  | 0, _, s, now => [(s, now)]
  | spare + 1, failures, s, now =>
    (s, now) :: match attempt s now with
      | ⟨.ok _, _, _⟩ => []
      | ⟨.error e, ended, s⟩ =>
        if mayPass e then
          triesFrom p mayPass attempt spare (failures + 1) s (ended.wake (p.pause failures))
        else []

def tries (p : RetryPolicy) (mayPass : ε → Bool) (attempt : σ → Instant → Run ε α σ) (s : σ)
    (now : Instant) : List (σ × Instant) :=
  triesFrom p mayPass attempt (max 1 p.maxAttempts - 1) 1 s now

variable (p : RetryPolicy) (mayPass : ε → Bool) (attempt : σ → Instant → Run ε α σ)

theorem length_triesFrom (spare failures : Nat) (s : σ) (now : Instant) :
    1 ≤ (triesFrom p mayPass attempt spare failures s now).length ∧
      (triesFrom p mayPass attempt spare failures s now).length ≤ spare + 1 := by
  induction spare generalizing failures s now with
  | zero => exact ⟨Nat.le_refl _, Nat.le_refl _⟩
  | succ spare ih =>
    unfold triesFrom
    rw [List.length_cons]
    split
    · simp
    · rename_i e ended s' _
      split
      · have rest := ih (failures + 1) s' (ended.wake (p.pause failures))
        omega
      · simp

theorem length_tries (s : σ) (now : Instant) :
    1 ≤ (p.tries mayPass attempt s now).length ∧
      (p.tries mayPass attempt s now).length ≤ max 1 p.maxAttempts := by
  have bounds := length_triesFrom p mayPass attempt (max 1 p.maxAttempts - 1) 1 s now
  unfold tries
  omega

theorem written_attempts {β : Type} (log : σ → List β) (written : σ → Instant → List β)
    (h : ∀ s now, log (attempt s now).state = log s ++ written s now)
    (spare failures : Nat) (s : σ) (now : Instant) :
    log (attempts p mayPass attempt spare failures s now).state =
      log s ++ (triesFrom p mayPass attempt spare failures s now).flatMap fun (s, t) => written s t := by
  induction spare generalizing failures s now with
  | zero => simp [attempts, triesFrom, h]
  | succ spare ih =>
    have first := h s now
    obtain ⟨result, ended, s', ran⟩ := (attempt s now).exists_eq
    rw [ran] at first
    cases result with
    | ok a => simpa [attempts, triesFrom, ran] using first
    | error e =>
      simp only [attempts, triesFrom, ran]
      split
      · rw [ih, first, List.flatMap_cons, List.append_assoc]
      · simpa using first

theorem le_ended_attempts (h : ∀ s now, now ≤ (attempt s now).ended) (spare failures : Nat) (s : σ)
    (now : Instant) : now ≤ (attempts p mayPass attempt spare failures s now).ended := by
  induction spare generalizing failures s now with
  | zero => exact h s now
  | succ spare ih =>
    have first := h s now
    obtain ⟨result, ended, s', ran⟩ := (attempt s now).exists_eq
    rw [ran] at first
    cases result with
    | ok a => simpa only [attempts, ran] using first
    | error e =>
      simp only [attempts, ran]
      split
      · have woken := ended.le_wake (p.pause failures)
        have rest := ih (failures + 1) s' (ended.wake (p.pause failures))
        simp only [Instant.le_def] at first rest ⊢
        omega
      · exact first

end RetryPolicy

namespace Fetched

variable (s : FetchSettings) (epoch : Stamp) (uri : String) (n : Http.Network) (now : Instant)

def tries : List (Http.Network × Instant) := s.retry.tries FetchFault.mayPass (attempt s epoch uri) n now

def asked : List String := Http.Exchange.sent n (Http.Exchange.places s.timeout n now uri)

def requests : List String := (tries s epoch uri n now).flatMap fun (n, t) => asked s uri n t

theorem log_run : (run s epoch uri n now).state.log = n.log ++ requests s epoch uri n now :=
  RetryPolicy.written_attempts s.retry FetchFault.mayPass (attempt s epoch uri) Http.Network.log
    (asked s uri) (fun n now => Http.Exchange.log_run s.timeout n now uri) ..

theorem le_ended_run : now ≤ (run s epoch uri n now).ended :=
  RetryPolicy.le_ended_attempts s.retry FetchFault.mayPass (attempt s epoch uri)
    (fun n now => Http.Exchange.le_doneAt_run s.timeout n now uri _) ..

end Fetched

/-- What may be asked over the network: the keys of an endpoint, in one refresh, or a discovery
document. -/
inductive Trip
  | refresh (uri : String) (n : Http.Network) (started : Instant)
  | discovery (timeout : Span) (url : String) (n : Http.Network) (started : Instant)

namespace Trip

def requests (s : FetchSettings) (epoch : Stamp) : Trip → List String
  | refresh uri n started => Fetched.requests s epoch uri n started
  | discovery timeout url n started =>
    Http.Exchange.sent n (Http.Exchange.places timeout n started url)

def start? (uri : String) : Trip → Option Instant
  | refresh uri' _ started => if uri' = uri then some started else none
  | discovery _ _ _ _ => none

end Trip

end TokenGate
