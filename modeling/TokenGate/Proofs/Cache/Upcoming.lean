import TokenGate.Proofs.Cache.Requests
import TokenGate.Proofs.Http.Upcoming

/-!
# Refreshes that do not meddle with each other

What a refresh comes to depends on the replies of the addresses that it asks, and on no other ones.
-/

namespace TokenGate

namespace RetryPolicy

variable {ε α σ : Type} (p : RetryPolicy) (mayPass : ε → Bool) (attempt : σ → Instant → Run ε α σ)

theorem state_attempts {R : σ → σ → Prop} (trans : ∀ {a b c}, R a b → R b c → R a c)
    (h : ∀ s now, R s (attempt s now).state) (spare failures : Nat) (s : σ) (now : Instant) :
    R s (attempts p mayPass attempt spare failures s now).state := by
  induction spare generalizing failures s now with
  | zero => exact h s now
  | succ spare ih =>
    have first := h s now
    obtain ⟨result, ended, s', ran⟩ := (attempt s now).exists_eq
    rw [ran] at first
    cases result with
    | ok a => simpa only [attempts, ran] using first
    | error e =>
      simp only [attempts, ran]
      split
      · exact trans first (ih ..)
      · exact first

/-- The same result at the same time, in states that are related. -/
structure Run.Agree (R : σ → σ → Prop) (r r' : Run ε α σ) : Prop where
  result : r'.result = r.result
  ended : r'.ended = r.ended
  state : R r.state r'.state

theorem agree_attempts {R : σ → σ → Prop} (fair : σ → Instant → Prop)
    (h : ∀ {s s' now}, R s s' → fair s now → Run.Agree R (attempt s now) (attempt s' now))
    {spare failures : Nat} {s s' : σ} {now : Instant} (related : R s s')
    (all : ∀ t ∈ triesFrom p mayPass attempt spare failures s now, fair t.1 t.2) :
    Run.Agree R (attempts p mayPass attempt spare failures s now)
      (attempts p mayPass attempt spare failures s' now) := by
  induction spare generalizing failures s s' now with
  | zero => exact h related (all (s, now) (by simp [triesFrom]))
  | succ spare ih =>
    have first := h related (all (s, now) (by simp [triesFrom]))
    obtain ⟨result, ended, after, ran⟩ := (attempt s now).exists_eq
    obtain ⟨result', ended', after', ran'⟩ := (attempt s' now).exists_eq
    rw [ran, ran'] at first
    obtain ⟨rfl, rfl, state⟩ := first
    cases result' with
    | ok a =>
      simp only [attempts, ran, ran']
      exact ⟨rfl, rfl, state⟩
    | error e =>
      simp only [attempts, ran, ran']
      split
      · rename_i again
        refine ih state fun t there => all t ?_
        simp only [triesFrom, ran, again, if_true]
        exact List.mem_cons_of_mem _ there
      · exact ⟨rfl, rfl, state⟩

end RetryPolicy

namespace Fetched

variable {s : FetchSettings} {epoch : Stamp} {uri : String} {n n' : Http.Network} {now : Instant}
  {among : String → Prop}

/-- A refresh takes the next replies of the addresses that it asks. -/
theorem advances_run (s : FetchSettings) (epoch : Stamp) (uri : String) (n : Http.Network)
    (now : Instant) : n.Advances (run s epoch uri n now).state :=
  s.retry.state_attempts FetchFault.mayPass (attempt s epoch uri) (R := Http.Network.Advances) .trans
    (fun n now => Http.Exchange.advances_run s.timeout n now uri) ..

theorem upcoming_run (s : FetchSettings) (epoch : Stamp) (uri : String) (n : Http.Network)
    (now : Instant) (url : String) (k : Nat) : (run s epoch uri n now).state.upcoming url k =
      n.upcoming url (k + (requests s epoch uri n now).count url) := by
  obtain ⟨urls, log, replies⟩ := (advances_run s epoch uri n now).replies
  rw [log_run] at log
  rw [List.append_cancel_left log]
  exact replies url k

theorem agree_run (h : Http.Network.Agree among n n')
    (asks : ∀ url ∈ requests s epoch uri n now, among url) :
    (run s epoch uri n now).Agree (Http.Network.Agree among) (run s epoch uri n' now) := by
  refine s.retry.agree_attempts FetchFault.mayPass (attempt s epoch uri)
    (fun n now => ∀ url ∈ asked s uri n now, among url) (fun {n n' now} h asks => ?_) h
    fun t there url here => asks url (List.mem_flatMap.2 ⟨t, there, here⟩)
  have answered : Http.Exchange.Agree among (.run s.timeout n now uri) (.run s.timeout n' now uri) :=
    Http.Exchange.agree_run h asks
  refine ⟨?_, answered.doneAt _, answered.network⟩
  change ofExchange epoch _ = ofExchange epoch _
  unfold ofExchange
  rw [answered.result, answered.ended]

end Fetched

end TokenGate
