import TokenGate.Proofs.Retry
import TokenGate.Proofs.Storing

/-!
# Which failures are tried again

A refresh asks again when no answer came, or when the server was overloaded or at fault, as long as the
policy grants another attempt. Any other answer ends it. That includes a success whose body breaks off: it
counts as a document that cannot be read, although only the connection was lost.
-/

namespace TokenGate

namespace Http.Exchange

/-- No answer came, or the server was overloaded or at fault. -/
def IsTransient (x : Exchange) : Prop :=
  match x.result with
  | .error _ => True
  | .ok answer => answer.status = 429 ∨ 500 ≤ answer.status ∧ answer.status < 600

instance (x : Exchange) : Decidable x.IsTransient :=
  match x with
  | ⟨.error _, _, _⟩ => isTrue trivial
  | ⟨.ok answer, _, _⟩ =>
    inferInstanceAs (Decidable (answer.status = 429 ∨ 500 ≤ answer.status ∧ answer.status < 600))

/-- The connection was lost while the body of a success was read. -/
def IsCutShort (x : Exchange) : Prop :=
  ∃ answer, x.result = .ok answer ∧ Status.isSuccess answer.status ∧ answer.body = none

/-- What an attempt comes to, by the answer that came. -/
inductive ComesTo (x : Exchange) (epoch : Stamp) : Except FetchFault Fetched → Prop
  | unanswered (reason : NoAnswer) (h : x.result = .error reason) :
    ComesTo x epoch (.error (.transport reason.message))
  | refused (answer : Answer) (h : x.result = .ok answer) (status : ¬ Status.isSuccess answer.status) :
    ComesTo x epoch (.error (.status answer.status))
  | unreadable (answer : Answer) (h : x.result = .ok answer) (status : Status.isSuccess answer.status)
    (body : ∀ text, answer.body = some text → KeyDocument.keys? text = none) :
    ComesTo x epoch (.error (.document Answer.unreadable))
  | brings (fetched : Fetched) (h : x.Brings epoch fetched) : ComesTo x epoch (.ok fetched)

variable {x : Exchange} {epoch : Stamp}

theorem comesTo_ofExchange (x : Exchange) (epoch : Stamp) :
    x.ComesTo epoch (Fetched.ofExchange epoch x) := by
  cases result : x.result with
  | error reason =>
    unfold Fetched.ofExchange
    rw [result]
    exact .unanswered reason result
  | ok answer =>
    by_cases status : Status.isSuccess answer.status
    · cases read : answer.body.bind KeyDocument.keys? with
      | none =>
        have unread : Fetched.ofExchange epoch x = .error (.document Answer.unreadable) := by
          simp [Fetched.ofExchange, Fetched.ofAnswer, result, status, read]
        rw [unread]
        refine .unreadable answer result status fun text body => ?_
        rwa [body, Option.bind_some] at read
      | some keys =>
        have ok : Fetched.ofExchange epoch x =
            .ok ⟨keys, Freshness.hint? answer.fields (Clock.wallNanos epoch x.ended)⟩ := by
          simp [Fetched.ofExchange, Fetched.ofAnswer, result, status, read]
        rw [ok]
        exact .brings _ (Fetched.ofExchange_eq_ok_iff.1 ok)
    · have refused : Fetched.ofExchange epoch x = .error (.status answer.status) := by
        simp [Fetched.ofExchange, Fetched.ofAnswer, result, status]
      rw [refused]
      exact .refused answer result status

theorem not_isTransient_of_isSuccess {answer : Answer} (h : x.result = .ok answer)
    (status : Status.isSuccess answer.status) : ¬ x.IsTransient := by
  simp only [Status.isSuccess, Bool.and_eq_true, decide_eq_true_eq] at status
  unfold IsTransient
  simp only [h]
  omega

theorem not_isTransient_of_brings {fetched : Fetched} (h : x.Brings epoch fetched) : ¬ x.IsTransient := by
  obtain ⟨answer, text, entries, result, least, most, -⟩ := h
  exact not_isTransient_of_isSuccess result (by simp [Status.isSuccess, least, most])

theorem not_isTransient_of_isCutShort (h : x.IsCutShort) : ¬ x.IsTransient := by
  obtain ⟨answer, result, status, -⟩ := h
  exact not_isTransient_of_isSuccess result status

theorem passing_iff_isTransient :
    RetryPolicy.Passing FetchFault.mayPass (Fetched.ofExchange epoch x) ↔ x.IsTransient := by
  have comes := x.comesTo_ofExchange epoch
  generalize Fetched.ofExchange epoch x = result at comes ⊢
  cases comes with
  | unanswered reason h => simp [IsTransient, h, RetryPolicy.Passing, FetchFault.mayPass]
  | refused answer h status => simp [IsTransient, h, RetryPolicy.Passing, FetchFault.mayPass]
  | unreadable answer h status body =>
    simp [RetryPolicy.Passing, FetchFault.mayPass, not_isTransient_of_isSuccess h status]
  | brings fetched h => simp [RetryPolicy.Passing, not_isTransient_of_brings h]

theorem ofExchange_of_isCutShort (h : x.IsCutShort) :
    Fetched.ofExchange epoch x = .error (.document Answer.unreadable) := by
  obtain ⟨answer, result, status, cut⟩ := h
  simp [Fetched.ofExchange, Fetched.ofAnswer, result, status, cut]

end Http.Exchange

namespace Fetched

variable (s : FetchSettings) (epoch : Stamp) (uri : String) (n : Http.Network) (now : Instant)

/-- Where and when the attempts of a refresh are made, if each of them is followed by another. -/
def begun (j : Nat) : Http.Network × Instant := s.retry.begun (attempt s epoch uri) n now j

/-- The exchange of an attempt, counted from zero. -/
def exchange (j : Nat) : Http.Exchange :=
  Http.Exchange.run s.timeout (begun s epoch uri n now j).1 (begun s epoch uri n now j).2 uri

/-- What an attempt asks over the network. -/
def askedAt (j : Nat) : List String :=
  asked s uri (begun s epoch uri n now j).1 (begun s epoch uri n now j).2

theorem made_attempt (j : Nat) :
    s.retry.made (attempt s epoch uri) n now j =
      ⟨ofExchange epoch (exchange s epoch uri n now j), (exchange s epoch uri n now j).doneAt Http.Status.isSuccess,
        (exchange s epoch uri n now j).network⟩ := rfl

/-- The attempts that no other one follows. -/
def endings : Set Nat :=
  {j | j + 1 = max 1 s.retry.maxAttempts ∨ ¬ (exchange s epoch uri n now j).IsTransient}

theorem endings_eq :
    endings s epoch uri n now = RetryPolicy.endings FetchFault.mayPass
      (fun j => (s.retry.made (attempt s epoch uri) n now j).result) (max 1 s.retry.maxAttempts - 1) := by
  ext j
  have budget : j + 1 = max 1 s.retry.maxAttempts ↔ j = max 1 s.retry.maxAttempts - 1 := by omega
  unfold endings RetryPolicy.endings
  simp only [Set.mem_ofPred_eq, budget, made_attempt, Http.Exchange.passing_iff_isTransient]

variable {s epoch uri n now}

theorem run_of_isLeast {k : Nat} (h : IsLeast (endings s epoch uri n now) k) :
    run s epoch uri n now =
      ⟨ofExchange epoch (exchange s epoch uri n now k), (exchange s epoch uri n now k).doneAt Http.Status.isSuccess,
        (exchange s epoch uri n now k).network⟩ ∧
      requests s epoch uri n now = (List.range (k + 1)).flatMap (askedAt s epoch uri n now) := by
  rw [endings_eq] at h
  obtain ⟨same, tries⟩ := s.retry.run_of_isLeast (attempt s epoch uri) h
  refine ⟨same, ?_⟩
  unfold requests Fetched.tries
  rw [tries, List.flatMap_map]
  rfl

theorem isLeast_of_transient {j : Nat} (granted : j < max 1 s.retry.maxAttempts)
    (transient : ∀ i < j, (exchange s epoch uri n now i).IsTransient)
    (final : ¬ (exchange s epoch uri n now j).IsTransient) : IsLeast (endings s epoch uri n now) j := by
  rw [endings_eq]
  refine RetryPolicy.isLeast_endings_of_passing (by omega) (fun i lt => ?_) ?_
  · rw [made_attempt]
    exact Http.Exchange.passing_iff_isTransient.2 (transient i lt)
  · rw [made_attempt]
    exact mt Http.Exchange.passing_iff_isTransient.1 final

end Fetched

namespace Gate

/-- The refresh ends with the attempt number `k`, counted from zero, and with its result. -/
structure EndsWith (g : Gate) (e : Entry) (k : Nat) (result : Except FetchFault Fetched) : Prop where
  comesTo : (Fetched.exchange g.settings g.epoch e.uri g.network g.now k).ComesTo g.epoch result
  events : (g.refresh e).2.events = g.events ++
    [.refreshed ⟨e.uri, g.now,
      (Fetched.exchange g.settings g.epoch e.uri g.network g.now k).doneAt Http.Status.isSuccess, result⟩]
  /-- All attempts so far have asked for the endpoint, and none after them. -/
  log : (g.refresh e).2.network.log = g.network.log ++
    (List.range (k + 1)).flatMap (Fetched.askedAt g.settings g.epoch e.uri g.network g.now)

theorem endsWith_of_isLeast {g : Gate} {e : Entry} {k : Nat}
    (h : IsLeast (Fetched.endings g.settings g.epoch e.uri g.network g.now) k) :
    g.EndsWith e k (Fetched.ofExchange g.epoch
      (Fetched.exchange g.settings g.epoch e.uri g.network g.now k)) := by
  obtain ⟨same, requests⟩ := Fetched.run_of_isLeast h
  refine ⟨Http.Exchange.comesTo_ofExchange .., ?_, ?_⟩
  · unfold refresh
    rw [same]
    rfl
  · rw [← requests]
    exact Fetched.log_run ..

/-- A refresh tries again as long as it may hope and is granted another attempt. So keys that come within the
budget, after nothing but passing failures, are fetched and stored. A body that breaks off is the end,
whatever would have come next. -/
theorem refresh_tries_again (g : Gate) (e : Entry) :
    let x := Fetched.exchange g.settings g.epoch e.uri g.network g.now
    let budget := max 1 g.settings.retry.maxAttempts
    (∃ k result, IsLeast {j | j + 1 = budget ∨ ¬ (x j).IsTransient} k ∧ g.EndsWith e k result) ∧
    (∀ j fetched, j < budget → (∀ i < j, (x i).IsTransient) → (x j).Brings g.epoch fetched →
      g.EndsWith e j (.ok fetched) ∧
      (g.lookup? e.uri = some e → ∃ e', (g.refresh e).2.lookup? e.uri = some e' ∧
        e'.held = some (e.fetchedKeys fetched))) ∧
    ∀ j, j < budget → (∀ i < j, (x i).IsTransient) → (x j).IsCutShort →
      g.EndsWith e j (.error (.document Http.Answer.unreadable)) := by
  intro x budget
  refine ⟨?_, fun j fetched granted transient brings => ?_, fun j granted transient cut => ?_⟩
  · have some : ∃ k, IsLeast (Fetched.endings g.settings g.epoch e.uri g.network g.now) k := by
      rw [Fetched.endings_eq]
      exact RetryPolicy.exists_isLeast_endings ..
    obtain ⟨k, least⟩ := some
    exact ⟨k, _, least, endsWith_of_isLeast least⟩
  · have least := Fetched.isLeast_of_transient granted transient
      (Http.Exchange.not_isTransient_of_brings brings)
    have ok := Fetched.ofExchange_eq_ok_iff.2 brings
    have ends := endsWith_of_isLeast least
    rw [ok] at ends
    refine ⟨ends, fun found => ?_⟩
    have fetches := congrArg RetryPolicy.Run.result (Fetched.run_of_isLeast least).1
    obtain ⟨e', there, stores⟩ := stores_refresh found (fetches.trans ok)
    exact ⟨e', there, stores.held⟩
  · have ends := endsWith_of_isLeast (Fetched.isLeast_of_transient granted transient
      (Http.Exchange.not_isTransient_of_isCutShort cut))
    rwa [Http.Exchange.ofExchange_of_isCutShort cut] at ends

/-! ## A server with troubles -/

/-- A new endpoint, whose server has troubles before it gives its one key. -/
def troubled (troubles : List Http.Reply) : Gate :=
  let document := "\x7b\"keys\":[\x7b\"kty\":\"OKP\",\"crv\":\"Ed25519\",\"kid\":\"a\",\"x\":\"\"\x7d]\x7d"
  let replies := troubles ++ [⟨200, [], document, .zero, false, false⟩]
  (new default .zero (.ofScripts true [("http://k/", replies)])).register "http://k/" (.ofSeconds 60)

def troubledEntry : Entry := .new "http://k/" (.ofSeconds 60)

/-- The server is overloaded, then closes the connection, then answers. -/
def overloaded : Gate := troubled [⟨429, [], "", .zero, false, false⟩, ⟨200, [], "", .zero, true, false⟩]

/-- The body of the first answer breaks off. -/
def interrupted : Gate := troubled [⟨200, [], "\x7b\"keys\":[]\x7d", .zero, false, true⟩]

theorem keys_after_overload :
    overloaded.EndsWith troubledEntry 2 (.ok Config.oneKey) ∧
    ∃ e', (overloaded.refresh troubledEntry).2.lookup? "http://k/" = some e' ∧
      e'.held = some (troubledEntry.fetchedKeys Config.oneKey) := by
  obtain ⟨ends, stored⟩ := (refresh_tries_again overloaded troubledEntry).2.1 2 Config.oneKey (by decide)
    (by decide +kernel) (Fetched.ofExchange_eq_ok_iff.1 (by decide +kernel))
  exact ⟨ends, stored (by decide +kernel)⟩

/-- A lost connection is not always tried again. When it is lost within the body of a success, no further
attempt is made, although two more are granted and the next one would bring the key. -/
theorem keys_missed_after_interruption :
    let g := interrupted
    let x := Fetched.exchange g.settings g.epoch "http://k/" g.network g.now
    ((x 0).IsCutShort ∧ (x 1).Brings g.epoch Config.oneKey ∧ max 1 g.settings.retry.maxAttempts = 3) ∧
    (g.get "http://k/").answer =
      .error (.keysUnavailable "invalid JWKS document: error decoding response body") ∧
    (g.get "http://k/").gate.network.log = ["http://k/"] := by
  refine ⟨⟨⟨⟨200, [], none, .zero⟩, ?_, ?_, ?_⟩, Fetched.ofExchange_eq_ok_iff.1 ?_, ?_⟩, ?_, ?_⟩ <;>
    decide +kernel

end Gate

end TokenGate
