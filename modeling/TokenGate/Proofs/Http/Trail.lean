import TokenGate.Proofs.Http.Upcoming

/-!
# The trail of an exchange

Where an exchange goes, how long that takes and what it is answered in the end follow from the replies
that the servers have yet to give: each place that is asked takes the next reply of its address.
-/

namespace TokenGate.Http

namespace Network

variable {n n' : Network} {timeout : Span} {first u last : Url} {asked : List Url} {waited : Nat} {a : Answer}

/-- The reply of a place, once these have been asked. -/
def replyAfter (n : Network) (asked : List Url) (u : Url) : Reply :=
  n.upcoming u.target ((asked.map Url.target).count u.target)

def delayAfter (n : Network) (asked : List Url) (u : Url) : Nat := (n.replyAfter asked u).delay.head.nanos

/-- The place can be asked, and what it replies is an answer. -/
structure Serves (n : Network) (asked : List Url) (u : Url) (a : Answer) : Prop where
  web : Exchange.isWeb u
  reachable : n.reachable
  whole : (n.replyAfter asked u).closes = false
  valid : Status.isValid (n.replyAfter asked u).status
  answer : a = .ofReply (n.replyAfter asked u)

/-- Redirects lead from the first place, by way of those that have been asked, to one more place. -/
inductive Led (n : Network) (first : Url) : List Url → Nat → Url → Prop
  | start : Led n first [] 0 first
  | redirected {asked : List Url} {waited : Nat} {u place : Url} {a : Answer}
      (led : Led n first asked waited u) (serves : n.Serves asked u a)
      (redirect : a.redirect? n.names u = some place) :
      Led n first (asked ++ [u]) (waited + n.delayAfter asked u) place

/-- The last place answers, with no further redirect, before the time is up. -/
structure AnswersAt (n : Network) (timeout : Span) (first : Url) (asked : List Url) (waited : Nat)
    (last : Url) (a : Answer) : Prop where
  led : n.Led first asked waited last
  few : asked.length ≤ Exchange.maxRedirects
  serves : n.Serves asked last a
  final : a.redirect? n.names last = none
  timely : waited + n.delayAfter asked last < timeout.nanos

/-- The time that is left for the body of an answer. -/
def leftAfter (n : Network) (timeout : Span) (asked : List Url) (waited : Nat) (last : Url) : Span :=
  .ofNanos (timeout.nanos - (waited + n.delayAfter asked last))

/-- A URL is answered at the end of its trail, with what of the body is there in time. -/
def Answers (n : Network) (timeout : Span) (url : String) (a : Answer) : Prop :=
  ∃ first asked waited last head, Url.ofText? n.names url = some first ∧
    n.AnswersAt timeout first asked waited last head ∧
    a = head.within (n.leftAfter timeout asked waited last)

/-- There is nowhere to go on to from here. -/
structure EndsAt (n : Network) (timeout : Span) (first : Url) (asked : List Url) (waited : Nat)
    (last : Url) : Prop where
  led : n.Led first asked waited last
  few : asked.length ≤ Exchange.maxRedirects
  timely : asked ≠ [] → waited < timeout.nanos
  ends : asked.length = Exchange.maxRedirects ∨ timeout.nanos ≤ waited + n.delayAfter asked last ∨
    ∀ a, n.Serves asked last a → a.redirect? n.names last = none

/-- The requests of a trail: for all its places, but for a last one that cannot be asked. -/
def requested (asked : List Url) (last : Url) : List String :=
  asked.map Url.target ++ if Exchange.isWeb last then [last.target] else []

theorem Led.web (led : n.Led first asked waited u) (serves : n.Serves asked u a) :
    Exchange.isWeb first ∧ n.reachable := by
  induction led generalizing a with
  | start => exact ⟨serves.web, serves.reachable⟩
  | redirected _ serves' _ ih => exact ih serves'

theorem exists_endsAt (n : Network) (timeout : Span) (first : Url) :
    ∃ asked waited last, n.EndsAt timeout first asked waited last := by
  -- Where a trail does not end, it is one longer, and it cannot be longer than the redirects allow.
  have longer (k : Nat) (few : k ≤ Exchange.maxRedirects) :
      (∃ asked waited last, n.EndsAt timeout first asked waited last) ∨
        ∃ asked waited last, n.Led first asked waited last ∧ asked.length = k ∧
          (asked ≠ [] → waited < timeout.nanos) := by
    induction k with
    | zero => exact .inr ⟨[], 0, first, .start, rfl, fun h => absurd rfl h⟩
    | succ k ih =>
      obtain ended | ⟨asked, waited, u, led, length, timely⟩ := ih (by omega)
      · exact .inl ended
      · by_cases ends : timeout.nanos ≤ waited + n.delayAfter asked u ∨
          ∀ a, n.Serves asked u a → a.redirect? n.names u = none
        · exact .inl ⟨asked, waited, u, led, by omega, timely, .inr ends⟩
        · simp only [not_or, Nat.not_le, Classical.not_forall] at ends
          obtain ⟨early, a, serves, redirect⟩ := ends
          obtain ⟨place, redirect⟩ := Option.ne_none_iff_exists'.1 redirect
          exact .inr ⟨_, _, place, .redirected led serves redirect, by simp [length], fun _ => early⟩
  obtain ended | ⟨asked, waited, last, led, length, timely⟩ := longer Exchange.maxRedirects (Nat.le_refl _)
  · exact ended
  · exact ⟨asked, waited, last, led, Nat.le_of_eq length, timely, .inl length⟩

theorem EndsAt.length_requested (ends : n.EndsAt timeout first asked waited last)
    (web : Exchange.isWeb first) :
    1 ≤ (requested asked last).length ∧ (requested asked last).length ≤ Exchange.maxRedirects + 1 := by
  have few := ends.few
  unfold requested
  rw [List.length_append, List.length_map]
  constructor
  · cases ends.led with
    | start => simp [web]
    | redirected =>
      rw [List.length_append, List.length_singleton]
      omega
  · split <;> simp <;> omega

/-- The requests of one exchange. A URL of the web is asked for once, and then comes one more request for each
redirect that leads to such a URL. -/
structure Asks (n : Network) (timeout : Span) (url : String) (requests : List String) : Prop where
  /-- Nothing can be asked without a network, or for anything but a URL of the web. -/
  unasked : (n.reachable = false ∨
      ∀ first, Url.ofText? n.names url = some first → Exchange.isWeb first = false) → requests = []
  asked : ∀ first, Url.ofText? n.names url = some first → Exchange.isWeb first → n.reachable →
    ∃ asked waited last, n.EndsAt timeout first asked waited last ∧ requests = requested asked last ∧
      1 ≤ requests.length ∧ requests.length ≤ Exchange.maxRedirects + 1

/-! ## Networks after requests -/

/-- What is left of a network once these places have been asked. -/
structure After (n : Network) (asked : List Url) (n' : Network) : Prop where
  reachable : n'.reachable = n.reachable
  names : n'.names = n.names
  log : n'.log = n.log ++ asked.map Url.target
  replies : ∀ url k, n'.upcoming url k = n.upcoming url (k + (asked.map Url.target).count url)

theorem After.start (n : Network) : n.After [] n := ⟨rfl, rfl, by simp, by simp⟩

theorem After.ask (after : n.After asked n') (u : Url) : n.After (asked ++ [u]) (n'.ask u.target).2 where
  reachable := (Exchange.reachable_ask ..).trans after.reachable
  names := (Exchange.names_ask ..).trans after.names
  log := by rw [Exchange.log_ask, after.log, List.map_append, List.append_assoc]; rfl
  replies url k := by
    rw [upcoming_ask, after.replies, List.map_append, List.count_append, Nat.add_assoc,
      Nat.add_comm (List.count url [u.target])]
    rfl

theorem After.reply (after : n.After asked n') (u : Url) : (n'.ask u.target).1 = n.replyAfter asked u := by
  rw [ask_eq, after.replies, Nat.zero_add, replyAfter]

end Network

/-! ## Requests along a trail -/

namespace Exchange

open Network

variable {n n' : Network} {now : Instant} {timeout : Span} {first u last : Url} {asked : List Url}
  {waited more : Nat} {a : Answer} {url : String}

def later (now : Instant) (waited : Nat) : Instant := ⟨now.nanos + waited⟩

theorem late_iff : now.plus timeout ≤ (later now waited).plus (n.replyAfter asked u).delay.head ↔
    timeout.nanos ≤ waited + n.delayAfter asked u := by
  rw [Instant.le_def, Instant.plus, Instant.plus, later, Nat.add_assoc]
  exact Nat.add_le_add_iff_left

theorem result_request_eq_ok_iff (now : Instant) (after : n.After asked n') :
    (request (now.plus timeout) n' (later now waited) u).result = .ok a ↔
      n.Serves asked u a ∧ waited + n.delayAfter asked u < timeout.nanos := by
  unfold request
  simp only [after.reply, after.reachable, late_iff]
  constructor
  · intro answered
    split at answered
    · cases answered
    · rename_i asks
      split at answered
      · cases answered
      · rename_i early
        split at answered
        · cases answered
        · rename_i sound
          simp only [Bool.or_eq_true, Bool.not_eq_true', not_or, Bool.not_eq_false,
            Bool.not_eq_true] at asks sound
          exact ⟨⟨asks.1, asks.2, sound.1, sound.2, (Except.ok.inj answered).symm⟩, Nat.not_le.1 early⟩
  · rintro ⟨serves, early⟩
    simp [serves.web, serves.reachable, serves.whole, serves.valid, Nat.not_le.2 early, serves.answer]

theorem request_of_serves (now : Instant) (after : n.After asked n') (serves : n.Serves asked u a)
    (early : waited + n.delayAfter asked u < timeout.nanos) :
    (request (now.plus timeout) n' (later now waited) u).ended =
        later now (waited + n.delayAfter asked u) ∧
      n.After (asked ++ [u]) (request (now.plus timeout) n' (later now waited) u).network := by
  have before : ¬ now.plus timeout ≤ (later now waited).plus (n.replyAfter asked u).delay.head :=
    mt late_iff.1 (Nat.not_le.2 early)
  have asks : (!isWeb u || !n'.reachable) = false := by
    rw [serves.web, after.reachable, serves.reachable]
    rfl
  unfold request
  simp only [asks, Bool.false_eq_true, if_false, after.reply, before, serves.whole, serves.valid]
  exact ⟨congrArg Instant.mk (Nat.add_assoc ..), after.ask u⟩

/-- An exchange follows its trail as far as that goes. -/
theorem follow_of_led (now : Instant) (timeout : Span) (led : n.Led first asked waited u) (few : asked.length ≤ more)
    (timely : asked ≠ [] → waited < timeout.nanos) :
    ∃ n', n.After asked n' ∧ follow (now.plus timeout) more n now first =
      follow (now.plus timeout) (more - asked.length) n' (later now waited) u := by
  induction led with
  | start => exact ⟨n, .start n, rfl⟩
  | @redirected asked waited u place a led serves redirect ih =>
    have early := timely (by simp)
    rw [List.length_append, List.length_singleton] at few
    obtain ⟨n', after, same⟩ := ih (by omega) (fun _ => by omega)
    have answered := (result_request_eq_ok_iff now after).2 ⟨serves, early⟩
    obtain ⟨ended, after'⟩ := request_of_serves now after serves early
    refine ⟨_, after', ?_⟩
    have led : (request (now.plus timeout) n' (later now waited) u).place? u = some place := by
      rw [place?_of_ok answered, names_request, after.names, redirect]
    obtain ⟨k, hk⟩ : ∃ k, more - asked.length = k + 1 := ⟨more - asked.length - 1, by omega⟩
    rw [same, hk, follow_of_place led, ended]
    congr 1
    simp
    omega

theorem last_of_endsAt (ends : n.EndsAt timeout first asked waited last) (after : n.After asked n') :
    maxRedirects - asked.length = 0 ∨
      (request (now.plus timeout) n' (later now waited) last).place? last = none := by
  obtain full | late | final := ends.ends
  · exact .inl (by omega)
  · refine .inr (place?_eq_none_of fun a answered => ?_)
    have := ((result_request_eq_ok_iff now after).1 answered).2
    omega
  · refine .inr (place?_eq_none_of fun a answered => ?_)
    rw [names_request, after.names]
    exact final a ((result_request_eq_ok_iff now after).1 answered).1

theorem run_of_web (text : Url.ofText? n.names url = some first) (web : isWeb first) :
    run timeout n now url =
      (follow (now.plus timeout) maxRedirects n now first).settle (now.plus timeout) := by
  unfold run
  simp only [text, web, if_true]

theorem network_settle (deadline : Instant) (e : Exchange) : (e.settle deadline).network = e.network := rfl

theorem log_run_of_endsAt (text : Url.ofText? n.names url = some first) (web : isWeb first)
    (reachable : n.reachable) (ends : n.EndsAt timeout first asked waited last) :
    (run timeout n now url).network.log = n.log ++ requested asked last := by
  obtain ⟨n', after, same⟩ := follow_of_led now timeout ends.led ends.few ends.timely
  rw [run_of_web text web, network_settle, same, (follow_last (last_of_endsAt ends after)).1, log_request, after.log,
    sent, after.reachable, reachable, requested]
  cases web : isWeb last <;> simp [web]

theorem network_run_of_unasked
    (unasked : n.reachable = false ∨ ∀ first, Url.ofText? n.names url = some first → isWeb first = false) :
    (run timeout n now url).network = n := by
  have fails {first : Url} (deadline : Instant) (text : Url.ofText? n.names url = some first) :
      request deadline n now first = ⟨.error (.unsent first), now, n⟩ := by
    unfold request
    obtain unreachable | other := unasked
    · simp [unreachable]
    · simp [other first text]
  unfold run
  cases text : Url.ofText? n.names url with
  | none => rfl
  | some first =>
    simp only
    split
    · have stays : (request (now.plus timeout) n now first).place? first = none := by
        rw [fails _ text]
        rfl
      rw [network_settle, (follow_last (.inr stays)).1, fails _ text]
    · rfl

theorem asks_sent (timeout : Span) (n : Network) (now : Instant) (url : String) :
    n.Asks timeout url (sent n (places timeout n now url)) where
  unasked none := by
    have log := log_run timeout n now url
    rw [network_run_of_unasked none] at log
    exact List.self_eq_append_right.1 log
  asked first text web reachable := by
    obtain ⟨asked, waited, last, ends⟩ := n.exists_endsAt timeout first
    have log : (run timeout n now url).network.log = _ := log_run_of_endsAt text web reachable ends
    rw [log_run] at log
    rw [List.append_cancel_left log]
    exact ⟨asked, waited, last, ends, rfl, ends.length_requested web⟩

theorem answersAt_of_follow (answered : (follow (now.plus timeout) maxRedirects n now first).result = .ok a) :
    ∃ asked waited last, n.AnswersAt timeout first asked waited last a := by
  obtain ⟨asked, waited, last, ends⟩ := n.exists_endsAt timeout first
  obtain ⟨n', after, same⟩ := follow_of_led now timeout ends.led ends.few ends.timely
  rw [same, result_follow_last (last_of_endsAt ends after)] at answered
  split at answered
  · cases answered
  · rename_i stays
    obtain ⟨serves, early⟩ := (result_request_eq_ok_iff now after).1 answered
    rw [place?_of_ok answered, names_request, after.names] at stays
    exact ⟨asked, waited, last, ends.led, ends.few, serves, stays, early⟩

theorem follow_of_answersAt (now : Instant) (at' : n.AnswersAt timeout first asked waited last a) :
    (follow (now.plus timeout) maxRedirects n now first).result = .ok a ∧
      (follow (now.plus timeout) maxRedirects n now first).ended =
        later now (waited + n.delayAfter asked last) := by
  have early := at'.timely
  obtain ⟨n', after, same⟩ := follow_of_led now timeout at'.led at'.few fun _ => by omega
  have answered := (result_request_eq_ok_iff now after).2 ⟨at'.serves, early⟩
  have stays : (request (now.plus timeout) n' (later now waited) last).place? last = none := by
    rw [place?_of_ok answered, names_request, after.names, at'.final]
  rw [same, result_follow_last (.inr stays), stays, (follow_last (.inr stays)).2]
  exact ⟨answered, (request_of_serves now after at'.serves early).1⟩

theorem since_later (now : Instant) (timeout : Span) (waited : Nat) :
    (now.plus timeout).since (later now waited) = .ofNanos (timeout.nanos - waited) :=
  congrArg Span.ofNanos (Nat.add_sub_add_left ..)

theorem result_settle_eq_ok_iff {e : Exchange} {deadline : Instant} :
    (e.settle deadline).result = .ok a ↔
      ∃ head, e.result = .ok head ∧ a = head.within (deadline.since e.ended) := by
  unfold settle
  cases e.result with
  | ok head =>
    constructor
    · intro same
      exact ⟨head, rfl, (Except.ok.inj same).symm⟩
    · rintro ⟨head, same, rfl⟩
      rw [Except.ok.inj same]
      rfl
  | error => simp [Except.map]

theorem result_run_eq_ok_iff : (run timeout n now url).result = .ok a ↔ n.Answers timeout url a := by
  constructor
  · intro answered
    unfold run at answered
    split at answered
    · cases answered
    · rename_i first text
      split at answered
      · obtain ⟨head, followed, rfl⟩ := result_settle_eq_ok_iff.1 answered
        obtain ⟨asked, waited, last, at'⟩ := answersAt_of_follow followed
        refine ⟨first, asked, waited, last, head, text, at', ?_⟩
        rw [(follow_of_answersAt now at').2, since_later, Network.leftAfter]
      · cases answered
  · rintro ⟨first, asked, waited, last, head, text, at', rfl⟩
    obtain ⟨followed, ended⟩ := follow_of_answersAt now at'
    rw [run_of_web text (at'.led.web at'.serves).1]
    refine result_settle_eq_ok_iff.2 ⟨head, followed, ?_⟩
    rw [ended, since_later, Network.leftAfter]

end Exchange

end TokenGate.Http
