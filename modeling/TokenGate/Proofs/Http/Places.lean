import TokenGate.Http.Exchange

/-!
# The places of an exchange

An exchange asks for its URL and for each place that a redirect leads it to. What it does to the
network is told by this list: the places that can be asked go to the log.
-/

namespace TokenGate.Http

namespace Exchange

def place? (e : Exchange) (u : Url) : Option Url :=
  match e.result with
  | .ok answer => answer.redirect? e.network.names u
  | .error _ => none

theorem place?_of_ok {e : Exchange} {a : Answer} (answered : e.result = .ok a) (u : Url) :
    e.place? u = a.redirect? e.network.names u := by
  unfold place?
  rw [answered]

theorem place?_eq_none_of {e : Exchange} {u : Url}
    (final : ∀ a, e.result = .ok a → a.redirect? e.network.names u = none) : e.place? u = none := by
  cases answered : e.result with
  | ok a => rw [place?_of_ok answered, final a answered]
  | error reason =>
    unfold place?
    rw [answered]

/-- The places that `follow` asks, in order. -/
def placesFrom (deadline : Instant) : (more : Nat) → Network → Instant → Url → List Url
  | 0, _, _, u => [u]
  | more + 1, n, now, u =>
    let e := request deadline n now u
    match e.place? u with
    | some place => u :: placesFrom deadline more e.network e.ended place
    | none => [u]

/-- The places that an exchange asks. It asks nowhere if its text is no URL that can be asked for. -/
def places (timeout : Span) (n : Network) (now : Instant) (url : String) : List Url :=
  match Url.ofText? n.names url with
  | none => []
  | some u => if isWeb u then placesFrom (now.plus timeout) maxRedirects n now u else []

/-- Of the places of an exchange, those that are asked over the network. -/
def sent (n : Network) (us : List Url) : List String :=
  (us.filter fun u => isWeb u && n.reachable).map Url.target

variable {deadline now : Instant} {n n' : Network} {u : Url} {more : Nat} {timeout : Span} {url : String}

theorem sent_congr (h : n'.reachable = n.reachable) (us : List Url) : sent n' us = sent n us := by
  unfold sent
  rw [h]

theorem sent_cons (n : Network) (u : Url) (us : List Url) : sent n (u :: us) = sent n [u] ++ sent n us := by
  unfold sent
  rw [← List.map_append, ← List.filter_append, List.singleton_append]

/-! ## One request -/

theorem reachable_ask (n : Network) (url : String) : (n.ask url).2.reachable = n.reachable := by
  unfold Network.ask
  split <;> rfl

theorem names_ask (n : Network) (url : String) : (n.ask url).2.names = n.names := by
  unfold Network.ask
  split <;> rfl

theorem log_ask (n : Network) (url : String) : (n.ask url).2.log = n.log ++ [url] := by
  unfold Network.ask
  split <;> rfl

/-- Whatever comes of it, a request asks once if it can. -/
theorem network_request (deadline : Instant) (n : Network) (now : Instant) (u : Url) :
    (request deadline n now u).network =
      if isWeb u && n.reachable then (n.ask u.target).2 else n := by
  unfold request
  rw [← Bool.not_and]
  cases isWeb u && n.reachable with
  | false => rfl
  | true =>
    simp only [Bool.not_true, Bool.false_eq_true, if_false, if_true]
    split
    · rfl
    · split <;> rfl

theorem reachable_request (deadline : Instant) (n : Network) (now : Instant) (u : Url) :
    (request deadline n now u).network.reachable = n.reachable := by
  rw [network_request]
  split
  · exact reachable_ask ..
  · rfl

theorem names_request (deadline : Instant) (n : Network) (now : Instant) (u : Url) :
    (request deadline n now u).network.names = n.names := by
  rw [network_request]
  split
  · exact names_ask ..
  · rfl

theorem log_request (deadline : Instant) (n : Network) (now : Instant) (u : Url) :
    (request deadline n now u).network.log = n.log ++ sent n [u] := by
  rw [network_request]
  unfold sent
  split
  · rename_i sends
    simp only [List.filter_cons, sends, if_true, List.filter_nil, List.map_cons, List.map_nil]
    exact log_ask ..
  · rename_i stays
    simp [stays]

theorem ended_request (h : now ≤ deadline) :
    now ≤ (request deadline n now u).ended ∧ (request deadline n now u).ended ≤ deadline := by
  unfold request
  split
  · exact ⟨Nat.le_refl _, h⟩
  · simp only
    have later (s : Span) : now.nanos ≤ (now.plus s).nanos := Nat.le_add_right ..
    split
    · exact ⟨h, Nat.le_refl _⟩
    · rename_i early
      simp only [Instant.le_def, Nat.not_le] at early
      split <;> exact ⟨later _, Nat.le_of_lt early⟩

/-! ## The whole exchange -/

theorem follow_of_place {place : Url} (h : (request deadline n now u).place? u = some place) :
    follow deadline (more + 1) n now u =
      follow deadline more (request deadline n now u).network (request deadline n now u).ended
        place := by
  unfold place? at h
  split at h
  · rename_i answer answered
    conv => lhs; unfold follow
    simp only [answered, h]
  · cases h

theorem follow_last (h : more = 0 ∨ (request deadline n now u).place? u = none) :
    (follow deadline more n now u).network = (request deadline n now u).network ∧
      (follow deadline more n now u).ended = (request deadline n now u).ended := by
  unfold follow
  simp only
  split
  · exact ⟨rfl, rfl⟩
  · rename_i answer answered
    simp only [place?, answered] at h
    split
    · exact ⟨rfl, rfl⟩
    · exact ⟨rfl, rfl⟩
    · rename_i led
      obtain zero | none := h
      · cases zero
      · rw [none] at led; cases led

theorem log_follow (deadline : Instant) (more : Nat) (n : Network) (now : Instant) (u : Url) :
    (follow deadline more n now u).network.log =
      n.log ++ sent n (placesFrom deadline more n now u) := by
  -- Reachability does not change on the way, so the first network tells what can be asked.
  induction more generalizing n now u with
  | zero => rw [(follow_last (.inl rfl)).1]; exact log_request ..
  | succ more ih =>
    simp only [placesFrom]
    cases led : (request deadline n now u).place? u with
    | none => rw [(follow_last (.inr led)).1]; exact log_request ..
    | some place =>
      rw [follow_of_place led, ih, log_request, List.append_assoc, sent_congr (reachable_request ..),
        ← sent_cons]

theorem log_run (timeout : Span) (n : Network) (now : Instant) (url : String) :
    (run timeout n now url).network.log = n.log ++ sent n (places timeout n now url) := by
  unfold run places
  cases Url.ofText? n.names url with
  | none => exact (List.append_nil _).symm
  | some u =>
    simp only
    split
    · exact log_follow ..
    · exact (List.append_nil _).symm

theorem ended_follow (h : now ≤ deadline) :
    now ≤ (follow deadline more n now u).ended ∧ (follow deadline more n now u).ended ≤ deadline := by
  induction more generalizing n now u with
  | zero => rw [(follow_last (.inl rfl)).2]; exact ended_request h
  | succ more ih =>
    have first := ended_request (n := n) (u := u) h
    cases led : (request deadline n now u).place? u with
    | none => rw [(follow_last (.inr led)).2]; exact first
    | some place =>
      have rest := ih (n := (request deadline n now u).network) (u := place) first.2
      rw [follow_of_place led]
      exact ⟨Nat.le_trans first.1 rest.1, rest.2⟩

theorem wait_within_le (a : Answer) (left : Span) : (a.within left).wait ≤ left := by
  unfold Answer.within
  split
  · exact Nat.le_refl _
  · rename_i early
    exact Nat.le_of_lt (Nat.not_le.1 early)

theorem doneAt_settle_le {e : Exchange} {reads : Nat → Bool} (h : e.ended ≤ deadline) :
    (e.settle deadline).doneAt reads ≤ deadline := by
  unfold doneAt settle
  cases e.result with
  | error => exact h
  | ok a =>
    simp only [Except.map]
    split
    · have wait : (a.within (deadline.since e.ended)).wait.nanos ≤ (deadline.since e.ended).nanos :=
        wait_within_le ..
      have left : (deadline.since e.ended).nanos ≤ deadline.nanos - e.ended.nanos := by
        rw [Instant.since, Span.nanos_ofNanos]
        exact Nat.min_le_left ..
      simp only [Instant.le_def, Instant.plus] at h ⊢
      omega
    · exact h

theorem le_doneAt (e : Exchange) (reads : Nat → Bool) : e.ended ≤ e.doneAt reads := by
  unfold doneAt
  split
  · split
    · exact Nat.le_add_right ..
    · exact Nat.le_refl _
  · exact Nat.le_refl _

/-- Neither redirects nor a slow body buy time. -/
theorem doneAt_run_le (timeout : Span) (n : Network) (now : Instant) (url : String)
    (reads : Nat → Bool) : (run timeout n now url).doneAt reads ≤ now.plus timeout := by
  have before : now ≤ now.plus timeout := Nat.le_add_right ..
  unfold run
  split
  · exact before
  · split
    · exact doneAt_settle_le (ended_follow before).2
    · exact before

theorem le_doneAt_run (timeout : Span) (n : Network) (now : Instant) (url : String)
    (reads : Nat → Bool) : now ≤ (run timeout n now url).doneAt reads := by
  refine Nat.le_trans ?_ (le_doneAt _ reads)
  unfold run
  split
  · exact Nat.le_refl _
  · split
    · exact (ended_follow (Nat.le_add_right ..)).1
    · exact Nat.le_refl _

end Exchange

end TokenGate.Http
