import TokenGate.Proofs.Http.Places

/-!
# What servers have yet to answer

A request takes the next reply of the address that it asks, and leaves all other addresses alone. So
whoever asks among addresses where two networks agree is answered the same in both.
-/

namespace TokenGate.Http

namespace Network

variable {n n' n'' : Network} {url other : String} {among : String → Prop}

/-! ## The replies to come -/

def replyAt (script : List Reply) (k : Nat) : Reply := (script[k]?.or script.getLast?).getD .notFound

/-- The reply that `k` more requests to the address will come before. -/
def upcoming (n : Network) (url : String) (k : Nat) : Reply :=
  match n.scripts.lookup url with
  | none => .notFound
  | some script => replyAt script k

theorem next_eq (script : List Reply) :
    (next script).1 = replyAt script 0 ∧ ∀ k, replyAt (next script).2 k = replyAt script (k + 1) := by
  match script with
  | [] => exact ⟨rfl, fun _ => rfl⟩
  | [last] =>
    refine ⟨rfl, fun k => ?_⟩
    cases k <;> rfl
  | reply :: reply' :: rest => exact ⟨rfl, fun k => by simp [next, replyAt]⟩

theorem lookup_advanced (scripts : List (String × List Reply)) (url other : String) (rest : List Reply) :
    (scripts.map fun (u, s) => if u = url then (u, rest) else (u, s)).lookup other =
      if other = url then (scripts.lookup other).map fun _ => rest else scripts.lookup other := by
  induction scripts with
  | nil => simp
  | cons first scripts ih =>
    obtain ⟨u, s⟩ := first
    rw [List.map_cons]
    by_cases mine : other = u
    · subst mine
      by_cases same : other = url <;> simp [same]
    · have away : (other == u) = false := beq_false_of_ne mine
      by_cases same : u = url
      · subst same
        simp [List.lookup_cons, away, mine, ih]
      · simp [List.lookup_cons, away, same, ih]

theorem ask_eq (n : Network) (url : String) : (n.ask url).1 = n.upcoming url 0 := by
  unfold ask upcoming
  cases n.scripts.lookup url with
  | none => rfl
  | some script => exact (next_eq script).1

theorem upcoming_ask (n : Network) (url other : String) (k : Nat) :
    (n.ask url).2.upcoming other k = n.upcoming other (k + [url].count other) := by
  have counted : [url].count other = if url = other then 1 else 0 := by simp [List.count_singleton]
  rw [counted]
  unfold ask upcoming
  cases script : n.scripts.lookup url with
  | none =>
    by_cases same : url = other
    · rw [← same, script]
    · rw [if_neg same]
      rfl
  | some replies =>
    simp only [lookup_advanced]
    by_cases same : url = other
    · subst same
      simp only [if_true, script, Option.map_some]
      exact (next_eq replies).2 k
    · simp [same, Ne.symm same]

/-- Requests have been made, and each took the next reply of its address. -/
structure Advances (n n' : Network) : Prop where
  reachable : n'.reachable = n.reachable
  names : n'.names = n.names
  replies : ∃ urls, n'.log = n.log ++ urls ∧
    ∀ url k, n'.upcoming url k = n.upcoming url (k + urls.count url)

theorem Advances.refl (n : Network) : n.Advances n := ⟨rfl, rfl, [], by simp⟩

theorem Advances.trans (h : n.Advances n') (h' : n'.Advances n'') : n.Advances n'' := by
  obtain ⟨reachable, names, urls, log, replies⟩ := h
  obtain ⟨reachable', names', urls', log', replies'⟩ := h'
  refine ⟨reachable'.trans reachable, names'.trans names, urls ++ urls', ?_, fun url k => ?_⟩
  · rw [log', log, List.append_assoc]
  · rw [replies', replies, List.count_append, Nat.add_assoc, Nat.add_comm (urls'.count url)]

theorem advances_ask (n : Network) (url : String) : n.Advances (n.ask url).2 :=
  ⟨Exchange.reachable_ask .., Exchange.names_ask .., [url], Exchange.log_ask .., fun _ _ => upcoming_ask ..⟩

/-! ## Networks that agree -/

structure Agree (among : String → Prop) (n n' : Network) : Prop where
  reachable : n'.reachable = n.reachable
  names : n'.names = n.names
  replies : ∀ url, among url → ∀ k, n'.upcoming url k = n.upcoming url k

theorem Agree.ask (h : Agree among n n') (here : among url) :
    (n'.ask url).1 = (n.ask url).1 ∧ Agree among (n.ask url).2 (n'.ask url).2 := by
  refine ⟨?_, ?_, ?_, fun other there k => ?_⟩
  · rw [ask_eq, ask_eq]
    exact h.replies url here 0
  · rw [Exchange.reachable_ask, Exchange.reachable_ask]
    exact h.reachable
  · rw [Exchange.names_ask, Exchange.names_ask]
    exact h.names
  · rw [upcoming_ask, upcoming_ask]
    exact h.replies other there _

end Network

/-! ## Exchanges -/

namespace Exchange

variable {deadline now : Instant} {n n' : Network} {u : Url} {more : Nat} {timeout : Span} {url : String}
  {among : String → Prop}

theorem advances_request (deadline : Instant) (n : Network) (now : Instant) (u : Url) :
    n.Advances (request deadline n now u).network := by
  rw [network_request]
  split
  · exact n.advances_ask _
  · exact .refl n

theorem advances_follow (deadline : Instant) (more : Nat) (n : Network) (now : Instant) (u : Url) :
    n.Advances (follow deadline more n now u).network := by
  induction more generalizing n now u with
  | zero =>
    rw [(follow_last (.inl rfl)).1]
    exact advances_request ..
  | succ more ih =>
    cases led : (request deadline n now u).place? u with
    | none =>
      rw [(follow_last (.inr led)).1]
      exact advances_request ..
    | some place =>
      rw [follow_of_place led]
      exact (advances_request ..).trans (ih ..)

theorem advances_run (timeout : Span) (n : Network) (now : Instant) (url : String) :
    n.Advances (run timeout n now url).network := by
  unfold run
  split
  · exact .refl n
  · split
    · exact advances_follow ..
    · exact .refl n

/-- The same answer at the same time, in networks that agree. -/
structure Agree (among : String → Prop) (x x' : Exchange) : Prop where
  result : x'.result = x.result
  ended : x'.ended = x.ended
  network : Network.Agree among x.network x'.network

theorem agree_request (h : Network.Agree among n n') (asks : ∀ url ∈ sent n [u], among url) :
    Agree among (request deadline n now u) (request deadline n' now u) := by
  unfold request
  rw [h.reachable]
  split
  · exact ⟨rfl, rfl, h⟩
  · rename_i sends
    have target : u.target ∈ sent n [u] := by
      simp only [Bool.or_eq_true, Bool.not_eq_true', not_or, Bool.not_eq_false] at sends
      simp [sent, sends.1, sends.2]
    obtain ⟨reply, later⟩ := h.ask (asks _ target)
    simp only [reply]
    split
    · exact ⟨rfl, rfl, later⟩
    · split <;> exact ⟨rfl, rfl, later⟩

theorem Agree.place? {x x' : Exchange} (h : Agree among x x') (u : Url) :
    x'.place? u = x.place? u := by
  unfold Exchange.place?
  rw [h.result, h.network.names]

theorem result_follow_last (h : more = 0 ∨ (request deadline n now u).place? u = none) :
    (follow deadline more n now u).result =
      match (request deadline n now u).place? u with
      | some _ => .error (.tooManyRedirects u)
      | none => (request deadline n now u).result := by
  unfold follow place? at *
  simp only
  split
  · rename_i failed
    simp only [failed]
  · rename_i answer answered
    simp only [answered] at h ⊢
    split
    · rename_i stays
      simp only [stays, answered]
    · rename_i leads
      simp only [leads]
    · rename_i leads
      simp [leads] at h

theorem agree_follow_last (h : Agree among (request deadline n now u) (request deadline n' now u))
    (last : more = 0 ∨ (request deadline n now u).place? u = none) :
    Agree among (follow deadline more n now u) (follow deadline more n' now u) := by
  have same := h.place? u
  have last' : more = 0 ∨ (request deadline n' now u).place? u = none := by rwa [same]
  obtain ⟨network, ended⟩ := follow_last last
  obtain ⟨network', ended'⟩ := follow_last last'
  refine ⟨?_, ?_, ?_⟩
  · rw [result_follow_last last, result_follow_last last', same, h.result]
  · rw [ended, ended', h.ended]
  · rw [network, network']
    exact h.network

theorem agree_follow (h : Network.Agree among n n')
    (asks : ∀ url ∈ sent n (placesFrom deadline more n now u), among url) :
    Agree among (follow deadline more n now u) (follow deadline more n' now u) := by
  induction more generalizing n n' now u with
  | zero => exact agree_follow_last (agree_request h asks) (.inl rfl)
  | succ more ih =>
    unfold placesFrom at asks
    simp only at asks
    cases led : (request deadline n now u).place? u with
    | none =>
      simp only [led] at asks
      exact agree_follow_last (agree_request h asks) (.inr led)
    | some place =>
      simp only [led] at asks
      rw [sent_cons, List.forall_mem_append] at asks
      have first : Agree among (request deadline n now u) (request deadline n' now u) :=
        agree_request h asks.1
      have led' := (first.place? u).trans led
      rw [follow_of_place led, follow_of_place led', first.ended]
      refine ih first.network ?_
      rw [sent_congr (reachable_request ..)]
      exact asks.2

theorem Agree.settle {x x' : Exchange} (h : Agree among x x') (deadline : Instant) :
    Agree among (x.settle deadline) (x'.settle deadline) where
  result := by simp only [Exchange.settle, h.result, h.ended]
  ended := h.ended
  network := h.network

theorem Agree.doneAt {x x' : Exchange} (h : Agree among x x') (reads : Nat → Bool) :
    x'.doneAt reads = x.doneAt reads := by
  unfold Exchange.doneAt
  rw [h.result, h.ended]

theorem agree_run (h : Network.Agree among n n')
    (asks : ∀ url' ∈ sent n (places timeout n now url), among url') :
    Agree among (run timeout n now url) (run timeout n' now url) := by
  unfold run
  unfold places at asks
  rw [h.names]
  cases parsed : Url.ofText? n.names url with
  | none => exact ⟨rfl, rfl, h⟩
  | some u =>
    simp only [parsed] at asks
    simp only
    split
    · rename_i web
      rw [if_pos web] at asks
      exact (agree_follow h asks).settle _
    · exact ⟨rfl, rfl, h⟩

end Exchange

end TokenGate.Http
