import TokenGate.Proofs.Serving

/-!
# Asking for a key

A key that is there when the caller comes is given to it. For any other key the caller waits for a
refresh, if one is under way or the floor allows one, and is then told what the entry holds.
-/

namespace TokenGate

/-- The key that the entry holds under an id. -/
def Entry.key? (e : Entry) (id : String) : Option Jwk := e.held.bind (·.keys.get? id)

theorem Entry.key?_of_held {e : Entry} {held : HeldKeys} (there : e.held = some held) (id : String) :
    e.key? id = held.keys.get? id := by
  rw [key?, there, Option.bind_some]

theorem Entry.key?_of_bare {e : Entry} (bare : e.held = none) (id : String) : e.key? id = none := by
  rw [key?, bare, Option.bind_none]

theorem Entry.floor_zero_of_mayRefresh {e : Entry} {now : Instant} (last : e.lastAttempt = some now)
    (may : e.mayRefresh now) : e.floor.nanos = 0 := by
  unfold mayRefresh at may
  simp only [last, decide_eq_true_eq] at may
  have none : (now.since now).nanos = 0 := by
    rw [Instant.since, Span.nanos_ofNanos]
    omega
  have may : e.floor.nanos ≤ (now.since now).nanos := may
  omega

namespace Gate

variable {g g' : Gate} {uri id : String} {e : Entry} {held : HeldKeys} {k : Jwk}

/-! ## Cases -/

theorem getKey_of_present (found : g.lookup? uri = some e) (there : e.held = some held)
    (present : held.keys.get? id = some k) :
    g.getKey uri id = ⟨.ok k, g.now, if e.isDue g.now then (g.refresh e).2 else g⟩ := by
  unfold getKey firstLook
  simp only [found, decision_of_held there, present]
  rfl

theorem getKey_of_due (found : g.lookup? uri = some e) (there : e.held = some held)
    (missing : held.keys.get? id = none) (due : e.isDue g.now) :
    g.getKey uri id = (g.refresh e).2.reply (keyIn id ((g.refresh e).2.joined uri)) := by
  unfold getKey firstLook
  simp only [found, decision_of_held there, missing, due, if_true]
  rfl

theorem getKey_of_missing (found : g.lookup? uri = some e) (there : e.held = some held)
    (missing : held.keys.get? id = none) (due : e.isDue g.now = false) :
    g.getKey uri id = g.forceKey uri id := by
  unfold getKey firstLook
  simp only [found, decision_of_held there, missing, due]
  rfl

theorem getKey_of_fetch (found : g.lookup? uri = some e) (fetch : e.decision g.now = .fetch) :
    g.getKey uri id = match FirstLook.ofAnswer id (g.refresh e).1 with
      | .settled r => (g.refresh e).2.reply r
      | .missing => (g.refresh e).2.forceKey uri id := by
  unfold getKey firstLook
  simp only [found, fetch]
  generalize FirstLook.ofAnswer id (g.refresh e).1 = look
  cases look <;> rfl

theorem getKey_of_refuse (found : g.lookup? uri = some e) (refuse : e.decision g.now = .refuse) :
    g.getKey uri id = g.reply (.error e.unavailable) := by
  unfold getKey firstLook
  simp only [found, refuse]
  rfl

theorem forceKey_of_may (found : g.lookup? uri = some e) (may : e.mayRefresh g.now) :
    g.forceKey uri id = (g.refresh e).2.reply (keyIn id (g.refresh e).1) := by
  unfold forceKey
  simp only [found, may, if_true]

theorem forceKey_of_early (found : g.lookup? uri = some e) (early : ¬ e.mayRefresh g.now) :
    g.forceKey uri id = g.reply (.error (.unknownKey id)) := by
  unfold forceKey
  simp only [found, early, Bool.false_eq_true, if_false]

/-! ## The answer -/

theorem keyIn_joined (e : Entry) (id : String) : keyIn id e.joined =
    match e.key? id with
    | some k => .ok k
    | none => .error (if e.held.isSome then .unknownKey id else e.unavailable) := by
  unfold keyIn Entry.key? Entry.joined
  cases e.held with
  | none => rfl
  | some held =>
    simp only [Option.bind_some]
    cases held.keys.get? id <;> rfl

theorem ofAnswer_settled {answer : KeyAnswer} {r : Except AuthError Jwk}
    (h : FirstLook.ofAnswer id answer = .settled r) : r = keyIn id answer := by
  unfold FirstLook.ofAnswer at h
  unfold keyIn
  split at h
  · exact (FirstLook.settled.inj h).symm
  · rename_i held
    cases key : held.keys.get? id with
    | some k =>
      simp only [key] at h ⊢
      exact (FirstLook.settled.inj h).symm
    | none =>
      simp only [key] at h
      cases h

/-- What the caller is told of the entry that it leaves, unless the clock ran out in one of the refreshes
that it waited for. -/
def TellsKey (s : FetchSettings) (e : Entry) (id : String) (rs : List Refresh)
    (answer : Except AuthError Jwk) : Prop :=
  answer = keyIn id (e.after s rs).joined ∨
    answer = .error Entry.refreshFailed ∧ ∃ r ∈ rs, ¬ r.Lasts s e.floor

theorem tellsKey_refresh (found : g.lookup? uri = some e) (id : String) :
    TellsKey g.settings e id [g.nextRefresh uri] (keyIn id (g.refresh e).1) := by
  rw [answer_refresh found]
  obtain joined | ⟨failed, runsOut⟩ := e.answer_publish g.settings (g.nextRefresh uri)
  · left
    rw [joined]
    rfl
  · right
    rw [failed]
    exact ⟨rfl, g.nextRefresh uri, List.mem_singleton.2 rfl, runsOut⟩

/-- What comes of asking for a key. `rs` are the refreshes in between. -/
structure LooksUp (g : Gate) (uri id : String) (e : Entry) (rs : List Refresh)
    (a : Answered (Except AuthError Jwk)) : Prop where
  here : g.Grown a.gate uri rs
  elsewhere : ∀ other, other ≠ uri → g.Grown a.gate other []
  few : rs.length ≤ 2
  once : 0 < e.floor.nanos → rs.length ≤ 1
  idle : ¬ e.mayRefresh g.now → a.gate = g
  asks : e.held.isSome → e.key? id = none → e.mayRefresh g.now → rs = [g.nextRefresh uri]
  present : ∀ k, e.key? id = some k → a.answer = .ok k
  tells : e.key? id = none → TellsKey g.settings e id rs a.answer

theorem present_of_absent {answer : Except AuthError Jwk} (absent : e.key? id = none) :
    ∀ k, e.key? id = some k → answer = .ok k := by
  intro k there
  rw [absent] at there
  cases there

theorem looksUp_still {a : Answered (Except AuthError Jwk)} (same : a.gate = g)
    (idle : e.held.isSome → e.key? id = none → ¬ e.mayRefresh g.now)
    (present : ∀ k, e.key? id = some k → a.answer = .ok k)
    (tells : e.key? id = none → a.answer = keyIn id e.joined) : g.LooksUp uri id e [] a where
  here := same ▸ .refl ..
  elsewhere _ _ := same ▸ .refl ..
  few := Nat.zero_le _
  once _ := Nat.zero_le _
  idle _ := same
  asks held missing may := absurd may (idle held missing)
  present := present
  tells none := .inl (tells none)

theorem looksUp_once {a : Answered (Except AuthError Jwk)} (once : g.RefreshedOnce a.gate uri)
    (may : e.mayRefresh g.now) (present : ∀ k, e.key? id = some k → a.answer = .ok k)
    (tells : e.key? id = none → TellsKey g.settings e id [g.nextRefresh uri] a.answer) :
    g.LooksUp uri id e [g.nextRefresh uri] a where
  here := once.here
  elsewhere := once.elsewhere
  few := Nat.le_succ 1
  once _ := Nat.le_refl _
  idle early := absurd may early
  asks _ _ _ := rfl
  present := present
  tells := tells

/-- The first refresh has brought keys without the key, and there is no floor. -/
theorem looksUp_twice (found : g.lookup? uri = some e) (bare : e.held = none)
    (may : e.mayRefresh g.now) (floor : ¬ 0 < e.floor.nanos)
    {e' : Entry} (found' : (g.refresh e).2.lookup? uri = some e')
    (same : e' = e.after g.settings [g.nextRefresh uri]) :
    g.LooksUp uri id e [g.nextRefresh uri, (g.refresh e).2.nextRefresh uri]
      (((g.refresh e).2.refresh e').2.reply (keyIn id ((g.refresh e).2.refresh e').1)) where
  here := (refreshedOnce_refresh found).here.trans (refreshedOnce_refresh found').here
  elsewhere other away := ((refreshedOnce_refresh found).elsewhere other away).trans
    ((refreshedOnce_refresh found').elsewhere other away)
  few := Nat.le_refl _
  once some := absurd some floor
  idle early := absurd may early
  asks held := by simp [bare] at held
  present := present_of_absent (Entry.key?_of_bare bare id)
  tells _ := by
    subst same
    obtain told | ⟨failed, r, here, runsOut⟩ := tellsKey_refresh found' id
    · exact .inl told
    · obtain rfl := List.mem_singleton.1 here
      rw [Entry.floor_after] at runsOut
      exact .inr ⟨failed, _, List.mem_cons_of_mem _ (List.mem_singleton.2 rfl), runsOut⟩

theorem looksUp_fetch (found : g.lookup? uri = some e) (bare : e.held = none)
    (may : e.mayRefresh g.now) (id : String) : ∃ rs, g.LooksUp uri id e rs (g.getKey uri id) := by
  have fetch := Entry.decision_of_bare bare g.now
  rw [if_pos may] at fetch
  rw [getKey_of_fetch found fetch]
  have once := refreshedOnce_refresh found
  have told := tellsKey_refresh found id
  have absent := Entry.key?_of_bare bare id
  cases look : FirstLook.ofAnswer id (g.refresh e).1 with
  | settled r =>
    rw [← ofAnswer_settled look] at told
    exact ⟨_, looksUp_once once may (present_of_absent absent) fun _ => told⟩
  | missing =>
    have found' := once.here.entry e found
    generalize same : e.after g.settings [g.nextRefresh uri] = e' at found'
    simp only
    by_cases again : e'.mayRefresh (g.refresh e).2.now
    · -- a refresh has just ended, and only without a floor may another one begin
      rw [forceKey_of_may found' again]
      have last : e'.lastAttempt = some (g.refresh e).2.now := by
        rw [← same, now_refresh found]
        exact Entry.lastAttempt_publish ..
      have zero := Entry.floor_zero_of_mayRefresh last again
      rw [← same, Entry.floor_after] at zero
      exact ⟨_, looksUp_twice found bare may (by omega) found' same.symm⟩
    · rw [forceKey_of_early found' again]
      obtain ⟨held, ok, missing⟩ := ofAnswer_missing look
      rw [ok] at told
      simp only [keyIn, missing] at told
      exact ⟨_, looksUp_once once may (present_of_absent absent) fun _ => told⟩

theorem looksUp_present (found : g.lookup? uri = some e) (there : e.held = some held)
    (present : held.keys.get? id = some k) : ∃ rs, g.LooksUp uri id e rs (g.getKey uri id) := by
  have key := (Entry.key?_of_held there id).trans present
  rw [getKey_of_present found there present]
  have told (k' : Jwk) (here : e.key? id = some k') : (Except.ok k : Except AuthError Jwk) = .ok k' :=
    congrArg Except.ok (Option.some.inj (key.symm.trans here))
  have missing {P : Prop} (absent : e.key? id = none) : P := by
    rw [key] at absent
    cases absent
  cases due : e.isDue g.now with
  | true =>
    exact ⟨_, looksUp_once (refreshedOnce_refresh found) (Entry.mayRefresh_of_isDue due) told missing⟩
  | false => exact ⟨_, looksUp_still rfl (fun _ => missing) told missing⟩

theorem looksUp_missing (found : g.lookup? uri = some e) (there : e.held = some held)
    (missing : held.keys.get? id = none) : ∃ rs, g.LooksUp uri id e rs (g.getKey uri id) := by
  have absent := (Entry.key?_of_held there id).trans missing
  have once := refreshedOnce_refresh found
  cases due : e.isDue g.now with
  | true =>
    -- the caller waits for the refresh that it has set off
    rw [getKey_of_due found there missing due]
    refine ⟨_, looksUp_once once (Entry.mayRefresh_of_isDue due) (present_of_absent absent)
      fun _ => .inl ?_⟩
    simp only [reply, joined, once.here.entry e found]
  | false =>
    rw [getKey_of_missing found there missing due]
    by_cases may : e.mayRefresh g.now
    · rw [forceKey_of_may found may]
      exact ⟨_, looksUp_once once may (present_of_absent absent) fun _ => tellsKey_refresh found id⟩
    · rw [forceKey_of_early found may]
      refine ⟨_, looksUp_still rfl (fun _ _ => may) (present_of_absent absent) fun _ => ?_⟩
      rw [keyIn_joined, absent, there]
      rfl

theorem looksUp (found : g.lookup? uri = some e) (id : String) :
    ∃ rs, g.LooksUp uri id e rs (g.getKey uri id) := by
  cases there : e.held with
  | some held =>
    cases key : held.keys.get? id with
    | some k => exact looksUp_present found there key
    | none => exact looksUp_missing found there key
  | none =>
    by_cases may : e.mayRefresh g.now
    · exact looksUp_fetch found there may id
    · have refuse := Entry.decision_of_bare there g.now
      have absent := Entry.key?_of_bare there id
      rw [if_neg may] at refuse
      rw [getKey_of_refuse found refuse]
      refine ⟨_, looksUp_still rfl (fun _ _ => may) (present_of_absent absent) fun _ => ?_⟩
      rw [keyIn_joined, absent, there]
      rfl

/-! ## End to end -/

/-- What a caller who asks for a key can count on. `e` is the entry when it comes and `e'` the one that it
leaves, after the refreshes `rs`. -/
structure FindsKey (g : Gate) (uri id : String) (e e' : Entry) (rs : List Refresh)
    (a : Answered (Except AuthError Jwk)) : Prop where
  entry : a.gate.lookup? uri = some e'
  refreshes : a.gate.refreshes uri = g.refreshes uri ++ rs
  others : ∀ other, other ≠ uri → a.gate.refreshes other = g.refreshes other
  few : rs.length ≤ 2
  once : 0 < e.floor.nanos → rs.length ≤ 1
  /-- Before the floor has passed, nothing is asked for. -/
  idle : ¬ e.Rested g.now → a.gate = g
  present : ∀ k, e.key? id = some k → a.answer = .ok k
  fits : ∀ k, a.answer = .ok k → k.keyId = some id ∧ k.purpose ≠ some "enc" ∧
    (e.key? id = some k ∨ e.key? id = none ∧ e'.key? id = some k)
  refused : ∀ err, a.answer = .error err → err.IsOutage ∨ err = .unknownKey id
  unknown : (∀ r ∈ rs, r.Lasts g.settings e.floor) →
    (a.answer = .error (.unknownKey id) ↔
      e'.held.isSome ∧ e.key? id = none ∧ e'.key? id = none)
  outage : (∀ r ∈ rs, r.Lasts g.settings e.floor) →
    ((∃ err, a.answer = .error err ∧ err.IsOutage) ↔ e'.held = none)
  /-- Keys are withheld only when the clock cannot show how long they are fresh. -/
  withheld : ∀ err, a.answer = .error err → err.IsOutage → e'.held.isSome →
    err = Entry.refreshFailed ∧ ∃ r ∈ rs, ¬ r.Lasts g.settings e.floor
  /-- A new key is found at once when the next refresh brings it. -/
  rotated : ∀ fetched, e.held.isSome → e.key? id = none → e.Rested g.now →
    (g.nextRefresh uri).result = .ok fetched → (g.nextRefresh uri).Lasts g.settings e.floor →
    (∃ k ∈ fetched.keys, k.signingId? = some id) →
    ∃ k, fetched.keys.find? (·.signingId? = some id) = some k ∧ a.answer = .ok k

/-- The four ways in which asking for a key may end. -/
inductive Ends (s : FetchSettings) (id : String) (e : Entry) (rs : List Refresh) :
    Except AuthError Jwk → Prop
  | found {k : Jwk}
      (there : e.key? id = some k ∨ e.key? id = none ∧ (e.after s rs).key? id = some k) :
      Ends s id e rs (.ok k)
  | unknown (held : (e.after s rs).held.isSome) (before : e.key? id = none)
      (after : (e.after s rs).key? id = none) : Ends s id e rs (.error (.unknownKey id))
  | bare (detail : String) (after : (e.after s rs).held = none) :
      Ends s id e rs (.error (.keysUnavailable detail))
  | withheld (runsOut : ∃ r ∈ rs, ¬ r.Lasts s e.floor) : Ends s id e rs (.error Entry.refreshFailed)

theorem LooksUp.ends {rs : List Refresh} {a : Answered (Except AuthError Jwk)}
    (h : g.LooksUp uri id e rs a) : Ends g.settings id e rs a.answer := by
  cases before : e.key? id with
  | some k =>
    rw [h.present k before]
    exact .found (.inl before)
  | none =>
    obtain told | ⟨failed, runsOut⟩ := h.tells before
    · rw [told, keyIn_joined]
      cases after : (e.after g.settings rs).key? id with
      | some k => exact .found (.inr ⟨before, after⟩)
      | none =>
        cases held : (e.after g.settings rs).held with
        | some => exact .unknown (by rw [held]; rfl) before after
        | none => exact .bare _ held
    · rw [failed]
      exact .withheld runsOut

theorem isSome_held_of_key? (there : e.key? id = some k) : e.held.isSome := by
  obtain ⟨held, here, -⟩ := Option.bind_eq_some_iff.1 there
  rw [here]
  rfl

theorem signingId?_of_key? (numbered : e.Numbered) (there : e.key? id = some k) :
    k.signingId? = some id := by
  obtain ⟨held, here, found⟩ := Option.bind_eq_some_iff.1 there
  exact numbered.signingId? here found

namespace Ends

variable {s : FetchSettings} {rs : List Refresh} {answer : Except AuthError Jwk} {err : AuthError}

theorem fits (h : Ends s id e rs (.ok k)) (numbered : e.Numbered) :
    k.keyId = some id ∧ k.purpose ≠ some "enc" ∧
      (e.key? id = some k ∨ e.key? id = none ∧ (e.after s rs).key? id = some k) := by
  cases h with
  | found there =>
    have named : k.signingId? = some id := by
      obtain before | ⟨-, after⟩ := there
      · exact signingId?_of_key? numbered before
      · exact signingId?_of_key? (numbered.after s rs) after
    obtain ⟨own, -, signs⟩ := Jwk.signingId?_eq_some_iff.1 named
    exact ⟨own, signs, there⟩

theorem refused (h : Ends s id e rs (.error err)) : err.IsOutage ∨ err = .unknownKey id := by
  cases h with
  | unknown => exact .inr rfl
  | bare detail => exact .inl ⟨detail, rfl⟩
  | withheld => exact .inl ⟨_, rfl⟩

theorem unknown_iff (h : Ends s id e rs answer) (lasts : ∀ r ∈ rs, r.Lasts s e.floor) :
    answer = .error (.unknownKey id) ↔
      (e.after s rs).held.isSome ∧ e.key? id = none ∧ (e.after s rs).key? id = none := by
  constructor
  · rintro rfl
    cases h with
    | unknown held before after => exact ⟨held, before, after⟩
  · rintro ⟨held, before, after⟩
    cases h with
    | found there => simp [before, after] at there
    | unknown => rfl
    | bare detail none => simp [none] at held
    | withheld runsOut =>
      obtain ⟨r, here, not⟩ := runsOut
      exact absurd (lasts r here) not

theorem outage_iff (h : Ends s id e rs answer) (lasts : ∀ r ∈ rs, r.Lasts s e.floor) :
    (∃ err, answer = .error err ∧ err.IsOutage) ↔ (e.after s rs).held = none := by
  constructor
  · rintro ⟨err, rfl, detail, rfl⟩
    cases h with
    | bare detail none => exact none
    | withheld runsOut =>
      obtain ⟨r, here, not⟩ := runsOut
      exact absurd (lasts r here) not
  · intro none
    cases h with
    | found there =>
      have held : (e.after s rs).held.isSome := by
        obtain before | ⟨-, after⟩ := there
        · exact Entry.isSome_held_after s rs (isSome_held_of_key? before)
        · exact isSome_held_of_key? after
      simp [none] at held
    | unknown held => simp [none] at held
    | bare detail => exact ⟨_, rfl, detail, rfl⟩
    | withheld => exact ⟨_, rfl, _, rfl⟩

theorem withheld_of_held (h : Ends s id e rs (.error err)) (outage : err.IsOutage)
    (held : (e.after s rs).held.isSome) :
    err = Entry.refreshFailed ∧ ∃ r ∈ rs, ¬ r.Lasts s e.floor := by
  obtain ⟨detail, rfl⟩ := outage
  cases h with
  | bare detail none => simp [none] at held
  | withheld runsOut => exact ⟨rfl, runsOut⟩

end Ends

theorem key?_publish {s : FetchSettings} {r : Refresh} {fetched : Fetched}
    (brings : r.result = .ok fetched) (listed : ∃ k ∈ fetched.keys, k.signingId? = some id) :
    ∃ k, fetched.keys.find? (·.signingId? = some id) = some k ∧ (e.after s [r]).key? id = some k := by
  have found : (fetched.keys.find? (·.signingId? = some id)).isSome := by
    simpa using listed
  obtain ⟨k, first⟩ := Option.isSome_iff_exists.1 found
  refine ⟨k, first, ?_⟩
  unfold Entry.key?
  rw [Entry.after_cons, show ∀ e : Entry, e.after s [] = e from fun _ => rfl, Entry.held_publish]
  simp [Refresh.fetched?, brings, KeySet.get?_ofKeys, first]

theorem LooksUp.rotated {rs : List Refresh} {a : Answered (Except AuthError Jwk)} {fetched : Fetched}
    (h : g.LooksUp uri id e rs a) (held : e.held.isSome) (missing : e.key? id = none)
    (may : e.mayRefresh g.now) (brings : (g.nextRefresh uri).result = .ok fetched)
    (lasts : (g.nextRefresh uri).Lasts g.settings e.floor)
    (listed : ∃ k ∈ fetched.keys, k.signingId? = some id) :
    ∃ k, fetched.keys.find? (·.signingId? = some id) = some k ∧ a.answer = .ok k := by
  obtain ⟨k, first, there⟩ := key?_publish (e := e) (s := g.settings) brings listed
  obtain rfl := h.asks held missing may
  refine ⟨k, first, ?_⟩
  obtain told | ⟨-, r, here, runsOut⟩ := h.tells missing
  · rw [told, keyIn_joined, there]
  · obtain rfl := List.mem_singleton.1 here
    exact absurd lasts runsOut

theorem findsKey_of_reached (reached : g.Reached) (found : g.lookup? uri = some e) (id : String) :
    ∃ e' rs, g.FindsKey uri id e e' rs (g.getKey uri id) := by
  obtain ⟨rs, h⟩ := looksUp found id
  have numbered := reached.settled.numbered found
  have rested := reached.settled.rested_iff found
  have ends := h.ends
  exact ⟨e.after g.settings rs, rs, {
    entry := h.here.entry e found
    refreshes := h.here.refreshes
    others := fun other away => by rw [(h.elsewhere other away).refreshes, List.append_nil]
    few := h.few
    once := h.once
    idle := fun early => h.idle (mt rested.1 early)
    present := h.present
    fits := fun k ok => (ok ▸ ends).fits numbered
    refused := fun err failed => (failed ▸ ends).refused
    unknown := ends.unknown_iff
    outage := ends.outage_iff
    withheld := fun err failed outage held => (failed ▸ ends).withheld_of_held outage held
    rotated := fun fetched held missing rest brings lasts listed =>
      h.rotated held missing (rested.2 rest) brings lasts listed }⟩

/-! ## A key that has come up since -/

/-- A minute after the first fetch. The server has gone over to two keys since. -/
def turned : Gate :=
  ((Crowd.rotating.endpointOf (.ofSeconds 60)).get "http://k/").gate.wait (.ofSeconds 61)

theorem reached_turned : turned.Reached := by
  have fetched : ((Crowd.rotating.endpointOf (.ofSeconds 60)).get "http://k/").gate.Reached :=
    (reached_endpointOf ..).leads (leads_get ..)
  exact fetched.leads (leads_call _ (.advance (.ofSeconds 61)))

/-- The new key is found, and for one refresh at most. -/
theorem turned_key_found : ∃ k, (turned.getKey "http://k/" "b").answer = .ok k ∧
    k.keyId = some "b" ∧
    ((turned.getKey "http://k/" "b").gate.refreshes "http://k/").length ≤ 2 := by
  obtain ⟨e, found⟩ := Option.isSome_iff_exists.1
    (by decide +kernel : (turned.lookup? "http://k/").isSome)
  have floor : (turned.lookup? "http://k/").map (·.floor.nanos) = some 60000000000 := by decide +kernel
  rw [found, Option.map_some, Option.some.injEq] at floor
  obtain ⟨e', rs, finds⟩ := findsKey_of_reached reached_turned found "b"
  have answered : (turned.getKey "http://k/" "b").answer.isOk := by decide +kernel
  cases told : (turned.getKey "http://k/" "b").answer with
  | error err =>
    rw [told] at answered
    cases answered
  | ok k =>
    have before : (turned.refreshes "http://k/").length = 1 := by decide +kernel
    have once := finds.once (by omega)
    refine ⟨k, rfl, (finds.fits k told).1, ?_⟩
    rw [finds.refreshes, List.length_append]
    omega

/-! ## Keys that are there and are refused -/

end Gate

namespace Crowd

/-- The only caller misses a key. The refresh that it has set off ends before it looks again. -/
def overtaken : List Action :=
  [.register "http://k/" (.ofSeconds 60),
    .arrive (.keys "http://k/"), .move 0, .move 0, .move 0, .move 0, .start 0, .finish 0,
    .wait (.ofSeconds 301), .arrive (.key "http://k/" "b"), .move 1, .move 1,
    .start 1, .start 1, .finish 1]

/-- The first caller of an endpoint whose floor leads past the end of the clock is told that there are no
keys, and the key is there. A caller that its own refresh overtakes is told that there is no such key,
and it is there too. -/
theorem held_key_refused :
    (Gate.boundless.Reached ∧
      (Gate.boundless.getKey "http://k/" "a").answer =
        .error (.keysUnavailable "refresh task failed") ∧
      (((Gate.boundless.getKey "http://k/" "a").gate.lookup? "http://k/").bind (·.key? "a")).isSome) ∧
    ((ofGate rotating).run (overtaken ++ [.move 1])).refusal? 1 = some (.unknownKey "b") ∧
    (((ofGate rotating).run (overtaken ++ [.move 1])).heldKey? "http://k/" "b").isSome := by
  refine ⟨⟨Gate.reached_endpointOf .., ?_, ?_⟩, ?_, ?_⟩ <;> decide +kernel

end Crowd

end TokenGate
