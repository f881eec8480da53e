import TokenGate.Proofs.Cache.Keys
import TokenGate.Proofs.Reach
import TokenGate.Proofs.Storing

/-!
# Asking for the keys of an endpoint

Who asks for keys is given what is there, and sets off a refresh if that is stale and has rested. Where
nothing is there yet the caller waits for a refresh, as far as the floor allows.
-/

namespace TokenGate

theorem Entry.mayRefresh_iff_rested {e : Entry} {now : Instant}
    (past : ∀ t, e.lastAttempt = some t → t ≤ now) : e.mayRefresh now ↔ e.Rested now := by
  refine ⟨fun may => rested_of_mayRefresh may (Nat.le_refl _) past, fun rested => ?_⟩
  unfold mayRefresh
  split
  · rfl
  · rename_i t last
    have rest := rested t last
    have cut := Span.nanos_ofNanos (now.nanos - t.nanos)
    have most := e.floor.le_longest
    simp only [decide_eq_true_eq]
    change e.floor.nanos ≤ (now.since t).nanos
    rw [Instant.since, cut]
    omega

theorem Entry.isStale_iff {e : Entry} {now : Instant} :
    e.isStale now ↔ ∀ t, e.freshUntil = some t → t ≤ now := by
  unfold isStale
  split
  · rename_i never
    simp [never]
  · rename_i t until_
    simp [until_]

namespace Gate

variable {g g' : Gate} {uri other : String} {e : Entry} {held : HeldKeys}

/-! ## The next refresh -/

/-- What a refresh that begins now will come to. -/
def nextRefresh (g : Gate) (uri : String) : Refresh :=
  let run := Fetched.run g.settings g.epoch uri g.network g.now
  ⟨uri, g.now, run.ended, run.result⟩

theorem askedOf_nextRefresh (g : Gate) (uri : String) : (g.nextRefresh uri).AskedOf g :=
  Refresh.askedOf_of_run rfl (Nat.le_refl _) rfl

/-- The endpoint has been asked and refreshed once, and no other one. -/
structure RefreshedOnce (g g' : Gate) (uri : String) : Prop where
  asked : (g.nextRefresh uri).AskedOf g
  here : g.Grown g' uri [g.nextRefresh uri]
  elsewhere : ∀ other, other ≠ uri → g.Grown g' other []

theorem refreshedOnce_refresh (found : g.lookup? uri = some e) :
    g.RefreshedOnce (g.refresh e).2 uri := by
  obtain rfl := uri_of_lookup? found
  let run := Fetched.run g.settings g.epoch e.uri g.network g.now
  have moved (other : String) : g.Grown { g with now := run.ended, network := run.state } other [] :=
    .of_eq rfl rfl rfl fun _ there => there
  refine ⟨askedOf_nextRefresh g e.uri, (moved e.uri).trans (grown_publishRefresh found rfl),
    fun other away => ?_⟩
  exact (moved other).trans (grown_publishRefresh_of_ne away (Ne.symm away))

theorem answer_refresh (found : g.lookup? uri = some e) :
    (g.refresh e).1 = (e.publish g.settings (g.nextRefresh uri)).answer := by
  obtain rfl := uri_of_lookup? found
  rfl

theorem now_refresh (found : g.lookup? uri = some e) :
    (g.refresh e).2.now = (g.nextRefresh uri).ended := by
  obtain rfl := uri_of_lookup? found
  rfl

/-! ## What is always true of an entry -/

theorem Settled.numbered (h : g.Settled) (found : g.lookup? uri = some e) : e.Numbered := by
  rw [h.replayed uri e found]
  exact (Entry.numbered_new uri e.floor).after _ _

theorem Settled.rested_iff (h : g.Settled) (found : g.lookup? uri = some e) :
    e.mayRefresh g.now ↔ e.Rested g.now :=
  Entry.mayRefresh_iff_rested ((h.paced uri).past e found)

theorem Settled.isDue_iff (h : g.Settled) (found : g.lookup? uri = some e) :
    e.isDue g.now ↔ (∀ t, e.freshUntil = some t → t ≤ g.now) ∧ e.Rested g.now := by
  unfold Entry.isDue
  rw [Bool.and_eq_true, Entry.isStale_iff, h.rested_iff found]

theorem Settled.unavailable (h : g.Settled) (found : g.lookup? uri = some e) (bare : e.held = none)
    (early : ¬ e.Rested g.now) : ∃ r fault, (g.refreshes uri).getLast? = some r ∧
      r.result = .error fault ∧ e.unavailable = .keysUnavailable fault.message := by
  have failed : ∀ r ∈ g.refreshes uri, r.fault?.isSome := by
    refine Entry.failed_of_bare (s := g.settings) (e := .new uri e.floor) ?_
    rw [← h.replayed uri e found, bare]
  -- a failed refresh grants nothing that the clock would have to show
  have mirrors := (h.replayed uri).mirrors found fun r here => Entry.lasts_of_failed (failed r here)
  obtain ⟨t, last, -⟩ : ∃ t, e.lastAttempt = some t ∧ ¬ t.nanos + e.floor.nanos ≤ g.now.nanos := by
    simpa [Entry.Rested] using early
  rw [mirrors.lastAttempt] at last
  obtain ⟨r, there, -⟩ := Option.map_eq_some_iff.1 last
  obtain ⟨fault, told⟩ := Option.isSome_iff_exists.1 (failed r (List.mem_of_getLast? there))
  refine ⟨r, fault, there, ?_, ?_⟩
  · unfold Refresh.fault? at told
    split at told
    · cases told
    · rename_i result
      rw [result, Option.some.inj told]
  · unfold Entry.unavailable
    rw [mirrors.lastError, there, Option.bind_some, told]
    rfl

end Gate

/-! ## Texts -/

namespace Entry

/-- The text for an endpoint of which no refresh has told anything. -/
def unexplained : AuthError := .keysUnavailable "no key set fetched yet"

theorem ne_unexplained {first text : String} {c : Char} (starts : first.toList.head? = some c)
    (other : c ≠ 'n') : AuthError.keysUnavailable (first ++ text) ≠ unexplained := by
  intro same
  have chars := congrArg (·.toList.head?) (AuthError.keysUnavailable.inj same)
  simp only [String.toList_append, List.head?_append, starts, Option.some_or] at chars
  exact other (Option.some.inj (chars.trans (by decide : _ = some 'n')))

theorem fault_ne_unexplained (fault : FetchFault) : .keysUnavailable fault.message ≠ unexplained := by
  cases fault with
  | transport => exact ne_unexplained (c := 'r') (by decide) (by decide)
  | status => exact ne_unexplained (c := 'u') (by decide) (by decide)
  | document => exact ne_unexplained (c := 'i') (by decide) (by decide)

end Entry

namespace Gate

variable {g g' : Gate} {uri other : String} {e : Entry} {held : HeldKeys}

theorem unregistered_ne_unexplained (uri : String) : unregistered uri ≠ Entry.unexplained := by
  unfold unregistered
  rw [String.append_assoc]
  exact Entry.ne_unexplained (c := 'J') (by decide) (by decide)

/-! ## Getting keys -/

theorem get_of_untracked (none : g.lookup? uri = none) :
    g.get uri = g.reply (.error (unregistered uri)) := by
  unfold get
  simp only [none]

theorem get_of_serve {behind : Bool} (found : g.lookup? uri = some e)
    (serve : e.decision g.now = .serve held behind) :
    g.get uri = ⟨.ok held, g.now, if behind then (g.refresh e).2 else g⟩ := by
  unfold get
  simp only [found, serve]
  cases behind <;> rfl

theorem get_of_fetch (found : g.lookup? uri = some e) (fetch : e.decision g.now = .fetch) :
    g.get uri = (g.refresh e).2.reply (g.refresh e).1 := by
  unfold get
  simp only [found, fetch]

theorem get_of_refuse (found : g.lookup? uri = some e) (refuse : e.decision g.now = .refuse) :
    g.get uri = g.reply (.error e.unavailable) := by
  unfold get
  simp only [found, refuse]

end Gate

theorem Entry.decision_of_bare {e : Entry} (bare : e.held = none) (now : Instant) :
    e.decision now = if e.mayRefresh now then .fetch else .refuse := by
  unfold decision
  rw [bare]

theorem Entry.joined_eq_ok_iff {e : Entry} {held : HeldKeys} :
    e.joined = .ok held ↔ e.held = some held := by
  unfold joined
  split
  · rename_i there
    simp [there]
  · rename_i bare
    simp [bare]

/-- What is told of a refresh to the caller who has waited for it. -/
structure Entry.Told (e : Entry) (s : FetchSettings) (r : Refresh) (answer : KeyAnswer) : Prop where
  failed : ∀ fault, r.result = .error fault → answer = .error (.keysUnavailable fault.message)
  brought : ∀ fetched, r.result = .ok fetched → r.Lasts s e.floor →
    answer = .ok ⟨.ofKeys e.uri fetched.keys, e.attempts + 1⟩
  /-- The clock cannot show how long the keys are fresh. -/
  broken : ∀ fetched, r.result = .ok fetched → ¬ r.Lasts s e.floor → answer = .error refreshFailed

theorem Entry.told_publish {e : Entry} (s : FetchSettings) (r : Refresh) (bare : e.held = none) :
    e.Told s r (e.publish s r).answer where
  failed fault result := by
    simp [publish, result, publishFault, joined, counted, bare, unavailable]
  brought fetched result lasts := by
    obtain ⟨t, shown⟩ := (Refresh.lasts_iff_of_ok result).1 lasts
    rw [publish_of_ok result shown]
  broken fetched result runsOut := by
    have unshown : r.ended.plus? (Freshness.granted fetched.hint s.freshness e.floor) = none :=
      Option.eq_none_iff_forall_ne_some.2 fun t shown =>
        runsOut ((Refresh.lasts_iff_of_ok result).2 ⟨t, shown⟩)
    rw [publish_of_unshown result unshown]

theorem Entry.Told.ne_unexplained {e : Entry} {s : FetchSettings} {r : Refresh} {answer : KeyAnswer}
    (h : e.Told s r answer) : answer ≠ .error unexplained := by
  intro same
  cases result : r.result with
  | error fault =>
    rw [h.failed fault result] at same
    exact fault_ne_unexplained fault (Except.error.inj same)
  | ok fetched =>
    by_cases lasts : r.Lasts s e.floor
    · rw [h.brought fetched result lasts] at same
      cases same
    · rw [h.broken fetched result lasts] at same
      exact absurd (Except.error.inj same) (by decide)

namespace Gate

/-- The gate when a caller has the keys that it asked for: as it was, if there were keys already. -/
def whenServed (g : Gate) (uri : String) : Gate :=
  if ((g.lookup? uri).bind (·.held)).isSome then g else (g.get uri).gate

/-- What comes of asking for the keys of an endpoint. -/
structure ServesKeys (g : Gate) (uri : String) : Prop where
  unregistered : g.lookup? uri = none →
    (∃ detail, (g.get uri).answer = .error (.keysUnavailable detail)) ∧ (g.get uri).gate = g
  /-- Keys that are there are given at once. -/
  held : ∀ e held, g.lookup? uri = some e → e.held = some held →
    (g.get uri).answer = .ok held ∧ (g.get uri).time = g.now
  behind : ∀ e, g.lookup? uri = some e → e.held.isSome →
    (∀ t, e.freshUntil = some t → t ≤ g.now) → e.Rested g.now →
    g.RefreshedOnce (g.get uri).gate uri
  quiet : ∀ e, g.lookup? uri = some e → e.held.isSome →
    ¬ ((∀ t, e.freshUntil = some t → t ≤ g.now) ∧ e.Rested g.now) → (g.get uri).gate = g
  cold : ∀ e, g.lookup? uri = some e → e.held = none → e.Rested g.now →
    g.RefreshedOnce (g.get uri).gate uri ∧
      e.Told g.settings (g.nextRefresh uri) (g.get uri).answer
  early : ∀ e, g.lookup? uri = some e → e.held = none → ¬ e.Rested g.now → (g.get uri).gate = g ∧
    ∃ r fault, (g.refreshes uri).getLast? = some r ∧ r.result = .error fault ∧
      (g.get uri).answer = .error (.keysUnavailable fault.message)
  explained : (g.get uri).answer ≠ .error Entry.unexplained
  /-- The next caller is given the same keys, unless a refresh has brought some in between. -/
  again : ∀ g' held held', (g.get uri).gate.Leads g' → (g.get uri).answer = .ok held →
    (g'.get uri).answer = .ok held' → ∃ rs,
      (g'.whenServed uri).refreshes uri = (g.whenServed uri).refreshes uri ++ rs ∧
        (held' = held ↔ ∀ r ∈ rs, r.fault?.isSome)

variable {g g' : Gate} {uri other : String} {e : Entry} {held held' : HeldKeys}

theorem leads_whenServed (g : Gate) (uri : String) :
    g.Leads (g.whenServed uri) ∧ (g.whenServed uri).Leads (g.get uri).gate := by
  unfold whenServed
  split
  · exact ⟨.refl, g.leads_get uri⟩
  · exact ⟨g.leads_get uri, .refl⟩

theorem held_whenServed (h : (g.get uri).answer = .ok held) :
    ∃ e, (g.whenServed uri).lookup? uri = some e ∧ e.held = some held := by
  cases found : g.lookup? uri with
  | none =>
    rw [get_of_untracked found] at h
    cases h
  | some e =>
    unfold whenServed
    rw [found, Option.bind_some]
    cases there : e.held with
    | some held' =>
      rw [get_of_serve found (decision_of_held there g.now)] at h
      obtain rfl := Except.ok.inj h
      exact ⟨e, found, there⟩
    | none =>
      simp only [Option.isSome_none, Bool.false_eq_true, if_false]
      cases may : e.mayRefresh g.now with
      | true =>
        have fetch := Entry.decision_of_bare there g.now
        rw [may, if_pos rfl] at fetch
        rw [get_of_fetch found fetch] at h ⊢
        have once := (refreshedOnce_refresh found).here.entry e found
        refine ⟨_, once, ?_⟩
        have told : (e.publish g.settings (g.nextRefresh uri)).answer = .ok held :=
          (answer_refresh found).symm.trans h
        obtain joined | ⟨failed, -⟩ := e.answer_publish g.settings (g.nextRefresh uri)
        · exact Entry.joined_eq_ok_iff.1 (joined.symm.trans told)
        · rw [failed] at told
          cases told
      | false =>
        have refuse := Entry.decision_of_bare there g.now
        rw [may, if_neg (by decide)] at refuse
        rw [get_of_refuse found refuse] at h
        cases h

theorem Settled.get_cold (h : g.Settled) (found : g.lookup? uri = some e) (bare : e.held = none)
    (rested : e.Rested g.now) : g.RefreshedOnce (g.get uri).gate uri ∧
      e.Told g.settings (g.nextRefresh uri) (g.get uri).answer := by
  have fetch := Entry.decision_of_bare bare g.now
  rw [if_pos ((h.rested_iff found).2 rested)] at fetch
  rw [get_of_fetch found fetch]
  refine ⟨refreshedOnce_refresh found, ?_⟩
  simp only [reply]
  rw [answer_refresh found]
  exact Entry.told_publish g.settings (g.nextRefresh uri) bare

theorem Settled.get_early (h : g.Settled) (found : g.lookup? uri = some e) (bare : e.held = none)
    (early : ¬ e.Rested g.now) : (g.get uri).gate = g ∧
      ∃ r fault, (g.refreshes uri).getLast? = some r ∧ r.result = .error fault ∧
        (g.get uri).answer = .error (.keysUnavailable fault.message) := by
  have refuse := Entry.decision_of_bare bare g.now
  rw [if_neg (mt (h.rested_iff found).1 early)] at refuse
  rw [get_of_refuse found refuse]
  obtain ⟨r, fault, last, failed, text⟩ := h.unavailable found bare early
  exact ⟨rfl, r, fault, last, failed, congrArg Except.error text⟩

theorem Settled.get_explained (h : g.Settled) (uri : String) :
    (g.get uri).answer ≠ .error Entry.unexplained := by
  intro same
  cases found : g.lookup? uri with
  | none =>
    rw [get_of_untracked found] at same
    exact unregistered_ne_unexplained uri (Except.error.inj same)
  | some e =>
    cases there : e.held with
    | some held =>
      rw [get_of_serve found (decision_of_held there g.now)] at same
      cases same
    | none =>
      by_cases rested : e.Rested g.now
      · exact (h.get_cold found there rested).2.ne_unexplained same
      · obtain ⟨-, r, fault, -, -, told⟩ := h.get_early found there rested
        exact Entry.fault_ne_unexplained fault (Except.error.inj (told.symm.trans same))

theorem servesKeys_of_reached (h : g.Reached) (uri : String) : g.ServesKeys uri where
  unregistered none := by
    rw [get_of_untracked none]
    exact ⟨⟨_, rfl⟩, rfl⟩
  held e held found there := by
    rw [get_of_serve found (decision_of_held there g.now)]
    exact ⟨rfl, rfl⟩
  behind e found held stale rested := by
    obtain ⟨held, there⟩ := Option.isSome_iff_exists.1 held
    have due := (h.settled.isDue_iff found).2 ⟨stale, rested⟩
    rw [get_of_serve found (decision_of_held there g.now), due]
    exact refreshedOnce_refresh found
  quiet e found held rests := by
    obtain ⟨held, there⟩ := Option.isSome_iff_exists.1 held
    have due := Bool.eq_false_iff.2 (mt (h.settled.isDue_iff found).1 rests)
    rw [get_of_serve found (decision_of_held there g.now), due]
    rfl
  cold e found bare rested := h.settled.get_cold found bare rested
  early e found bare early := h.settled.get_early found bare early
  explained := h.settled.get_explained uri
  again g' held held' later first second := by
    obtain ⟨e, found, there⟩ := held_whenServed first
    obtain ⟨e', found', there'⟩ := held_whenServed second
    have leads : (g.whenServed uri).Leads (g'.whenServed uri) :=
      ((g.leads_whenServed uri).2.trans later).trans (g'.leads_whenServed uri).1
    obtain ⟨rs, grown⟩ := leads.grown uri
    refine ⟨rs, grown.refreshes, ?_⟩
    obtain rfl := Option.some.inj (found'.symm.trans (grown.entry e found))
    have settled := (h.leads (g.leads_whenServed uri).1).settled
    exact Entry.held_after_eq_iff (settled.numbered found) there there'

/-! ## A first fetch -/

def endpointOf (g : Gate) (floor : Span) : Gate := g.register "http://k/" floor

theorem reached_endpointOf (settings : FetchSettings) (epoch : Stamp) (network : Http.Network)
    (floor : Span) : ((new settings epoch network).endpointOf floor).Reached :=
  ⟨settings, epoch, network, leads_call _ (.register "http://k/" floor)⟩

/-- A new endpoint is refreshed for its first caller, and not for the next one, who is given the same
keys. -/
theorem rotating_keys_served_twice :
    let g := Crowd.rotating.endpointOf (.ofSeconds 60)
    g.RefreshedOnce (g.get "http://k/").gate "http://k/" ∧
    ∃ held, (g.get "http://k/").answer = .ok held ∧
      ((g.get "http://k/").gate.get "http://k/").answer = .ok held := by
  intro g
  have reached : g.Reached := reached_endpointOf ..
  have serves := servesKeys_of_reached reached "http://k/"
  have found : g.lookup? "http://k/" = some (.new "http://k/" (.ofSeconds 60)) := by decide
  obtain ⟨once, told⟩ := serves.cold _ found rfl (fun t last => by cases last)
  refine ⟨once, ?_⟩
  cases result : (g.nextRefresh "http://k/").result with
  | error =>
    have ok : (g.nextRefresh "http://k/").fault? = none := by decide +kernel
    simp [Refresh.fault?, result] at ok
  | ok fetched =>
    have first := told.brought fetched result (by decide +kernel)
    refine ⟨_, first, ?_⟩
    have later := servesKeys_of_reached (reached.leads (g.leads_get "http://k/")) "http://k/"
    obtain ⟨e, found', there⟩ := held_whenServed first
    exact (later.held e _ found' there).1

/-- The longest floor that a configuration may set. The clock cannot show its end. -/
def boundless : Gate := Crowd.rotating.endpointOf (.ofSeconds 18446744073709551615)

/-- Half of what the clock can show has gone by since the first refresh, and that is the floor. -/
def aged : Gate :=
  let floor := Span.ofSeconds 4611686018427387904
  ((Crowd.rotating.endpointOf floor).get "http://k/").gate.wait floor

def keysNumber? (a : Answered KeyAnswer) : Option Nat := a.answer.toOption.map (·.refreshNumber)

/-- The refresh of a first caller brings keys, which are stored, and the caller is given neither them nor
an error of the refresh. A later refresh of this kind gives other callers new keys. -/
theorem fetched_keys_not_given :
    (boundless.Reached ∧ (boundless.lookup? "http://k/").map (·.held) = some none ∧
      ((boundless.get "http://k/").gate.refreshes "http://k/").map (·.fault?) = [none] ∧
      ((((boundless.get "http://k/").gate.lookup? "http://k/").bind (·.held)).bind
        (·.keys.get? "a")).isSome ∧
      (boundless.get "http://k/").answer = .error (.keysUnavailable "refresh task failed")) ∧
    keysNumber? (aged.get "http://k/") = some 1 ∧
    ((aged.get "http://k/").gate.refreshes "http://k/").map
      (fun r => decide (r.Lasts aged.settings (.ofSeconds 4611686018427387904))) = [true, false] ∧
    keysNumber? ((aged.get "http://k/").gate.get "http://k/") = some 2 := by
  refine ⟨⟨reached_endpointOf .., ?_, ?_, ?_, ?_⟩, ?_, ?_, ?_⟩ <;> decide +kernel

end Gate

end TokenGate
