import TokenGate.Proofs.Cache.Pace
import TokenGate.Proofs.Cache.Requests

/-!
# What an entry tells about the refreshes of its endpoint

Each field of an entry is read off the refreshes that have ended: their number, the end of the last one,
its failure, and what the last one that brought keys has brought.
-/

namespace TokenGate

/-! ## Refreshes that bring keys -/

namespace Http.Exchange

/-- The exchange ended in a success, with a document of keys that can be read. -/
def Brings (x : Exchange) (epoch : Stamp) (fetched : Fetched) : Prop :=
  ∃ answer text entries, x.result = .ok answer ∧ 200 ≤ answer.status ∧ answer.status < 300 ∧
    answer.body = some text ∧ KeyDocument.entries? text = some entries ∧
    fetched.keys = entries.filterMap Jwk.ofJson? ∧
    fetched.hint = Freshness.hint? answer.fields (Clock.wallNanos epoch x.ended)

end Http.Exchange

theorem Fetched.ofExchange_eq_ok_iff {epoch : Stamp} {x : Http.Exchange} {fetched : Fetched} :
    ofExchange epoch x = .ok fetched ↔ x.Brings epoch fetched := by
  unfold ofExchange ofAnswer Http.Status.isSuccess
  constructor
  · intro h
    split at h
    · cases h
    · rename_i answer result
      split at h
      · cases h
      · rename_i success
        split at h
        · cases h
        · rename_i keys read
          obtain rfl := Except.ok.inj h
          obtain ⟨text, body, keys⟩ := Option.bind_eq_some_iff.1 read
          obtain ⟨entries, listed, rfl⟩ := Option.map_eq_some_iff.1 keys
          simp only [Bool.not_eq_true', Bool.not_eq_false, Bool.and_eq_true, decide_eq_true_eq] at success
          exact ⟨answer, text, entries, result, success.1, success.2, body, listed, rfl, rfl⟩
  · rintro ⟨answer, text, entries, result, least, most, body, listed, keys, hint⟩
    obtain ⟨_, _⟩ := fetched
    simp only at keys hint
    simp [result, least, most, body, KeyDocument.keys?, listed, keys, hint]

/-! ## The last attempt of a refresh -/

namespace RetryPolicy

variable {ε α σ : Type} (p : RetryPolicy) (mayPass : ε → Bool) (attempt : σ → Instant → Run ε α σ)

theorem attempts_eq_last (spare failures : Nat) (s : σ) (now : Instant) :
    ∃ t, (triesFrom p mayPass attempt spare failures s now).getLast? = some t ∧
      attempts p mayPass attempt spare failures s now = attempt t.1 t.2 := by
  induction spare generalizing failures s now with
  | zero => exact ⟨(s, now), rfl, rfl⟩
  | succ spare ih =>
    obtain ⟨result, ended, s', ran⟩ := (attempt s now).exists_eq
    cases result with
    | ok a => exact ⟨(s, now), by simp [triesFrom, ran], by simp [attempts, ran]⟩
    | error e =>
      simp only [triesFrom, attempts, ran]
      by_cases again : mayPass e
      · simp only [again, if_true]
        obtain ⟨t, last, same⟩ := ih (failures + 1) s' (ended.wake (p.pause failures))
        refine ⟨t, ?_, same⟩
        rw [List.getLast?_cons, last, Option.getD_some]
      · simp only [again, Bool.false_eq_true, if_false]
        exact ⟨(s, now), rfl, ran.symm⟩

end RetryPolicy

namespace Refresh

/-- The refresh asked for its endpoint what the gate could ask at that time, and came to what its last
attempt came to. -/
structure AskedOf (r : Refresh) (g : Gate) : Prop where
  started : r.started = g.now
  result : ∃ n t, (Fetched.tries g.settings g.epoch r.uri g.network g.now).getLast? = some (n, t) ∧
    (Http.Exchange.run g.settings.timeout n t r.uri).doneAt Http.Status.isSuccess ≤ r.ended ∧
    r.result = Fetched.ofExchange g.epoch (Http.Exchange.run g.settings.timeout n t r.uri) ∧
    ∀ fetched, r.result = .ok fetched ↔
      (Http.Exchange.run g.settings.timeout n t r.uri).Brings g.epoch fetched

theorem askedOf_of_run {r : Refresh} {g : Gate} (started : r.started = g.now)
    (ended : (Fetched.run g.settings g.epoch r.uri g.network g.now).ended ≤ r.ended)
    (result : r.result = (Fetched.run g.settings g.epoch r.uri g.network g.now).result) :
    r.AskedOf g := by
  obtain ⟨⟨n, t⟩, last, same⟩ := RetryPolicy.attempts_eq_last g.settings.retry FetchFault.mayPass
    (Fetched.attempt g.settings g.epoch r.uri) (max 1 g.settings.retry.maxAttempts - 1) 1 g.network g.now
  rw [Fetched.run, RetryPolicy.run, same] at ended result
  refine ⟨started, n, t, last, ended, result, fun fetched => ?_⟩
  rw [result]
  exact Fetched.ofExchange_eq_ok_iff

def fetched? (r : Refresh) : Option Fetched :=
  match r.result with
  | .ok fetched => some fetched
  | .error _ => none

def fault? (r : Refresh) : Option FetchFault :=
  match r.result with
  | .ok _ => none
  | .error fault => some fault

/-- The last refresh that brought keys, and what it brought. -/
def lastGood? (rs : List Refresh) : Option (Refresh × Fetched) :=
  (rs.filterMap fun r => r.fetched?.map (r, ·)).getLast?

variable {r : Refresh} {fetched : Fetched} {fault : FetchFault}

theorem lastGood?_snoc_ok (rs : List Refresh) (h : r.result = .ok fetched) :
    lastGood? (rs ++ [r]) = some (r, fetched) := by
  simp [lastGood?, fetched?, h]

theorem lastGood?_snoc_error (rs : List Refresh) (h : r.result = .error fault) :
    lastGood? (rs ++ [r]) = lastGood? rs := by
  simp [lastGood?, fetched?, h]

/-- The clock can show how long what the refresh brought is fresh. -/
def Lasts (s : FetchSettings) (floor : Span) (r : Refresh) : Prop :=
  r.fetched?.all fun fetched => (r.ended.plus? (Freshness.granted fetched.hint s.freshness floor)).isSome

instance (s : FetchSettings) (floor : Span) (r : Refresh) : Decidable (r.Lasts s floor) :=
  inferInstanceAs (Decidable (_ = true))

theorem lasts_iff_of_ok {s : FetchSettings} {floor : Span} (h : r.result = .ok fetched) :
    r.Lasts s floor ↔ ∃ t, r.ended.plus? (Freshness.granted fetched.hint s.freshness floor) = some t := by
  simp [Lasts, fetched?, h, Option.isSome_iff_exists]

end Refresh

theorem Freshness.le_granted (hint? : Option Span) (standard floor : Span) :
    floor.nanos ≤ (granted hint? standard floor).nanos := by
  unfold granted
  rw [Span.nanos_max]
  exact Nat.le_max_right ..

theorem Instant.nanos_of_plus? {t t' : Instant} {s : Span} (h : t.plus? s = some t') :
    t'.nanos = t.nanos + s.nanos := by
  unfold plus? at h
  split at h
  · rw [← Option.some.inj h]
    rfl
  · cases h

/-! ## The entry -/

namespace Entry

variable {s : FetchSettings} {e : Entry} {r : Refresh} {rs : List Refresh} {floor : Span}
  {fetched : Fetched} {fault : FetchFault}

/-- The fields of an entry after the refreshes `rs` of its endpoint. -/
structure Mirrors (e : Entry) (s : FetchSettings) (floor : Span) (rs : List Refresh) : Prop where
  floor_eq : e.floor = floor
  attempts : e.attempts = rs.length
  lastAttempt : e.lastAttempt = rs.getLast?.map (·.ended)
  lastError : e.lastError = (rs.getLast?.bind Refresh.fault?).map FetchFault.message
  held : e.held.map (·.keys) = (Refresh.lastGood? rs).map fun (_, fetched) => .ofKeys e.uri fetched.keys
  freshUntil : e.freshUntil = (Refresh.lastGood? rs).bind fun (r, fetched) =>
    r.ended.plus? (Freshness.granted fetched.hint s.freshness floor)
  /-- Keys are fresh as long as granted, and that is the floor at least. -/
  fresh : ∀ r fetched, Refresh.lastGood? rs = some (r, fetched) → ∃ t, e.freshUntil = some t ∧
    t.nanos = r.ended.nanos + (Freshness.granted fetched.hint s.freshness floor).nanos ∧
    r.ended.nanos + floor.nanos ≤ t.nanos

theorem mirrors_new (s : FetchSettings) (uri : String) (floor : Span) :
    (new uri floor).Mirrors s floor [] :=
  ⟨rfl, rfl, rfl, rfl, rfl, rfl, fun _ _ h => by cases h⟩

theorem publish_of_ok (h : r.result = .ok fetched) {t : Instant}
    (lasts : r.ended.plus? (Freshness.granted fetched.hint s.freshness e.floor) = some t) :
    e.publish s r = ⟨.ok ⟨.ofKeys e.uri fetched.keys, e.attempts + 1⟩,
      ⟨e.uri, e.floor, some ⟨.ofKeys e.uri fetched.keys, e.attempts + 1⟩, e.attempts + 1, some r.ended,
        some t, none⟩⟩ := by
  simp [publish, h, publishKeys, counted, lasts]

theorem publish_of_error (h : r.result = .error fault) :
    (e.publish s r).entry =
      ⟨e.uri, e.floor, e.held, e.attempts + 1, some r.ended, e.freshUntil, some fault.message⟩ := by
  simp [publish, h, publishFault, counted]

theorem Mirrors.publish (h : e.Mirrors s floor rs) (lasts : r.Lasts s floor) :
    (e.publish s r).entry.Mirrors s floor (rs ++ [r]) := by
  obtain ⟨rfl, attempts, -, -, held, freshUntil, fresh⟩ := h
  cases result : r.result with
  | ok fetched =>
    obtain ⟨t, shown⟩ := (Refresh.lasts_iff_of_ok result).1 lasts
    have good := Refresh.lastGood?_snoc_ok rs result
    have nanos := Instant.nanos_of_plus? shown
    have least := Freshness.le_granted fetched.hint s.freshness e.floor
    rw [publish_of_ok result shown]
    refine ⟨rfl, by simp [attempts], by simp, by simp [Refresh.fault?, result], by simp [good],
      by simp [good, shown], fun r' fetched' last => ?_⟩
    rw [good, Option.some.injEq, Prod.mk.injEq] at last
    obtain ⟨rfl, rfl⟩ := last
    exact ⟨t, rfl, nanos, by omega⟩
  | error fault =>
    have good := Refresh.lastGood?_snoc_error rs result
    rw [publish_of_error result]
    refine ⟨rfl, by simp [attempts], by simp, by simp [Refresh.fault?, result], by rw [good]; exact held,
      by rw [good]; exact freshUntil, fun r' fetched' last => ?_⟩
    rw [good] at last
    exact fresh r' fetched' last

theorem Mirrors.after (h : e.Mirrors s floor rs) (rs' : List Refresh)
    (lasts : ∀ r ∈ rs', r.Lasts s floor) : (e.after s rs').Mirrors s floor (rs ++ rs') := by
  induction rs' generalizing e rs with
  | nil => rwa [List.append_nil]
  | cons r rest ih =>
    rw [after_cons, List.append_cons]
    exact ih (h.publish (lasts r (by simp))) fun r' here => lasts r' (by simp [here])

/-! ## Failures and losses -/

theorem kept_of_failed (failed : ∀ r ∈ rs, r.fault?.isSome) :
    (e.after s rs).held = e.held ∧ (e.after s rs).freshUntil = e.freshUntil := by
  induction rs generalizing e with
  | nil => exact ⟨rfl, rfl⟩
  | cons r rest ih =>
    obtain ⟨held, freshUntil⟩ := ih (e := (e.publish s r).entry) fun r' here => failed r' (by simp [here])
    cases result : r.result with
    | ok fetched => simpa [Refresh.fault?, result] using failed r (by simp)
    | error fault =>
      rw [after_cons, held, freshUntil, publish_of_error result]
      exact ⟨rfl, rfl⟩

theorem isSome_held_publish (s : FetchSettings) (r : Refresh) (h : e.held.isSome) :
    (e.publish s r).entry.held.isSome := by
  unfold publish
  split
  · unfold publishKeys
    simp only
    split <;> rfl
  · exact h

theorem isSome_held_after (s : FetchSettings) (rs : List Refresh) (h : e.held.isSome) :
    (e.after s rs).held.isSome := by
  induction rs generalizing e with
  | nil => exact h
  | cons r rest ih => exact ih (isSome_held_publish s r h)

/-- Who publishes a refresh is answered what the entry then holds, unless the clock ran out. -/
theorem answer_publish (s : FetchSettings) (e : Entry) (r : Refresh) :
    (e.publish s r).answer = (e.publish s r).entry.joined ∨
      (e.publish s r).answer = .error refreshFailed ∧ ¬ r.Lasts s e.floor := by
  cases result : r.result with
  | error fault =>
    left
    unfold publish
    simp only [result]
    rfl
  | ok fetched =>
    cases shown : r.ended.plus? (Freshness.granted fetched.hint s.freshness e.floor) with
    | some t =>
      left
      rw [publish_of_ok result shown]
      rfl
    | none =>
      right
      refine ⟨by simp [publish, result, publishKeys, counted, shown], fun lasts => ?_⟩
      obtain ⟨t, shown'⟩ := (Refresh.lasts_iff_of_ok result).1 lasts
      rw [shown] at shown'
      cases shown'

theorem joined_of_held (h : e.held.isSome) : ∃ held, e.held = some held ∧ e.joined = .ok held := by
  obtain ⟨held, there⟩ := Option.isSome_iff_exists.1 h
  exact ⟨held, there, by simp [joined, there]⟩

theorem joined_of_serve {now : Instant} {held : HeldKeys} {behind : Bool}
    (h : e.decision now = .serve held behind) : e.joined = .ok held := by
  unfold decision at h
  split at h
  · rename_i there
    obtain ⟨rfl, -⟩ := Decision.serve.inj h
    simp [joined, there]
  · split at h <;> cases h

theorem bare_of_refuse {now : Instant} (h : e.decision now = .refuse) : e.held = none := by
  unfold decision at h
  split at h
  · cases h
  · assumption

@[simp] theorem floor_after (s : FetchSettings) (e : Entry) (rs : List Refresh) :
    (e.after s rs).floor = e.floor := by
  induction rs generalizing e with
  | nil => rfl
  | cons r rest ih => rw [after_cons, ih, floor_publish]

end Entry

/-! ## The gate -/

namespace Gate

variable {g g' : Gate} {uri : String} {e : Entry} {r : Refresh}

/-- The entry of an endpoint is what its refreshes have made of a new one. -/
def Replayed (g : Gate) (uri : String) : Prop :=
  ∀ e, g.lookup? uri = some e → e = (Entry.new uri e.floor).after g.settings (g.refreshes uri)

theorem Replayed.of_eq (h : g.Replayed uri) (settings : g'.settings = g.settings)
    (entry : g'.lookup? uri = g.lookup? uri) (refreshes : g'.refreshes uri = g.refreshes uri) :
    g'.Replayed uri := by
  unfold Replayed
  rw [settings, entry, refreshes]
  exact h

theorem Replayed.register (h : g.Replayed uri)
    (untracked : g.lookup? uri = none → g.refreshes uri = []) (other : String) (floor : Span) :
    (g.register other floor).Replayed uri := by
  intro e found
  rw [settings_register, refreshes_register]
  cases old : g.lookup? uri with
  | some e' =>
    rw [lookup?_register_of_some old] at found
    obtain rfl := Option.some.inj found
    exact h _ old
  | none =>
    rw [lookup?_register, old, Option.none_or] at found
    split at found
    · rename_i mine
      subst mine
      rw [untracked old, ← Option.some.inj found]
      rfl
    · cases found

theorem Replayed.publish (h : g.Replayed uri) (found : g.lookup? uri = some e) (mine : r.uri = uri) :
    (g.publishRefresh e r).2.Replayed uri := by
  intro e' found'
  rw [lookup?_publishRefresh found] at found'
  obtain rfl := Option.some.inj found'
  rw [refreshes_publishRefresh, if_pos mine, settings_publishRefresh, Entry.after_snoc,
    Entry.floor_publish, ← h e found]

theorem Replayed.publish_of_ne (h : g.Replayed uri) (entry : uri ≠ e.uri) (mine : r.uri ≠ uri) :
    (g.publishRefresh e r).2.Replayed uri := by
  refine h.of_eq rfl (lookup?_publishRefresh_of_ne entry) ?_
  rw [refreshes_publishRefresh, if_neg mine, List.append_nil]

theorem Replayed.mirrors (h : g.Replayed uri) (found : g.lookup? uri = some e)
    (lasts : ∀ r ∈ g.refreshes uri, r.Lasts g.settings e.floor) :
    e.Mirrors g.settings e.floor (g.refreshes uri) := by
  have whole := (Entry.mirrors_new g.settings uri e.floor).after (g.refreshes uri) lasts
  rwa [← h e found, List.nil_append] at whole

end Gate

end TokenGate
