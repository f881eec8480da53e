import TokenGate.Proofs.Config.Reading
import TokenGate.Proofs.Courtesy
import TokenGate.Proofs.Crowd.Record
import TokenGate.Proofs.Crowd.Unknown

/-!
# How fetched keys are stored

Keys are stored together with the time until which they are fresh. A configuration may set a floor that
leads past the last time that the clock can show. Keys are then stored all the same, but without that
time, and the caller is told that the refresh failed.
-/

namespace TokenGate

/-! ## What the clock can show -/

namespace Instant

variable {t : Instant} {s : Span}

def seconds (t : Instant) : Nat := t.nanos / Span.nanosPerSecond

/-- The first second that the clock cannot show. -/
def endSeconds : Nat := Nat.pow 2 63

/-- The clock can show the instant that comes so much later. -/
def Shows (t : Instant) (s : Span) : Prop := (t.plus s).seconds < endSeconds

instance (t : Instant) (s : Span) : Decidable (t.Shows s) := inferInstanceAs (Decidable (_ < _))

theorem plus?_of_shows (h : t.Shows s) : t.plus? s = some (t.plus s) := if_pos h

theorem plus?_of_not_shows (h : ¬ t.Shows s) : t.plus? s = none := if_neg h

theorem shows_of_le {n : Nat} (le : s.nanos ≤ n * Span.nanosPerSecond)
    (early : t.seconds + n < endSeconds) : t.Shows s := by
  simp only [Shows, seconds, plus, Span.nanosPerSecond] at *
  omega

theorem not_shows_of_le {n : Nat} (le : n * Span.nanosPerSecond ≤ s.nanos)
    (late : endSeconds ≤ t.seconds + n) : ¬ t.Shows s := by
  simp only [Shows, seconds, plus, Span.nanosPerSecond] at *
  omega

end Instant

theorem Freshness.granted_le (hint? : Option Span) (standard floor : Span) :
    (granted hint? standard floor).nanos ≤ max longest.nanos floor.nanos := by
  unfold granted
  rw [Span.nanos_max, Span.nanos_min]
  omega

/-! ## The entry -/

namespace Entry

/-- The keys that are to be stored, numbered by their refresh. -/
def fetchedKeys (e : Entry) (fetched : Fetched) : HeldKeys :=
  ⟨.ofKeys e.uri fetched.keys, e.attempts + 1⟩

/-- The keys are fresh until a time of the clock, and no failure is left. -/
structure Whole (e' : Entry) (freshUntil : Instant) (held : HeldKeys) (answer : KeyAnswer) : Prop where
  freshUntil : e'.freshUntil = some freshUntil
  lastError : e'.lastError = none
  answer : answer = .ok held

/-- Freshness and last failure are those of the entry before. -/
structure Half (e e' : Entry) (answer : KeyAnswer) : Prop where
  freshUntil : e'.freshUntil = e.freshUntil
  lastError : e'.lastError = e.lastError
  answer : answer = .error refreshFailed

/-- What becomes of an entry, and what the caller is told, when keys are stored that are to be fresh for
a while. -/
structure Stores (e e' : Entry) (ended : Instant) (fetched : Fetched) (fresh : Span)
    (answer : KeyAnswer) : Prop where
  attempts : e'.attempts = e.attempts + 1
  lastAttempt : e'.lastAttempt = some ended
  held : e'.held = some (e.fetchedKeys fetched)
  whole : ended.Shows fresh → e'.Whole (ended.plus fresh) (e.fetchedKeys fetched) answer
  half : ¬ ended.Shows fresh → e.Half e' answer

theorem publish_of_unshown {r : Refresh} {fetched : Fetched} {s : FetchSettings} {e : Entry}
    (h : r.result = .ok fetched)
    (unshown : r.ended.plus? (Freshness.granted fetched.hint s.freshness e.floor) = none) :
    e.publish s r =
      ⟨.error refreshFailed, { e.counted r with held := some (e.fetchedKeys fetched) }⟩ := by
  simp [publish, h, publishKeys, counted, unshown, fetchedKeys]

theorem stores_publish {r : Refresh} {fetched : Fetched} (s : FetchSettings) (e : Entry)
    (h : r.result = .ok fetched) :
    e.Stores (e.publish s r).entry r.ended fetched
      (Freshness.granted fetched.hint s.freshness e.floor) (e.publish s r).answer := by
  by_cases shows : r.ended.Shows (Freshness.granted fetched.hint s.freshness e.floor)
  · rw [publish_of_ok h (Instant.plus?_of_shows shows)]
    exact ⟨rfl, rfl, rfl, fun _ => ⟨rfl, rfl, rfl⟩, fun unshown => absurd shows unshown⟩
  · rw [publish_of_unshown h (Instant.plus?_of_not_shows shows)]
    exact ⟨rfl, rfl, rfl, fun shown => absurd shown shows, fun _ => ⟨rfl, rfl, rfl⟩⟩

end Entry

/-! ## The gate and the crowd -/

namespace Gate

variable {g : Gate} {uri : String} {e : Entry} {fetched : Fetched}

theorem stores_refresh (found : g.lookup? uri = some e)
    (ok : (Fetched.run g.settings g.epoch uri g.network g.now).result = .ok fetched) :
    ∃ e', (g.refresh e).2.lookup? uri = some e' ∧
      e.Stores e' (g.refresh e).2.now fetched (Freshness.granted fetched.hint g.settings.freshness e.floor)
        (g.refresh e).1 := by
  obtain rfl := uri_of_lookup? found
  let run := Fetched.run g.settings g.epoch e.uri g.network g.now
  let r : Refresh := ⟨e.uri, g.now, run.ended, run.result⟩
  refine ⟨(e.publish g.settings r).entry, ?_, Entry.stores_publish g.settings e ok⟩
  exact lookup?_publishRefresh (g := { g with now := run.ended, network := run.state }) found

end Gate

namespace Crowd

variable {c : Crowd} {n i : Nat} {uri uri' : String} {e : Entry} {r : Refresh} {errand : Errand}

theorem tells_published (joins : c.callers[i]? = some (.join uri' errand)) :
    (c.published n e r (some i)).callers[i]? =
      some (errand.next uri' (e.publish c.gate.settings r).answer c.gate.now) := by
  let after := { c with gate := (c.gate.publishRefresh e r).2 }.setPhase n .ended
  have waits : (after.release r.uri).callers[i]? = some (.join uri' errand) := by
    obtain ⟨s, there, rfl | rfl⟩ := moved_release (c := after) joins r.uri <;> exact there
  simp only [published, tell]
  rw [show ((({ c with gate := (c.gate.publishRefresh e r).2 } : Crowd).setPhase n .ended).release
    r.uri).callers[i]? = _ from waits]
  simp only [settle]
  rw [setCaller_self waits, gate_release]
  rfl

end Crowd

/-! ## A configured floor -/

namespace Config

variable {vars : Variables} {config : Config}

/-- A day is the longest that keys stay fresh, unless the floor is longer. -/
def freshSeconds (config : Config) : Nat := max 86400 config.floorSeconds

theorem shows_granted (accepted : ofVariables vars = .ok config) {t : Instant}
    (early : t.seconds + config.freshSeconds < Instant.endSeconds) (hint? : Option Span)
    (standard : Span) : t.Shows (Freshness.granted hint? standard config.floor) := by
  refine Instant.shows_of_le ?_ early
  have most := Freshness.granted_le hint? standard config.floor
  have day : Freshness.longest.nanos = 86400 * Span.nanosPerSecond := by decide
  rw [nanos_floor accepted, day] at most
  simp only [freshSeconds, Span.nanosPerSecond] at most ⊢
  omega

theorem not_shows_granted (accepted : ofVariables vars = .ok config) {t : Instant}
    (late : Instant.endSeconds ≤ t.seconds + config.floorSeconds) (hint? : Option Span)
    (standard : Span) : ¬ t.Shows (Freshness.granted hint? standard config.floor) :=
  Instant.not_shows_of_le (nanos_floor accepted ▸ Freshness.le_granted hint? standard config.floor) late

/-- What storing comes to for an endpoint with the configured floor. Keys are stored in any case. -/
structure Stores (config : Config) (e e' : Entry) (ended : Instant) (fetched : Fetched) (fresh : Span)
    (answer : KeyAnswer) : Prop extends e.Stores e' ended fetched fresh answer where
  early : ended.seconds + config.freshSeconds < Instant.endSeconds →
    e'.Whole (ended.plus fresh) (e.fetchedKeys fetched) answer
  late : Instant.endSeconds ≤ ended.seconds + config.floorSeconds → e.Half e' answer

theorem stores_of_floor (accepted : ofVariables vars = .ok config) {e e' : Entry} {ended : Instant}
    {fetched : Fetched} {s : FetchSettings} {answer : KeyAnswer} (floor : e.floor = config.floor)
    (h : e.Stores e' ended fetched (Freshness.granted fetched.hint s.freshness e.floor) answer) :
    config.Stores e e' ended fetched (Freshness.granted fetched.hint s.freshness e.floor) answer where
  toStores := h
  early early := h.whole (floor ▸ shows_granted accepted early ..)
  late late := h.half (by rw [floor]; exact not_shows_granted accepted late _ _)

theorem lasts_of_early (accepted : ofVariables vars = .ok config) {r : Refresh}
    (early : r.ended.seconds + config.freshSeconds < Instant.endSeconds) (s : FetchSettings) :
    r.Lasts s config.floor := by
  cases result : r.result with
  | error fault => simp [Refresh.Lasts, Refresh.fetched?, result]
  | ok fetched =>
    have shows := shows_granted accepted early fetched.hint s.freshness
    exact (Refresh.lasts_iff_of_ok result).2 ⟨_, Instant.plus?_of_shows shows⟩

/-- As long as the clock has that far to go, the entry of an endpoint with the configured floor tells
all of what its refreshes have come to. -/
def Records (config : Config) (g : Gate) (uri : String) : Prop :=
  ∀ e, g.lookup? uri = some e → e.floor = config.floor →
    g.now.seconds + config.freshSeconds < Instant.endSeconds →
    e.Mirrors g.settings config.floor (g.refreshes uri)

theorem records_of_replayed (accepted : ofVariables vars = .ok config) {g : Gate} {uri : String}
    (paced : g.Paced uri) (replayed : g.Replayed uri) : config.Records g uri := by
  intro e found floor early
  rw [← floor]
  refine replayed.mirrors found fun r here => ?_
  obtain ⟨-, t, last, ended⟩ := paced.last e found r here
  have past := paced.past e found t last
  have seconds : r.ended.seconds ≤ g.now.seconds := Nat.div_le_div_right (Nat.le_trans ended past)
  rw [floor]
  exact lasts_of_early accepted (by omega) g.settings

/-- Storing fetched keys for a caller who has the cache for itself, for a fetch among others, and over
a whole run. -/
structure Storing (config : Config) : Prop where
  alone : ∀ (g : Gate) (uri : String) (e : Entry) (fetched : Fetched), g.lookup? uri = some e →
    e.floor = config.floor →
    (Fetched.run g.settings g.epoch uri g.network g.now).result = .ok fetched →
    ∃ e', (g.refresh e).2.lookup? uri = some e' ∧
      config.Stores e e' (g.refresh e).2.now fetched
        (Freshness.granted fetched.hint g.settings.freshness e.floor) (g.refresh e).1
  /-- The fetch is over, and whoever waits for it is told. -/
  crowded : ∀ (c : Crowd) (n : Nat) (uri : String) (waiter : Option Nat) (started : Instant)
    (run : Fetched.Run) (e : Entry) (fetched : Fetched),
    c.fetches[n]? = some ⟨uri, waiter, .running started run⟩ → c.gate.lookup? uri = some e →
    e.floor = config.floor → run.result = .ok fetched → run.ended ≤ c.gate.now →
    ∃ e' answer, (c.finish n).gate.lookup? uri = some e' ∧
      config.Stores e e' c.gate.now fetched
        (Freshness.granted fetched.hint c.gate.settings.freshness e.floor) answer ∧
      (c.finish n).fetches[n]? = some ⟨uri, waiter, .ended⟩ ∧
      ∀ i uri' errand, waiter = some i → c.callers[i]? = some (.join uri' errand) →
        (c.finish n).callers[i]? = some (errand.next uri' answer c.gate.now)
  performed : ∀ (settings : FetchSettings) (epoch : Stamp) (network : Http.Network)
    (check : SignatureCheck) (validator : Option Validator) (calls : List Call) (uri : String),
    config.Records ((Scene.new (.new settings epoch network) check validator).performed calls).gate uri
  run : ∀ (settings : FetchSettings) (epoch : Stamp) (network : Http.Network)
    (actions : List Crowd.Action) (uri : String),
    config.Records ((Crowd.ofGate (.new settings epoch network)).run actions).gate uri

theorem storing_of_accepted (accepted : ofVariables vars = .ok config) : config.Storing where
  alone g uri e fetched found floor ok := by
    obtain ⟨e', there, stores⟩ := Gate.stores_refresh found ok
    exact ⟨e', there, stores_of_floor accepted floor stores⟩
  crowded c n uri waiter started run e fetched flying found floor ok past := by
    let r : Refresh := ⟨uri, started, c.gate.now, run.result⟩
    have finish : c.finish n = c.published n e r waiter := by
      simp only [Crowd.finish, flying, found, past, if_true]
      rfl
    refine ⟨(e.publish c.gate.settings r).entry, (e.publish c.gate.settings r).answer, ?_,
      stores_of_floor accepted floor (Entry.stores_publish _ e (r := r) ok), ?_, ?_⟩
    · rw [finish, Crowd.gate_published, Gate.lookup?_publishRefresh found]
    · rw [finish, Crowd.fetches_published, Crowd.getElem?_setPhase, if_pos rfl, flying]
      rfl
    · rintro i uri' errand rfl joins
      rw [finish, Crowd.tells_published joins]
  performed settings epoch network check validator calls uri := by
    have paced := Gate.paced_new settings epoch network uri
    exact records_of_replayed accepted (Scene.paced_performed paced calls)
      (Scene.replayed_performed paced (fun e found => by cases found) calls)
  run settings epoch network actions uri := by
    have paced := Gate.paced_new settings epoch network
    have orderly := Crowd.orderly_ofGate (.new settings epoch network)
    have steady := Crowd.steady_ofGate paced
    exact records_of_replayed accepted ((steady.run orderly actions).paced uri)
      (Crowd.replayed_run steady orderly (fun e found => by cases found) actions)

/-! ## Two floors -/

def floorVariables (seconds : String) : Variables :=
  [("AUTH_AUD", "u"), ("AUTH_ISSUER", "i"), ("JWKS_MIN_REFRESH_SECONDS", seconds)]

def withFloor (seconds : Nat) : Config where
  bindAddress := "0.0.0.0:8080"
  provider := .oidc
  audience := "u"
  discoveryUrl := Oidc.discoveryUrl "i"
  issuer := some "i"
  tenantId := none
  poolId := none
  leewaySeconds := 10
  floorSeconds := seconds
  refreshPeriodSeconds := 300
  drainSeconds := 5

def newcomer (config : Config) : Entry := .new "http://k/" config.floor

theorem floor_newcomer (config : Config) : (newcomer config).floor = config.floor := rfl

/-- A server with one key, which nobody has asked for yet. -/
def fetching (config : Config) : Gate := Crowd.rotating.register "http://k/" config.floor

def oneKey : Fetched := ⟨[⟨"OKP", some "a", none, none, none, none, some "Ed25519", some "", none⟩], none⟩

/-- With a floor of one minute the keys are there, and fresh for five. -/
theorem keys_stored_with_short_floor :
    ∃ e', ((fetching (withFloor 60)).refresh (newcomer (withFloor 60))).2.lookup? "http://k/" = some e' ∧
      e'.Whole ⟨300000000000⟩ ((newcomer (withFloor 60)).fetchedKeys oneKey)
        ((fetching (withFloor 60)).refresh (newcomer (withFloor 60))).1 := by
  have accepted : ofVariables (floorVariables "60") = .ok (withFloor 60) := by decide +kernel
  obtain ⟨e', there, stores⟩ := (storing_of_accepted accepted).alone (fetching (withFloor 60))
    "http://k/" (newcomer (withFloor 60)) oneKey (by decide +kernel)
    (floor_newcomer _) (by decide +kernel)
  have early : ((fetching (withFloor 60)).refresh (newcomer (withFloor 60))).2.now.seconds +
      (withFloor 60).freshSeconds < Instant.endSeconds := by decide +kernel
  have fresh : ((fetching (withFloor 60)).refresh (newcomer (withFloor 60))).2.now.plus
      (Freshness.granted oneKey.hint (fetching (withFloor 60)).settings.freshness
        (newcomer (withFloor 60)).floor) = ⟨300000000000⟩ := by decide +kernel
  rw [← fresh]
  exact ⟨e', there, stores.early early⟩

/-- With the longest floor that a configuration may set, the keys are there, and the caller is told that
there are none. -/
theorem keys_stored_and_denied :
    ofVariables (floorVariables "18446744073709551615") = .ok (withFloor 18446744073709551615) ∧
    ((fetching (withFloor 18446744073709551615)).get "http://k/").answer = .error Entry.refreshFailed ∧
    (((fetching (withFloor 18446744073709551615)).get "http://k/").gate.lookup? "http://k/").map
        (fun e => (e.attempts, e.held.map (·.keys.size), e.freshUntil)) = some (1, some 1, none) := by
  refine ⟨?_, ?_, ?_⟩ <;> decide +kernel

end Config

end TokenGate
