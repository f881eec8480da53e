import TokenGate.Proofs.Keyless
import TokenGate.Proofs.Ledger
import TokenGate.Proofs.Roster
import TokenGate.Proofs.Text.Bytes

/-!
# What the service tells of itself

Status, health and readiness say what is so: which endpoints there are, which of them have keys, how
many, and whether these are fresh. Asking changes nothing. Once the service is ready it stays ready,
whatever fails later, until a new endpoint is registered.
-/

namespace TokenGate

/-! ## The status -/

namespace Gate

variable {g : Gate} {uri : String} {e : Entry}

/-- The status of an endpoint, of which the gate has the entry `e`, is true. -/
structure Shows (g : Gate) (st : Entry.Status) (e : Entry) : Prop where
  ready : st.ready ↔ ∃ r ∈ g.refreshes st.uri, r.Succeeds
  /-- The keys that are held are those of the last refresh that brought any. -/
  held : e.held.map (·.keys) = (Refresh.lastGood? (g.refreshes st.uri)).map fun (_, fetched) =>
    .ofKeys st.uri fetched.keys
  keyCount : st.keyCount = (e.held.map (·.keys.size)).getD 0
  stale : st.stale ↔ e.Outdated g.now ∨ e.Undated
  /-- As long as the clock can show how long keys are fresh, held keys have such a time. -/
  timed : (∀ r ∈ g.refreshes st.uri, r.Lasts g.settings e.floor) →
    (e.held.isSome ↔ e.freshUntil.isSome) ∧ (st.stale ↔ e.Outdated g.now)

theorem Settled.isSome_held_iff_freshUntil (h : g.Settled) (found : g.lookup? uri = some e)
    (lasts : ∀ r ∈ g.refreshes uri, r.Lasts g.settings e.floor) : e.held.isSome ↔ e.freshUntil.isSome := by
  have mirrors := (h.replayed uri).mirrors found lasts
  refine ⟨fun held => ?_, fun until_ => ?_⟩
  · rw [← Option.isSome_map (f := (·.keys)), mirrors.held, Option.isSome_map] at held
    obtain ⟨⟨r, fetched⟩, last⟩ := Option.isSome_iff_exists.1 held
    obtain ⟨t, shown, -⟩ := mirrors.fresh r fetched last
    exact Option.isSome_of_eq_some shown
  · rw [Option.isSome_iff_ne_none]
    intro bare
    rw [h.freshUntil_of_bare found bare] at until_
    cases until_

theorem Settled.shows (h : g.Settled) (found : g.lookup? uri = some e) :
    g.Shows (e.status g.now) e := by
  obtain rfl := uri_of_lookup? found
  refine ⟨h.isSome_held_iff found, h.heldKeys found, ?_, h.isStale_iff found _, fun lasts => ?_⟩
  · cases held : e.held <;> simp [Entry.status, held]
  · have timed := h.isSome_held_iff_freshUntil found lasts
    refine ⟨timed, (h.isStale_iff found g.now).trans (or_iff_left fun undated => ?_)⟩
    have known := timed.1 undated.1
    rw [undated.2] at known
    cases known

theorem mem_status_iff {st : Entry.Status} : st ∈ g.status ↔ ∃ e ∈ g.entries, e.status g.now = st := by
  simp [status]

theorem uris_status (g : Gate) : g.status.map (·.uri) = g.uris.mergeSort fun a b => decide (a ≤ b) := by
  have sorted := List.map_mergeSort (r := fun a b : Entry.Status => decide (a.uri ≤ b.uri))
    (s := fun a b => decide (a ≤ b)) (f := Entry.Status.uri) (l := g.entries.map (·.status g.now))
    fun _ _ _ _ => rfl
  rw [List.map_map] at sorted
  exact sorted

end Gate

/-! ## Health and readiness -/

namespace Service

variable {g : Gate} {check : SignatureCheck} {v : Validator} {r : Request}

theorem route?_of_open {route : Route} (path : route.path ∈ openPaths) :
    App.service.route? route.path = some route := by
  cases route <;> first | rfl | exact absurd path (by decide)

theorem response_of_open (route : Route) (place : r.path = route.path)
    (path : route.path ∈ openPaths) (reads : r.reads) :
    (g.request check v .service r).answer.response = finish r (handle g none route) := by
  rw [request_of_none (guardedToken?_of_open (place ▸ path))]
  unfold Gate.reply serve respond allowing guarded dispatch
  rw [place, route?_of_open path]
  simp [reads]

theorem isReady_iff {endpoints : List Entry.Status} :
    isReady endpoints ↔ endpoints ≠ [] ∧ ∀ st ∈ endpoints, st.ready := by
  simp [isReady]

end Service

namespace Gate

open Service

variable {g g' : Gate} {uri : String} {e : Entry} {registered later : List (String × Span)}

/-- The answer to a request for `/ready`. -/
def readyStatus (g : Gate) (check : SignatureCheck) (v : Validator) (r : Request) : Nat :=
  (g.request check v .service r).answer.response.status

/-- Since it was new, the gate has registered the endpoints `registered`. What it tells of them is so. -/
structure Honest (g : Gate) (registered : List (String × Span)) : Prop where
  listed : ∀ uri, uri ∈ g.status.map (·.uri) ↔ uri ∈ registered.map (·.1)
  ascending : (g.status.map (·.uri)).Pairwise fun a b => Text.toBytes a < Text.toBytes b
  floor : ∀ uri, (g.lookup? uri).map (·.floor) = registered.lookup uri
  again : ∀ uri floor, uri ∈ registered.map (·.1) → g.register uri floor = g
  shown : ∀ st ∈ g.status, ∃ e, g.lookup? st.uri = some e ∧ g.Shows st e
  ready : ∀ check v r, r.path = "/ready" → r.reads →
    (g.readyStatus check v r = 200 ↔ registered ≠ [] ∧
      ∀ uri ∈ registered.map (·.1), ∃ r ∈ g.refreshes uri, r.Succeeds) ∧
    (g.readyStatus check v r ≠ 200 → g.readyStatus check v r = 503)
  /-- Once the service is ready, only a new endpoint can change that. -/
  lasting : ∀ later g', g.Runs later g' → (∀ uri ∈ later.map (·.1), uri ∈ registered.map (·.1)) →
    ∀ check v r, r.path = "/ready" → r.reads → g.readyStatus check v r = 200 →
      ∀ check' v' r', r'.path = "/ready" → r'.reads → g'.readyStatus check' v' r' = 200
  health : ∀ check v r, r.path = "/health" → r.reads →
    (g.request check v .service r).answer.response = finish r (Service.health g.status) ∧
      (finish r (Service.health g.status)).status = 200
  /-- Whoever asks leaves all as it is. -/
  quiet : (∀ s : Scene, s.gate = g → s.perform .status = (.statuses g.status, s)) ∧
    ∀ check v r, r.path ∈ ["/health", "/ready"] → (g.request check v .service r).gate = g

theorem register_of_mem (tracked : uri ∈ g.uris) (floor : Span) : g.register uri floor = g :=
  if_pos (mem_uris_iff.1 tracked)

theorem mem_uris_status_iff : uri ∈ g.status.map (·.uri) ↔ uri ∈ g.uris := by
  rw [uris_status]
  exact List.mem_mergeSort

theorem readyStatus_eq {check : SignatureCheck} {v : Validator} {r : Request} (path : r.path = "/ready")
    (reads : r.reads) : g.readyStatus check v r = if isReady g.status then 200 else 503 := by
  unfold readyStatus
  rw [response_of_open .ready path (by decide) reads, status_finish]
  unfold handle readiness
  simp only
  split <;> rfl

theorem Settled.shown (h : g.Settled) (nodup : g.uris.Nodup) {st : Entry.Status} (here : st ∈ g.status) :
    ∃ e, g.lookup? st.uri = some e ∧ g.Shows st e := by
  obtain ⟨e, tracked, rfl⟩ := mem_status_iff.1 here
  have found := lookup?_of_mem nodup tracked
  exact ⟨e, found, h.shows found⟩

theorem Settled.isReady_iff (h : g.Settled) (nodup : g.uris.Nodup) :
    isReady g.status ↔ g.uris ≠ [] ∧ ∀ uri ∈ g.uris, ∃ r ∈ g.refreshes uri, r.Succeeds := by
  have empty : g.status = [] ↔ g.uris = [] := by
    rw [← List.map_eq_nil_iff (f := Entry.Status.uri), List.eq_nil_iff_forall_not_mem,
      List.eq_nil_iff_forall_not_mem]
    exact forall_congr' fun uri => not_congr mem_uris_status_iff
  rw [Service.isReady_iff, ne_eq, empty]
  refine and_congr_right fun _ => ⟨fun ready uri tracked => ?_, fun succeed st here => ?_⟩
  · obtain ⟨st, here, rfl⟩ := List.mem_map.1 (mem_uris_status_iff.2 tracked)
    obtain ⟨e, -, shows⟩ := h.shown nodup here
    exact shows.ready.1 (ready st here)
  · obtain ⟨e, -, shows⟩ := h.shown nodup here
    exact shows.ready.2 (succeed st.uri (mem_uris_status_iff.1 (List.mem_map_of_mem here)))

variable {settings : FetchSettings} {epoch : Stamp} {network : Http.Network}

theorem Runs.reached (h : (new settings epoch network).Runs registered g) : g.Reached :=
  ⟨settings, epoch, network, h.leads⟩

theorem Runs.mem_uris_iff (h : (new settings epoch network).Runs registered g) :
    uri ∈ g.uris ↔ uri ∈ registered.map (·.1) := by
  have floor := h.floor uri
  rw [show (new settings epoch network).lookup? uri = none from rfl, Option.map_none, Option.none_or] at floor
  rw [Gate.mem_uris_iff, ← Option.isSome_map (f := (·.floor)), floor, Option.isSome_iff_ne_none, ne_eq,
    List.lookup_eq_none_iff]
  simp

theorem Runs.isReady_iff (h : (new settings epoch network).Runs registered g) :
    isReady g.status ↔ registered ≠ [] ∧
      ∀ uri ∈ registered.map (·.1), ∃ r ∈ g.refreshes uri, r.Succeeds := by
  have empty : g.uris = [] ↔ registered = [] := by
    rw [← List.map_eq_nil_iff (f := Prod.fst) (l := registered), List.eq_nil_iff_forall_not_mem,
      List.eq_nil_iff_forall_not_mem]
    exact forall_congr' fun uri => not_congr h.mem_uris_iff
  rw [h.reached.settled.isReady_iff h.reached.nodup_uris, ne_eq, empty]
  simp only [h.mem_uris_iff]

theorem honest_of_runs (h : (new settings epoch network).Runs registered g) : g.Honest registered where
  listed uri := by rw [mem_uris_status_iff, h.mem_uris_iff]
  ascending := by
    rw [uris_status]
    exact Text.pairwise_mergeSort_toBytes h.reached.nodup_uris
  floor uri := by
    rw [h.floor]
    exact Option.none_or
  again uri floor tracked := register_of_mem (h.mem_uris_iff.2 tracked) floor
  shown st here := h.reached.settled.shown h.reached.nodup_uris here
  ready check v r path reads := by
    rw [readyStatus_eq path reads, ← h.isReady_iff]
    by_cases ready : isReady g.status <;> simp [ready]
  lasting := by
    intro later g' goesOn old check v r path reads ready check' v' r' path' reads'
    rw [readyStatus_eq path reads] at ready
    rw [readyStatus_eq path' reads']
    have before : isReady g.status := by
      by_contra notYet
      simp [notYet] at ready
    obtain ⟨some, succeed⟩ := h.isReady_iff.1 before
    refine if_pos ((h.trans goesOn).isReady_iff.2 ⟨by simp [some], fun uri here => ?_⟩)
    rw [List.map_append, List.mem_append] at here
    obtain ⟨r, there, good⟩ := succeed uri (here.elim id (old uri))
    -- what has happened stays on record
    obtain ⟨rs, grown⟩ := goesOn.leads.grown uri
    refine ⟨r, ?_, good⟩
    rw [grown.refreshes]
    exact List.mem_append_left _ there
  health check v r path reads := ⟨response_of_open .health path (by decide) reads, rfl⟩
  quiet := by
    refine ⟨fun s mine => ?_, fun check v r path => ?_⟩
    · rw [← mine]
      rfl
    · refine (request_of_unguarded g check v (guardedToken?_of_open ?_)).1
      simp only [List.mem_cons, List.not_mem_nil, or_false] at path
      obtain health | ready := path
      · simp [health, openPaths]
      · simp [ready, openPaths]

/-- A server has given its key, and fails when the key is stale. -/
def lapsing (calls : List Call) : Gate := ((Scene.new failing (vouch true) none).performed calls).gate

theorem runs_lapsing : failing.Runs [("http://k/", .ofSeconds 60)] (lapsing (visits.take 2)) ∧
    (lapsing (visits.take 2)).Runs [] (lapsing visits) := by
  have first := (Runs.rests (g := failing)).calls (s := .new failing (vouch true) none) (visits.take 2)
  have rest := (Runs.rests (g := lapsing (visits.take 2))).calls
    (s := (Scene.new failing (vouch true) none).performed (visits.take 2)) (visits.drop 2)
  rw [← Scene.performed_append, List.take_append_drop] at rest
  exact ⟨first, rest⟩

def readyProbe : Request := ⟨"GET", "/ready", []⟩

theorem ready_in_spite_of_failure :
    (lapsing (visits.take 2)).readyStatus (vouch true) Encounter.ofIssuer readyProbe = 200 ∧
    ((lapsing visits).refreshes "http://k/").map Refresh.fault? = [none, some (.status 503)] ∧
    (lapsing visits).status = [⟨"http://k/", true, 1, true⟩] ∧
    (lapsing visits).readyStatus (vouch true) Encounter.ofIssuer readyProbe = 200 := by
  have honest := honest_of_runs runs_lapsing.1
  have ready : (lapsing (visits.take 2)).readyStatus (vouch true) Encounter.ofIssuer readyProbe = 200 := by
    decide +kernel
  refine ⟨ready, by decide +kernel, by decide +kernel, ?_⟩
  exact honest.lasting [] _ runs_lapsing.2 (by simp) _ _ readyProbe (by decide) (by decide) ready
    _ _ readyProbe (by decide) (by decide)

/-- The keys of this server are fresh for an hour. -/
def hourly : Gate :=
  .new ⟨.ofSeconds 10, .once, .ofSeconds 300⟩ .zero (.ofScripts true
    [("http://k/", [{ Encounter.published with fields := [("cache-control", "max-age=3600")] }])])

/-- The longest floor. The clock cannot show its end. -/
def endless : Span := .ofSeconds 18446744073709551615

def timeless : Gate :=
  ((Scene.new hourly (vouch true) none).performed [.register "http://k/" endless, .get "http://k/"]).gate

/-- A publish that breaks off leaves keys that are stale although no time of theirs has come, and an
endpoint that is ready although its only refresh has told nobody of its keys. -/
theorem stale_without_time :
    hourly.Runs [("http://k/", endless)] timeless ∧
    ((hourly.register "http://k/" endless).get "http://k/").answer = .error Entry.refreshFailed ∧
    timeless.status = [⟨"http://k/", true, 1, true⟩] ∧
    ∃ e, timeless.lookup? "http://k/" = some e ∧ e.Undated ∧ ¬ e.Outdated timeless.now := by
  have runs := (Runs.rests (g := hourly)).calls (s := .new hourly (vouch true) none)
    [.register "http://k/" endless, .get "http://k/"]
  refine ⟨runs, by decide +kernel, by decide +kernel, ?_⟩
  have undated : (timeless.lookup? "http://k/").map (fun e => (e.held.isSome, e.freshUntil)) =
      some (true, none) := by decide +kernel
  obtain ⟨e, found, parts⟩ := Option.map_eq_some_iff.1 undated
  have undated : e.Undated := ⟨congrArg Prod.fst parts, congrArg Prod.snd parts⟩
  exact ⟨e, found, undated, undated.not_outdated _⟩

end Gate

end TokenGate
