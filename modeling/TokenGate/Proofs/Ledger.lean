import TokenGate.Proofs.Courtesy
import TokenGate.Proofs.Crowd.Record

/-!
# What the cache remembers

Over any run from a fresh gate, with calls one after the other or side by side: the entry of an endpoint
tells exactly what its refreshes came to. Keys that have come once stay, and whoever comes after them
is served.
-/

namespace TokenGate

namespace Gate

variable {g g' : Gate} {uri : String} {floor : Span}

/-- What is on record of an endpoint. `past` are the gates that there have been. -/
structure Tells (g : Gate) (uri : String) (floor : Span) (past : Gate → Prop) : Prop where
  asked : ∀ r ∈ g.refreshes uri, r.uri = uri ∧ ∃ before, past before ∧ r.AskedOf before
  mirrors : (∀ r ∈ g.refreshes uri, r.Lasts g.settings floor) → ∃ e, g.lookup? uri = some e ∧
    e.uri = uri ∧ e.Mirrors g.settings floor (g.refreshes uri)

/-- What a later gate has kept of the keys. -/
structure Retains (g g' : Gate) (uri : String) : Prop where
  held : ∀ e, g.lookup? uri = some e → e.held.isSome →
    ∃ e', g'.lookup? uri = some e' ∧ e'.held.isSome
  /-- Failures leave the keys and their freshness alone. -/
  failed : ∀ e rs, g.lookup? uri = some e → g'.refreshes uri = g.refreshes uri ++ rs →
    (∀ r ∈ rs, r.fault?.isSome) →
    ∃ e', g'.lookup? uri = some e' ∧ e'.held = e.held ∧ e'.freshUntil = e.freshUntil

/-- Calls for an endpoint that has keys. -/
structure Serves (g : Gate) (uri : String) : Prop where
  get : ∀ e, g.lookup? uri = some e → e.held.isSome →
    ∃ held, e.held = some held ∧ (g.get uri).answer = .ok held
  getKey : ∀ e id err, g.lookup? uri = some e → e.held.isSome →
    (∀ r ∈ (g.getKey uri id).gate.refreshes uri, r.Lasts g.settings e.floor) →
    (g.getKey uri id).answer = .error err → err = .unknownKey id

theorem retains_of_grown {rs : List Refresh} (h : g.Grown g' uri rs) : g.Retains g' uri := by
  refine ⟨fun e found held => ?_, fun e rs' found more failed => ?_⟩
  · exact ⟨_, h.entry e found, Entry.isSome_held_after g.settings rs held⟩
  · obtain rfl : rs = rs' := List.append_cancel_left (h.refreshes.symm.trans more)
    exact ⟨_, h.entry e found, Entry.kept_of_failed failed⟩

theorem serves (g : Gate) (uri : String) : g.Serves uri :=
  ⟨fun _ found held => get_of_held found held,
    fun _ _ _ found held lasts => getKey_of_held found held lasts⟩

theorem tells_of_replayed {past : Gate → Prop} (replayed : g.Replayed uri)
    (tracked : (g.lookup? uri).map (·.floor) = some floor)
    (asked : ∀ r ∈ g.refreshes uri, r.uri = uri ∧ ∃ before, past before ∧ r.AskedOf before) :
    g.Tells uri floor past := by
  obtain ⟨e, found, rfl⟩ := Option.map_eq_some_iff.1 tracked
  exact ⟨asked, fun lasts => ⟨e, found, uri_of_lookup? found, replayed.mirrors found lasts⟩⟩

end Gate

/-- Callers who come while an endpoint has keys. -/
def Crowd.Serves (c : Crowd) (uri : String) : Prop :=
  ∀ wish e later outcome time, wish.uri? = some uri → c.gate.lookup? uri = some e → e.held.isSome →
    (∀ r ∈ (c.run (.arrive wish :: later)).gate.refreshes uri, r.Lasts c.gate.settings e.floor) →
    (c.run (.arrive wish :: later)).callers[c.callers.length]? = some (.done outcome time) →
    outcome.Fulfils wish

theorem entries_tell_refreshes (settings : FetchSettings) (epoch : Stamp) (network : Http.Network)
    (uri : String) (floor : Span) :
    (∀ check validator calls more, calls.findSome? (Call.floor? uri) = some floor →
      let s := Scene.new (.new settings epoch network) check validator
      (s.performed calls).gate.Tells uri floor (s.Passes calls) ∧
      (s.performed calls).gate.Retains (s.performed (calls ++ more)).gate uri ∧
      (s.performed calls).gate.Serves uri) ∧
    (∀ actions more, actions.findSome? (Crowd.Action.floor? uri) = some floor →
      let c := Crowd.ofGate (.new settings epoch network)
      (c.run actions).gate.Tells uri floor (c.Asks actions) ∧
      (c.run actions).gate.Retains (c.run (actions ++ more)).gate uri ∧
      (c.run actions).Serves uri) := by
  have paced := Gate.paced_new settings epoch network
  have replayed : (Gate.new settings epoch network).Replayed uri := fun e found => by cases found
  refine ⟨fun check validator calls more known => ?_, fun actions more known => ?_⟩
  · intro s
    refine ⟨Gate.tells_of_replayed (Scene.replayed_performed (s := s) (paced uri) replayed calls) ?_ ?_,
      ?_, Gate.serves ..⟩
    · rw [Scene.floor_performed, known]
      exact Option.none_or
    · intro r here
      obtain old | asked := Scene.asked_performed calls here
      · cases old
      · exact asked
    · obtain ⟨rs, grown⟩ := (s.performed calls).grown_performed more uri
      rw [Scene.performed_append]
      exact Gate.retains_of_grown grown
  · intro c
    have orderly := Crowd.orderly_ofGate (.new settings epoch network)
    have steady := Crowd.steady_ofGate paced
    refine ⟨Gate.tells_of_replayed (Crowd.replayed_run steady orderly replayed actions) ?_ ?_, ?_, ?_⟩
    · rw [Crowd.floor_run, known]
      exact Option.none_or
    · intro r here
      obtain old | asked := Crowd.asked_run rfl actions here
      · cases old
      · exact asked
    · obtain ⟨rs, grown⟩ := (c.run actions).grown_run more uri
      rw [Crowd.run_append]
      exact Gate.retains_of_grown grown
    · intro wish e later outcome time asks found held lasts done
      exact Crowd.fulfilled_run (orderly.run actions)
        ((Crowd.matched_ofGate _).run orderly actions) asks found held later lasts done

/-- A server that answers once with a key, and then not any more. -/
def failing : Gate :=
  let keys := "\x7b\"keys\":[\x7b\"kty\":\"OKP\",\"crv\":\"Ed25519\",\"kid\":\"a\",\"x\":\"\"\x7d]\x7d"
  .new ⟨.ofSeconds 10, .once, .ofSeconds 300⟩ .zero (.ofScripts true
    [("http://k/", [⟨200, [], keys, .zero, false, false⟩, ⟨503, [], "", .zero, false, false⟩])])

def visits : List Call :=
  [.register "http://k/" (.ofSeconds 60), .get "http://k/", .advance (.ofSeconds 400), .refreshStale]

def turns : List Crowd.Action :=
  [.register "http://k/" .zero, .arrive (.keys "http://k/"), .move 0, .move 0, .move 0, .move 0,
    .start 0, .finish 0]

/-- The failure is on record, and the key is still there, as fresh as it was. -/
theorem keys_outlive_failure :
    (∃ e, ((Scene.new failing (fun _ _ _ _ => true) none).performed visits).gate.lookup? "http://k/"
        = some e ∧
      e.attempts = 2 ∧ e.lastError = some "unexpected HTTP status 503" ∧
      e.held.map (·.keys.size) = some 1 ∧
      e.freshUntil = some (Instant.start.plus (.ofSeconds 300))) ∧
    ∃ e, ((Crowd.ofGate failing).run turns).gate.lookup? "http://k/" = some e ∧
      e.attempts = 1 ∧ e.lastError = none := by
  constructor
  · have tells := ((entries_tell_refreshes failing.settings .zero failing.network "http://k/"
      (.ofSeconds 60)).1 (fun _ _ _ _ => true) none visits [] (by decide +kernel)).1
    obtain ⟨e, found, uri, mirrors⟩ := tells.mirrors (by decide +kernel)
    have held := congrArg (Option.map KeySet.size) mirrors.held
    rw [uri, Option.map_map, Option.map_map] at held
    exact ⟨e, found, mirrors.attempts.trans (by decide +kernel),
      mirrors.lastError.trans (by decide +kernel), held.trans (by decide +kernel),
      mirrors.freshUntil.trans (by decide +kernel)⟩
  · have tells := ((entries_tell_refreshes failing.settings .zero failing.network "http://k/"
      .zero).2 turns [] (by decide +kernel)).1
    obtain ⟨e, found, -, mirrors⟩ := tells.mirrors (by decide +kernel)
    exact ⟨e, found, mirrors.attempts.trans (by decide +kernel),
      mirrors.lastError.trans (by decide +kernel)⟩

end TokenGate
