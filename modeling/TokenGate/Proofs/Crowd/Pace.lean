import TokenGate.Proofs.Cache.Pace
import TokenGate.Proofs.Cache.Requests
import TokenGate.Proofs.Crowd.SingleFlight

/-!
# The pace of a crowd

Callers judge an entry at one time and ask for the guard at another. Between the two the floor can only
come closer, unless a refresh ends, and then their knowledge is out of date. So whoever starts a fetch
starts it after a rest.
-/

namespace TokenGate.Crowd

variable {c c' : Crowd} {i j n m seen : Nat} {s s' : Stage} {f f' : Fetch} {uri : String}
  {a : Action} {errand : Errand} {started time now : Instant} {waiter : Option Nat}

/-! ## The clock -/

theorem Turn.now_le (turn : Turn c a c') : c.gate.now ≤ c'.gate.now := by
  cases turn with
  | waits s => exact Nat.le_add_right ..
  | registers uri floor =>
    change c.gate.now ≤ (c.gate.register uri floor).now
    unfold Gate.register
    split <;> exact Nat.le_refl _
  | publishes => rw [gate_published]; exact Nat.le_refl _
  | joins | quitsGuard | retires => simp only [gate_setCaller, gate_release]; exact Nat.le_refl _
  | _ => exact Nat.le_refl _

/-! ## Callers and fetches that have rested -/

/-- The entry of an endpoint has rested at this time. -/
def RestedAt (c : Crowd) (uri : String) (now : Instant) : Prop :=
  ∃ e, c.gate.lookup? uri = some e ∧ e.Rested now

/-- Refreshes are spaced, and whoever will start a fetch, or has started one, waited for the floor. -/
structure Steady (c : Crowd) : Prop where
  paced : ∀ uri, c.gate.Paced uri
  /-- Nobody judges by a time to come. -/
  clock : ∀ (i : Nat) (uri : String) (time : Instant) (errand : Errand),
    c.callers[i]? = some (.read uri time errand) → time ≤ c.gate.now
  woken : ∀ (n : Nat) (uri : String) (waiter : Option Nat) (time : Instant),
    c.fetches[n]? = some ⟨uri, waiter, .woken time⟩ → time ≤ c.gate.now
  /-- Who wants a refresh is out of date, or the entry has rested. -/
  asks : ∀ (i : Nat) (uri : String) (seen : Nat) (errand : Errand),
    c.asks? i = some (uri, seen, errand) → ∃ e, c.gate.lookup? uri = some e ∧
      seen ≤ e.attempts ∧ (seen = e.attempts → e.Rested c.gate.now)
  awaited : ∀ (n : Nat) (uri : String) (i : Nat),
    c.fetches[n]? = some ⟨uri, some i, .spawned⟩ → c.RestedAt uri c.gate.now
  running : ∀ (n : Nat) (uri : String) (waiter : Option Nat) (started : Instant) (run : Fetched.Run),
    c.fetches[n]? = some ⟨uri, waiter, .running started run⟩ →
      started ≤ c.gate.now ∧ c.RestedAt uri started

theorem RestedAt.mono (h : c.RestedAt uri time) (keeps : Keeps c c' uri) (le : time ≤ now) :
    c'.RestedAt uri now := by
  obtain ⟨e, found, rested⟩ := h
  exact ⟨e, keeps.entry e found, rested.mono le⟩

/-! ## One turn -/

theorem Turn.paced (turn : Turn c a c') (h : c.Steady) (uri : String) : c'.gate.Paced uri := by
  cases turn with
  | waits s => exact (h.paced uri).mono rfl rfl (Nat.le_add_right ..)
  | registers other floor => exact (h.paced uri).register other floor
  | scripts | asks => exact (h.paced uri).mono rfl rfl (Nat.le_refl _)
  | joins | quitsGuard | retires =>
    simp only [gate_setCaller, gate_release, gate_setPhase]
    exact h.paced uri
  | @publishes n uri' waiter started run e here found late =>
    rw [gate_published]
    obtain ⟨forward, e', found', rested⟩ := h.running n uri' waiter started run here
    obtain rfl := Option.some.inj (found.symm.trans found')
    obtain rfl := Gate.uri_of_lookup? found
    by_cases mine : e.uri = uri
    · subst mine
      exact (h.paced _).publish found rfl rested forward rfl
    · exact (h.paced uri).publish_of_ne (Ne.symm mine) mine
  | _ => exact h.paced uri

theorem Turn.steady_asks (turn : Turn c a c') (h : c.Steady)
    (asks : c'.asks? i = some (uri, seen, errand)) :
    ∃ e, c'.gate.lookup? uri = some e ∧ seen ≤ e.attempts ∧
      (seen = e.attempts → e.Rested c'.gate.now) := by
  obtain ⟨n, waiter, started, run, e, rfl, -, found, -, after⟩ | keeps := turn.lands_or_keeps uri
  · -- The refresh that ends is one that the caller does not know of.
    obtain old | ⟨move, -⟩ := turn.asked asks
    · obtain ⟨e', found', le, -⟩ := h.asks i uri seen errand old
      obtain rfl := Option.some.inj (found.symm.trans found')
      refine ⟨_, by rw [after, gate_published, Gate.lookup?_publishRefresh found], ?_, fun same => ?_⟩
      · rw [Entry.attempts_publish]; omega
      · rw [Entry.attempts_publish] at same; omega
    · cases move
  · obtain old | ⟨-, e, observed⟩ := turn.asked asks
    · obtain ⟨e, found, le, rested⟩ := h.asks i uri seen errand old
      exact ⟨e, keeps.entry e found, le, fun same => (rested same).mono turn.now_le⟩
    · obtain ⟨s, here, -, may⟩ := observed.here
      have clock : s.clock c.gate.now ≤ c.gate.now := by
        cases s with
        | read uri' time errand' => exact h.clock i uri' time errand' here
        | _ => exact Nat.le_refl _
      have rested := (h.paced uri).rested observed.found may clock
      exact ⟨e, keeps.entry e observed.found, Nat.le_of_eq observed.seen.symm,
        fun _ => rested.mono turn.now_le⟩

/-- While a fetch of the endpoint goes on without ending, no other one lands. -/
theorem Turn.keeps_of_live (turn : Turn c a c') (orderly : c.Orderly) (here : c.fetches[n]? = some f)
    (live : f.phase ≠ .ended) (after : c'.fetches[n]? = some f') (live' : f'.phase ≠ .ended) :
    Keeps c c' f.uri := by
  obtain ⟨m, waiter, started, run, e, -, flying, -, -, published⟩ | keeps := turn.lands_or_keeps f.uri
  · have same : n = m := orderly.live_unique here flying rfl live (by simp)
    subst same
    rw [published, fetches_published, getElem?_setPhase, if_pos rfl, here] at after
    obtain rfl := Option.some.inj after
    exact absurd rfl live'
  · exact keeps

theorem Turn.steady_awaited (turn : Turn c a c') (h : c.Steady) (orderly : c.Orderly)
    (here : c'.fetches[n]? = some ⟨uri, some i, .spawned⟩) : c'.RestedAt uri c'.gate.now := by
  generalize same : (⟨uri, some i, .spawned⟩ : Fetch) = f at here
  cases turn.course here with
  | remains old =>
    subst same
    have keeps := turn.keeps_of_live orderly old (by simp) here (by simp)
    exact (h.awaited n uri i old).mono keeps turn.now_le
  | @spawns i' uri' errand e _ caller found =>
    cases same
    obtain ⟨e', found', -, rested⟩ := h.asks _ _ _ _ ((asks?_eq caller).trans rfl)
    obtain rfl := Option.some.inj (found.symm.trans found')
    -- A fetch that landed now would have the guard, which the caller has.
    obtain ⟨m, waiter, started, run, e', -, flying, -, -, -⟩ | keeps := turn.lands_or_keeps uri
    · have caller := (orderly uri).caller i |>.2 (by rw [held?_eq caller]; rfl)
      have flight := (orderly uri).fetch m |>.2 (fetchHeld?_of_live flying (by simp))
      rw [caller] at flight
      cases flight
    · exact RestedAt.mono ⟨e, found, rested rfl⟩ keeps turn.now_le
  | ends => injection same with _ _ phase; cases phase
  | spawnsBehind | wakes => cases same
  | asks => injection same with _ _ phase; cases phase

theorem Steady.rested_of_due (h : c.Steady) (here : c.fetches[n]? = some f)
    (due : f.phase = .spawned ∧ f.waiter.isSome ∨ ∃ time e, f.phase = .woken time ∧
      c.gate.lookup? f.uri = some e ∧ e.isDue time) : c.RestedAt f.uri c.gate.now := by
  obtain ⟨uri, waiter, phase⟩ := f
  obtain ⟨rfl, some⟩ | ⟨time, e, rfl, found, due⟩ := due
  · obtain ⟨i, rfl⟩ := Option.isSome_iff_exists.1 some
    exact h.awaited n uri i here
  · have le := h.woken n uri waiter time here
    exact ⟨e, found, (h.paced uri).rested found (Entry.mayRefresh_of_isDue due) le⟩

theorem Turn.steady_running (turn : Turn c a c') (h : c.Steady) (orderly : c.Orderly)
    {run : Fetched.Run} (here : c'.fetches[n]? = some ⟨uri, waiter, .running started run⟩) :
    started ≤ c'.gate.now ∧ c'.RestedAt uri started := by
  generalize same : (⟨uri, waiter, .running started run⟩ : Fetch) = f at here
  cases turn.course here with
  | remains old =>
    subst same
    have keeps := turn.keeps_of_live orderly old (by simp) here (by simp)
    obtain ⟨forward, rested⟩ := h.running n uri waiter started run old
    exact ⟨Nat.le_trans forward turn.now_le, rested.mono keeps (Nat.le_refl _)⟩
  | @asks f _ old ready due =>
    injection same with uri_ _ phase
    injection phase with started_
    subst uri_ started_
    have live : f.phase ≠ .ended := fun ended => by rw [ended] at ready; cases ready
    have keeps := turn.keeps_of_live orderly old live here (by simp)
    exact ⟨turn.now_le, (h.rested_of_due old due).mono keeps (Nat.le_refl _)⟩
  | ends => injection same with _ _ phase; cases phase
  | spawnsBehind | spawns | wakes => cases same

theorem Turn.steady (turn : Turn c a c') (h : c.Steady) (orderly : c.Orderly) : c'.Steady := by
  refine ⟨turn.paced h, fun i uri time errand read => ?_, fun n uri waiter time here => ?_,
    fun i uri seen errand => turn.steady_asks h, fun n uri i => turn.steady_awaited h orderly,
    fun n uri waiter started run => turn.steady_running h orderly⟩
  · obtain old | rfl := turn.clocked read
    · exact Nat.le_trans (h.clock i uri time errand old) turn.now_le
    · exact turn.now_le
  · generalize same : (⟨uri, waiter, .woken time⟩ : Fetch) = f at here
    cases turn.course here with
    | remains old =>
      subst same
      exact Nat.le_trans (h.woken n uri waiter time old) turn.now_le
    | wakes =>
      cases same
      exact turn.now_le
    | ends | asks => injection same with _ _ phase; cases phase
    | spawnsBehind | spawns => cases same

theorem Steady.run (h : c.Steady) (orderly : c.Orderly) (actions : List Action) :
    (c.run actions).Steady := by
  induction actions generalizing c with
  | nil => exact h
  | cons a rest ih =>
    exact ih ((c.turn_step a).steady h orderly) ((c.turn_step a).orderly orderly)

theorem steady_ofGate {g : Gate} (h : ∀ uri, g.Paced uri) : (ofGate g).Steady := by
  refine ⟨h, ?_, ?_, ?_, ?_, ?_⟩ <;> intros <;> simp_all [ofGate, asks?]

/-! ## The requests -/

/-- The starts of the fetches of an endpoint that are under way. -/
def Aloft (c : Crowd) (uri : String) (starts : List Instant) : Prop :=
  (starts = [] ∧ ∀ n, ¬ c.Flies n uri) ∨
    ∃ (n : Nat) (waiter : Option Nat) (started : Instant) (run : Fetched.Run),
      c.fetches[n]? = some ⟨uri, waiter, .running started run⟩ ∧ starts = [started]

/-- Since the log was `log`, all requests have been those of trips, and the trips for an endpoint are
the refreshes that have ended and the one under way. -/
structure Travelled (log : List String) (c : Crowd) (trips : List Trip) : Prop where
  log : c.gate.network.log = log ++ trips.flatMap (Trip.requests c.gate.settings c.gate.epoch)
  starts : ∀ uri, ∃ aloft, c.Aloft uri aloft ∧
    trips.filterMap (Trip.start? uri) = (c.gate.refreshes uri).map (·.started) ++ aloft

end TokenGate.Crowd
