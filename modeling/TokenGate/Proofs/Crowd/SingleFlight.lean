import Mathlib.Data.List.Induction
import TokenGate.Proofs.Crowd.Flight

/-!
# Single flight over whole runs

What the turns of a run keep, from its first action to its last.
-/

namespace TokenGate.Crowd

variable {c c' : Crowd} {i j n m seen : Nat} {uri : String} {a b : Action} {errand : Errand}

/-! ## The entry and its refreshes -/

theorem Turn.settings (turn : Turn c a c') : c'.gate.settings = c.gate.settings := by
  cases turn with
  | publishes => rw [gate_published, Gate.settings_publishRefresh]
  | registers => exact Gate.settings_register ..
  | joins | quitsGuard | retires => simp
  | _ => rfl

theorem Turn.epoch (turn : Turn c a c') : c'.gate.epoch = c.gate.epoch := by
  cases turn with
  | publishes => rw [gate_published, Gate.epoch_publishRefresh]
  | registers => exact Gate.epoch_register ..
  | joins | quitsGuard | retires => simp
  | _ => rfl

theorem grown_step (c : Crowd) (a : Action) (uri : String) :
    ∃ rs, c.gate.Grown (c.step a).gate uri rs := by
  have turn := c.turn_step a
  obtain ⟨n, waiter, started, run, e, -, -, found, -, after⟩ | kept := turn.lands_or_keeps uri
  · obtain rfl := Gate.uri_of_lookup? found
    refine ⟨[⟨e.uri, started, c.gate.now, run.result⟩], ?_⟩
    rw [after, gate_published]
    exact Gate.grown_publishRefresh found rfl
  · exact ⟨[], .of_eq turn.settings turn.epoch kept.refreshes kept.entry⟩

theorem grown_run (c : Crowd) (actions : List Action) (uri : String) :
    ∃ rs, c.gate.Grown (c.run actions).gate uri rs := by
  induction actions generalizing c with
  | nil => exact ⟨[], .refl ..⟩
  | cons a rest ih =>
    obtain ⟨rs, first⟩ := c.grown_step a uri
    obtain ⟨rs', later⟩ := ih (c.step a)
    exact ⟨rs ++ rs', first.trans later⟩

theorem settings_run (c : Crowd) (actions : List Action) :
    (c.run actions).gate.settings = c.gate.settings := by
  induction actions generalizing c with
  | nil => rfl
  | cons a rest ih => exact (ih (c.step a)).trans (c.turn_step a).settings

theorem published_of_lands (h : c.Lands a uri) :
    ∃ e r, c.gate.lookup? uri = some e ∧
      (c.step a).gate.refreshes uri = c.gate.refreshes uri ++ [r] ∧
      (c.step a).gate.lookup? uri = some (e.publish c.gate.settings r).entry := by
  obtain ⟨n, flies, ended⟩ := h
  obtain ⟨_, waiter, started, run, e, -, -, found, -, after⟩ | kept :=
    (c.turn_step a).lands_or_keeps uri
  · obtain rfl := Gate.uri_of_lookup? found
    refine ⟨e, ⟨e.uri, started, c.gate.now, run.result⟩, found, ?_, ?_⟩
    · rw [after, gate_published, Gate.refreshes_publishRefresh, if_pos rfl]
    · rw [after, gate_published, Gate.lookup?_publishRefresh found]
  · obtain ⟨waiter, started, run, here⟩ := flies
    exact absurd ⟨waiter, started, run, kept.flies n _ _ _ here⟩ ended

theorem keeps_of_not_lands (h : ¬ c.Lands a uri) : Keeps c (c.step a) uri := by
  obtain ⟨n, waiter, started, run, e, -, here, -, -, after⟩ | kept :=
    (c.turn_step a).lands_or_keeps uri
  · refine absurd ⟨n, ⟨waiter, started, run, here⟩, ?_⟩ h
    rintro ⟨_, _, _, flies⟩
    rw [after, fetches_published, getElem?_setPhase, if_pos rfl, here] at flies
    cases flies
  · exact kept

/-! ## Fetches and guards -/

theorem Orderly.holder_of_live {f : Fetch} (h : c.Orderly) (here : c.fetches[n]? = some f)
    (live : f.phase ≠ .ended) : (c.guard f.uri).holder = some (.fetch n) :=
  (h f.uri).fetch n |>.2 (fetchHeld?_of_live here live)

theorem Orderly.live_unique {f f' : Fetch} (h : c.Orderly) (hn : c.fetches[n]? = some f)
    (hm : c.fetches[m]? = some f') (same : f.uri = f'.uri) (ln : f.phase ≠ .ended)
    (lm : f'.phase ≠ .ended) : n = m := by
  have holder := h.holder_of_live hn ln
  rw [same, h.holder_of_live hm lm] at holder
  simpa using holder.symm

theorem Orderly.holder_of_flies (h : c.Orderly) (flies : c.Flies n uri) :
    (c.guard uri).holder = some (.fetch n) := by
  obtain ⟨_, _, _, here⟩ := flies
  exact h.holder_of_live here (by simp)

theorem Orderly.holder_of_awaits (h : c.Orderly) (awaits : c.Awaits n uri) :
    (c.guard uri).holder = some (.fetch n) := by
  obtain ⟨_, _, here, live⟩ := awaits
  exact h.holder_of_live here live

theorem Orderly.flies_unique (h : c.Orderly) (hn : c.Flies n uri) (hm : c.Flies m uri) : n = m := by
  obtain ⟨_, _, _, here⟩ := hn
  obtain ⟨_, _, _, here'⟩ := hm
  exact h.live_unique here here' rfl (by simp) (by simp)

/-! ## Callers who start a fetch -/

theorem settle_ne_join {answer : KeyAnswer} {errand' : Errand} :
    (c.settle i uri answer errand).callers[i]? ≠ some (.join uri errand') := by
  intro h
  rw [settle, getElem?_setCaller, if_pos rfl] at h
  obtain ⟨_, -, joined⟩ := Option.map_eq_some_iff.1 h
  have free := errand.isFree_next uri answer c.gate.now
  rw [joined] at free
  cases free

theorem starts_iff :
    c.Starts a uri seen ↔ ∃ i errand e, a = .move i ∧
      c.callers[i]? = some (.compare uri seen errand) ∧ c.gate.lookup? uri = some e ∧
      e.attempts = seen := by
  constructor
  · rintro ⟨i, errand, rfl, here, joined⟩
    have turn := c.turn_step (.move i)
    refine ⟨i, errand, ?_⟩
    simp only [step, move, here, compare] at joined
    split at joined
    · exact absurd joined settle_ne_join
    · rename_i e found
      split at joined
      · rename_i same
        exact ⟨e, rfl, here, found, same⟩
      · exact absurd joined settle_ne_join
  · rintro ⟨i, errand, e, rfl, here, found, same⟩
    refine ⟨i, errand, rfl, here, ?_⟩
    simp only [step, move, here, compare, found, same, if_true]
    exact setCaller_self (by rw [callers_spawn, here])

/-- After a caller that knew of `seen` refreshes has started a fetch: either it goes on, or its
refresh has been counted. -/
def Kindled (c : Crowd) (uri : String) (seen : Nat) : Prop :=
  ∃ e, c.gate.lookup? uri = some e ∧
    (seen < e.attempts ∨ e.attempts = seen ∧ ∃ n, c.Awaits n uri)

theorem kindled_of_starts (h : c.Starts a uri seen) : (c.step a).Kindled uri seen := by
  obtain ⟨i, errand, e, rfl, here, found, same⟩ := starts_iff.1 h
  refine ⟨e, ?_, .inr ⟨same, c.fetches.length, i, .spawned, ?_, by simp⟩⟩
  · simp only [step, move, here, compare, found, same, if_true]
    rw [gate_setCaller, gate_spawn, found]
  · simp only [step, move, here, compare, found, same, if_true]
    rw [fetches_setCaller, getElem?_spawn, if_pos rfl]

theorem Kindled.step (h : c.Kindled uri seen) (a : Action) : (c.step a).Kindled uri seen := by
  obtain ⟨e, found, h⟩ := h
  obtain ⟨n, waiter, started, run, e', -, -, found', -, after⟩ | kept :=
    (c.turn_step a).lands_or_keeps uri
  · rw [found] at found'
    obtain rfl := Option.some.inj found'
    refine ⟨_, by rw [after, gate_published, Gate.lookup?_publishRefresh found], .inl ?_⟩
    rw [Entry.attempts_publish]
    obtain lt | ⟨rfl, -⟩ := h <;> omega
  · refine ⟨e, kept.entry e found, h.imp_right fun ⟨same, n, awaits⟩ => ?_⟩
    exact ⟨same, n, kept.awaits n awaits⟩

theorem Kindled.run (h : c.Kindled uri seen) (actions : List Action) :
    (c.run actions).Kindled uri seen := by
  induction actions generalizing c with
  | nil => exact h
  | cons a rest ih => exact ih (h.step a)

theorem Kindled.not_starts (h : c.Kindled uri seen) (orderly : c.Orderly) (a : Action) :
    ¬ c.Starts a uri seen := by
  intro starts
  obtain ⟨i, errand, e, rfl, here, found, same⟩ := starts_iff.1 starts
  obtain ⟨e', found', h⟩ := h
  rw [found] at found'
  obtain rfl := Option.some.inj found'
  -- Who starts has the guard, and so would the fetch that is waited for.
  obtain lt | ⟨-, n, awaits⟩ := h
  · omega
  · have caller := (orderly uri).caller i |>.2 (by rw [held?_eq here]; rfl)
    rw [orderly.holder_of_awaits awaits] at caller
    cases caller

/-! ## What a caller saw -/

/-- Who wants a refresh has read the entry at some time of the run, and has wanted it ever since. -/
theorem observed_of_asks (c : Crowd) (none : ∀ i, c.asks? i = none) (actions : List Action)
    (h : (c.run actions).asks? i = some (uri, seen, errand)) :
    ∃ before since e, actions = before ++ .move i :: since ∧
      (c.run before).Observed i uri seen e ∧
      ∀ part, part <+: since →
        (c.run (before ++ .move i :: part)).asks? i = some (uri, seen, errand) := by
  induction actions using List.reverseRecOn with
  | nil => rw [run, List.foldl_nil, none] at h; cases h
  | append_singleton actions a ih =>
    have last := h
    rw [run_snoc] at h
    obtain old | ⟨rfl, e, observed⟩ := (turn_step _ a).asked h
    · obtain ⟨before, since, e, rfl, observed, ever⟩ := ih old
      refine ⟨before, since ++ [a], e, by simp, observed, fun part pre => ?_⟩
      obtain whole | pre := List.prefix_concat_iff.1 pre
      · rw [whole]
        simpa using last
      · exact ever part pre
    · refine ⟨actions, [], e, rfl, observed, fun part pre => ?_⟩
      rw [List.prefix_nil.1 pre]
      exact last

/-! ## Single flight -/

/-- The laws of one endpoint in the crowd that some actions lead to. -/
structure SingleFlight (g : Gate) (actions : List Action) (uri : String) (c : Crowd) : Prop where
  /-- At most one refresh is under way. -/
  single : ∀ n m, c.Flies n uri → c.Flies m uri → n = m
  /-- It has the guard. -/
  guarded : ∀ n, c.Flies n uri → (c.guard uri).holder = some (.fetch n)
  /-- A refresh that ends is counted once. -/
  counted : ∀ a, c.Lands a uri → ∃ e e' r, c.gate.lookup? uri = some e ∧
    (c.step a).gate.lookup? uri = some e' ∧ e'.attempts = e.attempts + 1 ∧
    (c.step a).gate.refreshes uri = c.gate.refreshes uri ++ [r]
  /-- Nothing else is counted. -/
  kept : ∀ a e, ¬ c.Lands a uri → c.gate.lookup? uri = some e →
    (c.step a).gate.lookup? uri = some e ∧ (c.step a).gate.refreshes uri = c.gate.refreshes uri
  /-- Of all callers who knew of the same refreshes, one at most starts a fetch. -/
  once : ∀ a seen, c.Starts a uri seen → ∀ later b, ¬ (c.run (a :: later)).Starts b uri seen
  /-- A caller with the guard has read the entry at some time of the run. If no refresh has ended
  since, it starts a fetch. Otherwise it takes what the last of them left. -/
  joined : ∀ i seen errand, c.callers[i]? = some (.compare uri seen errand) →
    ∃ before since e rs, actions = before ++ .move i :: since ∧
      ((ofGate g).run before).Observed i uri seen e ∧
      (∀ part, part <+: since →
        ((ofGate g).run (before ++ .move i :: part)).asks? i = some (uri, seen, errand)) ∧
      ((ofGate g).run before).gate.Grown c.gate uri rs ∧
      (rs = [] ∧ c.Starts (.move i) uri seen ∨
        ∃ old r, rs = old ++ [r] ∧ c.step (.move i) = (c.release uri).settle i uri
          ((e.after g.settings old).publish g.settings r).entry.joined errand)
  /-- The guard is with a caller who is still there, or with a fetch that goes on. -/
  held : ∀ h, (c.guard uri).holder = some h →
    (∃ i seen errand, h = .caller i ∧ c.callers[i]? = some (.compare uri seen errand)) ∨
    ∃ n f, h = .fetch n ∧ c.fetches[n]? = some f ∧ f.uri = uri ∧ f.phase ≠ .ended
  /-- A caller who leaves stops no fetch. -/
  unstopped : ∀ i, (c.step (.cancel i)).fetches = c.fetches

theorem fetches_cancel (c : Crowd) (i : Nat) : (c.cancel i).fetches = c.fetches := by
  unfold cancel
  split
  · rfl
  · rw [fetches_setCaller, fetches_release]
  · rfl
  · rfl
  · rfl

theorem Orderly.held (h : c.Orderly) {holder : Holder} (held : (c.guard uri).holder = some holder) :
    (∃ i seen errand, holder = .caller i ∧ c.callers[i]? = some (.compare uri seen errand)) ∨
    ∃ n f, holder = .fetch n ∧ c.fetches[n]? = some f ∧ f.uri = uri ∧ f.phase ≠ .ended := by
  cases holder with
  | caller i =>
    left
    obtain ⟨s, here, hs⟩ := Option.bind_eq_some_iff.1 ((h uri).caller i |>.1 held)
    obtain ⟨seen, errand, rfl⟩ := Stage.held?_eq_some_iff.1 hs
    exact ⟨i, seen, errand, rfl, here⟩
  | fetch n =>
    right
    obtain ⟨f, here, hf⟩ := Option.bind_eq_some_iff.1 ((h uri).fetch n |>.1 held)
    refine ⟨n, f, rfl, here, ?_⟩
    unfold Fetch.held? at hf
    split at hf
    · cases hf
    · rename_i live
      exact ⟨by simpa using hf, live⟩

theorem Orderly.compares (h : c.Orderly) {i : Nat} (holder : (c.guard uri).holder = some (.caller i))
    (asks : c.asks? i = some (uri, seen, errand)) : c.callers[i]? = some (.compare uri seen errand) := by
  obtain ⟨j, seen', errand', same, here⟩ | ⟨n, f, other, -⟩ := h.held holder
  · cases same
    rw [asks?_eq here] at asks
    cases asks
    exact here
  · cases other

/-- A caller with the guard starts a fetch if its knowledge is up to date, and takes what the last
refresh left otherwise. -/
theorem move_compare_of_grown {old : Gate} {e : Entry} {rs : List Refresh}
    (grown : old.Grown c.gate uri rs) (found : old.lookup? uri = some e) (same : e.attempts = seen)
    (here : c.callers[i]? = some (.compare uri seen errand)) :
    rs = [] ∧ c.Starts (.move i) uri seen ∨
      ∃ rs' r, rs = rs' ++ [r] ∧ c.step (.move i) = (c.release uri).settle i uri
        ((e.after old.settings rs').publish old.settings r).entry.joined errand := by
  have now := grown.entry e found
  obtain rfl | ⟨rs', r, rfl⟩ := rs.eq_nil_or_concat
  · exact .inl ⟨rfl, starts_iff.2 ⟨i, errand, e, rfl, here, now, same⟩⟩
  · rw [List.concat_eq_append] at now ⊢
    refine .inr ⟨rs', r, rfl, ?_⟩
    have differs : (e.after old.settings (rs' ++ [r])).attempts ≠ seen := by
      rw [Entry.attempts_after, List.length_append, List.length_singleton]
      omega
    simp only [step, move, here, compare, now, if_neg differs]
    rw [Entry.after_snoc]

theorem singleFlight_run (g : Gate) (actions : List Action) (uri : String) :
    SingleFlight g actions uri ((ofGate g).run actions) := by
  have orderly := (orderly_ofGate g).run actions
  refine ⟨fun n m => orderly.flies_unique, fun n => orderly.holder_of_flies, fun a lands => ?_,
    fun a e stays found => ?_, fun a seen starts later b => ?_, fun i seen errand here => ?_,
    fun h => orderly.held, fun i => fetches_cancel ..⟩
  · obtain ⟨e, r, found, more, after⟩ := published_of_lands lands
    exact ⟨e, _, r, found, after, Entry.attempts_publish .., more⟩
  · have keeps := keeps_of_not_lands stays
    exact ⟨keeps.entry e found, keeps.refreshes⟩
  · have kindled := (kindled_of_starts starts).run later
    exact kindled.not_starts (orderly.run (a :: later)) b
  · obtain ⟨before, since, e, rfl, observed, ever⟩ :=
      observed_of_asks (ofGate g) (fun _ => rfl) actions ((asks?_eq here).trans rfl)
    obtain ⟨rs, grown⟩ := ((ofGate g).run before).grown_run (.move i :: since) uri
    rw [← run_append] at grown
    have move := move_compare_of_grown grown observed.found observed.seen here
    rw [settings_run] at move
    exact ⟨before, since, e, rs, rfl, observed, ever, grown, move⟩

/-! ## Two callers of a new endpoint -/

def serving : Gate :=
  let keys := "\x7b\"keys\":[\x7b\"kty\":\"OKP\",\"crv\":\"Ed25519\",\"kid\":\"a\",\"x\":\"\"\x7d]\x7d"
  .new ⟨.ofSeconds 10, .once, .ofSeconds 300⟩ .zero
    (.ofScripts true [("http://k/", [⟨200, [], keys, .zero, false, false⟩])])

/-- Neither has seen a refresh. The first has the guard, and the other one stands in line for it. -/
def pair : List Action :=
  [.register "http://k/" (.ofSeconds 60), .arrive (.keys "http://k/"), .arrive (.keys "http://k/"),
    .move 0, .move 0, .move 0, .move 1, .move 1, .move 1]

def flight : List Action := [.start 0, .finish 0]

/-- The one who waited has the guard in the end, and starts no fetch. -/
theorem second_caller_joins :
    ((ofGate serving).run pair).Starts (.move 0) "http://k/" 0 ∧
    (((ofGate serving).run pair).run (.move 0 :: flight)).callers[1]? =
      some (.compare "http://k/" 0 .keys) ∧
    ¬ (((ofGate serving).run pair).run (.move 0 :: flight)).Starts (.move 1) "http://k/" 0 ∧
    (((ofGate serving).run pair).run (.move 0 :: flight ++ [.move 1])).gate.network.log = ["http://k/"] := by
  have orderly (actions : List Action) := (orderly_ofGate serving).run actions
  have first : ((ofGate serving).run pair).callers[0]? = some (.compare "http://k/" 0 .keys) :=
    (orderly pair).compares (by decide +kernel) (by decide +kernel)
  have entry : ((ofGate serving).run pair).gate.lookup? "http://k/" =
      some (.new "http://k/" (.ofSeconds 60)) := by decide +kernel
  have starts : ((ofGate serving).run pair).Starts (.move 0) "http://k/" 0 :=
    starts_iff.2 ⟨0, .keys, _, rfl, first, entry, rfl⟩
  refine ⟨starts, ?_, (singleFlight_run serving pair "http://k/").once _ _ starts flight _, ?_⟩
  · rw [← run_append]
    exact (orderly _).compares (by decide +kernel) (by decide +kernel)
  · decide +kernel

end TokenGate.Crowd
