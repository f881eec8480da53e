import TokenGate.Proofs.Crowd.Answers
import TokenGate.Proofs.Crowd.Pace

/-!
# The record of a crowd

Every refresh on record asked its endpoint when its fetch began. Whoever comes to an endpoint that has
keys can count on them.
-/

namespace TokenGate

/-! ## Callers of an endpoint with keys -/

def Wish.uri? : Wish → Option String
  | keys uri | key uri _ => some uri
  | sweep => none

/-- The caller has been given what it wished for, or told that the key is not among those there are. -/
def Outcome.Fulfils : Wish → Outcome → Prop
  | .keys _, keys answer => ∃ held, answer = .ok held
  | .key _ id, key answer => ∀ err, answer = .error err → err = .unknownKey id
  | .sweep, refreshed _ => True
  | _, _ => False

/-- A caller that is not to be turned away empty-handed. -/
def Stage.Assured (wish : Wish) : Stage → Prop
  | done outcome _ => outcome.Fulfils wish
  | gone => True
  | excuse _ _ => False
  | s => s.wish? = some wish

namespace Stage

variable {g g' : Gate} {s s' : Stage} {w : Wish} {uri : String} {e e' : Entry}

theorem assured_of_wish (h : s.wish? = some w) (unexcused : ∀ uri errand, s ≠ excuse uri errand) :
    s.Assured w := by
  cases s with
  | done | gone => cases h
  | excuse uri errand => exact absurd rfl (unexcused uri errand)
  | _ => exact h

theorem Assured.wish?_eq (h : s.Assured w) (waits : s.wish?.isSome) : s.wish? = some w := by
  cases s with
  | done | gone => cases waits
  | excuse => exact h.elim
  | _ => exact h

theorem assured_next (uri : String) (held : HeldKeys) (now : Instant) (errand : Errand) :
    (errand.next uri (.ok held) now).Assured (errand.wish uri) := by
  cases errand with
  | keys => exact ⟨held, rfl⟩
  | firstKey id =>
    simp only [Errand.next, Gate.FirstLook.ofAnswer]
    cases held.keys.get? id with
    | some k =>
      intro err refused
      cases refused
    | none => rfl
  | forcedKey id => exact fun err refused => Gate.keyIn_ok_error refused
  | sweep later count => rfl

theorem uri_of_wish {errand : Errand} {uri' : String} (asks : w.uri? = some uri)
    (h : errand.wish uri' = w) : uri' = uri := by
  subst h
  cases errand <;> first | exact Option.some.inj asks | cases asks

theorem Fares.assured (fares : s.Fares g g' s') (h : s.Assured w) (asks : w.uri? = some uri)
    (found : g.lookup? uri = some e) (held : e.held.isSome) (found' : g'.lookup? uri = some e')
    (held' : e'.held.isSome) (lasts : ∀ r ∈ g'.refreshes uri, r.Lasts g.settings e.floor) :
    s'.Assured w := by
  cases fares with
  | remains => exact h
  | leaves => trivial
  | goesOn same waits isOpen =>
    refine assured_of_wish (same.trans (h.wish?_eq waits)) fun uri errand excused => ?_
    subst excused
    cases isOpen
  | @settles _ uri' errand e'' now mine there =>
    have wished := Option.some.inj (mine.symm.trans (h.wish?_eq (by rw [mine]; rfl)))
    obtain rfl := uri_of_wish asks wished
    obtain rfl := Option.some.inj (found'.symm.trans there)
    obtain ⟨keys, -, ok⟩ := Entry.joined_of_held held'
    rw [ok, ← wished]
    exact assured_next ..
  | untracked now mine none =>
    obtain rfl := uri_of_wish asks (Option.some.inj (mine.symm.trans (h.wish?_eq (by rw [mine]; rfl))))
    rw [found] at none
    cases none
  | fails now there recorded runsOut =>
    obtain rfl := uri_of_wish asks (Option.some.inj h)
    obtain rfl := Option.some.inj (found.symm.trans there)
    exact absurd (lasts _ recorded) runsOut
  | finds there bare =>
    obtain rfl := uri_of_wish asks (Option.some.inj h)
    obtain rfl := Option.some.inj (found.symm.trans there)
    rw [bare] at held
    cases held
  | excused => exact h.elim
  | @declines _ id _ now there early =>
    obtain rfl := Option.some.inj h
    intro err refused
    exact (Except.error.inj refused).symm
  | counts =>
    obtain rfl := Option.some.inj h
    cases asks

end Stage

namespace Crowd

variable {c c' : Crowd} {i n : Nat} {s : Stage} {uri : String} {e : Entry} {r : Refresh} {wish : Wish}
  {a : Action}

theorem assured_run (orderly : c.Orderly) (matched : c.Matched) (asks : wish.uri? = some uri)
    (found : c.gate.lookup? uri = some e) (held : e.held.isSome) (here : c.callers[i]? = some s)
    (h : s.Assured wish) (actions : List Action)
    (lasts : ∀ r ∈ (c.run actions).gate.refreshes uri, r.Lasts c.gate.settings e.floor) :
    ∃ s', (c.run actions).callers[i]? = some s' ∧ s'.Assured wish := by
  induction actions generalizing c s e with
  | nil => exact ⟨s, here, h⟩
  | cons a rest ih =>
    obtain ⟨rs, grown⟩ := c.grown_step a uri
    obtain ⟨rs', later⟩ := (c.step a).grown_run rest uri
    have found' := grown.entry e found
    have held' := Entry.isSome_held_after c.gate.settings rs held
    obtain ⟨s', there, fares⟩ := matched.follows here a
    have assured := fares.assured h asks found held found' held' fun r recorded => by
      refine lasts r ?_
      change r ∈ ((c.step a).run rest).gate.refreshes uri
      rw [later.refreshes]
      exact List.mem_append_left _ recorded
    refine ih ((c.turn_step a).orderly orderly) (matched.step orderly a) found' held' there assured ?_
    rw [Entry.floor_after, grown.settings]
    exact lasts

/-- Who comes when there are keys is given keys, or told that a key is not among them. -/
theorem fulfilled_run (orderly : c.Orderly) (matched : c.Matched) (asks : wish.uri? = some uri)
    (found : c.gate.lookup? uri = some e) (held : e.held.isSome) (actions : List Action)
    (lasts : ∀ r ∈ (c.run (.arrive wish :: actions)).gate.refreshes uri,
      r.Lasts c.gate.settings e.floor) {outcome : Outcome} {time : Instant}
    (done : (c.run (.arrive wish :: actions)).callers[c.callers.length]? = some (.done outcome time)) :
    outcome.Fulfils wish := by
  have arrived : (c.step (.arrive wish)).callers[c.callers.length]? = some (.look wish) := by
    simp [step]
  obtain ⟨s', there, assured⟩ := assured_run ((c.turn_step (.arrive wish)).orderly orderly)
    (matched.step orderly _) asks (e := e) found held arrived rfl actions lasts
  obtain rfl := Option.some.inj (done.symm.trans there)
  exact assured

/-! ## The record -/

theorem Turn.replayed (turn : Turn c a c') (h : c.Steady) (replayed : c.gate.Replayed uri) :
    c'.gate.Replayed uri := by
  cases turn with
  | registers other floor => exact replayed.register (h.paced uri).untracked other floor
  | joins | quitsGuard | retires =>
    simp only [gate_setCaller, gate_release, gate_setPhase]
    exact replayed
  | @publishes n uri' waiter started run e here found late =>
    rw [gate_published]
    obtain rfl := Gate.uri_of_lookup? found
    by_cases mine : e.uri = uri
    · subst mine
      exact replayed.publish found rfl
    · exact replayed.publish_of_ne (Ne.symm mine) mine
  | waits | scripts | asks => exact replayed.of_eq rfl rfl rfl
  | _ => exact replayed

theorem replayed_run (steady : c.Steady) (orderly : c.Orderly) (h : c.gate.Replayed uri)
    (actions : List Action) : (c.run actions).gate.Replayed uri := by
  induction actions generalizing c with
  | nil => exact h
  | cons a rest ih =>
    have turn := c.turn_step a
    exact ih (turn.steady steady orderly) (turn.orderly orderly) (turn.replayed steady h)

/-- The gate as it was when one of the fetches began. -/
def Asks (c : Crowd) (actions : List Action) (g : Gate) : Prop :=
  ∃ before n rest, actions = before ++ .start n :: rest ∧ g = (c.run before).gate

theorem Asks.snoc {actions : List Action} {g : Gate} (h : c.Asks actions g) (a : Action) :
    c.Asks (actions ++ [a]) g := by
  obtain ⟨before, n, rest, rfl, gate⟩ := h
  exact ⟨before, n, rest ++ [a], by simp, gate⟩

/-- What a fetch under way will come to was settled when it began. -/
theorem asks_of_running (none : c.fetches = []) (actions : List Action) {waiter : Option Nat}
    {started : Instant} {run : Fetched.Run}
    (here : (c.run actions).fetches[n]? = some ⟨uri, waiter, .running started run⟩) :
    ∃ g, c.Asks actions g ∧ started = g.now ∧
      run = Fetched.run g.settings g.epoch uri g.network g.now := by
  induction actions using List.reverseRecOn with
  | nil =>
    rw [Crowd.run, List.foldl_nil, none] at here
    cases here
  | append_singleton actions a ih =>
    rw [run_snoc] at here
    generalize same : (⟨uri, waiter, .running started run⟩ : Fetch) = f at here
    cases (turn_step _ a).course here with
    | remains old =>
      subst same
      obtain ⟨g, asks, told⟩ := ih old
      exact ⟨g, asks.snoc a, told⟩
    | @asks f start =>
      subst start
      injection same with uri_ _ phase
      injection phase with started_ run_
      subst uri_ started_ run_
      exact ⟨_, ⟨actions, n, [], rfl, rfl⟩, rfl, rfl⟩
    | ends => injection same with _ _ phase; cases phase
    | spawnsBehind | spawns | wakes => cases same

theorem asked_run (none : c.fetches = []) (actions : List Action)
    (here : r ∈ (c.run actions).gate.refreshes uri) :
    r ∈ c.gate.refreshes uri ∨ r.uri = uri ∧ ∃ g, c.Asks actions g ∧ r.AskedOf g := by
  induction actions using List.reverseRecOn with
  | nil => exact .inl here
  | append_singleton actions a ih =>
    have earlier (old : r ∈ (c.run actions).gate.refreshes uri) :
        r ∈ c.gate.refreshes uri ∨ r.uri = uri ∧ ∃ g, c.Asks (actions ++ [a]) g ∧ r.AskedOf g :=
      (ih old).imp_right fun ⟨mine, g, asks, asked⟩ => ⟨mine, g, asks.snoc a, asked⟩
    rw [run_snoc] at here
    obtain ⟨n, waiter, started, run, e, -, flying, found, past, after⟩ | keeps :=
      (turn_step (c.run actions) a).lands_or_keeps uri
    · obtain rfl := Gate.uri_of_lookup? found
      rw [after, gate_published, Gate.refreshes_publishRefresh, if_pos rfl, List.mem_append] at here
      obtain old | new := here
      · exact earlier old
      · obtain rfl := List.mem_singleton.1 new
        obtain ⟨g, asks, rfl, rfl⟩ := asks_of_running none actions flying
        exact .inr ⟨rfl, g, asks.snoc a, Refresh.askedOf_of_run rfl past rfl⟩
    · rw [keeps.refreshes] at here
      exact earlier here

end Crowd

end TokenGate
