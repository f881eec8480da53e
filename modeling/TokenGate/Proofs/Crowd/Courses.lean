import TokenGate.Proofs.Crowd.Turn

/-!
# How callers and fetches get where they are

After one turn, a caller stands where it stood or has been moved in one of a few ways, and so has a
fetch. What a caller wants, and by which time it judges, is read off this.
-/

namespace TokenGate

/-- The endpoint, the known number of refreshes and the errand of a caller who wants a refresh. -/
def Stage.asks? : Stage → Option (String × Nat × Errand)
  | reach uri seen errand | queue uri seen errand | compare uri seen errand =>
    some (uri, seen, errand)
  | _ => none

namespace Stage

theorem asks?_of_isFree {s : Stage} (h : s.isFree) : s.asks? = none := by
  cases s <;> simp_all [isFree, asks?]

theorem asks?_admitted (s : Stage) : s.admitted.asks? = s.asks? := by
  cases s <;> rfl

end Stage

namespace Crowd

variable {c c' c₀ : Crowd} {i j n m seen : Nat} {s s' : Stage} {f f' : Fetch} {uri : String}
  {a : Action} {errand : Errand}

def asks? (c : Crowd) (i : Nat) : Option (String × Nat × Errand) := c.callers[i]?.bind Stage.asks?

theorem asks?_eq (here : c.callers[i]? = some s) : c.asks? i = s.asks? := by
  rw [asks?, here, Option.bind_some]

/-- Where a caller came to want a refresh: it had read the entry, and the floor allowed a refresh by
the time that it judged by. -/
structure Observed (c : Crowd) (i : Nat) (uri : String) (seen : Nat) (e : Entry) : Prop where
  here : ∃ s, c.callers[i]? = some s ∧ s.isFree ∧ e.mayRefresh (s.clock c.gate.now)
  found : c.gate.lookup? uri = some e
  seen : e.attempts = seen

/-! ## Callers -/

/-- How a caller may come to a stage in one turn. -/
inductive Shift (c : Crowd) (a : Action) (j : Nat) : Stage → Prop
  | remains {s : Stage} (here : c.callers[j]? = some s) : Shift c a j s
  | admits {s : Stage} (here : c.callers[j]? = some s) : Shift c a j s.admitted
  | frees {s' : Stage} (free : s'.isFree) (clock : s'.clock c.gate.now = c.gate.now) : Shift c a j s'
  | observes {uri : String} {seen : Nat} {e : Entry} (errand : Errand) (move : a = .move j)
      (observed : c.Observed j uri seen e) : Shift c a j (.reach uri seen errand)
  | insists {s s' : Stage} (here : c.callers[j]? = some s) (asks : s'.asks?.isSome)
      (same : s'.asks? = s.asks?) : Shift c a j s'
  | joins (uri : String) (errand : Errand) : Shift c a j (.join uri errand)

theorem shift_setCaller (h : (c₀.setCaller i s).callers[j]? = some s')
    (old : ∀ s, c₀.callers[j]? = some s → c.Shift a j s) (new : i = j → c.Shift a j s) :
    c.Shift a j s' := by
  rw [getElem?_setCaller] at h
  split at h
  · rename_i same
    obtain ⟨_, -, rfl⟩ := Option.map_eq_some_iff.1 h
    exact new same
  · exact old s' h

theorem shift_release (h : (c₀.release uri).callers[j]? = some s')
    (same : c₀.callers = c.callers) : c.Shift a j s' := by
  rw [getElem?_release, same] at h
  split at h
  · obtain ⟨s, here, rfl⟩ := Option.map_eq_some_iff.1 h
    exact .admits here
  · exact .remains h

theorem shift_tell {waiter : Option Nat} {answer : KeyAnswer} (gate : c₀.gate.now = c.gate.now)
    (h : (c₀.tell waiter answer).callers[j]? = some s')
    (old : ∀ s, c₀.callers[j]? = some s → c.Shift a j s) : c.Shift a j s' := by
  unfold tell at h
  split at h
  · exact old s' h
  · split at h
    · refine shift_setCaller h old fun _ => .frees (Errand.isFree_next ..) ?_
      rw [gate]
      exact Errand.clock_next ..
    · exact old s' h

theorem Turn.shift (turn : Turn c a c') (h : c'.callers[j]? = some s') : c.Shift a j s' := by
  cases turn with
  | stays => exact .remains h
  | arrives wish =>
    rw [List.getElem?_append] at h
    split at h
    · exact .remains h
    · rw [List.getElem?_singleton] at h
      split at h
      · obtain rfl := Option.some.inj h
        exact .frees rfl rfl
      · cases h
  | passes _ _ free' clock =>
    exact shift_setCaller h (fun _ here => .remains here) fun _ => .frees free' clock
  | @observes i s e errand here free found may =>
    refine shift_setCaller h (fun _ here => .remains here) fun same => ?_
    subst same
    exact .observes errand rfl ⟨⟨s, here, free, may⟩, found, rfl⟩
  | spawnsBehind _ _ free' clock =>
    exact shift_setCaller h (fun _ here => .remains here) fun _ => .frees free' clock
  | takes here =>
    refine shift_setCaller h (fun _ here => .remains here) fun same => ?_
    subst same
    exact .insists here rfl rfl
  | queues here =>
    refine shift_setCaller h (fun _ here => .remains here) fun same => ?_
    subst same
    exact .insists here rfl rfl
  | joins =>
    exact shift_setCaller h (fun _ here => shift_release here rfl) fun _ =>
      .frees (Errand.isFree_next ..) (Errand.clock_next ..)
  | begins => exact shift_setCaller h (fun _ here => .remains here) fun _ => .joins ..
  | quits | quitsLine => exact shift_setCaller h (fun _ here => .remains here) fun _ => .frees rfl rfl
  | quitsGuard => exact shift_setCaller h (fun _ here => shift_release here rfl) fun _ => .frees rfl rfl
  | wakes | asks | waits | registers | scripts => exact .remains h
  | retires => exact shift_release h rfl
  | publishes =>
    refine shift_tell ?_ h fun s here => ?_
    · rw [gate_release]; rfl
    · exact shift_release here rfl

theorem Turn.asked (turn : Turn c a c') (h : c'.asks? j = some (uri, seen, errand)) :
    c.asks? j = some (uri, seen, errand) ∨ a = .move j ∧ ∃ e, c.Observed j uri seen e := by
  obtain ⟨s', now, asks⟩ := Option.bind_eq_some_iff.1 h
  cases turn.shift now with
  | remains here => exact .inl ((asks?_eq here).trans asks)
  | admits here =>
    rw [Stage.asks?_admitted] at asks
    exact .inl ((asks?_eq here).trans asks)
  | frees free =>
    rw [Stage.asks?_of_isFree free] at asks
    cases asks
  | observes errand' move observed =>
    simp only [Stage.asks?, Option.some.injEq, Prod.mk.injEq] at asks
    obtain ⟨rfl, rfl, rfl⟩ := asks
    exact .inr ⟨move, _, observed⟩
  | insists here _ same =>
    rw [same] at asks
    exact .inl ((asks?_eq here).trans asks)
  | joins => cases asks

theorem Turn.clocked (turn : Turn c a c') {time : Instant}
    (h : c'.callers[j]? = some (.read uri time errand)) :
    c.callers[j]? = some (.read uri time errand) ∨ time = c.gate.now := by
  generalize read : Stage.read uri time errand = s' at h
  cases turn.shift h with
  | remains here => exact .inl here
  | @admits s here =>
    cases s with
    | queue => cases read
    | _ => exact .inl here
  | frees _ clock =>
    subst read
    exact .inr clock
  | insists _ asks =>
    subst read
    cases asks
  | observes => cases read
  | joins => cases read

/-! ## Fetches -/

/-- How a fetch may come to be as it is in one turn. -/
inductive Course (c : Crowd) (a : Action) (n : Nat) : Fetch → Prop
  | remains {f : Fetch} (here : c.fetches[n]? = some f) : Course c a n f
  | ends {f : Fetch} (here : c.fetches[n]? = some f) : Course c a n { f with phase := .ended }
  | spawnsBehind (uri : String) : Course c a n ⟨uri, none, .spawned⟩
  | spawns {i : Nat} {uri : String} {errand : Errand} {e : Entry} (move : a = .move i)
      (here : c.callers[i]? = some (.compare uri e.attempts errand))
      (found : c.gate.lookup? uri = some e) : Course c a n ⟨uri, some i, .spawned⟩
  | wakes (uri : String) : Course c a n ⟨uri, none, .woken c.gate.now⟩
  | asks {f : Fetch} (start : a = .start n) (here : c.fetches[n]? = some f)
      (ready : f.phase.canMove)
      (due : f.phase = .spawned ∧ f.waiter.isSome ∨ ∃ time e, f.phase = .woken time ∧
        c.gate.lookup? f.uri = some e ∧ e.isDue time) :
      Course c a n ⟨f.uri, f.waiter, .running c.gate.now
        (Fetched.run c.gate.settings c.gate.epoch f.uri c.gate.network c.gate.now)⟩

theorem course_setPhase {p : Phase} (here : c.fetches[n]? = some f)
    (h : (c.setPhase n p).fetches[m]? = some f')
    (new : n = m → c.Course a m { f with phase := p }) : c.Course a m f' := by
  rw [getElem?_setPhase] at h
  split at h
  · rename_i same
    subst same
    rw [here, Option.map_some, Option.some.injEq] at h
    exact h ▸ new rfl
  · exact .remains h

theorem course_spawn {waiter : Option Nat} (h : (c.spawn uri waiter).fetches[m]? = some f')
    (new : c.Course a m ⟨uri, waiter, .spawned⟩) : c.Course a m f' := by
  rw [getElem?_spawn] at h
  split at h
  · exact Option.some.inj h ▸ new
  · exact .remains h

@[simp] theorem gate_tell (c : Crowd) (waiter : Option Nat) (answer : KeyAnswer) :
    (c.tell waiter answer).gate = c.gate := by
  unfold tell
  split
  · rfl
  · split <;> rfl

@[simp] theorem fetches_tell (c : Crowd) (waiter : Option Nat) (answer : KeyAnswer) :
    (c.tell waiter answer).fetches = c.fetches := by
  unfold tell
  split
  · rfl
  · split <;> rfl

theorem gate_published (c : Crowd) (n : Nat) (e : Entry) (r : Refresh) (waiter : Option Nat) :
    (c.published n e r waiter).gate = (c.gate.publishRefresh e r).2 := by
  simp [published]

theorem fetches_published (c : Crowd) (n : Nat) (e : Entry) (r : Refresh) (waiter : Option Nat) :
    (c.published n e r waiter).fetches = (c.setPhase n .ended).fetches := by
  simp only [published, fetches_tell, fetches_release]
  rfl

theorem Turn.course (turn : Turn c a c') (h : c'.fetches[m]? = some f') : c.Course a m f' := by
  cases turn with
  | stays | arrives | passes | observes | takes | queues | quits | quitsLine | waits | registers
  | scripts => exact .remains h
  | spawnsBehind => exact course_spawn h (.spawnsBehind _)
  | joins | quitsGuard =>
    rw [fetches_setCaller, fetches_release] at h
    exact .remains h
  | begins here found => exact course_spawn h (.spawns rfl here found)
  | wakes here => exact course_setPhase here h fun _ => .wakes _
  | asks here ready due =>
    refine course_setPhase here h fun same => ?_
    subst same
    exact .asks rfl here ready due
  | retires here =>
    rw [fetches_release] at h
    refine course_setPhase here h fun same => ?_
    subst same
    exact .ends here
  | publishes here =>
    rw [fetches_published] at h
    refine course_setPhase here h fun same => ?_
    subst same
    exact .ends here

end Crowd

end TokenGate
