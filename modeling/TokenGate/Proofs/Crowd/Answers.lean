import TokenGate.Proofs.Cache.Record
import TokenGate.Proofs.Crowd.SingleFlight
import TokenGate.Proofs.Gate.Record

/-!
# What callers in a crowd are told

Followed from turn to turn, a caller keeps its wish until it is answered, and nearly every answer is what
the entry holds at that time.
-/

namespace TokenGate

def Errand.wish (uri : String) : Errand → Wish
  | keys => .keys uri
  | firstKey id | forcedKey id => .key uri id
  | sweep _ _ => .sweep

namespace Stage

/-- What a caller wants that has not been answered. -/
def wish? : Stage → Option Wish
  | look wish => some wish
  | read uri _ errand | excuse uri errand | reach uri _ errand | queue uri _ errand
  | compare uri _ errand | join uri errand => some (errand.wish uri)
  | lookAgain uri id => some (.key uri id)
  | visit _ _ => some .sweep
  | done _ _ | gone => none

/-- Has the caller been neither refused nor sent back for a second look? -/
def isOpen : Stage → Bool
  | excuse _ _ | lookAgain _ _ => false
  | _ => true

/-- What one turn may do to a caller, with the gate before it and after it. -/
inductive Fares (g g' : Gate) : Stage → Stage → Prop
  | remains (s : Stage) : Fares g g' s s
  | leaves (s : Stage) : Fares g g' s gone
  | goesOn {s s' : Stage} (wish : s'.wish? = s.wish?) (waits : s.wish?.isSome) (isOpen : s'.isOpen) :
      Fares g g' s s'
  /-- The caller is told what the entry holds. -/
  | settles {s : Stage} {uri : String} {errand : Errand} {e : Entry} (now : Instant)
      (wish : s.wish? = some (errand.wish uri)) (found : g'.lookup? uri = some e) :
      Fares g g' s (errand.next uri e.joined now)
  | untracked {s : Stage} {uri : String} {errand : Errand} (now : Instant)
      (wish : s.wish? = some (errand.wish uri)) (none : g.lookup? uri = none) :
      Fares g g' s (errand.next uri (.error (Gate.unregistered uri)) now)
  /-- A refresh has brought keys, and the clock cannot show how long they are fresh. -/
  | fails {uri : String} {errand : Errand} {e : Entry} {r : Refresh} (now : Instant)
      (found : g.lookup? uri = some e) (recorded : r ∈ g'.refreshes uri)
      (runsOut : ¬ r.Lasts g.settings e.floor) :
      Fares g g' (join uri errand) (errand.next uri (.error Entry.refreshFailed) now)
  | finds {uri : String} {time : Instant} {errand : Errand} {e : Entry}
      (found : g.lookup? uri = some e) (bare : e.held = none) :
      Fares g g' (read uri time errand) (excuse uri errand)
  | excused {uri : String} {errand : Errand} (now : Instant) (e : Entry) :
      Fares g g' (excuse uri errand) (errand.next uri (.error e.unavailable) now)
  /-- The floor has not passed, and the caller does not look at the keys again. -/
  | declines {uri id : String} {e : Entry} (now : Instant) (found : g.lookup? uri = some e)
      (early : ¬ e.mayRefresh g.now) :
      Fares g g' (lookAgain uri id) (done (.key (.error (.unknownKey id))) now)
  | counts (count : Nat) (now : Instant) : Fares g g' (visit [] count) (done (.refreshed count) now)

theorem fares_admitted (g g' : Gate) (s : Stage) : s.Fares g g' s.admitted := by
  cases s with
  | queue => exact .goesOn rfl rfl rfl
  | _ => exact .remains _

/-- What may become of a caller that neither moves nor is told anything. -/
def Kept (s s' : Stage) : Prop := s' = s ∨ s' = s.admitted ∨ s' = gone

theorem Kept.fares {s s' : Stage} (kept : s.Kept s') (g g' : Gate) : s.Fares g g' s' := by
  obtain rfl | rfl | rfl := kept
  · exact .remains _
  · exact fares_admitted ..
  · exact .leaves _

end Stage

namespace Crowd

variable {c c' : Crowd} {i j n : Nat} {s s' : Stage} {uri : String} {e : Entry} {a : Action}
  {errand : Errand} {answer : KeyAnswer}

/-- After the turn the caller is there, and stands where the turn may have brought it. -/
def Follows (c : Crowd) (j : Nat) (s : Stage) (c' : Crowd) : Prop :=
  ∃ s', c'.callers[j]? = some s' ∧ s.Fares c.gate c'.gate s'

/-! ## Its own turn -/

theorem follows_setCaller (here : c'.callers[i]? = some s) (fares : s.Fares c.gate c'.gate s') :
    c.Follows i s (c'.setCaller i s') :=
  ⟨s', setCaller_self here, fares⟩

theorem follows_look (here : c.callers[i]? = some s) (wish : s.wish? = some (errand.wish uri)) :
    c.Follows i s (c.look i uri errand) := by
  unfold look
  split
  · rename_i none
    exact follows_setCaller here (.untracked _ wish none)
  · exact follows_setCaller here (.goesOn wish.symm (by rw [wish]; rfl) rfl)

theorem follows_serve {time : Instant} (here : c.callers[i]? = some (.read uri time errand))
    (found : c.gate.lookup? uri = some e) :
    c.Follows i (.read uri time errand) (c.serve i e time errand) := by
  obtain rfl := Gate.uri_of_lookup? found
  unfold serve
  split
  · split
    · exact follows_setCaller here (.goesOn rfl rfl rfl)
    · exact follows_setCaller here (.goesOn rfl rfl rfl)
  · split
    · rename_i held behind serve
      rw [settle, ← Entry.joined_of_serve serve]
      -- What begins behind the caller's back changes no entry.
      cases behind with
      | false => exact follows_setCaller here (.settles _ rfl found)
      | true =>
        simp only [if_true, spawnBehind]
        split
        · exact follows_setCaller here (.settles _ rfl found)
        · exact follows_setCaller here (.settles _ rfl found)
    · exact follows_setCaller here (.goesOn rfl rfl rfl)
    · rename_i refuse
      exact follows_setCaller here (.finds found (Entry.bare_of_refuse refuse))

theorem follows_lookAgain {id : String} (here : c.callers[i]? = some (.lookAgain uri id)) :
    c.Follows i (.lookAgain uri id) (c.lookAgain i uri id) := by
  unfold lookAgain
  split
  · rename_i none
    have told : Stage.Fares c.gate c.gate (.lookAgain uri id)
        ((Errand.forcedKey id).next uri (.error (Gate.unregistered uri)) c.gate.now) :=
      .untracked _ rfl none
    exact follows_setCaller here told
  · rename_i e found
    split
    · exact follows_setCaller here (.goesOn rfl rfl rfl)
    · rename_i early
      exact follows_setCaller here (.declines _ found early)

theorem follows_excuse (here : c.callers[i]? = some (.excuse uri errand)) :
    c.Follows i (.excuse uri errand) (c.excuse i uri errand) := by
  unfold excuse
  split
  · rename_i none
    exact follows_setCaller here (.untracked _ rfl none)
  · exact follows_setCaller here (.excused ..)

theorem follows_visit {uris : List String} {count : Nat}
    (here : c.callers[i]? = some (.visit uris count)) :
    c.Follows i (.visit uris count) (c.visit i uris count) := by
  unfold visit
  split
  · exact follows_setCaller here (.counts ..)
  · split <;> exact follows_setCaller here (.goesOn rfl rfl rfl)

theorem follows_acquire {seen : Nat} (here : c.callers[i]? = some (.reach uri seen errand)) :
    c.Follows i (.reach uri seen errand) (c.acquire i uri seen errand) := by
  unfold acquire
  simp only
  split <;> exact follows_setCaller here (.goesOn rfl rfl rfl)

theorem getElem?_release_of_compare {seen : Nat} (here : c.callers[i]? = some (.compare uri seen errand))
    (other : String) : (c.release other).callers[i]? = some (.compare uri seen errand) := by
  rw [getElem?_release, here]
  split <;> rfl

theorem follows_compare {seen : Nat} (here : c.callers[i]? = some (.compare uri seen errand)) :
    c.Follows i (.compare uri seen errand) (c.compare i uri seen errand) := by
  have released := getElem?_release_of_compare here uri
  unfold compare
  split
  · rename_i none
    exact follows_setCaller released (.untracked _ rfl none)
  · rename_i e found
    split
    · exact follows_setCaller here (.goesOn rfl rfl rfl)
    · exact follows_setCaller released (.settles _ rfl (by rw [gate_release, found]))

theorem follows_self (here : c.callers[j]? = some s) : c.Follows j s c := ⟨s, here, .remains s⟩

theorem follows_move (here : c.callers[i]? = some s) : c.Follows i s (c.move i) := by
  cases s with
  | look wish =>
    cases wish with
    | keys uri => simp only [move, here]; exact follows_look here rfl
    | key uri id => simp only [move, here]; exact follows_look here rfl
    | sweep => simp only [move, here]; exact follows_setCaller here (.goesOn rfl rfl rfl)
  | read uri time errand =>
    simp only [move, here]
    split
    · exact follows_self here
    · rename_i found
      exact follows_serve here found
  | lookAgain uri id => simp only [move, here]; exact follows_lookAgain here
  | excuse uri errand => simp only [move, here]; exact follows_excuse here
  | visit uris count => simp only [move, here]; exact follows_visit here
  | reach uri seen errand => simp only [move, here]; exact follows_acquire here
  | compare uri seen errand => simp only [move, here]; exact follows_compare here
  | queue | join | done | gone => simp only [move, here]; exact follows_self here

/-! ## The turns of others -/

/-- The fetch that is to tell a caller of its end has ended, and the caller is told what it came to. -/
inductive Told (c : Crowd) (j : Nat) : Action → Stage → Crowd → Prop
  | tells {n : Nat} {uri uri' : String} {started : Instant} {run : Fetched.Run} {e : Entry}
      {errand : Errand} {c' : Crowd}
      (flying : c.fetches[n]? = some ⟨uri, some j, .running started run⟩)
      (found : c.gate.lookup? uri = some e)
      (after : c' = c.published n e ⟨uri, started, c.gate.now, run.result⟩ (some j))
      (next : c'.callers[j]? = some (errand.next uri'
        (e.publish c.gate.settings ⟨uri, started, c.gate.now, run.result⟩).answer c.gate.now)) :
      Told c j (.finish n) (.join uri' errand) c'

theorem moved_release (here : c.callers[j]? = some s) (uri : String) :
    ∃ s', (c.release uri).callers[j]? = some s' ∧ (s' = s ∨ s' = s.admitted) := by
  rw [getElem?_release, here]
  split
  · exact ⟨_, rfl, .inr rfl⟩
  · exact ⟨_, rfl, .inl rfl⟩

theorem left_setCaller (here : c.callers[j]? = some s) (i : Nat) :
    ∃ s', (c.setCaller i .gone).callers[j]? = some s' ∧ (s' = s ∨ s' = .gone) := by
  rw [getElem?_setCaller, here]
  split
  · exact ⟨_, rfl, .inr rfl⟩
  · exact ⟨_, rfl, .inl rfl⟩

theorem told_tell (here : c.callers[j]? = some s) (waiter : Option Nat) (answer : KeyAnswer) :
    (c.tell waiter answer).callers[j]? = some s ∨
      ∃ uri errand, waiter = some j ∧ s = .join uri errand ∧
        (c.tell waiter answer).callers[j]? = some (errand.next uri answer c.gate.now) := by
  unfold tell
  split
  · exact .inl here
  · rename_i i
    by_cases mine : i = j
    · subst mine
      split
      · rename_i uri errand joins
        obtain rfl := Option.some.inj (here.symm.trans joins)
        exact .inr ⟨uri, errand, rfl, rfl, setCaller_self here⟩
      · exact .inl here
    · split
      · exact .inl ((setCaller_of_ne mine).trans here)
      · exact .inl here

/-- Others may let a caller have the guard, or tell it what it waits for. -/
theorem Turn.elsewhere (turn : Turn c a c') (here : c.callers[j]? = some s) (other : a ≠ .move j) :
    (∃ s', c'.callers[j]? = some s' ∧ s.Kept s') ∨ Told c j a s c' := by
  have same (h : c'.callers[j]? = some s) : (∃ s', c'.callers[j]? = some s' ∧ s.Kept s') ∨
      Told c j a s c' := .inl ⟨s, h, .inl rfl⟩
  have ne {i : Nat} (h : a = .move i) : i ≠ j := fun ij => other (ij ▸ h)
  cases turn with
  | stays => exact same here
  | arrives =>
    refine same ?_
    have old := (List.getElem?_eq_some_iff.1 here).1
    rw [List.getElem?_append_left old, here]
  | passes | observes | spawnsBehind | takes | queues | begins =>
    refine same ?_
    rw [setCaller_of_ne (ne rfl)]
    exact here
  | joins =>
    rw [setCaller_of_ne (ne rfl)]
    obtain ⟨s', there, moved⟩ := moved_release here _
    exact .inl ⟨s', there, moved.imp_right .inl⟩
  | quits | quitsLine =>
    obtain ⟨s', there, left⟩ := left_setCaller (c := c) here _
    exact .inl ⟨s', there, left.imp_right .inr⟩
  | quitsGuard =>
    obtain ⟨s', there, moved⟩ := moved_release here _
    obtain ⟨s'', there, left⟩ := left_setCaller there _
    refine .inl ⟨s'', there, ?_⟩
    obtain rfl | rfl := left
    · exact moved.imp_right .inl
    · exact .inr (.inr rfl)
  | wakes | asks | waits | registers | scripts => exact same here
  | retires =>
    obtain ⟨s', there, moved⟩ := moved_release (c := c.setPhase _ .ended) here _
    exact .inl ⟨s', there, moved.imp_right .inl⟩
  | @publishes n uri waiter started run e flying found past =>
    let r : Refresh := ⟨uri, started, c.gate.now, run.result⟩
    let after := { c with gate := (c.gate.publishRefresh e r).2 }.setPhase n .ended
    obtain ⟨s', there, moved⟩ := moved_release (c := after) here uri
    obtain stood | ⟨uri', errand, rfl, rfl, next⟩ := told_tell there waiter (c.gate.publishRefresh e r).1
    · exact .inl ⟨s', stood, moved.imp_right .inl⟩
    · have joins : s = .join uri' errand := by
        obtain same | same := moved
        · exact same.symm
        · cases s <;> cases same
          rfl
      rw [gate_release] at next
      subst joins
      exact .inr (.tells flying found rfl next)

/-! ## Who waits for which fetch -/

/-- The caller waits for a fetch of the endpoint, or has left. -/
def Waits (c : Crowd) (i : Nat) (uri : String) : Prop :=
  c.callers[i]? = some .gone ∨ ∃ errand, c.callers[i]? = some (.join uri errand)

/-- The callers that fetches are to tell wait for them, or have left. -/
def Matched (c : Crowd) : Prop :=
  ∀ (n : Nat) (uri : String) (i : Nat) (phase : Phase), c.fetches[n]? = some ⟨uri, some i, phase⟩ →
    phase ≠ .ended → c.Waits i uri

theorem Matched.uri_eq (h : c.Matched) {phase : Phase} {uri' : String}
    (aloft : c.fetches[n]? = some ⟨uri, some i, phase⟩) (live : phase ≠ .ended)
    (joins : c.callers[i]? = some (.join uri' errand)) : uri' = uri := by
  obtain gone | ⟨errand', there⟩ := h n uri i phase aloft live
  · rw [joins] at gone
    cases gone
  · rw [joins] at there
    injection Option.some.inj there

theorem Matched.waits_step (h : c.Matched) (waits : c.Waits i uri) (a : Action) :
    (c.step a).Waits i uri ∨ ∃ n started run, a = .finish n ∧
      c.fetches[n]? = some ⟨uri, some i, .running started run⟩ ∧
      (c.step a).fetches[n]? = some ⟨uri, some i, .ended⟩ := by
  by_cases own : a = .move i
  · left
    subst own
    have still : c.move i = c := by
      obtain gone | ⟨errand, joins⟩ := waits
      · simp only [move, gone]
      · simp only [move, joins]
    rw [step, still]
    exact waits
  · have turn := c.turn_step a
    obtain gone | ⟨errand, joins⟩ := waits
    · obtain ⟨s', there, kept⟩ | told := turn.elsewhere gone own
      · left
        obtain rfl | rfl | rfl := kept <;> exact .inl there
      · cases told
    · obtain ⟨s', there, kept⟩ | told := turn.elsewhere joins own
      · left
        obtain rfl | rfl | rfl := kept
        · exact .inr ⟨errand, there⟩
        · exact .inr ⟨errand, there⟩
        · exact .inl there
      · right
        generalize c.step a = c' at told
        cases told with
        | @tells n _ _ started run _ _ _ flying found after =>
          obtain rfl := h.uri_eq flying (by simp) joins
          refine ⟨n, started, run, rfl, flying, ?_⟩
          rw [after, fetches_published, getElem?_setPhase, if_pos rfl, flying]
          rfl

theorem Matched.step (h : c.Matched) (orderly : c.Orderly) (a : Action) : (c.step a).Matched := by
  intro n uri i phase here live
  -- Of the endpoint that the caller waits for, one fetch at most goes on.
  have waits (old : c.Waits i uri) (finish : ∀ m started run, a = .finish m →
      c.fetches[m]? = some ⟨uri, some i, .running started run⟩ → m = n) : (c.step a).Waits i uri := by
    refine (h.waits_step old a).resolve_right fun ⟨m, started, run, ends, flying, ended⟩ => ?_
    obtain rfl := finish m started run ends flying
    rw [here] at ended
    injection Option.some.inj ended with _ _ phase
    exact live phase
  generalize same : (⟨uri, some i, phase⟩ : Fetch) = f at here
  cases (c.turn_step a).course here with
  | remains old =>
    subst same
    exact waits (h n uri i phase old live) fun m _ _ _ flying =>
      orderly.live_unique flying old rfl (by simp) live
  | ends => injection same with _ _ phase; exact absurd phase live
  | spawnsBehind | wakes => cases same
  | @spawns i' _ errand e move compares found =>
    cases same
    subst move
    refine .inr ⟨errand, ?_⟩
    simp only [Crowd.step, Crowd.move, compares, compare, found, if_true]
    exact setCaller_self compares
  | @asks f start old ready =>
    injection same with uri_ waiter_
    subst start uri_
    have live' : f.phase ≠ .ended := fun ended => by rw [ended] at ready; cases ready
    refine waits (h n f.uri i f.phase ?_ live') fun m _ _ finish => by cases finish
    rw [old, waiter_]

theorem matched_ofGate (g : Gate) : (ofGate g).Matched := fun _ _ _ _ here => by cases here

theorem Matched.run (h : c.Matched) (orderly : c.Orderly) (actions : List Action) :
    (c.run actions).Matched := by
  induction actions generalizing c with
  | nil => exact h
  | cons a rest ih => exact ih (h.step orderly a) ((c.turn_step a).orderly orderly)

/-! ## Any turn -/

theorem Matched.follows (h : c.Matched) (here : c.callers[j]? = some s) (a : Action) :
    c.Follows j s (c.step a) := by
  by_cases own : a = .move j
  · subst own
    exact follows_move here
  obtain ⟨s', there, kept⟩ | told := (c.turn_step a).elsewhere here own
  · exact ⟨s', there, kept.fares ..⟩
  · generalize c.step a = c' at told ⊢
    cases told with
    | @tells n _ uri started run e errand _ flying found after next =>
      obtain rfl := h.uri_eq flying (by simp) here
      let r : Refresh := ⟨uri, started, c.gate.now, run.result⟩
      have gate : c'.gate = (c.gate.publishRefresh e r).2 := by rw [after, gate_published]
      refine ⟨_, next, ?_⟩
      obtain joined | ⟨failed, runsOut⟩ := e.answer_publish c.gate.settings r
      · rw [joined]
        exact .settles _ rfl (by rw [gate, Gate.lookup?_publishRefresh found])
      · rw [failed]
        refine .fails (r := r) _ found ?_ runsOut
        rw [gate, Gate.refreshes_publishRefresh, if_pos rfl]
        exact List.mem_append_right _ (List.mem_singleton.2 rfl)

end Crowd

end TokenGate
