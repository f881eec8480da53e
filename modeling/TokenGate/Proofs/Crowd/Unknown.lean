import TokenGate.Proofs.Crowd.Answers

/-!
# Which keys are unknown

A caller is told that there is no such key when the keys that it looked at last are without it. If the
floor forbids another refresh, it does not look at the keys again, and misses a refresh that has ended
since its look.
-/

namespace TokenGate

/-- The entry has keys, and this one is not among them. -/
def Entry.Lacks (e : Entry) (id : String) : Prop :=
  ∃ held, e.held = some held ∧ held.keys.get? id = none

theorem Entry.lacks_of_joined {e : Entry} {id : String} {held : HeldKeys} (h : e.joined = .ok held)
    (missing : held.keys.get? id = none) : e.Lacks id := by
  unfold joined at h
  split at h
  · rename_i there
    obtain rfl := Except.ok.inj h
    exact ⟨_, there, missing⟩
  · cases h

namespace Errand

variable {uri uri' id : String} {answer : KeyAnswer} {now time : Instant} {errand : Errand}

theorem missing_of_lookAgain (h : errand.next uri answer now = .lookAgain uri' id) :
    uri = uri' ∧ ∃ held, answer = .ok held ∧ held.keys.get? id = none := by
  cases errand with
  | keys | forcedKey | sweep => cases h
  | firstKey id' =>
    simp only [next] at h
    split at h
    · cases h
    · rename_i missing
      obtain ⟨rfl, rfl⟩ := Stage.lookAgain.inj h
      exact ⟨rfl, Gate.ofAnswer_missing missing⟩

theorem missing_of_unknown (outage : ∀ err, answer = .error err → err.IsOutage)
    (h : errand.next uri answer now = .done (.key (.error (.unknownKey id))) time) :
    errand = .forcedKey id ∧ ∃ held, answer = .ok held ∧ held.keys.get? id = none := by
  have served : answer ≠ .error (.unknownKey id) := by
    intro told
    obtain ⟨detail, other⟩ := outage _ told
    cases other
  cases errand with
  | keys | sweep => cases h
  | firstKey id' =>
    simp only [next] at h
    split at h
    · rename_i r settled
      injection h with same
      injection same with same
      subst same
      exact absurd (Gate.ofAnswer_refused settled) served
    · cases h
  | forcedKey id' =>
    injection h with same
    injection same with same
    obtain told | ⟨same, missing⟩ := Gate.keyIn_refused same
    · exact absurd told served
    · obtain rfl := AuthError.unknownKey.inj same
      exact ⟨rfl, missing⟩

end Errand

/-! ## One turn -/

namespace Stage.Fares

variable {g g' : Gate} {s : Stage} {uri id : String} {time : Instant}

theorem lacks_of_lookAgain (fares : s.Fares g g' (.lookAgain uri id)) :
    s = .lookAgain uri id ∨ ∃ e, g'.lookup? uri = some e ∧ e.Lacks id := by
  generalize same : Stage.lookAgain uri id = s' at fares
  have refused {uri' : String} {err : AuthError} {now : Instant} {errand : Errand} :
      errand.next uri' (.error err) now ≠ .lookAgain uri id := by
    intro h
    obtain ⟨-, held, ok, -⟩ := Errand.missing_of_lookAgain h
    cases ok
  cases fares with
  | remains => exact .inl rfl
  | goesOn wish waits isOpen =>
    subst same
    cases isOpen
  | settles now wish found =>
    obtain ⟨rfl, held, ok, missing⟩ := Errand.missing_of_lookAgain same.symm
    exact .inr ⟨_, found, Entry.lacks_of_joined ok missing⟩
  | untracked | fails | excused => exact absurd same.symm refused
  | leaves | finds | declines | counts => cases same

/-- Who is told that a key is unknown is told of keys that are there and that it is not among, or has
been refused a second look at them. -/
theorem lacks_of_unknown (fares : s.Fares g g' (.done (.key (.error (.unknownKey id))) time))
    (asks : s.wish? = some (.key uri id)) :
    (∃ e, g'.lookup? uri = some e ∧ e.Lacks id) ∨
      s = .lookAgain uri id ∧ ∃ e, g.lookup? uri = some e ∧ ¬ e.mayRefresh g.now := by
  generalize same : Stage.done (.key (.error (.unknownKey id))) time = s' at fares
  have refused {uri' : String} {err : AuthError} {now : Instant} {errand : Errand}
      (outage : err.IsOutage) : errand.next uri' (.error err) now ≠
        .done (.key (.error (.unknownKey id))) time := by
    intro h
    obtain ⟨-, held, ok, -⟩ := Errand.missing_of_unknown (fun err' told => by cases told; exact outage) h
    cases ok
  cases fares with
  | remains =>
    subst same
    cases asks
  | goesOn wish waits =>
    subst same
    rw [← wish] at waits
    cases waits
  | settles now wish found =>
    obtain ⟨rfl, held, ok, missing⟩ :=
      Errand.missing_of_unknown (fun _ => Entry.joined_error) same.symm
    obtain ⟨rfl, -⟩ := Wish.key.inj (Option.some.inj (wish.symm.trans asks))
    exact .inl ⟨_, found, Entry.lacks_of_joined ok missing⟩
  | untracked | fails | excused => exact absurd same.symm (refused ⟨_, rfl⟩)
  | declines now found early =>
    cases asks
    exact .inr ⟨rfl, _, found, early⟩
  | leaves | finds | counts => cases same

end Stage.Fares

namespace Crowd

variable {c c' : Crowd} {i j : Nat} {s s' : Stage} {uri id : String} {a : Action}

/-! ## Newcomers -/

theorem absent_setCaller (absent : c.callers[j]? = none) (i : Nat) (s : Stage) :
    (c.setCaller i s).callers[j]? = none := by
  rw [getElem?_setCaller, absent]
  split <;> rfl

theorem absent_release (absent : c.callers[j]? = none) (uri : String) :
    (c.release uri).callers[j]? = none := by
  rw [getElem?_release, absent]
  split <;> rfl

theorem absent_tell (absent : c.callers[j]? = none) (waiter : Option Nat) (answer : KeyAnswer) :
    (c.tell waiter answer).callers[j]? = none := by
  unfold tell
  split
  · exact absent
  · split
    · exact absent_setCaller absent ..
    · exact absent

theorem Turn.newcomer (turn : Turn c a c') (absent : c.callers[j]? = none)
    (here : c'.callers[j]? = some s) : ∃ wish, s = .look wish := by
  have still {P : Prop} (h : c'.callers[j]? = none) : P := by
    rw [h] at here
    cases here
  cases turn with
  | arrives wish =>
    refine ⟨wish, ?_⟩
    rw [List.getElem?_append_right (List.getElem?_eq_none_iff.1 absent), List.getElem?_singleton] at here
    split at here
    · exact (Option.some.inj here).symm
    · cases here
  | passes | observes | spawnsBehind | takes | queues | begins | quits | quitsLine =>
    exact still (absent_setCaller (c := c) absent ..)
  | joins | quitsGuard => exact still (absent_setCaller (absent_release absent _) ..)
  | retires => exact still (absent_release (c := c.setPhase _ .ended) absent _)
  | @publishes n uri waiter started run e =>
    exact still (absent_tell (absent_release
      (c := { c with gate := (c.gate.publishRefresh e _).2 }.setPhase n .ended) absent _) ..)
  | stays | wakes | asks | waits | registers | scripts => exact still absent

/-! ## The last look -/

/-- A caller on its second look has found the key missing at some time of the run, and has not looked
at the keys since. -/
theorem looked_of_lookAgain (g : Gate) (actions : List Action)
    (here : ((ofGate g).run actions).callers[i]? = some (.lookAgain uri id)) :
    ∃ before since e, actions = before ++ since ∧
      ((ofGate g).run before).gate.lookup? uri = some e ∧ e.Lacks id ∧
      ∀ part, part <+: since →
        ((ofGate g).run (before ++ part)).callers[i]? = some (.lookAgain uri id) := by
  induction actions using List.reverseRecOn with
  | nil => cases here
  | append_singleton actions a ih =>
    have now := here
    rw [run_snoc] at here
    cases there : ((ofGate g).run actions).callers[i]? with
    | none =>
      obtain ⟨wish, look⟩ := (turn_step _ a).newcomer there here
      cases look
    | some s =>
      have matched := (matched_ofGate g).run (orderly_ofGate g) actions
      obtain ⟨s', here', fares⟩ := matched.follows there a
      obtain rfl := Option.some.inj (here.symm.trans here')
      obtain rfl | ⟨e, found, lacks⟩ := fares.lacks_of_lookAgain
      · obtain ⟨before, since, e, rfl, found, lacks, ever⟩ := ih there
        refine ⟨before, since ++ [a], e, by simp, found, lacks, fun part pre => ?_⟩
        obtain whole | pre := List.prefix_concat_iff.1 pre
        · rw [whole]
          simpa using now
        · exact ever part pre
      · refine ⟨actions ++ [a], [], e, by simp, by rw [run_snoc]; exact found, lacks, fun part pre => ?_⟩
        rw [List.prefix_nil.1 pre, List.append_nil]
        exact now

/-- What stands behind the answer that a key is unknown, given in the turn `a` of a caller. -/
inductive Unknown (g : Gate) (actions : List Action) (a : Action) (i : Nat) (uri id : String) : Prop
  /-- The keys that the entry holds then, as left by a refresh, are without the key. -/
  | told {e : Entry} (found : ((ofGate g).run (actions ++ [a])).gate.lookup? uri = some e)
      (lacks : e.Lacks id)
  /-- The floor forbids a refresh. The keys were without the key when the caller looked, and if no refresh
  has ended since, they still are. -/
  | declined {before since : List Action} {e : Entry} {rs : List Refresh}
      (split : actions = before ++ since)
      (found : ((ofGate g).run before).gate.lookup? uri = some e) (lacks : e.Lacks id)
      (waits : ∀ part, part <+: since →
        ((ofGate g).run (before ++ part)).callers[i]? = some (.lookAgain uri id))
      (grown : ((ofGate g).run before).gate.Grown ((ofGate g).run actions).gate uri rs)
      (last : ((ofGate g).run actions).gate.lookup? uri = some (e.after g.settings rs))
      (early : ¬ (e.after g.settings rs).mayRefresh ((ofGate g).run actions).gate.now)
      (still : rs = [] → (e.after g.settings rs).Lacks id)

def wish? (c : Crowd) (i : Nat) : Option Wish := c.callers[i]?.bind Stage.wish?

/-- What a caller who asked for a key has been refused with. -/
def refusal? (c : Crowd) (i : Nat) : Option AuthError :=
  c.callers[i]?.bind fun
    | .done (.key (.error err)) _ => some err
    | _ => none

theorem done_of_refusal {err : AuthError} (h : c.refusal? i = some err) :
    ∃ time, c.callers[i]? = some (.done (.key (.error err)) time) := by
  obtain ⟨s, here, refused⟩ := Option.bind_eq_some_iff.1 h
  split at refused
  · rename_i err' time
    obtain rfl := Option.some.inj refused
    exact ⟨time, here⟩
  · cases refused

theorem unknown_of_refusal (g : Gate) (actions : List Action) (a : Action) (i : Nat) (uri id : String)
    (asks : ((ofGate g).run actions).wish? i = some (.key uri id))
    (refused : ((ofGate g).run (actions ++ [a])).refusal? i = some (.unknownKey id)) :
    Unknown g actions a i uri id := by
  have matched := (matched_ofGate g).run (orderly_ofGate g) actions
  obtain ⟨s, here, wish⟩ := Option.bind_eq_some_iff.1 asks
  obtain ⟨time, answered⟩ := done_of_refusal refused
  obtain ⟨s', there, fares⟩ := matched.follows here a
  rw [← run_snoc] at there fares
  obtain rfl := Option.some.inj (answered.symm.trans there)
  obtain ⟨e, found, lacks⟩ | ⟨rfl, e', found', early⟩ := fares.lacks_of_unknown wish
  · exact .told found lacks
  · obtain ⟨before, since, e, rfl, found, lacks, waits⟩ := looked_of_lookAgain g actions here
    obtain ⟨rs, grown⟩ := ((ofGate g).run before).grown_run since uri
    rw [← run_append] at grown
    have last := grown.entry e found
    rw [settings_run] at last
    obtain rfl := Option.some.inj (found'.symm.trans last)
    exact .declined rfl found lacks waits grown last early fun none => by rw [none]; exact lacks

/-! ## A key that comes between two looks -/

/-- A server that goes over from one key to two. -/
def rotating : Gate :=
  let key (id : String) :=
    "\x7b\"kty\":\"OKP\",\"crv\":\"Ed25519\",\"kid\":\"" ++ id ++ "\",\"x\":\"\"\x7d"
  let reply (keys : String) : Http.Reply :=
    ⟨200, [], "\x7b\"keys\":[" ++ keys ++ "]\x7d", .zero, false, false⟩
  .new ⟨.ofSeconds 10, .once, .ofSeconds 300⟩ .zero
    (.ofScripts true [("http://k/", [reply (key "a"), reply (key "a" ++ "," ++ key "b")])])

/-- Two callers miss the new key. One of them refreshes, and is given it, before the other one looks
again. -/
def rotation : List Action :=
  [.register "http://k/" (.ofSeconds 60),
    .arrive (.keys "http://k/"), .move 0, .move 0, .move 0, .move 0, .start 0, .finish 0,
    .wait (.ofSeconds 61), .arrive (.key "http://k/" "b"), .arrive (.key "http://k/" "b"),
    .move 1, .move 1, .move 2, .move 2, .move 1, .move 1, .move 1, .start 1, .finish 1]

def heldKey? (c : Crowd) (uri id : String) : Option Jwk :=
  ((c.gate.lookup? uri).bind (·.held)).bind (·.keys.get? id)

theorem asks_rotation : ((ofGate rotating).run rotation).wish? 2 = some (.key "http://k/" "b") := by
  decide +kernel

theorem refused_rotation :
    ((ofGate rotating).run (rotation ++ [.move 2])).refusal? 2 = some (.unknownKey "b") := by
  decide +kernel

theorem rotation_unknown : Unknown rotating rotation (.move 2) 2 "http://k/" "b" :=
  unknown_of_refusal rotating rotation (.move 2) 2 "http://k/" "b" asks_rotation refused_rotation

/-- The other one is told that there is no such key, which the entry holds before and after. -/
theorem held_key_told_unknown :
    ((ofGate rotating).run rotation).wish? 2 = some (.key "http://k/" "b") ∧
    (((ofGate rotating).run rotation).heldKey? "http://k/" "b").isSome ∧
    (((ofGate rotating).run (rotation ++ [.move 2])).heldKey? "http://k/" "b").isSome ∧
    ((ofGate rotating).run (rotation ++ [.move 2])).refusal? 2 = some (.unknownKey "b") := by
  refine ⟨asks_rotation, ?_, ?_, refused_rotation⟩ <;> decide +kernel

end Crowd

end TokenGate
