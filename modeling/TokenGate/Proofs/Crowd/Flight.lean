import TokenGate.Proofs.Crowd.Courses
import TokenGate.Proofs.Crowd.Guard

/-!
# One refresh at a time

Of each endpoint at most one refresh runs, and callers who knew of the same refreshes start at most one
more. Who finds that another refresh has ended since takes what that one left.
-/

namespace TokenGate.Crowd

variable {c c' : Crowd} {i n : Nat} {s s' : Stage} {uri : String} {a : Action}

/-- A fetch of the endpoint is under way. -/
def Flies (c : Crowd) (n : Nat) (uri : String) : Prop :=
  ∃ waiter started run, c.fetches[n]? = some ⟨uri, waiter, .running started run⟩

/-- A fetch of the endpoint ends with this action. -/
def Lands (c : Crowd) (a : Action) (uri : String) : Prop :=
  ∃ n, c.Flies n uri ∧ ¬ (c.step a).Flies n uri

/-- A caller who knew of `seen` refreshes starts a fetch with this action. -/
def Starts (c : Crowd) (a : Action) (uri : String) (seen : Nat) : Prop :=
  ∃ i errand, a = .move i ∧ c.callers[i]? = some (.compare uri seen errand) ∧
    (c.step a).callers[i]? = some (.join uri errand)

/-- A caller waits for a fetch that has not ended. -/
def Awaits (c : Crowd) (n : Nat) (uri : String) : Prop :=
  ∃ i phase, c.fetches[n]? = some ⟨uri, some i, phase⟩ ∧ phase ≠ .ended

/-! ## Fetches that go on or end -/

/-- To an endpoint nothing happens: its entry and its fetches under way stay. -/
structure Keeps (c c' : Crowd) (uri : String) : Prop where
  entry : ∀ e, c.gate.lookup? uri = some e → c'.gate.lookup? uri = some e
  refreshes : c'.gate.refreshes uri = c.gate.refreshes uri
  flies : ∀ (n : Nat) (waiter : Option Nat) (started : Instant) (run : Fetched.Run),
    c.fetches[n]? = some ⟨uri, waiter, .running started run⟩ →
      c'.fetches[n]? = some ⟨uri, waiter, .running started run⟩
  awaits : ∀ n, c.Awaits n uri → c'.Awaits n uri

theorem Keeps.of_gate (entry : ∀ e, c.gate.lookup? uri = some e → c'.gate.lookup? uri = some e)
    (refreshes : c'.gate.refreshes uri = c.gate.refreshes uri)
    (fetches : c'.fetches = c.fetches) : Keeps c c' uri := by
  refine ⟨entry, refreshes, fun n _ _ _ h => ?_, fun n h => ?_⟩
  · rw [fetches]; exact h
  · unfold Awaits; rw [fetches]; exact h

theorem Keeps.of_eq (gate : c'.gate = c.gate) (fetches : c'.fetches = c.fetches) :
    Keeps c c' uri :=
  .of_gate (fun e h => by rw [gate]; exact h) (by rw [gate]) fetches

theorem keeps_spawn (c : Crowd) (uri' : String) (waiter : Option Nat) (i : Nat) (s : Stage) :
    Keeps c ((c.spawn uri' waiter).setCaller i s) uri := by
  have old {n : Nat} {f : Fetch} (h : c.fetches[n]? = some f) :
      ((c.spawn uri' waiter).setCaller i s).fetches[n]? = some f := by
    have hn := (List.getElem?_eq_some_iff.1 h).1
    rw [fetches_setCaller, getElem?_spawn, if_neg (by omega), h]
  refine ⟨fun _ h => h, rfl, fun n _ _ _ h => old h, fun n h => ?_⟩
  · obtain ⟨i, phase, h, live⟩ := h
    exact ⟨i, phase, old h, live⟩

theorem keeps_setPhase {f : Fetch} {p : Phase} (here : c.fetches[n]? = some f)
    (hf : f.phase.canMove) (hp : p ≠ .ended) : Keeps c (c.setPhase n p) uri := by
  refine ⟨fun _ h => h, rfl, fun m _ _ _ h => ?_, fun m h => ?_⟩
  · have hne : n ≠ m := by
      rintro rfl
      rw [here] at h
      obtain rfl := Option.some.inj h
      cases hf
    rw [getElem?_setPhase, if_neg hne, h]
  · obtain ⟨i, phase, h, live⟩ := h
    by_cases he : n = m
    · exact ⟨i, p, by rw [getElem?_setPhase, if_pos he, h]; rfl, hp⟩
    · exact ⟨i, phase, by rw [getElem?_setPhase, if_neg he, h], live⟩

theorem keeps_request {f : Fetch} (here : c.fetches[n]? = some f) (ready : f.phase.canMove) :
    Keeps c (c.request n f.uri) uri := by
  let run := Fetched.run c.gate.settings c.gate.epoch f.uri c.gate.network c.gate.now
  have kept : Keeps c (c.setPhase n (.running c.gate.now run)) uri :=
    keeps_setPhase here ready (by simp)
  exact ⟨kept.entry, kept.refreshes, kept.flies, kept.awaits⟩

theorem keeps_setPhase_ended {f : Fetch} (here : c.fetches[n]? = some f)
    (h : f.uri ≠ uri ∨ f.waiter = none ∧ f.phase.canMove) : Keeps c (c.setPhase n .ended) uri := by
  refine ⟨fun _ h => h, rfl, fun m _ _ _ hm => ?_, fun m hm => ?_⟩
  · have hne : n ≠ m := by
      rintro rfl
      rw [here] at hm
      obtain rfl := Option.some.inj hm
      obtain hu | ⟨-, hp⟩ := h
      · exact hu rfl
      · cases hp
    rw [getElem?_setPhase, if_neg hne, hm]
  · obtain ⟨i, phase, hm, live⟩ := hm
    have hne : n ≠ m := by
      rintro rfl
      rw [here] at hm
      obtain rfl := Option.some.inj hm
      obtain hu | ⟨hw, -⟩ := h
      · exact hu rfl
      · cases hw
    exact ⟨i, phase, by rw [getElem?_setPhase, if_neg hne, hm], live⟩

theorem Keeps.trans {c'' : Crowd} (h : Keeps c c' uri) (h' : Keeps c' c'' uri) : Keeps c c'' uri :=
  ⟨fun e he => h'.entry e (h.entry e he), h'.refreshes.trans h.refreshes,
    fun n _ _ _ hn => h'.flies n _ _ _ (h.flies n _ _ _ hn), fun n hn => h'.awaits n (h.awaits n hn)⟩

theorem Turn.lands_or_keeps (turn : Turn c a c') (uri : String) :
    (∃ n waiter started run e, a = .finish n ∧
      c.fetches[n]? = some ⟨uri, waiter, .running started run⟩ ∧ c.gate.lookup? uri = some e ∧
      run.ended ≤ c.gate.now ∧
      c' = c.published n e ⟨uri, started, c.gate.now, run.result⟩ waiter) ∨ Keeps c c' uri := by
  cases turn with
  | stays | arrives | passes | observes | takes | queues | quits | quitsLine =>
    exact .inr (.of_eq rfl rfl)
  | spawnsBehind | begins => exact .inr (keeps_spawn ..)
  | joins | quitsGuard => exact .inr (.of_eq (by simp) (by simp))
  | wakes here => exact .inr (keeps_setPhase here rfl (by simp))
  | asks here ready => exact .inr (keeps_request here ready)
  | retires here =>
    refine .inr ((keeps_setPhase_ended here (.inr ⟨rfl, rfl⟩)).trans (.of_eq ?_ ?_)) <;> simp
  | @publishes n uri' waiter started run e here found late =>
    by_cases hu : uri' = uri
    · subst hu
      exact .inl ⟨n, waiter, started, run, e, rfl, here, found, late, rfl⟩
    · refine .inr (Keeps.trans (keeps_setPhase_ended here (.inl hu)) ?_)
      obtain rfl := Gate.uri_of_lookup? found
      refine .of_gate (fun e' h => ?_) ?_ (fetches_published ..)
      · rw [gate_published, Gate.lookup?_publishRefresh_of_ne (Ne.symm hu)]
        exact h
      · rw [gate_published, Gate.refreshes_publishRefresh, if_neg hu, List.append_nil]
        rfl
  | waits => exact .inr (.of_gate (fun _ h => h) rfl rfl)
  | registers uri' floor =>
    exact .inr (.of_gate (fun _ h => Gate.lookup?_register_of_some h ..)
      (Gate.refreshes_register ..) rfl)
  | scripts => exact .inr (.of_gate (fun _ h => h) rfl rfl)

end TokenGate.Crowd
