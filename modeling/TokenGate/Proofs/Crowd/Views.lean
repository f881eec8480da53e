import TokenGate.Crowd.Basic

/-!
# What a crowd looks like after each elementary change

The guards, callers and fetches of a crowd, one lemma for each view of it and each change to it.
-/

namespace TokenGate

def Stage.queued? : Stage → Option String
  | queue uri _ _ => some uri
  | _ => none

def Stage.held? : Stage → Option String
  | compare uri _ _ => some uri
  | _ => none

/-- The guard that a fetch holds, up to its end. -/
def Fetch.held? (f : Fetch) : Option String :=
  match f.phase with
  | .ended => none
  | _ => some f.uri

namespace Stage

theorem queued?_eq_some_iff {s : Stage} {uri : String} :
    s.queued? = some uri ↔ ∃ seen errand, s = .queue uri seen errand := by
  cases s <;> simp [queued?]

theorem held?_eq_some_iff {s : Stage} {uri : String} :
    s.held? = some uri ↔ ∃ seen errand, s = .compare uri seen errand := by
  cases s <;> simp [held?]

theorem held?_admitted (s : Stage) : s.admitted.held? = s.queued?.or s.held? := by
  cases s <;> rfl

theorem queued?_admitted (s : Stage) : s.admitted.queued? = none := by
  cases s <;> rfl

end Stage

namespace Crowd

def queued? (c : Crowd) (i : Nat) : Option String := c.callers[i]?.bind Stage.queued?

def held? (c : Crowd) (i : Nat) : Option String := c.callers[i]?.bind Stage.held?

def fetchHeld? (c : Crowd) (n : Nat) : Option String := c.fetches[n]?.bind Fetch.held?

variable {c : Crowd} {i j n : Nat} {s s' : Stage} {uri other : String}

/-! ## Guards -/

@[simp] theorem uri_guard (c : Crowd) (uri : String) : (c.guard uri).uri = uri := by
  unfold guard
  cases h : c.guards.find? (·.uri = uri) with
  | none => rfl
  | some g => simpa using List.find?_some h

theorem guard_setGuard (c : Crowd) (g : Guard) (uri : String) :
    (c.setGuard g).guard uri = if g.uri = uri then g else c.guard uri := by
  unfold guard setGuard
  by_cases h : g.uri = uri
  · simp [h]
  · simp only [List.find?_cons, h, decide_false, if_false, List.find?_filter]
    congr 2
    funext x
    by_cases hx : x.uri = uri
    · simp [hx, Ne.symm h]
    · simp [hx]

@[simp] theorem guard_setCaller (c : Crowd) (i : Nat) (s : Stage) (uri : String) :
    (c.setCaller i s).guard uri = c.guard uri := rfl

theorem release_nil (h : (c.guard uri).line = []) :
    c.release uri = c.setGuard ⟨uri, none, []⟩ := by
  simp only [release, h, uri_guard]

theorem release_cons {rest : List Nat} (h : (c.guard uri).line = i :: rest) :
    c.release uri =
      { c.setGuard ⟨uri, some (.caller i), rest⟩ with
        callers := c.callers.modify i Stage.admitted } := by
  simp only [release, h, uri_guard]

theorem guard_spawn (c : Crowd) (uri other : String) (waiter : Option Nat) :
    (c.spawn uri waiter).guard other =
      if uri = other then ⟨uri, some (.fetch c.fetches.length), (c.guard uri).line⟩
      else c.guard other := by
  have h := c.guard_setGuard
    ⟨(c.guard uri).uri, some (.fetch c.fetches.length), (c.guard uri).line⟩ other
  simp only [uri_guard] at h
  simp only [spawn, uri_guard]
  exact h

theorem guard_release (c : Crowd) (uri other : String) :
    (c.release uri).guard other =
      if uri = other then
        ⟨uri, (c.guard uri).line.head?.map .caller, (c.guard uri).line.tail⟩
      else c.guard other := by
  cases h : (c.guard uri).line with
  | nil => rw [release_nil h, guard_setGuard]; rfl
  | cons i rest =>
    rw [release_cons h]
    exact c.guard_setGuard ⟨uri, some (.caller i), rest⟩ other

/-! ## Callers -/

theorem getElem?_setCaller (c : Crowd) (i j : Nat) (s : Stage) :
    (c.setCaller i s).callers[j]? = if i = j then c.callers[j]?.map fun _ => s else c.callers[j]? := by
  unfold setCaller
  simp only [List.getElem?_set]
  split
  · rename_i he
    subst he
    by_cases hi : i < c.callers.length
    · simp [hi]
    · simp [hi]
  · rfl

theorem setCaller_self (h : c.callers[i]? = some s) : (c.setCaller i s').callers[i]? = some s' := by
  rw [getElem?_setCaller, if_pos rfl, h, Option.map_some]

theorem setCaller_of_ne (h : i ≠ j) : (c.setCaller i s).callers[j]? = c.callers[j]? := by
  rw [getElem?_setCaller, if_neg h]

theorem getElem?_release (c : Crowd) (uri : String) (i : Nat) :
    (c.release uri).callers[i]? =
      if (c.guard uri).line.head? = some i then c.callers[i]?.map Stage.admitted
      else c.callers[i]? := by
  cases h : (c.guard uri).line with
  | nil => simp [release_nil h, setGuard]
  | cons j rest =>
    simp only [release_cons h, List.getElem?_modify, List.head?_cons, Option.some.injEq]
    by_cases hj : j = i
    · simp [hj]
    · simp [hj]

theorem queued?_setCaller (h : c.callers[i]? = some s) (s' : Stage) (j : Nat) :
    (c.setCaller i s').queued? j = if i = j then s'.queued? else c.queued? j := by
  unfold queued?
  split
  · rename_i he
    subst he
    rw [setCaller_self h, Option.bind_some]
  · rename_i hne
    rw [setCaller_of_ne hne]

theorem held?_setCaller (h : c.callers[i]? = some s) (s' : Stage) (j : Nat) :
    (c.setCaller i s').held? j = if i = j then s'.held? else c.held? j := by
  unfold held?
  split
  · rename_i he
    subst he
    rw [setCaller_self h, Option.bind_some]
  · rename_i hne
    rw [setCaller_of_ne hne]

theorem queued?_release (c : Crowd) (uri : String) (i : Nat) :
    (c.release uri).queued? i =
      if (c.guard uri).line.head? = some i then none else c.queued? i := by
  unfold queued?
  rw [getElem?_release]
  split
  · cases c.callers[i]? with
    | none => rfl
    | some s => exact s.queued?_admitted
  · rfl

theorem held?_release (c : Crowd) (uri : String) (i : Nat) :
    (c.release uri).held? i =
      if (c.guard uri).line.head? = some i then (c.queued? i).or (c.held? i) else c.held? i := by
  unfold queued? held?
  rw [getElem?_release]
  split
  · cases c.callers[i]? with
    | none => rfl
    | some s => exact s.held?_admitted
  · rfl

@[simp] theorem queued?_spawn (c : Crowd) (uri : String) (waiter : Option Nat) (i : Nat) :
    (c.spawn uri waiter).queued? i = c.queued? i := rfl

@[simp] theorem held?_spawn (c : Crowd) (uri : String) (waiter : Option Nat) (i : Nat) :
    (c.spawn uri waiter).held? i = c.held? i := rfl

@[simp] theorem callers_spawn (c : Crowd) (uri : String) (waiter : Option Nat) :
    (c.spawn uri waiter).callers = c.callers := rfl

@[simp] theorem held?_setPhase (c : Crowd) (n i : Nat) (p : Phase) :
    (c.setPhase n p).held? i = c.held? i := rfl

/-! ## Fetches -/

@[simp] theorem fetches_setCaller (c : Crowd) (i : Nat) (s : Stage) :
    (c.setCaller i s).fetches = c.fetches := rfl

@[simp] theorem fetches_release (c : Crowd) (uri : String) :
    (c.release uri).fetches = c.fetches := by
  cases h : (c.guard uri).line with
  | nil => rw [release_nil h]; rfl
  | cons i rest => rw [release_cons h]; rfl

theorem getElem?_spawn (c : Crowd) (uri : String) (waiter : Option Nat) (n : Nat) :
    (c.spawn uri waiter).fetches[n]? =
      if n = c.fetches.length then some ⟨uri, waiter, .spawned⟩ else c.fetches[n]? := by
  change (c.fetches ++ [_])[n]? = _
  rw [List.getElem?_append]
  by_cases hn : n < c.fetches.length
  · simp [hn, Nat.ne_of_lt hn]
  · by_cases he : n = c.fetches.length
    · simp [he]
    · have hlt : c.fetches.length < n := by omega
      simp [hn, he]
      omega

theorem getElem?_setPhase (c : Crowd) (n m : Nat) (p : Phase) :
    (c.setPhase n p).fetches[m]? =
      if n = m then c.fetches[m]?.map fun f => { f with phase := p } else c.fetches[m]? := by
  unfold setPhase
  simp only [List.getElem?_modify]
  cases c.fetches[m]? with
  | none => simp
  | some f => by_cases h : n = m <;> simp [h]

theorem fetchHeld?_of_live {f : Fetch} (here : c.fetches[n]? = some f) (live : f.phase ≠ .ended) :
    c.fetchHeld? n = some f.uri := by
  rw [fetchHeld?, here, Option.bind_some]
  unfold Fetch.held?
  split
  · rename_i ended
    exact absurd ended live
  · rfl

theorem fetchHeld?_spawn (c : Crowd) (uri : String) (waiter : Option Nat) (n : Nat) :
    (c.spawn uri waiter).fetchHeld? n =
      if n = c.fetches.length then some uri else c.fetchHeld? n := by
  unfold fetchHeld?
  rw [getElem?_spawn]
  split <;> rfl

theorem fetchHeld?_length (c : Crowd) : c.fetchHeld? c.fetches.length = none := by
  unfold fetchHeld?
  rw [List.getElem?_eq_none (Nat.le_refl _), Option.bind_none]

theorem fetchHeld?_setPhase_ended (c : Crowd) (n m : Nat) :
    (c.setPhase n .ended).fetchHeld? m = if n = m then none else c.fetchHeld? m := by
  unfold fetchHeld?
  rw [getElem?_setPhase]
  split
  · cases c.fetches[m]? <;> rfl
  · rfl

theorem fetchHeld?_setPhase {f : Fetch} {p : Phase} (h : c.fetches[n]? = some f)
    (hf : f.phase ≠ .ended) (hp : p ≠ .ended) (m : Nat) :
    (c.setPhase n p).fetchHeld? m = c.fetchHeld? m := by
  unfold fetchHeld?
  rw [getElem?_setPhase]
  split
  · rename_i he
    subst he
    rw [h]
    cases hq : f.phase <;> cases p <;> simp_all [Fetch.held?]
  · rfl

@[simp] theorem fetchHeld?_setCaller (c : Crowd) (i n : Nat) (s : Stage) :
    (c.setCaller i s).fetchHeld? n = c.fetchHeld? n := rfl

@[simp] theorem fetchHeld?_release (c : Crowd) (uri : String) (n : Nat) :
    (c.release uri).fetchHeld? n = c.fetchHeld? n := by
  unfold fetchHeld?
  rw [fetches_release]

/-! ## The gate behind the crowd -/

@[simp] theorem gate_setCaller (c : Crowd) (i : Nat) (s : Stage) :
    (c.setCaller i s).gate = c.gate := rfl

@[simp] theorem gate_setPhase (c : Crowd) (n : Nat) (p : Phase) :
    (c.setPhase n p).gate = c.gate := rfl

@[simp] theorem gate_spawn (c : Crowd) (uri : String) (waiter : Option Nat) :
    (c.spawn uri waiter).gate = c.gate := rfl

@[simp] theorem gate_release (c : Crowd) (uri : String) : (c.release uri).gate = c.gate := by
  cases h : (c.guard uri).line with
  | nil => rw [release_nil h]; rfl
  | cons i rest => rw [release_cons h]; rfl

end Crowd

end TokenGate
