import TokenGate.Proofs.Crowd.Turn

/-!
# Who holds a guard

The guards of a crowd agree with its callers and fetches: a guard's line is the callers in line for it,
and its holder is a caller about to compare, or a fetch that has not ended. No turn breaks this, a
caller who leaves included.
-/

namespace TokenGate.Crowd

variable {c c' : Crowd} {i n : Nat} {s s' : Stage} {uri other : String} {a : Action}

/-- The guard of an endpoint agrees with those who hold it or wait for it. -/
structure Kept (c : Crowd) (uri : String) : Prop where
  line : ∀ i, i ∈ (c.guard uri).line ↔ c.queued? i = some uri
  once : (c.guard uri).line.Nodup
  idle : (c.guard uri).holder = none → (c.guard uri).line = []
  caller : ∀ i, (c.guard uri).holder = some (.caller i) ↔ c.held? i = some uri
  fetch : ∀ n, (c.guard uri).holder = some (.fetch n) ↔ c.fetchHeld? n = some uri

def Orderly (c : Crowd) : Prop := ∀ uri, c.Kept uri

/-- The guard of an endpoint is about to pass on: nobody holds it, whatever it says itself. -/
structure Loose (c : Crowd) (uri : String) : Prop where
  line : ∀ i, i ∈ (c.guard uri).line ↔ c.queued? i = some uri
  once : (c.guard uri).line.Nodup
  caller : ∀ i, c.held? i ≠ some uri
  fetch : ∀ n, c.fetchHeld? n ≠ some uri
  others : ∀ other, uri ≠ other → c.Kept other

theorem Kept.congr (h : c.Kept uri) (guard : c'.guard uri = c.guard uri)
    (queued : ∀ i, c'.queued? i = some uri ↔ c.queued? i = some uri)
    (held : ∀ i, c'.held? i = some uri ↔ c.held? i = some uri)
    (fetch : ∀ n, c'.fetchHeld? n = some uri ↔ c.fetchHeld? n = some uri) : c'.Kept uri := by
  refine ⟨?_, ?_, ?_, ?_, ?_⟩
  · intro i; rw [guard, queued]; exact h.line i
  · rw [guard]; exact h.once
  · rw [guard]; exact h.idle
  · intro i; rw [guard, held]; exact h.caller i
  · intro n; rw [guard, fetch]; exact h.fetch n

/-! ## Callers who change their stage -/

theorem queued?_eq (here : c.callers[i]? = some s) : c.queued? i = s.queued? := by
  rw [queued?, here, Option.bind_some]

theorem held?_eq (here : c.callers[i]? = some s) : c.held? i = s.held? := by
  rw [held?, here, Option.bind_some]

theorem Kept.setCaller (h : c.Kept uri) (here : c.callers[i]? = some s)
    (queued : s'.queued? = some uri ↔ s.queued? = some uri)
    (held : s'.held? = some uri ↔ s.held? = some uri) : (c.setCaller i s').Kept uri := by
  refine h.congr rfl (fun j => ?_) (fun j => ?_) (fun n => Iff.rfl)
  · rw [queued?_setCaller here]
    split
    · rename_i he; subst he; rw [queued, queued?_eq here]
    · rfl
  · rw [held?_setCaller here]
    split
    · rename_i he; subst he; rw [held, held?_eq here]
    · rfl

theorem Orderly.setCaller (h : c.Orderly) (here : c.callers[i]? = some s)
    (queued : s'.queued? = s.queued?) (held : s'.held? = s.held?) : (c.setCaller i s').Orderly :=
  fun uri => (h uri).setCaller here (by rw [queued]) (by rw [held])

/-! ## Guards that pass on -/

theorem Orderly.loose_of_idle (h : c.Orderly) (idle : (c.guard uri).holder = none) :
    c.Loose uri := by
  refine ⟨(h uri).line, (h uri).once, fun i held => ?_, fun n held => ?_, fun other _ => h other⟩
  · rw [(h uri).caller i |>.2 held] at idle
    cases idle
  · rw [(h uri).fetch n |>.2 held] at idle
    cases idle

theorem Orderly.loose_of_caller (h : c.Orderly) (here : c.callers[i]? = some s)
    (had : s.held? = some uri) (queued : s'.queued? = none) (held : s'.held? = none) :
    (c.setCaller i s').Loose uri := by
  have hq : s.queued? = none := by
    obtain ⟨_, _, rfl⟩ := Stage.held?_eq_some_iff.1 had
    rfl
  have holder : (c.guard uri).holder = some (.caller i) :=
    (h uri).caller i |>.2 (by rw [held?_eq here, had])
  refine ⟨fun j => ?_, (h uri).once, fun j hj => ?_, fun n hn => ?_, fun other hne => ?_⟩
  · rw [guard_setCaller, (h uri).line j, queued?_setCaller here, queued]
    split
    · rename_i he; subst he; rw [queued?_eq here, hq]
    · rfl
  · rw [held?_setCaller here, held] at hj
    split at hj
    · cases hj
    · rename_i hne
      rw [← (h uri).caller j, holder] at hj
      exact hne (by simpa using hj)
  · rw [fetchHeld?_setCaller, ← (h uri).fetch n, holder] at hn
    cases hn
  · exact (h other).setCaller here (by rw [queued, hq]) (by rw [held, had]; simpa using hne)

theorem Orderly.loose_of_fetch (h : c.Orderly) (held : c.fetchHeld? n = some uri) :
    (c.setPhase n .ended).Loose uri := by
  have holder : (c.guard uri).holder = some (.fetch n) := (h uri).fetch n |>.2 held
  refine ⟨(h uri).line, (h uri).once, fun j hj => ?_, fun m hm => ?_, fun other hne => ?_⟩
  · rw [held?_setPhase, ← (h uri).caller j, holder] at hj
    cases hj
  · rw [fetchHeld?_setPhase_ended] at hm
    split at hm
    · cases hm
    · rename_i hne
      rw [← (h uri).fetch m, holder] at hm
      exact hne (by simpa using hm)
  · refine (h other).congr rfl (fun _ => Iff.rfl) (fun _ => Iff.rfl) (fun m => ?_)
    rw [fetchHeld?_setPhase_ended]
    split
    · rename_i he; subst he; rw [held]; simpa using hne
    · rfl

theorem Loose.release (h : c.Loose uri) : (c.release uri).Orderly := by
  intro at_
  by_cases hu : uri = at_
  · subst hu
    have guard := c.guard_release uri uri
    rw [if_pos rfl] at guard
    cases line : (c.guard uri).line with
    | nil =>
      have none i : c.queued? i ≠ some uri := by rw [Ne, ← h.line i, line]; exact List.not_mem_nil
      rw [line] at guard
      refine ⟨fun i => ?_, ?_, fun _ => ?_, fun i => ?_, fun n => ?_⟩
      · simp [guard, queued?_release, line, none i]
      · simp [guard]
      · simp [guard]
      · simp [guard, held?_release, line, h.caller i]
      · simp [guard, h.fetch n]
    | cons j rest =>
      -- The first in line stood there once, so it holds the guard now and waits no more.
      have queued : c.queued? j = some uri := (h.line j).1 (by simp [line])
      have once := h.once
      rw [line, List.nodup_cons] at once
      rw [line] at guard
      refine ⟨fun i => ?_, ?_, fun none => ?_, fun i => ?_, fun n => ?_⟩
      · simp only [guard, queued?_release, line, List.head?_cons, Option.some.injEq, List.tail_cons]
        split
        · rename_i he; subst he; simp [once.1]
        · rename_i hne
          rw [← h.line i, line, List.mem_cons]
          simp [Ne.symm hne]
      · rw [guard]; exact once.2
      · rw [guard] at none; cases none
      · simp only [guard, held?_release, line, List.head?_cons, Option.some.injEq, Option.map_some]
        split
        · rename_i he; subst he; simp [queued]
        · rename_i hne; simp [hne, h.caller i]
      · simp [guard, h.fetch n]
  · refine (h.others at_ hu).congr ?_ (fun i => ?_) (fun i => ?_) (fun n => ?_)
    · rw [guard_release, if_neg hu]
    · rw [queued?_release]
      split
      · rename_i first
        have : c.queued? i = some uri := (h.line i).1 (List.mem_of_mem_head? first)
        simp [this, hu]
      · rfl
    · rw [held?_release]
      split
      · rename_i first
        have queued : c.queued? i = some uri := (h.line i).1 (List.mem_of_mem_head? first)
        have held : c.held? i = none := by
          unfold queued? at queued
          obtain ⟨s, here, hs⟩ := Option.bind_eq_some_iff.1 queued
          obtain ⟨_, _, rfl⟩ := Stage.queued?_eq_some_iff.1 hs
          exact held?_eq here
        simp [queued, held, hu]
      · rfl
    · rw [fetchHeld?_release]

theorem Loose.spawn (h : c.Loose uri) (waiter : Option Nat) : (c.spawn uri waiter).Orderly := by
  intro at_
  by_cases hu : uri = at_
  · subst hu
    have guard := c.guard_spawn uri uri waiter
    rw [if_pos rfl] at guard
    refine ⟨fun i => ?_, ?_, fun none => ?_, fun i => ?_, fun n => ?_⟩
    · rw [guard]; exact h.line i
    · rw [guard]; exact h.once
    · rw [guard] at none; cases none
    · simp [guard, h.caller i]
    · rw [guard, fetchHeld?_spawn]
      split
      · rename_i he; simp [he]
      · rename_i hne; simp [Ne.symm hne, h.fetch n]
  · refine (h.others at_ hu).congr ?_ (fun i => Iff.rfl) (fun i => Iff.rfl) (fun n => ?_)
    · rw [guard_spawn, if_neg hu]
    · rw [fetchHeld?_spawn]
      split
      · rename_i he; subst he; simp [hu, fetchHeld?_length]
      · rfl

theorem setCaller_release (h : i ∉ (c.guard uri).line) (s : Stage) :
    (c.release uri).setCaller i s = (c.setCaller i s).release uri := by
  cases line : (c.guard uri).line with
  | nil => rw [release_nil line, release_nil (c := c.setCaller i s) line]; rfl
  | cons j rest =>
    have hne : i ≠ j := by rintro rfl; simp [line] at h
    rw [release_cons line, release_cons (c := c.setCaller i s) line]
    simp only [Crowd.setCaller, Crowd.setGuard, Crowd.mk.injEq, and_true, true_and]
    refine List.ext_getElem? fun k => ?_
    simp only [List.getElem?_set, List.getElem?_modify, List.length_modify]
    by_cases hk : i = k
    · subst hk; simp [Ne.symm hne]
    · simp [hk]

theorem Orderly.release_setCaller (h : c.Orderly) (here : c.callers[i]? = some s)
    (had : s.held? = some uri) (queued : s'.queued? = none) (held : s'.held? = none) :
    ((c.release uri).setCaller i s').Orderly := by
  have out : i ∉ (c.guard uri).line := by
    obtain ⟨_, _, rfl⟩ := Stage.held?_eq_some_iff.1 had
    rw [(h uri).line i, queued?_eq here]
    exact fun h => by cases h
  rw [setCaller_release out]
  exact (h.loose_of_caller here had queued held).release

/-! ## Callers who ask for a guard -/

/-- A guard and one caller may change together, as long as they agree with each other again. -/
theorem Orderly.change {g : Guard} (h : c.Orderly) (here : c.callers[i]? = some s)
    (line : ∀ j, j ∈ g.line ↔ if i = j then s'.queued? = some g.uri else c.queued? j = some g.uri)
    (once : g.line.Nodup) (idle : g.holder = none → g.line = [])
    (caller : ∀ j, g.holder = some (.caller j) ↔
      if i = j then s'.held? = some g.uri else c.held? j = some g.uri)
    (fetch : ∀ n, g.holder = some (.fetch n) ↔ c.fetchHeld? n = some g.uri)
    (others : ∀ other, g.uri ≠ other → (s'.queued? = some other ↔ s.queued? = some other) ∧
      (s'.held? = some other ↔ s.held? = some other)) :
    ((c.setGuard g).setCaller i s').Orderly := by
  have here' : (c.setGuard g).callers[i]? = some s := here
  intro uri
  by_cases hu : g.uri = uri
  · subst hu
    have guard := c.guard_setGuard g g.uri
    rw [if_pos rfl] at guard
    refine ⟨fun j => ?_, ?_, ?_, fun j => ?_, fun n => ?_⟩
    · rw [guard_setCaller, guard, line j, queued?_setCaller here']
      split <;> rfl
    · rw [guard_setCaller, guard]; exact once
    · rw [guard_setCaller, guard]; exact idle
    · rw [guard_setCaller, guard, caller j, held?_setCaller here']
      split <;> rfl
    · rw [guard_setCaller, guard]; exact fetch n
  · have kept : (c.setGuard g).Kept uri := by
      refine (h uri).congr ?_ (fun _ => Iff.rfl) (fun _ => Iff.rfl) (fun _ => Iff.rfl)
      rw [guard_setGuard, if_neg hu]
    exact kept.setCaller here' (others uri hu).1 (others uri hu).2

theorem Orderly.take {seen : Nat} {errand : Errand} (h : c.Orderly)
    (here : c.callers[i]? = some (.reach uri seen errand)) (idle : (c.guard uri).holder = none) :
    ((c.setGuard ⟨uri, some (.caller i), (c.guard uri).line⟩).setCaller i
      (.compare uri seen errand)).Orderly := by
  have loose := h.loose_of_idle idle
  have line := (h uri).idle idle
  refine h.change here (fun j => ?_) loose.once (fun none => by cases none) (fun j => ?_)
    (fun n => ?_) (fun other hne => ?_)
  · have out : c.queued? j ≠ some uri := by
      rw [Ne, ← loose.line j, line]
      exact List.not_mem_nil
    simp [line, out, Stage.queued?]
  · split
    · rename_i he; simp [he, Stage.held?]
    · rename_i hne; simp [hne, loose.caller j]
  · simp [loose.fetch n]
  · simp only [ne_eq] at hne
    simp [Stage.queued?, Stage.held?, hne]

theorem Orderly.queue {seen : Nat} {errand : Errand} {holder : Holder} (h : c.Orderly)
    (here : c.callers[i]? = some (.reach uri seen errand))
    (busy : (c.guard uri).holder = some holder) :
    ((c.setGuard ⟨uri, some holder, (c.guard uri).line ++ [i]⟩).setCaller i
      (.queue uri seen errand)).Orderly := by
  have out : i ∉ (c.guard uri).line := by
    rw [(h uri).line i, queued?_eq here]
    exact fun h => by cases h
  refine h.change here (fun j => ?_) ?_ (fun none => by cases none) (fun j => ?_)
    (fun n => ?_) (fun other hne => ?_)
  · rw [List.mem_append, (h uri).line j]
    split
    · rename_i he; simp [he, Stage.queued?]
    · rename_i hne; simp [Ne.symm hne]
  · rw [List.nodup_append]
    refine ⟨(h uri).once, by simp, fun j hj k hk he => ?_⟩
    obtain rfl := List.mem_singleton.1 hk
    exact out (he ▸ hj)
  · rw [← busy, (h uri).caller j]
    split
    · rename_i he; subst he; rw [held?_eq here]; rfl
    · rfl
  · rw [← busy]; exact (h uri).fetch n
  · simp only [ne_eq] at hne
    simp [Stage.queued?, Stage.held?, hne]

theorem Orderly.quitLine {seen : Nat} {errand : Errand} (h : c.Orderly)
    (here : c.callers[i]? = some (.queue uri seen errand)) :
    ((c.setGuard ⟨uri, (c.guard uri).holder, (c.guard uri).line.filter (· ≠ i)⟩).setCaller i
      .gone).Orderly := by
  refine h.change here (fun j => ?_) ((h uri).once.filter _) (fun none => ?_) (fun j => ?_)
    (h uri).fetch (fun other hne => ?_)
  · rw [List.mem_filter, (h uri).line j]
    split
    · rename_i he; simp [he, Stage.queued?]
    · rename_i hne; simp [Ne.symm hne]
  · simp only [(h uri).idle none, List.filter_nil]
  · rw [(h uri).caller j]
    split
    · rename_i he; subst he; rw [held?_eq here]; rfl
    · rfl
  · simp only [ne_eq] at hne
    simp [Stage.queued?, Stage.held?, hne]

/-! ## Any turn -/

theorem Orderly.arrive (h : c.Orderly) (wish : Wish) :
    Orderly { c with callers := c.callers ++ [.look wish] } := by
  intro uri
  refine (h uri).congr rfl (fun i => ?_) (fun i => ?_) (fun _ => Iff.rfl)
  · simp only [queued?, List.getElem?_append, List.getElem?_singleton]
    split
    · rfl
    · rename_i hi
      rw [List.getElem?_eq_none (Nat.le_of_not_lt hi)]
      split <;> simp [Stage.queued?]
  · simp only [held?, List.getElem?_append, List.getElem?_singleton]
    split
    · rfl
    · rename_i hi
      rw [List.getElem?_eq_none (Nat.le_of_not_lt hi)]
      split <;> simp [Stage.held?]

theorem Orderly.withGate (h : c.Orderly) (g : Gate) : Orderly { c with gate := g } :=
  fun uri => (h uri).congr rfl (fun _ => Iff.rfl) (fun _ => Iff.rfl) (fun _ => Iff.rfl)

theorem Orderly.setPhase {f : Fetch} {p : Phase} (h : c.Orderly) (here : c.fetches[n]? = some f)
    (hf : f.phase ≠ .ended) (hp : p ≠ .ended) : (c.setPhase n p).Orderly := by
  intro uri
  refine (h uri).congr rfl (fun _ => Iff.rfl) (fun _ => Iff.rfl) (fun m => ?_)
  rw [fetchHeld?_setPhase here hf hp]

theorem Orderly.tell (h : c.Orderly) (waiter : Option Nat) (answer : KeyAnswer) :
    (c.tell waiter answer).Orderly := by
  unfold Crowd.tell
  split
  · exact h
  · split
    · rename_i here
      exact h.setCaller here (Stage.queued?_of_isFree (Errand.isFree_next ..))
        (Stage.held?_of_isFree (Errand.isFree_next ..))
    · exact h

theorem Turn.orderly (turn : Turn c a c') (h : c.Orderly) : c'.Orderly := by
  cases turn with
  | stays => exact h
  | arrives wish => exact h.arrive wish
  | passes here free free' =>
    exact h.setCaller here
      (by rw [Stage.queued?_of_isFree free, Stage.queued?_of_isFree free'])
      (by rw [Stage.held?_of_isFree free, Stage.held?_of_isFree free'])
  | observes errand here free =>
    exact h.setCaller here (Stage.queued?_of_isFree free).symm (Stage.held?_of_isFree free).symm
  | spawnsBehind here free free' _ _ idle =>
    exact ((h.loose_of_idle idle).spawn none).setCaller here
      (by rw [Stage.queued?_of_isFree free, Stage.queued?_of_isFree free'])
      (by rw [Stage.held?_of_isFree free, Stage.held?_of_isFree free'])
  | takes here idle => exact h.take here idle
  | queues here busy => exact h.queue here busy
  | joins here =>
    exact h.release_setCaller here rfl (Stage.queued?_of_isFree (Errand.isFree_next ..))
      (Stage.held?_of_isFree (Errand.isFree_next ..))
  | begins here => exact (h.loose_of_caller here rfl rfl rfl).spawn _
  | quits here queued held => exact h.setCaller here queued.symm held.symm
  | quitsLine here => exact h.quitLine here
  | quitsGuard here => exact h.release_setCaller here rfl rfl rfl
  | wakes here => exact h.setPhase here (by simp) (by simp)
  | asks here ready =>
    refine (h.withGate _).setPhase here (fun ended => ?_) (by simp)
    rw [ended] at ready
    cases ready
  | retires here =>
    exact (h.loose_of_fetch (by rw [fetchHeld?, here]; rfl)).release
  | publishes here found late =>
    refine Orderly.tell (Loose.release (Orderly.loose_of_fetch (h.withGate _) ?_)) _ _
    change c.fetchHeld? _ = _
    rw [fetchHeld?, here]
    rfl
  | waits => exact h.withGate _
  | registers => exact h.withGate _
  | scripts => exact h.withGate _

theorem orderly_ofGate (g : Gate) : (ofGate g).Orderly := by
  intro uri
  refine ⟨fun i => ?_, ?_, fun _ => ?_, fun i => ?_, fun n => ?_⟩ <;>
    simp [ofGate, guard, queued?, held?, fetchHeld?]

theorem run_append (c : Crowd) (before after : List Action) :
    c.run (before ++ after) = (c.run before).run after := by
  unfold run
  rw [List.foldl_append]

theorem run_snoc (c : Crowd) (before : List Action) (a : Action) :
    c.run (before ++ [a]) = (c.run before).step a := by
  rw [run_append]
  rfl

theorem Orderly.run (h : c.Orderly) (actions : List Action) : (c.run actions).Orderly := by
  induction actions generalizing c with
  | nil => exact h
  | cons a rest ih => exact ih ((c.turn_step a).orderly h)

end TokenGate.Crowd
