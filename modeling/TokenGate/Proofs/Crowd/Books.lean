import TokenGate.Crowd.Schedule
import TokenGate.Proofs.Crowd.Answers
import TokenGate.Proofs.Gate.Books

/-!
# The books of a crowd

A turn enters a refresh when it publishes one, and nothing else. Callers are answered in kind: who wished
for a key is told of a key.
-/

namespace TokenGate

namespace Stage

variable {g g' : Gate} {s s' : Stage} {w : Wish}

/-- The caller wishes for this, or was answered in kind, or has left. -/
def Suits (w : Wish) : Stage → Prop
  | done (.keys _) _ => ∃ uri, w = .keys uri
  | done (.key _) _ => ∃ uri id, w = .key uri id
  | done (.refreshed _) _ => w = .sweep
  | gone => True
  | s => s.wish? = some w

theorem suits_of_wish (h : s.wish? = some w) : s.Suits w := by
  cases s with
  | done | gone => cases h
  | _ => exact h

theorem Suits.wish?_eq (h : s.Suits w) (waits : s.wish?.isSome) : s.wish? = some w := by
  cases s with
  | done | gone => cases waits
  | _ => exact h

theorem Suits.wish_eq {w' : Wish} (h : s.Suits w) (wish : s.wish? = some w') : w' = w :=
  Option.some.inj (wish.symm.trans (h.wish?_eq (by rw [wish]; rfl)))

theorem suits_next (uri : String) (answer : KeyAnswer) (now : Instant) (errand : Errand) :
    (errand.next uri answer now).Suits (errand.wish uri) := by
  cases errand with
  | keys => exact ⟨uri, rfl⟩
  | firstKey id =>
    simp only [Errand.next]
    cases Gate.FirstLook.ofAnswer id answer with
    | settled r => exact ⟨uri, id, rfl⟩
    | missing => rfl
  | forcedKey id => exact ⟨uri, id, rfl⟩
  | sweep later count => rfl

theorem Fares.suits (fares : s.Fares g g' s') (h : s.Suits w) : s'.Suits w := by
  cases fares with
  | remains => exact h
  | leaves => trivial
  | goesOn same waits _ => exact suits_of_wish (same.trans (h.wish?_eq waits))
  | settles now wish _ | untracked now wish _ =>
    rw [← h.wish_eq wish]
    exact suits_next ..
  | fails now _ _ _ =>
    rw [← h.wish_eq rfl]
    exact suits_next ..
  | finds _ _ => exact h
  | excused now e =>
    rw [← h.wish_eq rfl]
    exact suits_next ..
  | declines now _ _ => exact ⟨_, _, (h.wish_eq rfl).symm⟩
  | counts count now => exact (h.wish_eq rfl).symm

end Stage

namespace Crowd

variable {c c' : Crowd} {i n : Nat} {a : Action} {s : Stage} {w : Wish} {wishes : List Wish}

theorem Turn.books (turn : Turn c a c') : c.gate.Books [] c'.gate := by
  cases turn with
  | asks | waits | scripts => exact .same rfl rfl
  | registers uri floor => exact .registers ..
  | publishes _ found _ =>
    obtain rfl := Gate.uri_of_lookup? found
    rw [gate_published]
    exact .publishes found rfl
  | joins | quitsGuard | retires =>
    simp only [gate_setCaller, gate_release, gate_setPhase]
    exact .refl _
  | _ => exact .refl _

/-! ## Answers in kind -/

def Action.arrival? : Action → Option Wish
  | arrive wish => some wish
  | _ => none

theorem suits_step (here : c.callers[i]? = some s) (h : s.Suits w) (a : Action) :
    ∃ s', (c.step a).callers[i]? = some s' ∧ s'.Suits w := by
  by_cases own : a = .move i
  · subst own
    obtain ⟨s', there, fares⟩ := follows_move here
    exact ⟨s', there, fares.suits h⟩
  obtain ⟨s', there, kept⟩ | told := (c.turn_step a).elsewhere here own
  · exact ⟨s', there, (kept.fares c.gate c.gate).suits h⟩
  · generalize c.step a = c' at told ⊢
    cases told with
    | tells _ _ _ next =>
      refine ⟨_, next, ?_⟩
      rw [← h.wish_eq rfl]
      exact Stage.suits_next ..

@[simp] theorem length_callers_setCaller (c : Crowd) (i : Nat) (s : Stage) :
    (c.setCaller i s).callers.length = c.callers.length :=
  List.length_set ..

@[simp] theorem length_callers_release (c : Crowd) (uri : String) :
    (c.release uri).callers.length = c.callers.length := by
  cases h : (c.guard uri).line with
  | nil => rw [release_nil h]; rfl
  | cons i rest =>
    rw [release_cons h]
    exact List.length_modify ..

@[simp] theorem length_callers_tell (c : Crowd) (waiter : Option Nat) (answer : KeyAnswer) :
    (c.tell waiter answer).callers.length = c.callers.length := by
  unfold tell
  split
  · rfl
  · split
    · exact length_callers_setCaller ..
    · rfl

theorem Turn.length_callers (turn : Turn c a c') (h : a.arrival? = none) :
    c'.callers.length = c.callers.length := by
  cases turn with
  | arrives => cases h
  | joins | quitsGuard => rw [length_callers_setCaller, length_callers_release]
  | retires =>
    rw [length_callers_release]
    rfl
  | publishes =>
    rw [published, length_callers_tell, length_callers_release]
    rfl
  | passes | observes | spawnsBehind | takes | queues | begins | quits | quitsLine =>
    exact length_callers_setCaller ..
  | _ => rfl

/-- These are the wishes of the callers, in the order of their arrival. -/
structure Serving (c : Crowd) (wishes : List Wish) : Prop where
  length : c.callers.length = wishes.length
  suits : ∀ (i : Nat) w, wishes[i]? = some w → ∃ s, c.callers[i]? = some s ∧ s.Suits w

theorem serving_ofGate (g : Gate) : (ofGate g).Serving [] :=
  ⟨rfl, fun i w here => by simp at here⟩

theorem Serving.step (h : c.Serving wishes) (stays : a.arrival? = none) : (c.step a).Serving wishes := by
  refine ⟨((c.turn_step a).length_callers stays).trans h.length, fun i w here => ?_⟩
  obtain ⟨s, there, suits⟩ := h.suits i w here
  exact suits_step there suits a

theorem Serving.arrive (h : c.Serving wishes) (w : Wish) :
    (c.step (.arrive w)).Serving (wishes ++ [w]) := by
  have length : (c.step (.arrive w)).callers.length = (wishes ++ [w]).length := by
    simp [Crowd.step, h.length]
  refine ⟨length, fun i w' here => ?_⟩
  by_cases old : i < wishes.length
  · rw [List.getElem?_append_left old] at here
    obtain ⟨s, there, suits⟩ := h.suits i w' here
    exact suits_step there suits _
  · have last : i = wishes.length := by
      have := (List.getElem?_eq_some_iff.1 here).1
      rw [List.length_append, List.length_singleton] at this
      omega
    subst last
    rw [List.getElem?_concat_length] at here
    obtain rfl := Option.some.inj here
    refine ⟨.look w, ?_, rfl⟩
    rw [Crowd.step, ← h.length]
    exact List.getElem?_concat_length

theorem Serving.of_callers (h : c.Serving wishes) (same : c'.callers = c.callers) : c'.Serving wishes := by
  obtain ⟨length, suits⟩ := h
  rw [← same] at length suits
  exact ⟨length, suits⟩

/-! ## The fair order -/

theorem mem_of_earlier {e : Event} {found : Option Event} {events : List Event}
    (h : events.foldl earlier found = some e) : found = some e ∨ e ∈ events := by
  induction events generalizing found with
  | nil => exact .inl h
  | cons first rest ih =>
    obtain next | later := ih h
    · have either : found = some e ∨ e = first := by
        unfold earlier at next
        split at next
        · exact .inr (Option.some.inj next).symm
        · split at next
          · exact .inr (Option.some.inj next).symm
          · exact .inl next
      exact either.imp_right fun same => List.mem_cons.2 (.inl same)
    · exact .inr (List.mem_cons_of_mem _ later)

theorem arrival?_of_next {patience : Patience} {e : Event} (next : c.nextEvent? patience = some e) :
    e.action.arrival? = none := by
  obtain none | mem := mem_of_earlier next
  · cases none
  obtain leaves | ends := List.mem_append.1 mem
  · obtain ⟨⟨s, i⟩, -, leaves⟩ := List.mem_filterMap.1 leaves
    obtain ⟨-, leaves⟩ := Option.ite_none_left_eq_some.1 leaves
    obtain ⟨t, -, rfl⟩ := Option.map_eq_some_iff.1 leaves
    rfl
  · obtain ⟨⟨f, n⟩, -, ends⟩ := List.mem_filterMap.1 ends
    simp only at ends
    split at ends
    · obtain rfl := Option.some.inj ends
      rfl
    · cases ends

end Crowd

end TokenGate
