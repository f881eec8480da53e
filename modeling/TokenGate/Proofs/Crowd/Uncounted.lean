import TokenGate.Crowd.Basic
import TokenGate.Proofs.Gate.Uncounted

/-!
# Crowds and the count of validations

No turn of a crowd looks at the validations on record.
-/

namespace TokenGate.Crowd

def uncounted (c : Crowd) : Crowd := { c with gate := c.gate.uncounted }

variable (c : Crowd) (i n : Nat) (uri : String)

theorem gate_uncounted : c.uncounted.gate = c.gate.uncounted := rfl

theorem callers_uncounted : c.uncounted.callers = c.callers := rfl

theorem fetches_uncounted : c.uncounted.fetches = c.fetches := rfl

theorem guard_uncounted : c.uncounted.guard uri = c.guard uri := rfl

/-! ## The guard -/

theorem acquire_uncounted (seen : Nat) (errand : Errand) :
    c.uncounted.acquire i uri seen errand = (c.acquire i uri seen errand).uncounted := by
  unfold acquire
  simp only [guard_uncounted]
  split <;> rfl

theorem release_uncounted : c.uncounted.release uri = (c.release uri).uncounted := by
  unfold release
  simp only [guard_uncounted]
  split <;> rfl

theorem spawnBehind_uncounted : c.uncounted.spawnBehind uri = (c.spawnBehind uri).uncounted := by
  unfold spawnBehind
  rw [guard_uncounted]
  split <;> rfl

/-! ## Callers -/

theorem look_uncounted (errand : Errand) :
    c.uncounted.look i uri errand = (c.look i uri errand).uncounted := by
  unfold look
  rw [gate_uncounted, Gate.lookup?_uncounted]
  split <;> rfl

theorem serve_uncounted (e : Entry) (time : Instant) (errand : Errand) :
    c.uncounted.serve i e time errand = (c.serve i e time errand).uncounted := by
  unfold serve
  split
  · split <;> rfl
  · split
    · rename_i behind _
      rw [spawnBehind_uncounted]
      cases behind <;> rfl
    · rfl
    · rfl

theorem lookAgain_uncounted (id : String) :
    c.uncounted.lookAgain i uri id = (c.lookAgain i uri id).uncounted := by
  unfold lookAgain
  rw [gate_uncounted, Gate.lookup?_uncounted, Gate.now_uncounted]
  split
  · rfl
  · split <;> rfl

theorem excuse_uncounted (errand : Errand) :
    c.uncounted.excuse i uri errand = (c.excuse i uri errand).uncounted := by
  unfold excuse
  rw [gate_uncounted, Gate.lookup?_uncounted]
  split <;> rfl

theorem visit_uncounted (uris : List String) (count : Nat) :
    c.uncounted.visit i uris count = (c.visit i uris count).uncounted := by
  unfold visit
  split
  · rfl
  · rw [gate_uncounted, Gate.lookup?_uncounted]
    split <;> rfl

theorem compare_uncounted (seen : Nat) (errand : Errand) :
    c.uncounted.compare i uri seen errand = (c.compare i uri seen errand).uncounted := by
  unfold compare
  rw [release_uncounted, gate_uncounted, Gate.lookup?_uncounted]
  split
  · rfl
  · split <;> rfl

theorem move_uncounted : c.uncounted.move i = (c.move i).uncounted := by
  unfold move
  rw [callers_uncounted, gate_uncounted]
  split
  · exact look_uncounted ..
  · exact look_uncounted ..
  · rfl
  · rw [Gate.lookup?_uncounted]
    split
    · rfl
    · exact serve_uncounted ..
  · exact lookAgain_uncounted ..
  · exact excuse_uncounted ..
  · exact visit_uncounted ..
  · exact acquire_uncounted ..
  · exact compare_uncounted ..
  · rfl

theorem cancel_uncounted : c.uncounted.cancel i = (c.cancel i).uncounted := by
  unfold cancel
  simp only [callers_uncounted, release_uncounted]
  split <;> rfl

/-! ## Fetches -/

theorem start_uncounted : c.uncounted.start n = (c.start n).uncounted := by
  unfold start
  rw [fetches_uncounted]
  split
  · rfl
  · rfl
  · rw [gate_uncounted, Gate.lookup?_uncounted]
    split
    · exact release_uncounted (c.setPhase n .ended) _
    · split
      · rfl
      · exact release_uncounted (c.setPhase n .ended) _
  · rfl

theorem tell_uncounted (waiter : Option Nat) (answer : KeyAnswer) :
    c.uncounted.tell waiter answer = (c.tell waiter answer).uncounted := by
  unfold tell
  split
  · rfl
  · rw [callers_uncounted]
    split <;> rfl

theorem finish_uncounted : c.uncounted.finish n = (c.finish n).uncounted := by
  unfold finish
  rw [fetches_uncounted]
  split
  · rename_i uri waiter started run _
    rw [gate_uncounted, Gate.lookup?_uncounted, Gate.now_uncounted]
    split
    · rfl
    · rename_i e _
      split
      · let r : Refresh := ⟨uri, started, c.gate.now, run.result⟩
        have published : c.gate.uncounted.publishRefresh e r =
            ((c.gate.publishRefresh e r).1, (c.gate.publishRefresh e r).2.uncounted) :=
          Prod.ext rfl (Gate.uncounted_publishRefresh ..)
        simp only [r] at published
        simp only [published]
        let after := { c with gate := (c.gate.publishRefresh e r).2 }.setPhase n .ended
        rw [← tell_uncounted, ← release_uncounted]
        rfl
      · rfl
  · rfl

/-! ## Any turn -/

theorem step_uncounted (a : Action) : c.uncounted.step a = (c.step a).uncounted := by
  cases a with
  | move i => exact move_uncounted c i
  | cancel i => exact cancel_uncounted c i
  | start n => exact start_uncounted c n
  | finish n => exact finish_uncounted c n
  | register uri floor =>
    simp only [step, gate_uncounted, Gate.register_uncounted]
    rfl
  | arrive | wait | publish => rfl

end TokenGate.Crowd
