import Mathlib.Order.Nat
import TokenGate.Proofs.Cache.Requests

/-!
# The course of a series of attempts

Attempts follow a schedule: the first one begins at once, and the next one a pause after the one before has
ended. The series keeps to it until an attempt comes to something that lasts, or the budget is used up.
What that attempt comes to is the outcome. Attempts, pauses and results are counted from zero here.
-/

namespace TokenGate.RetryPolicy

variable {ε α σ : Type}

/-! ## The schedule -/

section Schedule

variable (p : RetryPolicy) (attempt : σ → Instant → Run ε α σ)

/-- Where and when an attempt begins, if all the ones before it are followed by another. `failures` is the
number of the pause after the first one. -/
def begunFrom (failures : Nat) (s : σ) (now : Instant) : Nat → σ × Instant
  | 0 => (s, now)
  | j + 1 =>
    let (s', t) := begunFrom failures s now j
    ((attempt s' t).state, (attempt s' t).ended.wake (p.pause (failures + j)))

def madeFrom (failures : Nat) (s : σ) (now : Instant) (j : Nat) : Run ε α σ :=
  let (s', t) := p.begunFrom attempt failures s now j
  attempt s' t

def begun (s : σ) (now : Instant) (j : Nat) : σ × Instant := p.begunFrom attempt 1 s now j

def made (s : σ) (now : Instant) (j : Nat) : Run ε α σ := p.madeFrom attempt 1 s now j

/-- The schedule as the second attempt sees it. -/
theorem begunFrom_succ (failures : Nat) (s : σ) (now : Instant) (j : Nat) :
    p.begunFrom attempt failures s now (j + 1) =
      p.begunFrom attempt (failures + 1) (attempt s now).state
        ((attempt s now).ended.wake (p.pause failures)) j := by
  induction j with
  | zero => rfl
  | succ j ih =>
    unfold begunFrom
    rw [ih, Nat.add_assoc, Nat.add_comm 1 j]

theorem madeFrom_succ (failures : Nat) (s : σ) (now : Instant) (j : Nat) :
    p.madeFrom attempt failures s now (j + 1) =
      p.madeFrom attempt (failures + 1) (attempt s now).state
        ((attempt s now).ended.wake (p.pause failures)) j := by
  unfold madeFrom
  rw [begunFrom_succ]

end Schedule

/-! ## The last attempt -/

/-- A failure that calls for another attempt. -/
def Passing (mayPass : ε → Bool) : Except ε α → Prop
  | .ok _ => False
  | .error e => mayPass e

/-- The attempts that no other one follows. The first of them is the last attempt of a series. -/
def endings (mayPass : ε → Bool) (results : Nat → Except ε α) (spare : Nat) : Set Nat :=
  {j | j = spare ∨ ¬ Passing mayPass (results j)}

section Last

variable {mayPass : ε → Bool} {results : Nat → Except ε α} {spare k : Nat}

theorem exists_isLeast_endings (mayPass : ε → Bool) (results : Nat → Except ε α) (spare : Nat) :
    ∃ k, IsLeast (endings mayPass results spare) k := by
  classical
  have some : ∃ j, j ∈ endings mayPass results spare := ⟨spare, .inl rfl⟩
  exact ⟨_, Nat.isLeast_find some⟩

theorem isLeast_endings_of_passing (le : k ≤ spare) (passing : ∀ j < k, Passing mayPass (results j))
    (lasts : ¬ Passing mayPass (results k)) : IsLeast (endings mayPass results spare) k := by
  refine ⟨.inr lasts, fun j here => ?_⟩
  by_contra early
  have lt : j < k := Nat.lt_of_not_le early
  rcases here with full | lasts
  · omega
  · exact lasts (passing j lt)

theorem passing_of_isLeast (h : IsLeast (endings mayPass results spare) (k + 1)) :
    Passing mayPass (results 0) := by
  by_contra lasts
  have first : k + 1 ≤ 0 := h.2 (.inr lasts)
  omega

theorem isLeast_endings_tail (h : IsLeast (endings mayPass results (spare + 1)) (k + 1)) :
    IsLeast (endings mayPass (fun j => results (j + 1)) spare) k := by
  refine ⟨h.1.imp_left Nat.succ.inj, fun j here => ?_⟩
  have later : k + 1 ≤ j + 1 := h.2 (here.imp_left (congrArg (· + 1)))
  exact Nat.le_of_succ_le_succ later

end Last

/-! ## The series -/

section Series

variable (p : RetryPolicy) {mayPass : ε → Bool} (attempt : σ → Instant → Run ε α σ)

theorem attempts_of_isLeast {spare failures k : Nat} {s : σ} {now : Instant}
    (h : IsLeast (endings mayPass (fun j => (p.madeFrom attempt failures s now j).result) spare) k) :
    attempts p mayPass attempt spare failures s now = p.madeFrom attempt failures s now k ∧
      triesFrom p mayPass attempt spare failures s now =
        (List.range (k + 1)).map (p.begunFrom attempt failures s now) := by
  induction spare generalizing failures k s now with
  | zero =>
    obtain rfl : k = 0 := Nat.le_zero.1 (h.2 (.inl rfl))
    exact ⟨rfl, rfl⟩
  | succ spare ih =>
    obtain ⟨result, ended, s', ran⟩ := (attempt s now).exists_eq
    cases k with
    | zero =>
      have lasts := h.1.resolve_left (Nat.succ_ne_zero spare).symm
      simp only [madeFrom, begunFrom, ran] at lasts ⊢
      cases result with
      | ok a => simp [attempts, triesFrom, ran, begunFrom]
      | error e =>
        simp only [Passing, Bool.not_eq_true] at lasts
        simp [attempts, triesFrom, ran, lasts, begunFrom]
    | succ k =>
      have first := passing_of_isLeast h
      have rest := isLeast_endings_tail h
      simp only [madeFrom, begunFrom, ran] at first
      simp only [madeFrom_succ, ran] at rest ⊢
      have shifted : p.begunFrom attempt failures s now ∘ Nat.succ =
          p.begunFrom attempt (failures + 1) s' (ended.wake (p.pause failures)) := by
        funext j
        simp only [Function.comp, Nat.succ_eq_add_one, begunFrom_succ, ran]
      rw [List.range_succ_eq_map, List.map_cons, List.map_map, shifted]
      cases result with
      | ok a => exact first.elim
      | error e =>
        have again : mayPass e = true := first
        obtain ⟨same, tries⟩ := ih rest
        simp only [attempts, triesFrom, ran, again, if_true]
        exact ⟨same, congrArg _ tries⟩

theorem run_of_isLeast {s : σ} {now : Instant} {k : Nat}
    (h : IsLeast (endings mayPass (fun j => (p.made attempt s now j).result) (max 1 p.maxAttempts - 1)) k) :
    p.run mayPass attempt s now = p.made attempt s now k ∧
      p.tries mayPass attempt s now = (List.range (k + 1)).map (p.begun attempt s now) :=
  p.attempts_of_isLeast attempt h

end Series

/-! ## Counting in words -/

theorem toNat_succ {count : UInt32} (fits : count.toNat + 1 < UInt32.size) :
    (count + 1).toNat = count.toNat + 1 := by
  rw [UInt32.toNat_add]
  exact Nat.mod_eq_of_lt fits

section Counting

variable (p : RetryPolicy) (mayPass : ε → Bool) (attempt : σ → Instant → Run ε α σ)

/-- The series as a machine runs it that counts its attempts in a word of 32 bits. None: the count has left
its word. -/
def counted? (limit count : UInt32) (s : σ) (now : Instant) : Option (Run ε α σ) :=
  match attempt s now with
  | ⟨.ok a, ended, s⟩ => some ⟨.ok a, ended, s⟩
  | ⟨.error e, ended, s⟩ =>
    if count < limit ∧ mayPass e then
      if count.toNat + 1 < UInt32.size then
        counted? limit (count + 1) s (ended.wake (p.pause count.toNat))
      else none
    else some ⟨.error e, ended, s⟩
termination_by limit.toNat - count.toNat
decreasing_by
  rename_i below fits
  have lt : count.toNat < limit.toNat := UInt32.lt_iff_toNat_lt.1 below.1
  have next := toNat_succ fits
  omega

theorem counted?_eq_attempts {limit count : UInt32} {spare : Nat}
    (left : limit.toNat = count.toNat + spare) (s : σ) (now : Instant) :
    p.counted? mayPass attempt limit count s now =
      some (attempts p mayPass attempt spare count.toNat s now) := by
  induction spare generalizing count s now with
  | zero =>
    have full : ¬ count < limit := by
      rw [UInt32.lt_iff_toNat_lt]
      omega
    unfold counted? attempts
    obtain ⟨result, ended, s', ran⟩ := (attempt s now).exists_eq
    cases result <;> simp [ran, full]
  | succ spare ih =>
    -- The limit fits its word and is not reached yet, so the next count fits as well.
    have below : count < limit := by
      rw [UInt32.lt_iff_toNat_lt]
      omega
    have fits : count.toNat + 1 < UInt32.size := by
      have := limit.toNat_lt_size
      omega
    have next := toNat_succ fits
    unfold counted? attempts
    obtain ⟨result, ended, s', ran⟩ := (attempt s now).exists_eq
    cases result with
    | ok a => simp [ran]
    | error e =>
      by_cases again : mayPass e
      · simp only [ran, below, again, fits, and_self, if_true]
        rw [ih (by rw [next]; omega), next]
      · simp [ran, again]

end Counting

/-! ## Any sequence of results -/

section Scripted

variable (results : Nat → Except ε α) (took : Nat → Span)

/-- Attempts that come to given results and take given times. The state lists when the attempts so far have
begun. -/
def scripted (begun : List Instant) (now : Instant) : Run ε α (List Instant) :=
  ⟨results begun.length, now.plus (took begun.length), begun ++ [now]⟩

/-- When the attempts begin, if each of them is followed by another. -/
def start (p : RetryPolicy) (now : Instant) : Nat → Instant
  | 0 => now
  | j + 1 => ((start p now j).plus (took j)).wake (p.pause (j + 1))

theorem begun_scripted (p : RetryPolicy) (now : Instant) (j : Nat) :
    p.begun (scripted results took) [] now j =
      ((List.range j).map (start took p now), start took p now j) := by
  induction j with
  | zero => rfl
  | succ j ih =>
    unfold begun at ih ⊢
    unfold begunFrom
    rw [ih]
    simp [scripted, start, List.range_succ, Nat.add_comm 1 j]

theorem made_scripted (p : RetryPolicy) (now : Instant) (j : Nat) :
    p.made (scripted results took) [] now j =
      ⟨results j, (start took p now j).plus (took j), (List.range (j + 1)).map (start took p now)⟩ := by
  have begun := begun_scripted results took p now j
  unfold RetryPolicy.begun at begun
  unfold made madeFrom
  rw [begun]
  simp [scripted, List.range_succ]

/-- The timer goes off when the pause is over, at the next whole millisecond. -/
structure Rests (p : RetryPolicy) (now : Instant) (j : Nat) : Prop where
  least : ((start took p now j).plus (took j)).plus (p.pause (j + 1)) ≤ start took p now (j + 1)
  most : (start took p now (j + 1)).nanos <
    (((start took p now j).plus (took j)).plus (p.pause (j + 1))).nanos + Span.nanosPerMilli

theorem rests (p : RetryPolicy) (now : Instant) (j : Nat) : Rests took p now j :=
  ⟨Instant.le_ceilMilli _, Instant.ceilMilli_lt _⟩

end Scripted

theorem run_scripted (limit : UInt32) (firstPause longestPause : Span) (mayPass : ε → Bool)
    (results : Nat → Except ε α) (took : Nat → Span) (now : Instant) :
    let p : RetryPolicy := ⟨limit.toNat, firstPause, longestPause⟩
    ∃ k, IsLeast {j | j + 1 = max 1 limit.toNat ∨ ¬ Passing mayPass (results j)} k ∧
      p.run mayPass (scripted results took) [] now =
        ⟨results k, (start took p now k).plus (took k), (List.range (k + 1)).map (start took p now)⟩ ∧
      p.counted? mayPass (scripted results took) (max 1 limit) 1 [] now =
        some (p.run mayPass (scripted results took) [] now) ∧
      ∀ j, Rests took p now j := by
  intro p
  obtain ⟨k, least⟩ := exists_isLeast_endings mayPass results (max 1 limit.toNat - 1)
  have made : (fun j => (p.made (scripted results took) [] now j).result) = results := by
    funext j
    rw [made_scripted]
  have same : p.run mayPass (scripted results took) [] now = p.made (scripted results took) [] now k :=
    (p.run_of_isLeast (scripted results took) (by rwa [made])).1
  have budget : ∀ j, j + 1 = max 1 limit.toNat ↔ j = max 1 limit.toNat - 1 := fun j => by omega
  refine ⟨k, ?_, ?_, ?_, rests took p now⟩
  · simp only [budget]
    exact least
  · rw [same, made_scripted]
  · have left : (max 1 limit).toNat = (1 : UInt32).toNat + (max 1 limit.toNat - 1) := by
      rw [UInt32.toNat_max]
      change max 1 limit.toNat = 1 + _
      omega
    exact p.counted?_eq_attempts mayPass _ left [] now

end TokenGate.RetryPolicy
