import Mathlib.Data.Int.ConditionallyCompleteOrder
import Mathlib.Order.ConditionallyCompleteLattice.Basic
import TokenGate.Time.Window

/-! # The time window in exact arithmetic

Sums that stop at the last second never change a decision, since no clock shows a later second. So the
seconds at which a token is good are an interval, and a longer leeway only widens it.
-/

namespace TokenGate.Window

/-- The token has not expired. `leeway` is in whole seconds. -/
def Unexpired (w : Window) (leeway : Nat) (now : Stamp) : Prop :=
  now.seconds ≤ w.expiry.seconds + leeway

def Started (w : Window) (leeway : Nat) (now : Stamp) : Prop :=
  (∀ s, w.notBefore = some s → s.seconds ≤ now.seconds + leeway) ∧
    ∀ s, w.issuedAt = some s → s.seconds ≤ now.seconds + leeway

theorem plus_lt_iff (a b : Stamp) (n : Nat) : a.plus n < b ↔ a.seconds + n < b.seconds := by
  have := b.lt_end
  rw [Stamp.lt_iff, Stamp.seconds_plus]
  simp only [Stamp.greatest]
  omega

theorem isAhead_eq_false_iff (now : Stamp) (n : Nat) (start? : Option Stamp) :
    isAhead (now.plus n) start? = false ↔ ∀ s, start? = some s → s.seconds ≤ now.seconds + n := by
  cases start? with
  | none => simp [isAhead]
  | some s => simp [isAhead, plus_lt_iff]

theorem expired_iff (w : Window) (leeway : Span) (now : Stamp) :
    w.check leeway now = .error .expired ↔ ¬ w.Unexpired (leewaySeconds leeway) now := by
  unfold check
  simp only [plus_lt_iff, Unexpired, Int.not_le]
  split
  · simp [*]
  · split <;> simp [*]

theorem check_eq_ok_iff (w : Window) (leeway : Span) (now : Stamp) :
    w.check leeway now = .ok () ↔
      w.Unexpired (leewaySeconds leeway) now ∧ w.Started (leewaySeconds leeway) now := by
  unfold check
  simp only [plus_lt_iff, Unexpired, Started, ← isAhead_eq_false_iff]
  split
  · simp; omega
  · split
    · rename_i hahead
      rw [Bool.or_eq_true] at hahead
      rcases hahead with h | h <;> simp [h]
    · rename_i hexp hahead
      rw [Bool.not_eq_true, Bool.or_eq_false_iff] at hahead
      simp [hahead]; omega

theorem check_cases (w : Window) (leeway : Span) (now : Stamp) :
    w.check leeway now = .error .expired ∨ w.check leeway now = .error .notYetValid ∨
      w.check leeway now = .ok () := by
  unfold check
  simp only
  split
  · exact .inl rfl
  · split
    · exact .inr (.inl rfl)
    · exact .inr (.inr rfl)

theorem notYetValid_iff (w : Window) (leeway : Span) (now : Stamp) :
    w.check leeway now = .error .notYetValid ↔
      w.Unexpired (leewaySeconds leeway) now ∧ ¬ w.Started (leewaySeconds leeway) now := by
  have expired := w.expired_iff leeway now
  have ok := w.check_eq_ok_iff leeway now
  rcases w.check_cases leeway now with h | h | h
  · simp only [h, true_iff] at expired
    simp [h, expired]
  · simp only [h, Except.error.injEq, reduceCtorEq, false_iff, not_not] at expired ok
    simp only [h, true_iff]
    exact ⟨expired, fun started => ok ⟨expired, started⟩⟩
  · simp only [h, true_iff] at ok
    simp [h, ok]

theorem leewaySeconds_of_fits {leeway : Span} (fits : leeway.seconds < 9223372036854775808) :
    leewaySeconds leeway = leeway.seconds := by
  unfold leewaySeconds
  omega

/-! ## The seconds at which a token is good -/

/-- Some start of the token is later than the leeway allows. -/
def IsAhead (w : Window) (leeway : Nat) (now : Stamp) : Prop :=
  (∃ s, w.notBefore = some s ∧ now.seconds + leeway < s.seconds) ∨
    ∃ s, w.issuedAt = some s ∧ now.seconds + leeway < s.seconds

theorem not_started_iff (w : Window) (leeway : Nat) (now : Stamp) :
    ¬ w.Started leeway now ↔ w.IsAhead leeway now := by
  unfold Started IsAhead
  rw [not_and_or]
  simp only [not_forall, Int.not_le, exists_prop]

/-- The later one of the starts, if there is any. -/
def start? (w : Window) : Option Int :=
  Option.merge max (w.notBefore.map (·.seconds)) (w.issuedAt.map (·.seconds))

/-- `leeway` is in whole seconds. -/
def goodSeconds (w : Window) (leeway : Nat) : Set Int :=
  match w.start? with
  | none => Set.Iic (w.expiry.seconds + leeway)
  | some start => Set.Icc (start - leeway) (w.expiry.seconds + leeway)

theorem started_iff (w : Window) (leeway : Nat) (now : Stamp) :
    w.Started leeway now ↔ ∀ start, w.start? = some start → start - leeway ≤ now.seconds := by
  unfold Started start?
  cases w.notBefore with
  | none =>
    cases w.issuedAt with
    | none => simp
    | some s =>
      simp only [Option.map_none, Option.map_some, Option.merge_none_left, reduceCtorEq, false_implies,
        implies_true, Option.some.injEq, forall_eq', true_and]
      omega
  | some s =>
    cases w.issuedAt with
    | none =>
      simp only [Option.map_none, Option.map_some, Option.merge_none_right, reduceCtorEq, false_implies,
        implies_true, Option.some.injEq, forall_eq', and_true]
      omega
    | some s' =>
      simp only [Option.map_some, Option.merge_some_some, Option.some.injEq, forall_eq']
      omega

theorem mem_goodSeconds_iff (w : Window) (leeway : Nat) (now : Stamp) :
    now.seconds ∈ w.goodSeconds leeway ↔ w.Unexpired leeway now ∧ w.Started leeway now := by
  rw [started_iff]
  unfold goodSeconds Unexpired
  cases w.start? with
  | none => simp
  | some start => simp [and_comm]

theorem goodSeconds_mono (w : Window) {leeway longer : Nat} (le : leeway ≤ longer) :
    w.goodSeconds leeway ⊆ w.goodSeconds longer := by
  intro second good
  unfold goodSeconds at good ⊢
  generalize w.start? = start? at good ⊢
  cases start? with
  | none =>
    simp only [Set.mem_Iic] at good ⊢
    omega
  | some start =>
    simp only [Set.mem_Icc] at good ⊢
    omega

/-- What a check comes to, in whole numbers. `leeway` is in whole seconds. -/
structure Judges (w : Window) (leeway : Nat) (now : Stamp) (verdict : Except Token.Fault Unit) :
    Prop where
  expired : verdict = .error .expired ↔ w.expiry.seconds + leeway < now.seconds
  notYetValid : verdict = .error .notYetValid ↔
    ¬ w.expiry.seconds + leeway < now.seconds ∧ w.IsAhead leeway now
  ok : verdict = .ok () ↔ ¬ w.expiry.seconds + leeway < now.seconds ∧ ¬ w.IsAhead leeway now

theorem judges_check (w : Window) (leeway : Span) (now : Stamp) :
    w.Judges (leewaySeconds leeway) now (w.check leeway now) := by
  have unexpired : w.Unexpired (leewaySeconds leeway) now ↔
      ¬ w.expiry.seconds + leewaySeconds leeway < now.seconds := Int.not_lt.symm
  refine ⟨?_, ?_, ?_⟩
  · rw [expired_iff, unexpired, not_not]
  · rw [notYetValid_iff, unexpired, not_started_iff]
  · rw [check_eq_ok_iff, unexpired, ← not_started_iff, not_not]

theorem check_exact (w : Window) (leeway : Span) (fits : leeway.seconds < 9223372036854775808) :
    (∀ now, w.Judges leeway.seconds now (w.check leeway now)) ∧
    {now | w.check leeway now = .ok ()} = Set.preimage Stamp.seconds (w.goodSeconds leeway.seconds) ∧
    (∀ longer now, leeway.seconds ≤ longer.seconds → w.check leeway now = .ok () →
      w.check longer now = .ok ()) ∧
    ∀ other now, other.seconds = leeway.seconds → w.check other now = w.check leeway now := by
  have whole := leewaySeconds_of_fits fits
  refine ⟨fun now => ?_, ?_, ?_, ?_⟩
  · rw [← whole]
    exact w.judges_check leeway now
  · ext now
    rw [Set.mem_ofPred_eq, Set.mem_preimage, ← whole, mem_goodSeconds_iff, check_eq_ok_iff]
  · intro longer now le ok
    rw [check_eq_ok_iff, ← mem_goodSeconds_iff] at ok ⊢
    have wider : leewaySeconds leeway ≤ leewaySeconds longer := by
      unfold leewaySeconds
      omega
    exact w.goodSeconds_mono wider ok
  · intro other now same
    unfold check leewaySeconds
    rw [same]

/-- Both sums pass the last second: the one from the expiry at once, the one from `now` for all later
times. -/
def distant : Window := ⟨.greatest, some .greatest, some .least⟩

/-- The longest leeway that counts in full, and a part of a second more. -/
def vast : Span := .ofNanos (9223372036854775807 * Span.nanosPerSecond + 999999999)

theorem distant_good_from_zero :
    vast.seconds < 9223372036854775808 ∧
    {now | distant.check vast now = .ok ()} =
      Set.preimage Stamp.seconds (Set.Icc 0 (2 * 9223372036854775807)) ∧
    distant.check vast (.clamp (-1)) = .error .notYetValid := by
  have fits : vast.seconds < 9223372036854775808 := by decide
  have whole : vast.seconds = 9223372036854775807 := by decide
  have exact := check_exact distant vast fits
  refine ⟨fits, ?_, ?_⟩
  · rw [exact.2.1, whole]
    rfl
  · rw [(exact.1 (.clamp (-1))).notYetValid, whole]
    exact ⟨by decide, .inl ⟨.greatest, rfl, by decide⟩⟩

end TokenGate.Window
