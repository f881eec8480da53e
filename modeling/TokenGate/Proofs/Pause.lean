import Mathlib.Algebra.Group.Nat.Defs
import Mathlib.Data.Nat.Lattice
import TokenGate.Retry

/-!
# How long to pause

The pause doubles with each failure, up to a limit. It is worked out in words, the seconds in one and
the nanoseconds in another, and a product that leaves its word stops at the longest span. The limit
makes up for that: the pause is exact, to the nanosecond.
-/

namespace TokenGate

namespace Span

/-! ## Spans in words -/

structure Words where
  seconds : UInt64
  nanos : UInt32
  deriving DecidableEq

def words (s : Span) : Words := ⟨.ofNat s.seconds, .ofNat s.rest⟩

namespace Words

variable (w w' : Words) (k : UInt32)

/-- All nanoseconds. -/
def total : Nat := w.seconds.toNat * nanosPerSecond + w.nanos.toNat

/-- The nanoseconds are multiplied in 64 bits, and whole seconds among them are carried. None: the
seconds have left their word. -/
def times? : Option Words :=
  let product := w.nanos.toUInt64 * k.toUInt64
  let carry := product / 1000000000
  if w.seconds.toNat * k.toNat < UInt64.size then
    let seconds := w.seconds * k.toUInt64
    if seconds.toNat + carry.toNat < UInt64.size then
      some ⟨seconds + carry, (product % 1000000000).toUInt32⟩
    else none
  else none

def times : Words := (w.times? k).getD longest.words

/-- Seconds are compared first. -/
def lesser : Words :=
  if w.seconds < w'.seconds ∨ (w.seconds = w'.seconds ∧ w.nanos ≤ w'.nanos) then w else w'

end Words

end Span

namespace RetryPolicy

/-- There is no count below zero. -/
def doublings (failures : UInt32) : UInt32 := min (if failures = 0 then 0 else failures - 1) 31

/-- The pause as a machine works it out whose counts and factors are words of 32 bits. -/
def pauseInWords (p : RetryPolicy) (failures : UInt32) : Span.Words :=
  (p.firstPause.words.times (1 <<< doublings failures)).lesser p.longestPause.words

end RetryPolicy

namespace Span

theorem total_words (s : Span) : s.words.total = s.nanos := by
  have bound := s.nanos_lt
  have seconds : (UInt64.ofNat s.seconds).toNat = s.seconds := by
    rw [UInt64.toNat_ofNat']
    exact Nat.mod_eq_of_lt (by simp only [Span.seconds, nanosPerSecond]; omega)
  have rest : (UInt32.ofNat s.rest).toNat = s.rest := by
    rw [UInt32.toNat_ofNat']
    exact Nat.mod_eq_of_lt (by simp only [Span.rest, nanosPerSecond]; omega)
  rw [Words.total, words, seconds, rest]
  exact Nat.div_add_mod' ..

/-- No words but these have this total, with less than a second beside the seconds. -/
theorem eq_words_of_total {s : Span} {w : Words} (carried : w.nanos.toNat < nanosPerSecond)
    (same : w.total = s.nanos) : w = s.words := by
  have seconds : w.seconds.toNat = s.seconds := by
    simp only [Words.total, Span.seconds, nanosPerSecond] at *
    omega
  have rest : w.nanos.toNat = s.rest := by
    simp only [Words.total, Span.rest, nanosPerSecond] at *
    omega
  rw [words, ← seconds, ← rest, UInt64.ofNat_toNat, UInt32.ofNat_toNat]

theorem nanos_words_lt (s : Span) : s.words.nanos.toNat < nanosPerSecond := by
  have rest : s.rest < nanosPerSecond := Nat.mod_lt _ (by decide)
  have small : nanosPerSecond < 2 ^ 32 := by decide
  rw [words, UInt32.toNat_ofNat', Nat.mod_eq_of_lt (by omega)]
  exact rest

theorem Words.toNat_product (w : Words) (k : UInt32) :
    (w.nanos.toUInt64 * k.toUInt64).toNat = w.nanos.toNat * k.toNat := by
  rw [UInt64.toNat_mul, UInt32.toNat_toUInt64, UInt32.toNat_toUInt64]
  refine Nat.mod_eq_of_lt ?_
  calc w.nanos.toNat * k.toNat
    _ < 2 ^ 32 * 2 ^ 32 := Nat.mul_lt_mul'' w.nanos.toNat_lt k.toNat_lt
    _ = 2 ^ 64 := rfl

theorem Words.times?_cases (w : Words) (k : UInt32) :
    (∃ w', w.times? k = some w' ∧ w'.nanos.toNat < nanosPerSecond ∧ w'.total = w.total * k.toNat) ∨
      w.times? k = none ∧ longest.nanos < w.total * k.toNat := by
  have product := w.toNat_product k
  have total : w.total * k.toNat =
      w.seconds.toNat * k.toNat * nanosPerSecond + w.nanos.toNat * k.toNat := by
    rw [Words.total, Nat.add_mul, Nat.mul_right_comm]
  have quotient : (w.nanos.toUInt64 * k.toUInt64 / 1000000000).toNat =
      w.nanos.toNat * k.toNat / nanosPerSecond := by
    rw [UInt64.toNat_div, product]
    rfl
  have remainder : (w.nanos.toUInt64 * k.toUInt64 % 1000000000).toUInt32.toNat =
      w.nanos.toNat * k.toNat % nanosPerSecond := by
    have small : w.nanos.toNat * k.toNat % nanosPerSecond < 2 ^ 32 :=
      Nat.lt_trans (Nat.mod_lt _ (by decide)) (by decide)
    rw [UInt64.toNat_toUInt32, UInt64.toNat_mod, product]
    exact Nat.mod_eq_of_lt small
  have split := Nat.div_add_mod' (w.nanos.toNat * k.toNat) nanosPerSecond
  have below : w.nanos.toNat * k.toNat % nanosPerSecond < nanosPerSecond := Nat.mod_lt _ (by decide)
  have limit : longest.nanos < UInt64.size * nanosPerSecond := longest.nanos_lt
  unfold times?
  simp only [quotient]
  by_cases fits : w.seconds.toNat * k.toNat < UInt64.size
  · have seconds : (w.seconds * k.toUInt64).toNat = w.seconds.toNat * k.toNat := by
      rw [UInt64.toNat_mul, UInt32.toNat_toUInt64]
      exact Nat.mod_eq_of_lt fits
    simp only [fits, if_true, seconds]
    by_cases fits' : w.seconds.toNat * k.toNat + w.nanos.toNat * k.toNat / nanosPerSecond < UInt64.size
    · refine .inl ⟨_, if_pos fits', by rwa [remainder], ?_⟩
      have sum : (w.seconds * k.toUInt64 + w.nanos.toUInt64 * k.toUInt64 / 1000000000).toNat =
          w.seconds.toNat * k.toNat + w.nanos.toNat * k.toNat / nanosPerSecond := by
        rw [UInt64.toNat_add, seconds, quotient]
        exact Nat.mod_eq_of_lt fits'
      rw [Words.total, sum, remainder, total, Nat.add_mul, Nat.add_assoc, split]
    · refine .inr ⟨if_neg fits', ?_⟩
      have least := Nat.mul_le_mul_right nanosPerSecond (Nat.not_lt.1 fits')
      rw [Nat.add_mul] at least
      omega
  · simp only [fits, if_false, true_and, reduceCtorEq, false_and, exists_false, false_or]
    have least := Nat.mul_le_mul_right nanosPerSecond (Nat.not_lt.1 fits)
    omega

theorem Words.total_le_longest {w : Words} (carried : w.nanos.toNat < nanosPerSecond) :
    w.total ≤ longest.nanos := by
  have seconds := w.seconds.toNat_lt
  simp only [Words.total, longest, nanosPerSecond] at *
  omega

theorem words_times (s : Span) (k : UInt32) : s.words.times k = (s.times k.toNat).words := by
  have nanos := s.nanos_times k.toNat
  obtain ⟨w, product, carried, total⟩ | ⟨none, long⟩ := s.words.times?_cases k
  · have fits := Words.total_le_longest carried
    rw [total_words] at total
    rw [Words.times, product, Option.getD_some]
    exact eq_words_of_total carried (by omega)
  · rw [total_words] at long
    rw [Words.times, none, Option.getD_none, show longest = s.times k.toNat from ext (by omega)]

theorem words_min (s t : Span) : s.words.lesser t.words = (min s t).words := by
  have order : s.words.seconds < t.words.seconds ∨
      (s.words.seconds = t.words.seconds ∧ s.words.nanos ≤ t.words.nanos) ↔ s ≤ t := by
    change _ ↔ s.nanos ≤ t.nanos
    have carried := s.nanos_words_lt
    have carried' := t.nanos_words_lt
    rw [← total_words s, ← total_words t, UInt64.lt_iff_toNat_lt, ← UInt64.toNat_inj,
      UInt32.le_iff_toNat_le]
    simp only [Words.total, nanosPerSecond] at *
    omega
  change (if _ then s.words else t.words) = (if s ≤ t then s else t).words
  rw [apply_ite words]
  exact if_congr order rfl rfl

end Span

namespace RetryPolicy

variable (p : RetryPolicy)

/-! ## Doubling -/

theorem toNat_shiftLeft_one {n : UInt32} (few : n.toNat < 32) :
    ((1 : UInt32) <<< n).toNat = 2 ^ n.toNat := by
  have fits : 2 ^ n.toNat < 2 ^ 32 := Nat.pow_lt_pow_right (by decide) few
  rw [UInt32.toNat_shiftLeft, Nat.mod_eq_of_lt few, Nat.shiftLeft_eq]
  exact (Nat.mod_eq_of_lt (by simpa using fits)).trans (Nat.one_mul _)

theorem toNat_doublings (failures : UInt32) :
    (doublings failures).toNat = min (failures.toNat - 1) maxDoublings := by
  have before : (if failures = 0 then 0 else failures - 1).toNat = failures.toNat - 1 := by
    split
    · rename_i none
      rw [none]
      rfl
    · rename_i some
      have positive : failures.toNat ≠ 0 := fun zero => some (UInt32.toNat_inj.1 zero)
      have least : (1 : UInt32) ≤ failures := UInt32.le_iff_toNat_le.2 (Nat.pos_of_ne_zero positive)
      exact UInt32.toNat_sub_of_le _ _ least
  have smaller (a b : UInt32) : (min a b).toNat = min a.toNat b.toNat := by
    rw [show min a b = if a ≤ b then a else b from rfl, Nat.min_def, apply_ite UInt32.toNat]
    rfl
  rw [doublings, smaller, before]
  rfl

theorem pauseInWords_eq (failures : UInt32) :
    p.pauseInWords failures = (p.pause failures.toNat).words := by
  have count := toNat_doublings failures
  have few : min (failures.toNat - 1) maxDoublings < 32 := by
    simp only [maxDoublings]
    omega
  rw [pauseInWords, Span.words_times, Span.words_min, toNat_shiftLeft_one (by rwa [count]), count]
  rfl

/-- The limit is a span, so the product stops at the longest one only where the limit is lower. -/
theorem nanos_pause (n : Nat) :
    (p.pause n).nanos = min (p.firstPause.nanos * 2 ^ min (max n 1 - 1) 31) p.longestPause.nanos := by
  have limit := p.longestPause.le_longest
  have exponent : max n 1 - 1 = n - 1 := by omega
  rw [pause, Span.nanos_min, Span.nanos_times, exponent]
  change min (min (p.firstPause.nanos * 2 ^ min (n - 1) 31) _) _ = _
  omega

theorem monotone_nanos_pause : Monotone fun n => (p.pause n).nanos := by
  intro m n le
  simp only [nanos_pause]
  have fewer : min (max m 1 - 1) 31 ≤ min (max n 1 - 1) 31 := by omega
  have longer := Nat.mul_le_mul_left p.firstPause.nanos (Nat.pow_le_pow_right (show 0 < 2 by decide) fewer)
  omega

theorem nanos_pause_succ {n : Nat} (least : 1 ≤ n) (most : n ≤ 31) :
    (p.pause (n + 1)).nanos = min (2 * (p.pause n).nanos) p.longestPause.nanos := by
  have before : min (max n 1 - 1) 31 = n - 1 := by omega
  have after : min (max (n + 1) 1 - 1) 31 = n - 1 + 1 := by omega
  rw [nanos_pause, nanos_pause, before, after, Nat.pow_succ, ← Nat.mul_assoc]
  omega

/-- How the pauses of a policy grow with the failures. -/
structure Doubles (p : RetryPolicy) : Prop where
  nanos : ∀ n, (p.pause n).nanos =
    min (p.firstPause.nanos * 2 ^ min (max n 1 - 1) 31) p.longestPause.nanos
  /-- Words are wide enough for the counts, and where they are too narrow for the product the limit
  counts. -/
  inWords : ∀ n, p.pauseInWords n = (p.pause n.toNat).words
  monotone : Monotone fun n => (p.pause n).nanos
  le_longest : ∀ n, p.pause n ≤ p.longestPause
  zero : p.pause 0 = p.pause 1
  succ : ∀ n, 1 ≤ n → n ≤ 31 →
    (p.pause (n + 1)).nanos = min (2 * (p.pause n).nanos) p.longestPause.nanos

theorem pause_doubles (p : RetryPolicy) : p.Doubles where
  nanos := p.nanos_pause
  inWords := p.pauseInWords_eq
  monotone := p.monotone_nanos_pause
  le_longest n := by
    change (p.pause n).nanos ≤ p.longestPause.nanos
    rw [nanos_pause]
    exact Nat.min_le_right ..
  zero := rfl
  succ n := p.nanos_pause_succ

/-- A quarter of a second, and in the end two seconds, up to the largest count that a word holds. -/
theorem default_pause_doubles :
    ((default : RetryPolicy).pause 2).nanos = 500000000 ∧
    ((default : RetryPolicy).pause 5).nanos = 2000000000 ∧
    (default : RetryPolicy).pauseInWords 4294967295 = ⟨2, 0⟩ := by
  have doubles := pause_doubles default
  have first : ((default : RetryPolicy).pause 1).nanos = 250000000 := by decide
  have limit : (default : RetryPolicy).longestPause.nanos = 2000000000 := by decide
  have second := doubles.succ 1 (by decide) (by decide)
  have third := doubles.succ 2 (by decide) (by decide)
  have fourth := doubles.succ 3 (by decide) (by decide)
  have fifth := doubles.succ 4 (by decide) (by decide)
  rw [first, limit] at second
  rw [second, limit] at third
  rw [third, limit] at fourth
  rw [fourth, limit] at fifth
  refine ⟨second, fifth, ?_⟩
  rw [doubles.inWords]
  decide

end RetryPolicy

end TokenGate
