import TokenGate.Proofs.Claims.Members

/-!
# Dates to the second

A date is the last whole second that is not after the number given. A machine comes to it by words and
doubles, in which neither the rounding of large words nor the cast of a double back into a word can go
astray. Which numbers are refused depends on their value alone.
-/

namespace TokenGate

/-! ## Rounding large words -/

namespace Binary64

theorem le_divHalfEven (num den : Nat) : num / den ≤ divHalfEven num den := by
  unfold divHalfEven
  simp only
  split_ifs <;> omega

theorem log2_mul_two_pow {n : Nat} (positive : n ≠ 0) (k : Nat) :
    (n * 2 ^ k).log2 = n.log2 + k := by
  obtain ⟨least, most⟩ := (Nat.log2_eq_iff positive).1 rfl
  have power := Nat.two_pow_pos k
  have nonzero : n * 2 ^ k ≠ 0 := Nat.mul_ne_zero positive (Nat.ne_of_gt power)
  refine (Nat.log2_eq_iff nonzero).2 ⟨?_, ?_⟩
  · rw [Nat.pow_add]
    exact Nat.mul_le_mul_right _ least
  · rw [Nat.add_right_comm, Nat.pow_add]
    exact Nat.mul_lt_mul_of_pos_right most power

theorem normal?_of_le (m shift : Nat) (few : shift + 1 ≤ 2045) :
    ∃ x, normal? m shift = some x ∧ x.negative = false ∧ m * 2 ^ shift ≤ x.units := by
  unfold normal?
  split
  · rename_i full
    refine ⟨_, if_pos few, rfl, ?_⟩
    rw [full]
    change 2 ^ 53 * 2 ^ shift ≤ 2 ^ 52 * 2 ^ (shift + 1)
    rw [Nat.pow_succ]
    omega
  · exact ⟨_, if_pos (by omega), rfl, by simp [units]⟩

/-- A word whose highest bit is set is not rounded to less than this bit. -/
theorem exists_ofNat?_of_high {n : Nat} (least : 2 ^ 63 ≤ n) (most : n < 2 ^ 64) :
    ∃ x, ofNat? n = some x ∧ 9223372036854775808 ≤ x.floor := by
  have one : unitsPerOne = 2 ^ fractionBits := Nat.pow_eq
  -- 53 digits are kept. The other eleven are dropped, with all that could stand behind the point.
  have shift : (n * unitsPerOne / 1).log2 + 1 - 53 = fractionBits + 11 := by
    have high : n.log2 = 63 := (Nat.log2_eq_iff (by omega)).2 ⟨least, most⟩
    rw [Nat.div_one, one, log2_mul_two_pow (by omega), high]
    omega
  have bit : 2 ^ 63 * unitsPerOne = 2 ^ 52 * 2 ^ (fractionBits + 11) := by
    rw [one, ← Nat.pow_add, ← Nat.pow_add, Nat.add_comm fractionBits, ← Nat.add_assoc]
  have kept : 2 ^ 52 ≤ divHalfEven (n * unitsPerOne) (1 * Nat.pow 2 (fractionBits + 11)) := by
    simp only [Nat.pow_eq, Nat.one_mul]
    refine le_trans ((Nat.le_div_iff_mul_le (Nat.two_pow_pos _)).2 ?_) (le_divHalfEven ..)
    rw [← bit]
    exact Nat.mul_le_mul_right _ least
  obtain ⟨x, rounded, positive, units⟩ := normal?_of_le (divHalfEven (n * unitsPerOne)
    (1 * Nat.pow 2 (fractionBits + 11))) (fractionBits + 11) (by decide)
  refine ⟨x, ?_, ?_⟩
  · simp only [ofNat?, ofRatio?, shift]
    exact rounded
  · have total : 2 ^ 63 * unitsPerOne ≤ x.units := by
      rw [bit]
      exact le_trans (Nat.mul_le_mul_right _ kept) units
    have whole : x.floor = ((x.units / unitsPerOne : Nat) : Int) := by
      rw [floor, scaled, positive]
      rfl
    have least : 2 ^ 63 ≤ x.units / unitsPerOne := (Nat.le_div_iff_mul_le unitsPerOne_pos).2 total
    rw [whole]
    omega

end Binary64

/-! ## Digits that fit into a word -/

namespace Decimal

theorem absorb_le {n : Nat} (fits : n ≤ wordMax) (digits : List Nat) :
    (absorb n digits).1 ≤ wordMax := by
  induction digits generalizing n with
  | nil => exact fits
  | cons d rest ih =>
    unfold absorb
    split
    · rename_i fits'
      exact ih fits'
    · exact fits

end Decimal

/-! ## Numbers as a machine holds them -/

/-- A number from a text stands in a word, with a sign or without one, or in a double. -/
inductive Held
  | signed (n : Int64)
  | unsigned (n : UInt64)
  | real (x : Binary64)

namespace Held

def number : Held → Number
  | signed n => .int n.toInt
  | unsigned n => .int n.toNat
  | real x => .real x

/-- The end of the range, as a double. The last second before it is none. -/
def limit : Binary64 := (Binary64.ofNat? 9223372036854775808).getD ⟨false, 0, 0⟩

/-- Rounds down, compares with the ends of the range and casts. A cast stops at the ends of its word. -/
def floor? (x : Binary64) : Option Int64 :=
  if -limit.value ≤ x.floor ∧ x.floor < limit.value then some (.ofIntClamp x.floor) else none

/-- A word that is too large to have a sign is rounded to a double. -/
def date? : Held → Option Int64
  | signed n => some n
  | unsigned n =>
    if n.toNat < 9223372036854775808 then some n.toInt64 else (Binary64.ofNat? n.toNat).bind floor?
  | real x => floor? x

theorem value_limit : limit.value = 9223372036854775808 := by
  have scaled : limit.scaled = 9223372036854775808 * Binary64.unitsPerOne := by decide +kernel
  have one : (Binary64.unitsPerOne : ℚ) ≠ 0 := by exact_mod_cast Binary64.unitsPerOne_pos.ne'
  rw [Binary64.value, scaled]
  push_cast
  exact mul_div_cancel_right₀ _ one

/-- The cast never meets the ends of its word. -/
theorem floor?_eq (x : Binary64) :
    (floor? x).map Int64.toInt = (Stamp.ofInt? x.floor).map (·.seconds) := by
  unfold floor? Stamp.ofInt?
  rw [value_limit]
  have range : -(9223372036854775808 : ℚ) ≤ x.floor ∧ (x.floor : ℚ) < 9223372036854775808 ↔
      -9223372036854775808 ≤ x.floor ∧ x.floor < 9223372036854775808 := by
    norm_cast
  simp only [range]
  split_ifs with fits
  · exact congrArg some (Int64.toInt_ofIntClamp fits.1 (Int.le_of_lt_add_one fits.2))
  · rfl

theorem floor?_eq_none {x : Binary64} (large : 9223372036854775808 ≤ x.floor) : floor? x = none := by
  unfold floor?
  rw [value_limit]
  refine if_neg fun fits => ?_
  have below : x.floor < 9223372036854775808 := by exact_mod_cast fits.2
  omega

theorem date?_eq (h : Held) :
    h.date?.map Int64.toInt = (NumericDate.ofNumber? h.number).map (·.seconds) := by
  cases h with
  | signed n =>
    have fits : -9223372036854775808 ≤ n.toInt ∧ n.toInt < 9223372036854775808 := ⟨n.le_toInt, n.toInt_lt⟩
    simp [date?, number, NumericDate.ofNumber?, Stamp.ofInt?, fits]
  | unsigned n =>
    simp only [date?, number, NumericDate.ofNumber?, Stamp.ofInt?]
    by_cases small : n.toNat < 9223372036854775808
    · have fits : -9223372036854775808 ≤ (n.toNat : Int) ∧ (n.toNat : Int) < 9223372036854775808 := by omega
      have same : n.toInt64.toInt = n.toNat :=
        BitVec.toInt_eq_toNat_of_lt (x := n.toBitVec) (by rw [UInt64.toNat_toBitVec]; omega)
      simp [small, fits, same]
    · have out : ¬ (-9223372036854775808 ≤ (n.toNat : Int) ∧ (n.toNat : Int) < 9223372036854775808) := by
        omega
      obtain ⟨x, rounded, large⟩ := Binary64.exists_ofNat?_of_high (Nat.not_lt.1 small) n.toNat_lt
      simp [small, rounded, floor?_eq_none large]
  | real x => exact floor?_eq x

/-! ## Numbers in a text -/

theorem exists_of_nat {n : Nat} (fits : n ≤ Decimal.wordMax) : ∃ h : Held, h.number = .int n := by
  have small : n < 2 ^ 64 := Nat.lt_of_le_of_lt fits (by decide)
  refine ⟨.unsigned (.ofNat n), ?_⟩
  rw [number, UInt64.toNat_ofNat', Nat.mod_eq_of_lt small]

theorem exists_of_negative {n : Nat} (fits : n ≤ 2 ^ 63) : ∃ h : Held, h.number = .int (-n) := by
  refine ⟨.signed (.ofInt (-n)), ?_⟩
  rw [number, Int64.toInt_ofInt_of_le (by omega) (by omega)]

theorem exists_of_number? {d : Decimal} {n : Number} (read : d.number? = some n) :
    ∃ h : Held, h.number = n := by
  have held {x? : Option Binary64}
      (real : (x?.map fun x => Number.real { x with negative := d.negative }) = some n) :
      ∃ h : Held, h.number = n := by
    obtain ⟨x, -, rfl⟩ := Option.map_eq_some_iff.1 real
    exact ⟨.real _, rfl⟩
  have small := Decimal.absorb_le (Nat.zero_le _) d.whole
  unfold Decimal.number? at read
  simp only at read
  split at read
  · split at read
    · rename_i whole absorbed
      rw [absorbed] at small
      split at read
      · split at read
        · exact held read
        · rename_i fits
          obtain rfl := Option.some.inj read
          exact exists_of_negative (by simp only [not_or, Nat.not_lt] at fits; exact fits.2)
      · obtain rfl := Option.some.inj read
        exact exists_of_nat small
    · exact held read
  · exact held read

end Held

/-! ## What a number is read as -/

namespace NumericDate

theorem ofNumber?_eq_some_iff {n : Number} {s : Stamp} :
    ofNumber? n = some s ↔ s.seconds ≤ n.value ∧ n.value < s.seconds + 1 := by
  have floor : ⌊n.value⌋ = s.seconds ↔ s.seconds ≤ n.value ∧ n.value < s.seconds + 1 := Int.floor_eq_iff
  rw [ofNumber?_eq_ofInt?, ← floor]
  constructor
  · intro h
    unfold Stamp.ofInt? at h
    split at h
    · rw [← Option.some.inj h]
    · cases h
  · intro h
    rw [h, Stamp.ofInt?_seconds]

theorem ofNumber?_eq_none_iff {n : Number} : ofNumber? n = none ↔
    n.value < -9223372036854775808 ∨ 9223372036854775808 ≤ n.value := by
  rw [← Option.not_isSome_iff_eq_none, isSome_ofNumber?, not_and_or, not_le, not_lt]

/-- A number is read as its floor, by a machine too, or refused for its value alone. -/
structure Exact (h : Held) : Prop where
  some_iff : ∀ s, ofNumber? h.number = some s ↔
    s.seconds ≤ h.number.value ∧ h.number.value < s.seconds + 1
  none_iff : ofNumber? h.number = none ↔
    h.number.value < -9223372036854775808 ∨ 9223372036854775808 ≤ h.number.value
  machine : h.date?.map Int64.toInt = (ofNumber? h.number).map (·.seconds)
  /-- A word with a sign is read as it is. -/
  signed : ∀ n, h = .signed n → (ofNumber? h.number).map (·.seconds) = some n.toInt
  /-- A word is not refused for being written without a sign, but for being too large. -/
  unsigned : ∀ n, h = .unsigned n → (ofNumber? h.number = none ↔ 2 ^ 63 ≤ n.toNat)
  real : ∀ x, h = .real x → 2 ^ 63 ≤ x.value → ofNumber? h.number = none

theorem exact (h : Held) : Exact h where
  some_iff s := ofNumber?_eq_some_iff
  none_iff := ofNumber?_eq_none_iff
  machine := h.date?_eq
  signed n same := by
    subst same
    exact (Held.signed n).date?_eq.symm
  unsigned n same := by
    subst same
    rw [ofNumber?_eq_none_iff]
    change ((n.toNat : Int) : ℚ) < _ ∨ _ ≤ ((n.toNat : Int) : ℚ) ↔ _
    norm_cast
    omega
  real x same large := by
    subst same
    refine ofNumber?_eq_none_iff.2 (.inr ?_)
    change _ ≤ x.value
    norm_num at large
    exact large

end NumericDate

/-! ## Dates in a payload -/

/-- The claims that are dates. -/
inductive DateClaim
  | expiry
  | notBefore
  | issuedAt

namespace DateClaim

def name : DateClaim → String
  | expiry => "exp"
  | notBefore => "nbf"
  | issuedAt => "iat"

def date? (w : Window) : DateClaim → Option Stamp
  | expiry => some w.expiry
  | notBefore => w.notBefore
  | issuedAt => w.issuedAt

variable {d : Dialect} {members : List (String × Json)} {n : Number} {c : Claims}

theorem read_of_ofJson? (k : DateClaim) (given : Json.lookup k.name members = some (.number n))
    (read : Claims.ofJson? d (.record members) = some c) :
    ∃ s, k.date? c.registered.times = some s ∧ NumericDate.ofNumber? n = some s := by
  obtain ⟨-, -, registered⟩ := Claims.ofJson?_record_eq_some_iff.1 read
  have optional {date? : Option Stamp}
      (h : Json.optional NumericDate.ofJson? (some (.number n)) = some date?) :
      ∃ s, date? = some s ∧ NumericDate.ofNumber? n = some s := by
    obtain ⟨s, number, same⟩ := Option.map_eq_some_iff.1 h
    exact ⟨s, same.symm, number⟩
  cases k with
  | expiry =>
    have expiry := registered.expiry
    rw [show Json.lookup "exp" members = _ from given] at expiry
    exact ⟨_, rfl, expiry⟩
  | notBefore =>
    have notBefore := registered.notBefore
    rw [show Json.lookup "nbf" members = _ from given] at notBefore
    exact optional notBefore
  | issuedAt =>
    have issuedAt := registered.issuedAt
    rw [show Json.lookup "iat" members = _ from given] at issuedAt
    exact optional issuedAt

theorem ofJson?_of_whole (k : DateClaim) {s : Stamp} (given : Json.lookup k.name members = some (.number n))
    (number : NumericDate.ofNumber? n = some s) :
    Claims.ofJson? d (.record (members ++ [(k.name, NumericDate.json s)])) =
      Claims.ofJson? d (.record members) := by
  have whole : NumericDate.ofJson? (NumericDate.json s) = NumericDate.ofJson? (.number n) :=
    (NumericDate.ofJson?_json s).trans number.symm
  have optional : Json.optional NumericDate.ofJson? (some (NumericDate.json s)) =
      Json.optional NumericDate.ofJson? (some (.number n)) := congrArg (Option.map some) whole
  have profile : Profile.ofMembers? d (members ++ [(k.name, NumericDate.json s)]) =
      Profile.ofMembers? d members := by
    cases d <;> cases k <;> simp [Profile.ofMembers?, Json.lookup_append, Json.lookup_cons, name]
  have registered : Registered.ofMembers? (members ++ [(k.name, NumericDate.json s)]) =
      Registered.ofMembers? members := by
    rw [Registered.ofMembers?_eq, Registered.ofMembers?_eq]
    cases k <;> simp only [name] at given ⊢ <;>
      simp [Json.lookup_append, Json.lookup_cons, given, whole, optional]
  simp only [Claims.ofJson?, Json.record?, Option.bind_eq_bind, Option.bind_some, profile, registered]

end DateClaim

/-- What a payload comes to that has this number in the place of a date. -/
structure DateClaim.Floored (k : DateClaim) (f : Factory) (members : List (String × Json)) (n : Number) :
    Prop where
  date : ∀ c, (f.build (.record members)).1 = some c → ∃ s, k.date? c.registered.times = some s ∧
    s.seconds ≤ n.value ∧ n.value < s.seconds + 1
  refused : n.value < -9223372036854775808 ∨ 9223372036854775808 ≤ n.value →
    (f.build (.record members)).1 = none
  /-- The number is no reason to refuse the payload if the second is in range. -/
  accepted : ∀ s : Stamp, s.seconds ≤ n.value → n.value < s.seconds + 1 →
    (f.build (.record members)).1 =
      (f.build (.record (members ++ [(k.name, NumericDate.json s)]))).1

theorem DateClaim.floored (k : DateClaim) (f : Factory) {members : List (String × Json)} {n : Number}
    (given : Json.lookup k.name members = some (.number n)) : k.Floored f members n where
  date c built := by
    obtain ⟨s, date, read⟩ := k.read_of_ofJson? given built
    exact ⟨s, date, NumericDate.ofNumber?_eq_some_iff.1 read⟩
  refused out := by
    by_contra built
    obtain ⟨c, built⟩ := Option.ne_none_iff_exists'.1 built
    obtain ⟨s, -, read⟩ := k.read_of_ofJson? given built
    rw [NumericDate.ofNumber?_eq_none_iff.2 out] at read
    cases read
  accepted s least most :=
    (k.ofJson?_of_whole given (NumericDate.ofNumber?_eq_some_iff.2 ⟨least, most⟩)).symm

/-- Each number of a text stands in a word or a double, is read as its floor if a stamp can hold it, and
refused else, for each of the dates in a payload. -/
theorem Claims.build_floors (f : Factory) :
    (∀ t n, Decimal.number? t = some n → ∃ h : Held, h.number = n) ∧
    (∀ h, NumericDate.Exact h) ∧
    ∀ (k : DateClaim) members (h : Held), Json.lookup k.name members = some (.number h.number) →
      k.Floored f members h.number :=
  ⟨fun _ _ => Held.exists_of_number?, NumericDate.exact, fun k _ _ => k.floored f⟩

namespace Claims

/-! ## Half a second before the start of the clock -/

def minusHalf : Binary64 := ⟨true, 2 ^ 52, 1021⟩

theorem value_minusHalf : minusHalf.value = -1 / 2 := by
  have scaled : minusHalf.scaled * 2 = -Binary64.unitsPerOne := by decide +kernel
  have one : (Binary64.unitsPerOne : ℚ) ≠ 0 := by exact_mod_cast Binary64.unitsPerOne_pos.ne'
  rw [Binary64.value, div_eq_div_iff one two_ne_zero]
  exact_mod_cast scaled.trans (neg_one_mul _).symm

def expiring (n : Number) : List (String × Json) := [("exp", .number n)]

/-- A fraction before the start is not cut off towards it, and the first second out of range is refused
whether it is written as a word or as a double. -/
theorem minusHalf_floored :
    (∃ c, ((Factory.new .minimal (.empty .minimal)).build
      (.record (expiring (.real minusHalf)))).1 = some c ∧ c.registered.times.expiry.seconds = -1) ∧
    ((Factory.new .minimal (.empty .minimal)).build
      (.record (expiring (.int 9223372036854775808)))).1 = none ∧
    ((Factory.new .minimal (.empty .minimal)).build
      (.record (expiring (.real Held.limit)))).1 = none := by
  obtain ⟨-, -, floors⟩ := build_floors (.new .minimal (.empty .minimal))
  refine ⟨?_, ?_, ?_⟩
  · obtain ⟨c, built⟩ : ∃ c, ((Factory.new .minimal (.empty .minimal)).build
        (.record (expiring (.real minusHalf)))).1 = some c :=
      Option.isSome_iff_exists.1 (by decide +kernel)
    obtain ⟨s, expiry, least, most⟩ := (floors .expiry (expiring (.real minusHalf)) (.real minusHalf)
      rfl).date c built
    obtain rfl := Option.some.inj expiry
    change _ ≤ minusHalf.value at least
    change minusHalf.value < _ at most
    rw [value_minusHalf] at least most
    have before : c.registered.times.expiry.seconds < 0 := by
      have : (c.registered.times.expiry.seconds : ℚ) < 0 := by linarith only [least]
      exact_mod_cast this
    have after : -2 < c.registered.times.expiry.seconds := by
      have : (-2 : ℚ) < c.registered.times.expiry.seconds := by linarith only [most]
      exact_mod_cast this
    exact ⟨c, built, by omega⟩
  · refine (floors .expiry (expiring (.int 9223372036854775808)) (.unsigned 9223372036854775808)
      rfl).refused (.inr ?_)
    change (9223372036854775808 : ℚ) ≤ ((9223372036854775808 : Int) : ℚ)
    norm_num
  · exact (floors .expiry (expiring (.real Held.limit)) (.real Held.limit) rfl).refused
      (.inr Held.value_limit.ge)

end Claims

end TokenGate
