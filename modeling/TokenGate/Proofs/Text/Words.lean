import Mathlib.Data.List.DropRight
import Mathlib.Data.List.TakeWhile
import TokenGate.Text.Basic

/-!
# Words and numbers in a text

Trimming leaves what stands between the blanks. A number is read from its decimal digits, whatever their
number, as long as its value is below the limit.
-/

namespace TokenGate.Text

variable {p : Char → Bool} {s t : List Char}

/-! ## Trimming -/

/-- There is nothing to trim at either end. -/
def Trimmed (p : Char → Bool) (s : List Char) : Prop :=
  (∀ c ∈ s.head?, ¬ p c) ∧ ∀ c ∈ s.getLast?, ¬ p c

theorem trimmed_of_forall (h : ∀ c ∈ s, ¬ p c) : Trimmed p s :=
  ⟨fun c first => h c (List.mem_of_mem_head? first), fun c last => h c (List.mem_of_getLast? last)⟩

theorem trimEnd_eq_rdropWhile (p : Char → Bool) (s : List Char) : trimEnd p s = s.rdropWhile p := rfl

theorem trimmed_trim (p : Char → Bool) (s : List Char) : Trimmed p (trim p s) := by
  rw [trim, trimEnd_eq_rdropWhile]
  constructor
  · intro c first
    obtain ⟨after, same⟩ := List.rdropWhile_prefix p (s.dropWhile p)
    have first' : (s.dropWhile p).head? = some c := by
      rw [← same, List.head?_append, Option.mem_def.1 first, Option.some_or]
    have := List.head?_dropWhile_not p s
    simp_all
  · intro c last
    obtain ⟨nonempty, rfl⟩ := List.mem_getLast?_eq_getLast last
    exact List.rdropWhile_last_not p _ nonempty

theorem rdropWhile_append {after : List Char} (blank : ∀ c ∈ after, p c) (s : List Char) :
    (s ++ after).rdropWhile p = s.rdropWhile p := by
  unfold List.rdropWhile
  rw [List.reverse_append, List.dropWhile_append_of_pos fun c mem => blank c (List.mem_reverse.1 mem)]

theorem trim_eq_iff :
    trim p s = t ↔ Trimmed p t ∧
      ∃ before after, s = before ++ t ++ after ∧ (∀ c ∈ before, p c) ∧ ∀ c ∈ after, p c := by
  constructor
  · rintro rfl
    refine ⟨trimmed_trim p s, s.takeWhile p, (s.dropWhile p).rtakeWhile p, ?_, ?_, ?_⟩
    · rw [List.append_assoc, trim, trimEnd_eq_rdropWhile, List.rdropWhile_append_rtakeWhile,
        List.takeWhile_append_dropWhile]
    · exact fun c mem => List.mem_takeWhile_imp mem
    · exact fun c mem => List.mem_takeWhile_imp (List.mem_reverse.1 mem)
  · rintro ⟨⟨first, last⟩, before, after, rfl, blank, blank'⟩
    rw [List.append_assoc, trim, trimEnd_eq_rdropWhile, List.dropWhile_append_of_pos blank]
    cases t with
    | nil => simp [List.dropWhile_eq_nil_iff.2 blank']
    | cons c t =>
      have kept : (c :: t ++ after).dropWhile p = c :: t ++ after :=
        List.dropWhile_cons_of_neg (first c rfl)
      rw [kept, rdropWhile_append blank', List.rdropWhile_eq_self_iff]
      exact fun nonempty => last _ (List.getLast?_eq_some_getLast nonempty)

theorem trim_infix (p : Char → Bool) (s : List Char) : trim p s <:+: s := by
  obtain ⟨-, before, after, split, -, -⟩ := trim_eq_iff.1 (rfl : trim p s = _)
  exact ⟨before, after, split.symm⟩

theorem trim_eq_nil_iff : trim p s = [] ↔ ∀ c ∈ s, p c := by
  rw [trim_eq_iff]
  constructor
  · rintro ⟨-, before, after, rfl, blank, blank'⟩ c mem
    rw [List.append_nil] at mem
    exact (List.mem_append.1 mem).elim (blank c) (blank' c)
  · exact fun blank => ⟨trimmed_of_forall (by simp), s, [], by simp, blank, by simp⟩

theorem stripBlanks_ne_empty_iff {s : String} : stripBlanks s ≠ "" ↔ ∃ c ∈ s.toList, ¬ isBlank c := by
  unfold stripBlanks
  rw [ne_eq, String.ofList_eq_empty_iff, trim_eq_nil_iff]
  simp

theorem trimmed_append (first : ∀ c ∈ s.head?, ¬ p c) (nonempty : t ≠ []) (bare : Trimmed p t) :
    Trimmed p (s ++ t) := by
  constructor
  · cases s with
    | nil => exact bare.1
    | cons => exact first
  · rw [List.getLast?_append_of_ne_nil _ nonempty]
    exact bare.2

/-! ## Words -/

/-- The text is this word, up to blanks around it and the case of its letters. -/
def ReadsAs (s word : List Char) : Prop :=
  ∃ before w after, s = before ++ w ++ after ∧ (∀ c ∈ before, isBlank c) ∧ (∀ c ∈ after, isBlank c) ∧
    lowerAscii w = word

theorem isUpper_iff {c : Char} : c.isUpper ↔ 65 ≤ c.toNat ∧ c.toNat ≤ 90 := decide_eq_true_iff

theorem isLower_iff {c : Char} : c.isLower ↔ 97 ≤ c.toNat ∧ c.toNat ≤ 122 :=
  Bool.and_eq_true_iff.trans (and_congr decide_eq_true_iff decide_eq_true_iff)

theorem isAlpha_iff {c : Char} : c.isAlpha ↔ c.isUpper ∨ c.isLower := Bool.or_eq_true_iff

theorem toNat_of_isAlpha {c : Char} (h : c.isAlpha) : 65 ≤ c.toNat ∧ c.toNat ≤ 122 := by
  rw [isAlpha_iff, isUpper_iff, isLower_iff] at h
  omega

theorem toLower_of_not_isUpper {c : Char} (h : ¬ c.isUpper) : c.toLower = c :=
  dif_neg fun range => h (decide_eq_true range)

theorem toNat_toLower {c : Char} (h : c.isUpper) : c.toLower.toNat = c.toNat + 32 := by
  obtain ⟨least, most⟩ := isUpper_iff.1 h
  have lower : c.toLower.val = c.val + 32 := congrArg Char.val (dif_pos (of_decide_eq_true h))
  change c.toLower.val.toNat = _
  rw [lower, UInt32.toNat_add]
  exact Nat.mod_eq_of_lt (show c.toNat + 32 < 4294967296 by omega)

theorem isUpper_toLower (c : Char) : ¬ c.toLower.isUpper := by
  by_cases upper : c.isUpper
  · have := isUpper_iff.1 upper
    have := toNat_toLower upper
    rw [isUpper_iff]
    omega
  · rwa [toLower_of_not_isUpper upper]

theorem isAlpha_toLower (c : Char) : c.toLower.isAlpha = c.isAlpha := by
  by_cases upper : c.isUpper
  · have lower : c.toLower.isLower := by
      have := isUpper_iff.1 upper
      have := toNat_toLower upper
      rw [isLower_iff]
      omega
    rw [isAlpha_iff.2 (.inr lower), isAlpha_iff.2 (.inl upper)]
  · rw [toLower_of_not_isUpper upper]

theorem toLower_of_not_isAlpha {c : Char} (h : ¬ c.isAlpha) : c.toLower = c :=
  toLower_of_not_isUpper fun upper => h (isAlpha_iff.2 (.inl upper))

/-- A property that all letters have, or none of them, does not depend on their case. -/
theorem apply_toLower {b : Bool} (letters : ∀ c, c.isAlpha → p c = b) (c : Char) : p c.toLower = p c := by
  by_cases alpha : c.isAlpha
  · rw [letters c alpha, letters c.toLower (by rwa [isAlpha_toLower])]
  · rw [toLower_of_not_isAlpha alpha]

theorem isBlank_toLower (c : Char) : isBlank c.toLower = isBlank c := by
  refine apply_toLower (b := false) (fun c alpha => ?_) c
  obtain ⟨least, most⟩ := toNat_of_isAlpha alpha
  simp only [isBlank, Bool.or_eq_false_iff, Bool.and_eq_false_iff, decide_eq_false_iff_not,
    beq_eq_false_iff_ne]
  omega

theorem not_isBlank_of_isDigit {c : Char} (h : c.isDigit) : ¬ isBlank c := by
  have range : 48 ≤ c.toNat ∧ c.toNat ≤ 57 := Char.isDigit_iff_toNat.1 h
  simp only [isBlank, Bool.or_eq_true, Bool.and_eq_true, decide_eq_true_eq, beq_iff_eq]
  omega

theorem lowerAscii_append (s t : List Char) : lowerAscii (s ++ t) = lowerAscii s ++ lowerAscii t :=
  List.map_append

theorem trimmed_lowerAscii (s : List Char) : Trimmed isBlank (lowerAscii s) ↔ Trimmed isBlank s := by
  simp [Trimmed, lowerAscii, List.head?_map, List.getLast?_map, isBlank_toLower]

theorem lowerAscii_trim_eq_iff {word : List Char} (bare : Trimmed isBlank word) :
    lowerAscii (trim isBlank s) = word ↔ ReadsAs s word := by
  constructor
  · intro same
    obtain ⟨-, before, after, split, blank, blank'⟩ := trim_eq_iff.1 (rfl : trim isBlank s = _)
    exact ⟨before, _, after, split, blank, blank', same⟩
  · rintro ⟨before, w, after, split, blank, blank', rfl⟩
    rw [trim_eq_iff.2 ⟨(trimmed_lowerAscii w).1 bare, before, after, split, blank, blank'⟩]

theorem lowerAscii_trim_lowerAscii (s : List Char) :
    lowerAscii (trim isBlank (lowerAscii s)) = lowerAscii (trim isBlank s) := by
  obtain ⟨bare, before, after, split, blank, blank'⟩ := trim_eq_iff.1 (rfl : trim isBlank s = _)
  have lowered : trim isBlank (lowerAscii s) = lowerAscii (trim isBlank s) := by
    refine trim_eq_iff.2 ⟨(trimmed_lowerAscii _).2 bare, lowerAscii before, lowerAscii after, ?_, ?_, ?_⟩
    · rw [← lowerAscii_append, ← lowerAscii_append, ← split]
    · simpa [lowerAscii, isBlank_toLower] using blank
    · simpa [lowerAscii, isBlank_toLower] using blank'
  rw [lowered]
  simp [lowerAscii, toLower_of_not_isUpper (isUpper_toLower _)]

theorem after?_eq_some_iff {lead rest : List Char} : after? lead s = some rest ↔ s = lead ++ rest := by
  induction lead generalizing s with
  | nil => simp [after?]
  | cons l lead ih =>
    cases s with
    | nil => simp [after?]
    | cons c s =>
      unfold after?
      split
      · rename_i same
        simp [ih, same]
      · rename_i other
        simp [Ne.symm other]

/-! ## Numbers -/

theorem le_ofDigitChars (s : List Char) (n : Nat) : n ≤ Nat.ofDigitChars 10 s n := by
  rw [Nat.ofDigitChars_eq_ofDigitChars_zero]
  have := Nat.le_mul_of_pos_left n (Nat.pow_pos (n := s.length) (show 0 < 10 by omega))
  omega

theorem readDigits_eq_ok_iff {limit n m : Nat} (below : n < limit) :
    readDigits limit n s = .ok m ↔ (∀ c ∈ s, c.isDigit) ∧ Nat.ofDigitChars 10 s n = m ∧ m < limit := by
  induction s generalizing n with
  | nil =>
    simp only [readDigits, Except.ok.injEq, List.not_mem_nil, false_implies, implies_true, true_and,
      Nat.ofDigitChars_nil]
    omega
  | cons c s ih =>
    rw [Nat.ofDigitChars_cons, Nat.mul_comm 10 n]
    by_cases digit : c.isDigit
    · have more := le_ofDigitChars s (n * 10 + (c.toNat - '0'.toNat))
      by_cases next : n * 10 + (c.toNat - '0'.toNat) < limit
      · simp only [readDigits, digit?, digit, if_true, next, ih next, List.mem_cons, forall_eq_or_imp,
          true_and]
      · simp only [readDigits, digit?, digit, if_true, next, if_false, reduceCtorEq, false_iff]
        omega
    · simp [readDigits, digit?, digit]

/-- Decimal digits, one at least, with this value. A plus sign may stand in front. -/
inductive IsNumber (n : Nat) : List Char → Prop
  | plain (digits : List Char) (nonempty : digits ≠ []) (all : ∀ c ∈ digits, c.isDigit)
    (value : Nat.ofDigitChars 10 digits 0 = n) : IsNumber n digits
  | signed (digits : List Char) (nonempty : digits ≠ []) (all : ∀ c ∈ digits, c.isDigit)
    (value : Nat.ofDigitChars 10 digits 0 = n) : IsNumber n ('+' :: digits)

theorem readNatBelow_eq_ok_iff {limit n : Nat} (pos : 0 < limit) :
    readNatBelow limit s = .ok n ↔ IsNumber n s ∧ n < limit := by
  constructor
  · intro read
    unfold readNatBelow at read
    split at read
    · cases read
    · cases read
    · rename_i digits more
      obtain ⟨all, value, below⟩ := (readDigits_eq_ok_iff pos).1 read
      exact ⟨.signed digits (fun empty => more (empty ▸ rfl)) all value, below⟩
    · rename_i nonempty _ _
      obtain ⟨all, value, below⟩ := (readDigits_eq_ok_iff pos).1 read
      exact ⟨.plain s (fun empty => nonempty empty) all value, below⟩
  · rintro ⟨number, below⟩
    cases number with
    | plain _ nonempty all value =>
      unfold readNatBelow
      split
      · exact absurd rfl nonempty
      · simp at all
      · simp at all
      · exact (readDigits_eq_ok_iff pos).2 ⟨all, value, below⟩
    | signed digits nonempty all value =>
      obtain ⟨c, rest, rfl⟩ := List.exists_cons_of_ne_nil nonempty
      exact (readDigits_eq_ok_iff pos).2 ⟨all, value, below⟩

theorem IsNumber.digit_or_plus {n : Nat} (h : IsNumber n s) {c : Char} (mem : c ∈ s) :
    c.isDigit ∨ c = '+' := by
  cases h with
  | plain _ nonempty all => exact .inl (all c mem)
  | signed digits nonempty all => exact (List.mem_cons.1 mem).symm.imp_left (all c)

end TokenGate.Text
