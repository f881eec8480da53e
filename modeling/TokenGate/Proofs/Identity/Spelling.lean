import Mathlib.Data.Fin.Basic
import Mathlib.Data.Nat.Digits.Defs
import TokenGate.Identity.Subject
import TokenGate.Proofs.Readers
import TokenGate.Proofs.Text.Fields
import TokenGate.Proofs.Text.Words

/-!
# How UUIDs are spelled

There are four ways to spell a UUID, and letters may be in any case in each of them. No other text is
read as a UUID.
-/

namespace TokenGate

/-! ## The case of letters -/

namespace Text

theorem toLower_eq_iff {c x : Char} (h : x.isAlpha = false) : c.toLower = x ↔ c = x := by
  constructor
  · rintro rfl
    rw [isAlpha_toLower] at h
    exact (toLower_of_not_isAlpha (Bool.eq_false_iff.1 h)).symm
  · rintro rfl
    exact toLower_of_not_isAlpha (Bool.eq_false_iff.1 h)

theorem length_lowerAscii (s : List Char) : (lowerAscii s).length = s.length := List.length_map _

theorem fields_lowerAscii {sep : Char} (h : sep.isAlpha = false) (s : List Char) :
    fields sep (lowerAscii s) = (fields sep s).map lowerAscii := by
  induction s with
  | nil => rfl
  | cons c s ih =>
    rw [lowerAscii, List.map_cons, fields_cons, ← lowerAscii, ih, fields_cons]
    simp only [toLower_eq_iff h]
    split
    · rfl
    · cases fields sep s <;> simp [lowerAscii]

end Text

namespace Uuid

open Text

variable {u : Uuid} {s : List Char}

/-! ## Digits -/

theorem ascii_digits : ∀ n < 128, ∀ d,
    hexDigit? (Char.ofNat n) = some d ↔ (Char.ofNat n).toLower = hexChar d := by
  decide +kernel

theorem hexDigit?_eq_some_iff {c : Char} {d : Fin 16} :
    hexDigit? c = some d ↔ c.toLower = hexChar d := by
  by_cases hc : c.toNat < 128
  · have := ascii_digits c.toNat hc d
    rwa [Char.ofNat_toNat] at this
  · -- no character beyond ASCII is a digit, or becomes one in lower case
    have hnone : hexDigit? c = none := by
      unfold hexDigit?
      simp only [Char.le_def, UInt32.le_iff_toNat_le]
      have hval : c.val.toNat = c.toNat := rfl
      rw [if_neg, if_neg, if_neg] <;> simp <;> omega
    have hlower : c.toLower = c := by
      apply toLower_of_not_isUpper
      rw [isUpper_iff]
      omega
    have hd : ∀ d, (hexChar d).toNat < 128 := by decide
    rw [hnone, hlower]
    refine ⟨nofun, ?_⟩
    rintro rfl
    exact absurd (hd d) hc

theorem ofPlain?_eq_some_iff : ofPlain? s = some u ↔ lowerAscii s = u.digits.map hexChar := by
  unfold ofPlain? lowerAscii
  rw [← forall₂_eq_iff_map]
  simp only [← hexDigit?_eq_some_iff]
  rw [← mapM_eq_some_iff]
  cases s.mapM hexDigit? with
  | none => simp
  | some digits =>
    obtain ⟨own, hown⟩ := u
    simp only [Option.bind_eq_bind, Option.bind_some, Option.some.injEq]
    split
    · simp
    · refine ⟨nofun, ?_⟩
      rintro rfl
      contradiction

/-! ## Groups -/

/-- What stands between the hyphens. -/
def groups (u : Uuid) : List (List Char) :=
  let s := u.digits.map hexChar
  [s.take 8, (s.drop 8).take 4, (s.drop 12).take 4, (s.drop 16).take 4, s.drop 20]

theorem toList_text (u : Uuid) : u.text.toList = ['-'].intercalate u.groups := by
  simp [text, groups, List.intercalate]

theorem map_length_groups (u : Uuid) : u.groups.map List.length = [8, 4, 4, 4, 12] := by
  simp [groups, u.length_eq]

theorem flatten_groups (u : Uuid) : u.groups.flatten = u.digits.map hexChar := by
  unfold groups
  generalize u.digits.map hexChar = s
  have hjoin : ∀ n m k, n + m = k → (s.drop n).take m ++ s.drop k = s.drop n := by
    rintro n m _ rfl
    rw [← List.drop_drop, List.take_append_drop]
  simp only [List.flatten_cons, List.flatten_nil, List.append_nil]
  rw [hjoin 16 4 20 rfl, hjoin 12 4 16 rfl, hjoin 8 4 12 rfl, List.take_append_drop]

theorem hyphen_not_mem {g : List Char} (h : g ∈ u.groups) : '-' ∉ g := by
  have hdigit : ∀ d, hexChar d ≠ '-' := by decide
  intro hmem
  have hall : '-' ∈ u.digits.map hexChar := by
    rw [← flatten_groups]
    exact List.mem_flatten.mpr ⟨g, h, hmem⟩
  obtain ⟨d, -, hd⟩ := List.mem_map.mp hall
  exact hdigit d hd

theorem ofHyphenated?_eq_some_iff_groups :
    ofHyphenated? s = some u ↔ (fields '-' s).map lowerAscii = u.groups := by
  have hlengths : ((fields '-' s).map lowerAscii).map List.length = (fields '-' s).map List.length := by
    rw [List.map_map]
    exact List.map_congr_left fun p _ => length_lowerAscii p
  have hflat : ((fields '-' s).map lowerAscii).flatten = lowerAscii (fields '-' s).flatten :=
    List.map_flatten.symm
  unfold ofHyphenated?
  rw [List.eq_iff_flatten_eq, flatten_groups, map_length_groups, hlengths, hflat,
    ← ofPlain?_eq_some_iff]
  by_cases h : (fields '-' s).map List.length = [8, 4, 4, 4, 12] <;> simp [h]

theorem ofHyphenated?_eq_some_iff : ofHyphenated? s = some u ↔ lowerAscii s = u.text.toList := by
  have hnil : u.groups ≠ [] := by simp [groups]
  rw [ofHyphenated?_eq_some_iff_groups, ← fields_lowerAscii rfl, fields_eq_iff, toList_text]
  exact ⟨fun h => h.2.1, fun h => ⟨hnil, h, fun g hg => hyphen_not_mem hg⟩⟩

theorem lowerAscii_text (u : Uuid) : lowerAscii u.text.toList = u.text.toList := by
  have hdigit : Char.toLower ∘ hexChar = hexChar := funext (by decide)
  have hhyphen : Char.toLower '-' = '-' := rfl
  simp [text, lowerAscii, ← List.map_take, ← List.map_drop, hdigit, hhyphen]

theorem length_text (u : Uuid) : u.text.toList.length = 36 := by
  simp [text, u.length_eq]

theorem text_eq_cons (u : Uuid) : ∃ d rest, u.text.toList = hexChar d :: rest := by
  obtain ⟨_ | ⟨d, digits⟩, hlength⟩ := u
  · contradiction
  · exact ⟨d, _, by simp [text]; rfl⟩

/-! ## The four spellings -/

/-- The text is a spelling of this UUID. -/
inductive Spells (u : Uuid) (s : List Char) : Prop
  | plain (h : lowerAscii s = u.digits.map hexChar)
  | hyphenated (h : lowerAscii s = u.text.toList)
  | braced (h : lowerAscii s = '{' :: (u.text.toList ++ ['}']))
  | urn (h : lowerAscii s = urnPrefix ++ u.text.toList)

theorem braced?_eq_some_iff {r : List Char} : braced? s = some r ↔ s = '{' :: (r ++ ['}']) := by
  constructor
  · intro h
    unfold braced? at h
    split at h
    · rename_i rest
      by_cases hlast : rest.getLast? = some '}'
      · rw [if_pos hlast] at h
        obtain rfl := Option.some.inj h
        rw [List.dropLast_append_getLast? _ hlast]
      · simp [hlast] at h
    · contradiction
  · rintro rfl
    simp [braced?]

theorem urn?_eq_some_iff {r : List Char} :
    urn? s = some r ↔ ∃ p, lowerAscii p = urnPrefix ∧ s = p ++ r := by
  have hlower : lowerAscii urnPrefix = urnPrefix := by decide
  unfold urn? sameIgnoringCase
  rw [hlower]
  constructor
  · intro h
    by_cases hstart : lowerAscii (s.take urnPrefix.length) = urnPrefix
    · rw [if_pos (beq_iff_eq.mpr hstart)] at h
      obtain rfl := Option.some.inj h
      exact ⟨_, hstart, (List.take_append_drop _ s).symm⟩
    · rw [if_neg (mt beq_iff_eq.mp hstart)] at h
      contradiction
  · rintro ⟨p, hp, rfl⟩
    have hlength : urnPrefix.length = p.length := by rw [← hp, length_lowerAscii]
    simp [hlength, hp]

theorem spells_of_ofHyphenated?
    (h : ofHyphenated? ((braced? s).getD ((urn? s).getD s)) = some u) : u.Spells s := by
  cases hbraced : braced? s with
  | some r =>
    rw [hbraced, Option.getD_some, ofHyphenated?_eq_some_iff] at h
    obtain rfl := braced?_eq_some_iff.mp hbraced
    apply Spells.braced
    rw [← h]
    simp [lowerAscii]
  | none =>
    cases hurn : urn? s with
    | some r =>
      rw [hbraced, hurn, Option.getD_none, Option.getD_some, ofHyphenated?_eq_some_iff] at h
      obtain ⟨p, hp, rfl⟩ := urn?_eq_some_iff.mp hurn
      apply Spells.urn
      rw [← h, ← hp]
      exact List.map_append
    | none =>
      rw [hbraced, hurn, Option.getD_none, Option.getD_none, ofHyphenated?_eq_some_iff] at h
      exact .hyphenated h

theorem braced?_eq_none {c : Char} {t : List Char} (h : lowerAscii s = c :: t) (hc : c ≠ '{') :
    braced? s = none := by
  by_contra hsome
  obtain ⟨r, hr⟩ := Option.ne_none_iff_exists'.mp hsome
  obtain rfl := braced?_eq_some_iff.mp hr
  have hhead : '{' = c := (List.cons.inj h).1
  exact hc hhead.symm

theorem urn?_eq_none {d : Fin 16} {t : List Char} (h : lowerAscii s = hexChar d :: t) :
    urn? s = none := by
  have hd : ∀ d, 'u' ≠ hexChar d := by decide
  by_contra hsome
  obtain ⟨r, hr⟩ := Option.ne_none_iff_exists'.mp hsome
  obtain ⟨p, hp, rfl⟩ := urn?_eq_some_iff.mp hr
  rw [lowerAscii, List.map_append, ← lowerAscii, hp] at h
  exact hd d (List.cons.inj h).1

theorem length_of_plain (h : lowerAscii s = u.digits.map hexChar) : s.length = 32 := by
  rw [← length_lowerAscii, h, List.length_map, u.length_eq]

theorem plain_of_length (h : u.Spells s) (hlength : s.length = 32) :
    lowerAscii s = u.digits.map hexChar := by
  have hurn : urnPrefix.length = 9 := by decide
  have hlong : ∀ t, lowerAscii s = t → t.length = 32 := by
    rintro _ rfl
    rw [length_lowerAscii, hlength]
  cases h with
  | plain h => exact h
  | _ h =>
    have := hlong _ h
    simp [u.length_text, hurn] at this

theorem ofHyphenated?_of_spells (h : u.Spells s) (hlong : s.length ≠ 32) :
    ofHyphenated? ((braced? s).getD ((urn? s).getD s)) = some u := by
  have hopen : ∀ d, hexChar d ≠ '{' := by decide
  cases h with
  | plain h => exact absurd (length_of_plain h) hlong
  | hyphenated h =>
    obtain ⟨d, rest, htext⟩ := u.text_eq_cons
    have hs := h.trans htext
    rw [braced?_eq_none hs (hopen d), urn?_eq_none hs]
    exact ofHyphenated?_eq_some_iff.mpr h
  | braced h =>
    obtain ⟨c, t, rfl, hc, ht⟩ := List.map_eq_cons_iff.mp h
    obtain ⟨r, t', rfl, hr, ht'⟩ := List.map_eq_append_iff.mp ht
    obtain ⟨c', t'', rfl, hc', hnil⟩ := List.map_eq_cons_iff.mp ht'
    obtain rfl := List.map_eq_nil_iff.mp hnil
    obtain rfl := (toLower_eq_iff rfl).mp hc
    obtain rfl := (toLower_eq_iff rfl).mp hc'
    rw [braced?_eq_some_iff.mpr rfl]
    exact ofHyphenated?_eq_some_iff.mpr hr
  | urn h =>
    obtain ⟨p, r, rfl, hp, hr⟩ := List.map_eq_append_iff.mp h
    rw [braced?_eq_none h (by decide), urn?_eq_some_iff.mpr ⟨p, hp, rfl⟩]
    exact ofHyphenated?_eq_some_iff.mpr hr

theorem ofText?_eq_some_iff {s : String} : ofText? s = some u ↔ u.Spells s.toList := by
  unfold ofText?
  by_cases hlength : s.toList.length = 32
  · rw [if_pos hlength, ofPlain?_eq_some_iff]
    exact ⟨.plain, fun h => plain_of_length h hlength⟩
  · rw [if_neg hlength]
    exact ⟨spells_of_ofHyphenated?, fun h => ofHyphenated?_of_spells h hlength⟩

theorem ofText?_text (u : Uuid) : ofText? u.text = some u :=
  ofText?_eq_some_iff.mpr (.hyphenated u.lowerAscii_text)

/-! ## The bits that are spelled -/

def numerals (u : Uuid) : List Nat := u.digits.reverse.map Fin.val

theorem length_numerals (u : Uuid) : u.numerals.length = 32 := by
  simp [numerals, u.length_eq]

theorem numerals_lt (u : Uuid) : ∀ n ∈ u.numerals, n < 16 := by
  simp [numerals]

/-- The digits, the first one on top. -/
def value (u : Uuid) : Nat := Nat.ofDigits 16 u.numerals

theorem value_lt (u : Uuid) : u.value < 2 ^ 128 := by
  have h := Nat.ofDigits_lt_base_pow_length (by decide) u.numerals_lt
  rw [u.length_numerals] at h
  exact h

theorem value_inj {u w : Uuid} : u.value = w.value ↔ u = w := by
  refine ⟨fun h => ?_, congrArg value⟩
  have hnumerals : u.numerals = w.numerals :=
    Nat.ofDigits_inj_of_len_eq (by decide) (u.length_numerals.trans w.length_numerals.symm)
      u.numerals_lt w.numerals_lt h
  have hdigits : u.digits = w.digits :=
    List.reverse_injective (List.map_injective_iff.mpr Fin.val_injective hnumerals)
  cases u
  cases w
  simpa using hdigits

def bits (u : Uuid) : BitVec 128 := BitVec.ofNatLT u.value u.value_lt

theorem bits_inj {u w : Uuid} : u.bits = w.bits ↔ u = w := by
  rw [← value_inj, ← BitVec.toNat_inj, bits, bits, BitVec.toNat_ofNatLT, BitVec.toNat_ofNatLT]

end Uuid

end TokenGate
