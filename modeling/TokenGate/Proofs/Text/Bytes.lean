import Mathlib.Data.String.Basic
import TokenGate.Text.Basic

/-!
# The bytes of a text

A text is told by its bytes. Texts are ordered by their characters, and their bytes stand in the same order.
-/

namespace TokenGate.Text

theorem ofBytes?_eq_some_iff {bytes : List UInt8} {s : String} :
    ofBytes? bytes = some s ↔ bytes = toBytes s := by
  unfold ofBytes? toBytes String.fromUTF8?
  constructor
  · intro read
    split at read
    · rw [← Option.some.inj read]
      rfl
    · cases read
  · rintro rfl
    exact dif_pos s.isValidUTF8

theorem toBytes_eq (s : String) : toBytes s = s.toList.flatMap String.utf8EncodeChar := by
  have encoded : s.toUTF8 = s.toList.utf8Encode := by
    rw [String.toUTF8_eq_toByteArray]
    conv => lhs; rw [← String.ofList_toList (s := s)]
    rfl
  rw [toBytes, encoded]
  simp [List.utf8Encode]

/-- Of two characters the greater one has the greater first byte, or the same first byte and greater
bytes after that. -/
theorem utf8EncodeChar_lt {a b : Char} (less : a < b) (s t : List UInt8) :
    String.utf8EncodeChar a ++ s < String.utf8EncodeChar b ++ t := by
  have less : a.val.toNat < b.val.toNat := less
  have most : b.val.toNat < 1114112 := by
    have valid := b.valid
    simp only [UInt32.isValidChar, Nat.isValidChar] at valid
    omega
  simp only [String.utf8EncodeChar]
  generalize a.val.toNat = m at *
  generalize b.val.toNat = n at *
  -- what comes after the two characters does not matter
  generalize after : (s < t) = later
  -- The first byte tells how many bytes there are. Together they are the digits of the number.
  split_ifs <;>
    simp only [List.cons_append, List.nil_append, List.cons_lt_cons_iff, UInt8.lt_iff_toNat_lt,
      ← UInt8.toNat_inj, UInt8.toNat_ofNat'] <;>
    simp (disch := omega) only [Nat.mod_eq_of_lt] <;>
    omega

theorem flatMap_utf8EncodeChar_lt {s t : List Char} (less : s < t) :
    s.flatMap String.utf8EncodeChar < t.flatMap String.utf8EncodeChar := by
  induction less with
  | nil =>
    rename_i c t
    rw [List.flatMap_nil, List.flatMap_cons]
    cases bytes : String.utf8EncodeChar c with
    | nil => exact absurd bytes String.utf8EncodeChar_ne_nil
    | cons b rest => exact List.Lex.nil
  | rel first => exact utf8EncodeChar_lt first ..
  | cons _ ih => exact List.append_left_lt ih

theorem toBytes_lt_iff {s t : String} : toBytes s < toBytes t ↔ s < t := by
  rw [toBytes_eq, toBytes_eq, String.lt_iff_toList_lt]
  constructor
  · intro less
    rcases lt_trichotomy s.toList t.toList with before | same | after
    · exact before
    · rw [same] at less
      exact absurd less (List.lt_irrefl _)
    · exact absurd less (List.lt_asymm (flatMap_utf8EncodeChar_lt after))
  · exact flatMap_utf8EncodeChar_lt

theorem pairwise_mergeSort_toBytes {texts : List String} (nodup : texts.Nodup) :
    (texts.mergeSort fun a b => decide (a ≤ b)).Pairwise fun a b => toBytes a < toBytes b := by
  have sorted : (texts.mergeSort fun a b => decide (a ≤ b)).Pairwise fun a b => decide (a ≤ b) = true :=
    List.pairwise_mergeSort (by simpa using fun a b c => le_trans) (by simpa using le_total) _
  have nodup : (texts.mergeSort fun a b => decide (a ≤ b)).Nodup :=
    (List.mergeSort_perm ..).nodup_iff.2 nodup
  refine (sorted.and nodup).imp ?_
  intro a b ⟨le, ne⟩
  rw [toBytes_lt_iff]
  exact lt_of_le_of_ne (of_decide_eq_true le) ne

end TokenGate.Text
