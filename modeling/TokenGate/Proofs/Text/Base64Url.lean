import TokenGate.Text.Base64Url

/-!
# The one spelling of bytes

Only what was written is read: every text that stands for bytes is the text that is written for them.
-/

namespace TokenGate.Text.Base64Url

theorem letter_of_value? {c : Char} {n : Nat} (h : value? c = some n) : n < 64 ∧ letter n = c := by
  have range (a z : Char) : a ≤ c ∧ c ≤ z ↔ a.toNat ≤ c.toNat ∧ c.toNat ≤ z.toNat := by
    rw [Char.le_def, Char.le_def, UInt32.le_iff_toNat_le, UInt32.le_iff_toNat_le]
    rfl
  have back (m : Nat) (same : m = c.toNat) : Char.ofNat m = c := by rw [same, Char.ofNat_toNat]
  unfold value? at h
  simp only [range, show 'A'.toNat = 65 from rfl, show 'Z'.toNat = 90 from rfl,
    show 'a'.toNat = 97 from rfl, show 'z'.toNat = 122 from rfl, show '0'.toNat = 48 from rfl,
    show '9'.toNat = 57 from rfl] at h
  unfold letter
  split at h
  · obtain rfl := Option.some.inj h
    rw [if_pos (by omega)]
    exact ⟨by omega, back _ (by omega)⟩
  · split at h
    · obtain rfl := Option.some.inj h
      rw [if_neg (by omega), if_pos (by omega)]
      exact ⟨by omega, back _ (by omega)⟩
    · split at h
      · obtain rfl := Option.some.inj h
        rw [if_neg (by omega), if_neg (by omega), if_pos (by omega)]
        exact ⟨by omega, back _ (by omega)⟩
      · split at h
        · rename_i dash
          obtain rfl := Option.some.inj h
          exact ⟨by omega, dash.symm⟩
        · obtain ⟨underscore, h⟩ := Option.ite_none_right_eq_some.1 h
          obtain rfl := Option.some.inj h
          exact ⟨by omega, underscore.symm⟩

theorem encode_of_decode {s : List Char} {bytes : List UInt8} (h : decode s = some bytes) :
    encode bytes = s := by
  induction s using decode.induct generalizing bytes with
  | case1 =>
    obtain rfl := Option.some.inj h
    rfl
  | case2 => cases h
  | case3 a b =>
    simp only [decode, Option.bind_eq_bind, Option.bind_eq_some_iff,
      Option.ite_none_right_eq_some] at h
    obtain ⟨x, ha, y, hb, spare, h⟩ := h
    obtain rfl := Option.some.inj h
    obtain ⟨hx, rfl⟩ := letter_of_value? ha
    obtain ⟨hy, rfl⟩ := letter_of_value? hb
    have first : (x * 4 + y / 16) % 256 = x * 4 + y / 16 := by omega
    simp only [encode, UInt8.toNat_ofNat', first, List.cons.injEq, and_true]
    exact ⟨congrArg letter (by omega), congrArg letter (by omega)⟩
  | case4 a b c =>
    simp only [decode, Option.bind_eq_bind, Option.bind_eq_some_iff,
      Option.ite_none_right_eq_some] at h
    obtain ⟨x, ha, y, hb, z, hc, spare, h⟩ := h
    obtain rfl := Option.some.inj h
    obtain ⟨hx, rfl⟩ := letter_of_value? ha
    obtain ⟨hy, rfl⟩ := letter_of_value? hb
    obtain ⟨hz, rfl⟩ := letter_of_value? hc
    have first : (x * 4 + y / 16) % 256 = x * 4 + y / 16 := by omega
    have second : (y % 16 * 16 + z / 4) % 256 = y % 16 * 16 + z / 4 := by omega
    simp only [encode, UInt8.toNat_ofNat', first, second, List.cons.injEq, and_true]
    exact ⟨congrArg letter (by omega), congrArg letter (by omega), congrArg letter (by omega)⟩
  | case5 a b c d rest ih =>
    simp only [decode, Option.bind_eq_bind, Option.bind_eq_some_iff] at h
    obtain ⟨x, ha, y, hb, z, hc, w, hd, more, hmore, h⟩ := h
    obtain rfl := Option.some.inj h
    obtain ⟨hx, rfl⟩ := letter_of_value? ha
    obtain ⟨hy, rfl⟩ := letter_of_value? hb
    obtain ⟨hz, rfl⟩ := letter_of_value? hc
    obtain ⟨hw, rfl⟩ := letter_of_value? hd
    have first : (x * 4 + y / 16) % 256 = x * 4 + y / 16 := by omega
    have second : (y % 16 * 16 + z / 4) % 256 = y % 16 * 16 + z / 4 := by omega
    have third : (z % 4 * 64 + w) % 256 = z % 4 * 64 + w := by omega
    simp only [encode, UInt8.toNat_ofNat', first, second, third, ih hmore, List.cons.injEq, and_true]
    exact ⟨congrArg letter (by omega), congrArg letter (by omega), congrArg letter (by omega),
      congrArg letter (by omega)⟩

theorem decode_eq_some_iff {s : List Char} {bytes : List UInt8} :
    decode s = some bytes ↔ s = encode bytes :=
  ⟨fun h => (encode_of_decode h).symm, fun h => h ▸ decode_encode bytes⟩

theorem isSome_value?_of_decode {s : List Char} {bytes : List UInt8} (h : decode s = some bytes) :
    ∀ c ∈ s, (value? c).isSome := by
  induction s using decode.induct generalizing bytes with
  | case1 => simp
  | case2 => cases h
  | case3 a b =>
    simp only [decode, Option.bind_eq_bind, Option.bind_eq_some_iff] at h
    obtain ⟨x, ha, y, hb, -⟩ := h
    simp [ha, hb]
  | case4 a b c =>
    simp only [decode, Option.bind_eq_bind, Option.bind_eq_some_iff] at h
    obtain ⟨x, ha, y, hb, z, hc, -⟩ := h
    simp [ha, hb, hc]
  | case5 a b c d rest ih =>
    simp only [decode, Option.bind_eq_bind, Option.bind_eq_some_iff] at h
    obtain ⟨x, ha, y, hb, z, hc, w, hd, more, hmore, -⟩ := h
    simpa [ha, hb, hc, hd] using ih hmore

theorem dot_not_mem_encode (bytes : List UInt8) : '.' ∉ encode bytes := by
  intro mem
  cases isSome_value?_of_decode (decode_encode bytes) '.' mem

end TokenGate.Text.Base64Url
