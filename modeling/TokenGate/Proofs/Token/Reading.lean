import Mathlib.Data.List.Induction
import TokenGate.Proofs.Text.Fields
import TokenGate.Token.Header
import TokenGate.Validator

/-! # Reading the parts of a token

The header is read twice: before the signature is checked, to look up the key, and by the signature
check itself. Wherever both readings succeed, they agree.
-/

namespace TokenGate

namespace Json

theorem lookup_of_once? {name : String} {members : List (String × Json)} {v? : Option Json}
    (h : once? name members = some v?) : lookup name members = v? := by
  have found (ms : List (String × Json)) :
      lookup name ms = ((ms.filter (·.1 = name)).getLast?).map (·.2) := by
    -- From the back, since the last member of a name counts.
    induction ms using List.reverseRecOn with
    | nil => rfl
    | append_singleton ms m ih =>
      rw [lookup_append, List.filter_append]
      by_cases hm : m.1 = name
      · simp [lookup, hm]
      · simp [lookup, hm] at ih ⊢
        exact ih
  rw [found]
  unfold once? at h
  split at h
  · rename_i hnil
    rw [hnil]
    simpa using h
  · rename_i m hone
    rw [hone]
    simpa using h
  · simp at h

theorem text?_eq_some_iff {v : Json} {s : String} : v.text? = some s ↔ v = .text s := by
  cases v <;> simp [text?]

end Json

namespace Token

/-! ## Parts -/

theorem Compact.ofText?_eq_some_iff {token : String} {parts : Compact} :
    ofText? token = some parts ↔
      token.toList = parts.header ++ '.' :: (parts.payload ++ '.' :: parts.signature) ∧
        '.' ∉ parts.header ∧ '.' ∉ parts.payload ∧ '.' ∉ parts.signature := by
  have hfields (h p s : List Char) : Text.fields '.' token.toList = [h, p, s] ↔
      token.toList = h ++ '.' :: (p ++ '.' :: s) ∧ '.' ∉ h ∧ '.' ∉ p ∧ '.' ∉ s := by
    rw [Text.fields_eq_iff]
    simp [List.intercalate_cons_cons]
  rw [← hfields]
  unfold ofText?
  split
  · rename_i h p s heq
    rw [heq, Option.some.injEq]
    constructor
    · rintro rfl; rfl
    · intro h; simp only [List.cons.injEq, and_true] at h
      obtain ⟨rfl, rfl, rfl⟩ := h; rfl
  · rename_i hne
    simp only [reduceCtorEq, false_iff]
    exact fun h => hne _ _ _ h

theorem jsonOfPart_eq_ok_iff {part : List Char} {v : Json} :
    jsonOfPart part = .ok v ↔ decodeJson? part = some v := by
  unfold jsonOfPart decodeJson?
  cases Text.Base64Url.decode part with
  | none => simp
  | some bytes =>
    change _ ↔ (Text.ofBytes? bytes).bind Json.ofText? = some v
    cases h : (Text.ofBytes? bytes).bind Json.ofText? <;> simp [h]

/-! ## The header before the signature check -/

theorem Header.filledText?_eq_some_iff {name : String} {header : Json} {s : String} :
    filledText? name header = some s ↔ header.member? name = some (.text s) ∧ s ≠ "" := by
  unfold filledText?
  rw [Option.filter_eq_some_iff, Option.bind_eq_some_iff]
  simp [Json.text?_eq_some_iff]

theorem Header.ofJson_eq_ok_iff {v : Json} {header : Header} :
    ofJson v = .ok header ↔
      filledText? "alg" v = some header.algorithm ∧ filledText? "kid" v = some header.keyId := by
  unfold ofJson
  cases filledText? "alg" v with
  | none => simp
  | some algorithm => cases filledText? "kid" v with
    | none => simp
    | some keyId =>
      cases header
      simp [and_comm]

theorem Header.ofToken_eq_ok_iff {token : String} {header : Header} :
    ofToken token = .ok header ↔
      token.utf8ByteSize ≤ maxBytes ∧ ∃ parts v, Compact.ofText? token = some parts ∧
        decodeJson? parts.header = some v ∧ ofJson v = .ok header := by
  unfold ofToken
  split
  · simp; omega
  · rename_i hsize
    cases hp : Compact.ofText? token with
    | none => simp
    | some parts => cases hv : decodeJson? parts.header with
      | none => simp [hv]
      | some v => simp [hv]; omega

/-! ## The header as the signature check reads it -/

theorem SignedHeader.ofJson?_algorithm {v : Json} {header : SignedHeader}
    (h : ofJson? v = some header) : v.member? "alg" = some (.text header.algorithm.name) := by
  cases v <;> simp only [ofJson?, reduceCtorEq] at h
  rename_i members
  simp only [Option.bind_eq_bind, Option.bind_eq_some_iff] at h
  obtain ⟨_, honce, alg, rfl, name, hname, a, ha, keyId?, -, hrest⟩ := h
  split at hrest
  · obtain ⟨keyId, -, h⟩ := hrest
    obtain rfl := Option.some.inj h
    rw [Algorithm.ofName?_eq_some_iff] at ha
    rw [Json.text?_eq_some_iff] at hname
    rw [Json.member?, Json.lookup_of_once? honce, hname, ha]
  · simp at hrest

theorem algorithm_eq_of_readings {v : Json} {a : Algorithm} {header : SignedHeader}
    (hv : v.member? "alg" = some (.text a.name)) (h : SignedHeader.ofJson? v = some header) :
    header.algorithm = a := by
  have := SignedHeader.ofJson?_algorithm h
  rw [hv, Option.some.injEq, Json.text.injEq] at this
  exact (Algorithm.name_injective this).symm

theorem signedHeader_eq_ok_iff {parts : Compact} {header : SignedHeader} :
    signedHeader parts = .ok header ↔
      ∃ v, decodeJson? parts.header = some v ∧ SignedHeader.ofJson? v = some header := by
  simp only [← jsonOfPart_eq_ok_iff]
  unfold signedHeader
  cases jsonOfPart parts.header with
  | error e => simp [bind, Except.bind]
  | ok v => cases h : SignedHeader.ofJson? v <;> simp [bind, Except.bind, h]

/-! ## The payload -/

theorem payload_eq_ok_iff {parts : Compact} {v : Json} :
    payload parts = .ok v ↔ decodeJson? parts.payload = some v ∧ isReadable v := by
  rw [← jsonOfPart_eq_ok_iff]
  unfold payload
  cases jsonOfPart parts.payload with
  | error e => simp [bind, Except.bind]
  | ok w =>
    simp only [bind, Except.bind, Except.ok.injEq]
    split
    · rename_i hr
      simp only [Except.ok.injEq, iff_self_and]
      rintro rfl; exact hr
    · rename_i hr
      simp only [reduceCtorEq, false_iff, not_and]
      rintro rfl; exact hr

end Token

end TokenGate
