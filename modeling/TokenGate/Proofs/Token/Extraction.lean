import TokenGate.Proofs.Json.Lookup
import TokenGate.Proofs.Text.Base64Url
import TokenGate.Proofs.Text.Bytes
import TokenGate.Proofs.Token.Reading

/-!
# Which tokens have a header

A token of moderate size has two dots and, before the first of them, a JSON object in Base64. The last
algorithm and the last key id of that object are the header. What comes after the first dot is not looked
at, but for its dots and its length.
-/

namespace TokenGate.Token

open Text (toBytes)
open Text.Base64Url (encode)

/-! ## Tokens of two dots -/

namespace Compact

variable {token : String} {parts : Compact}

theorem isSome_ofText?_iff : (ofText? token).isSome ↔ token.toList.count '.' = 2 := by
  have length := Text.length_fields '.' token.toList
  unfold ofText?
  split
  · rename_i fields
    rw [fields] at length
    simp only [List.length_cons, List.length_nil, Nat.zero_add, Nat.reduceAdd] at length
    simp only [Option.isSome_some, true_iff]
    omega
  · rename_i other
    simp only [Option.isSome_none, Bool.false_eq_true, false_iff]
    intro two
    rw [two] at length
    obtain ⟨header, payload, signature, fields⟩ := List.length_eq_three.1 length
    exact other _ _ _ fields

theorem header_eq_takeWhile (h : ofText? token = some parts) :
    parts.header = token.toList.takeWhile (· ≠ '.') := by
  have first := Text.head?_fields '.' token.toList
  unfold ofText? at h
  split at h
  · rename_i fields
    rw [fields] at first
    rw [← Option.some.inj h]
    exact Option.some.inj first
  · cases h

end Compact

/-! ## Members -/

/-- The token has two dots, and an object with these members before the first of them. -/
structure Encloses (token : String) (members : List (String × Json)) : Prop where
  dots : token.toList.count '.' = 2
  header : ∃ text, token.toList.takeWhile (· ≠ '.') = encode (toBytes text) ∧
    Json.ofText? text = some (.record members)

/-- The last member of this name is this text, which is not empty. -/
structure Ends (members : List (String × Json)) (name text : String) : Prop where
  last : ∃ before after, members = before ++ (name, .text text) :: after ∧ name ∉ after.map Prod.fst
  filled : text ≠ ""

variable {token name s : String} {members : List (String × Json)} {v : Json} {header : Header}

theorem decodeJson?_eq_some_iff {part : List Char} :
    decodeJson? part = some v ↔ ∃ text, part = encode (toBytes text) ∧ Json.ofText? text = some v := by
  unfold decodeJson?
  simp only [Option.bind_eq_bind, Option.bind_eq_some_iff, Text.ofBytes?_eq_some_iff,
    Text.Base64Url.decode_eq_some_iff]
  constructor
  · rintro ⟨_, rfl, text, rfl, read⟩
    exact ⟨text, rfl, read⟩
  · rintro ⟨text, rfl, read⟩
    exact ⟨_, rfl, text, rfl, read⟩

/-- The value before the first of two dots. -/
def headerJson? (token : String) : Option Json := (Compact.ofText? token).bind (decodeJson? ·.header)

theorem headerJson?_record_iff : headerJson? token = some (.record members) ↔ Encloses token members := by
  unfold headerJson?
  rw [Option.bind_eq_some_iff]
  constructor
  · rintro ⟨parts, cut, read⟩
    rw [decodeJson?_eq_some_iff, Compact.header_eq_takeWhile cut] at read
    exact ⟨Compact.isSome_ofText?_iff.1 (Option.isSome_of_eq_some cut), read⟩
  · rintro ⟨dots, read⟩
    obtain ⟨parts, cut⟩ := Option.isSome_iff_exists.1 (Compact.isSome_ofText?_iff.2 dots)
    rw [← Compact.header_eq_takeWhile cut] at read
    exact ⟨parts, cut, decodeJson?_eq_some_iff.2 read⟩

namespace Header

theorem filledText?_record_iff : filledText? name (.record members) = some s ↔ Ends members name s := by
  rw [filledText?_eq_some_iff, Json.member?, Json.lookup_eq_some_iff]
  constructor
  · rintro ⟨last, filled⟩
    exact ⟨last, filled⟩
  · rintro ⟨last, filled⟩
    exact ⟨last, filled⟩

theorem exists_record_of_filledText? (h : filledText? name v = some s) : ∃ members, v = .record members := by
  cases v with
  | record members => exact ⟨members, rfl⟩
  | _ => cases (filledText?_eq_some_iff.1 h).1

/-! ## The four outcomes -/

theorem ofToken_of_large (large : maxBytes < token.utf8ByteSize) : ofToken token = .error .tooLarge :=
  if_pos large

theorem ofToken_of_small (small : token.utf8ByteSize ≤ maxBytes) :
    ofToken token = (headerJson? token).elim (.error .malformed) ofJson := by
  unfold ofToken headerJson?
  rw [if_neg (Nat.not_lt.2 small)]
  split
  · rename_i none
    rw [none]
    rfl
  · rename_i some
    rw [some]
    rfl

theorem ofJson_eq_missingKeyId_iff : ofJson v = .error .missingKeyId ↔
    (∃ algorithm, filledText? "alg" v = some algorithm) ∧ filledText? "kid" v = none := by
  unfold ofJson
  cases filledText? "alg" v with
  | none => simp
  | some algorithm => cases filledText? "kid" v <;> simp

theorem ofJson_eq_malformed_iff : ofJson v = .error .malformed ↔ filledText? "alg" v = none := by
  unfold ofJson
  cases filledText? "alg" v with
  | none => simp
  | some algorithm => cases filledText? "kid" v <;> simp

theorem ofJson_ne_tooLarge : ofJson v ≠ .error .tooLarge := by
  unfold ofJson
  split <;> simp

theorem ofToken_eq_tooLarge_iff : ofToken token = .error .tooLarge ↔ maxBytes < token.utf8ByteSize := by
  refine ⟨fun told => Nat.lt_of_not_le fun small => ?_, ofToken_of_large⟩
  rw [ofToken_of_small small] at told
  cases read : headerJson? token with
  | none => rw [read] at told; cases told
  | some v => rw [read] at told; exact ofJson_ne_tooLarge told

theorem ofToken_eq_ok_iff_ends (small : token.utf8ByteSize ≤ maxBytes) : ofToken token = .ok header ↔
    ∃ members, Encloses token members ∧ Ends members "alg" header.algorithm ∧
      Ends members "kid" header.keyId := by
  simp only [← headerJson?_record_iff, ← filledText?_record_iff]
  rw [ofToken_of_small small]
  cases headerJson? token with
  | none => simp
  | some v =>
    simp only [Option.elim_some, ofJson_eq_ok_iff, Option.some.injEq]
    constructor
    · rintro ⟨algorithm, keyId⟩
      obtain ⟨members, rfl⟩ := exists_record_of_filledText? algorithm
      exact ⟨members, rfl, algorithm, keyId⟩
    · rintro ⟨members, rfl, read⟩
      exact read

theorem ofToken_eq_missingKeyId_iff (small : token.utf8ByteSize ≤ maxBytes) :
    ofToken token = .error .missingKeyId ↔ ∃ members, Encloses token members ∧
      (∃ algorithm, Ends members "alg" algorithm) ∧ ∀ keyId, ¬ Ends members "kid" keyId := by
  simp only [← headerJson?_record_iff, ← filledText?_record_iff, ← Option.eq_none_iff_forall_ne_some]
  rw [ofToken_of_small small]
  cases headerJson? token with
  | none => simp
  | some v =>
    simp only [Option.elim_some, ofJson_eq_missingKeyId_iff, Option.some.injEq]
    constructor
    · rintro ⟨⟨algorithm, read⟩, missing⟩
      obtain ⟨members, rfl⟩ := exists_record_of_filledText? read
      exact ⟨members, rfl, ⟨algorithm, read⟩, missing⟩
    · rintro ⟨members, rfl, read⟩
      exact read

theorem ofToken_eq_malformed_iff (small : token.utf8ByteSize ≤ maxBytes) :
    ofToken token = .error .malformed ↔
      ∀ members algorithm, Encloses token members → ¬ Ends members "alg" algorithm := by
  simp only [← headerJson?_record_iff, ← filledText?_record_iff]
  rw [ofToken_of_small small]
  cases headerJson? token with
  | none => simp
  | some v =>
    simp only [Option.elim_some, ofJson_eq_malformed_iff, Option.some.injEq]
    constructor
    · rintro missing members algorithm rfl read
      rw [missing] at read
      cases read
    · intro missing
      refine Option.eq_none_iff_forall_ne_some.2 fun algorithm read => ?_
      obtain ⟨members, rfl⟩ := exists_record_of_filledText? read
      exact missing members algorithm rfl read

end Header

/-! ## Tokens in three parts -/

/-- The token in its three parts. There are no dots in the last two. -/
structure Joins (token : String) (header payload signature : List Char) : Prop where
  joined : token.toList = header ++ '.' :: (payload ++ '.' :: signature)
  payload : '.' ∉ payload
  signature : '.' ∉ signature

variable {first payload signature payload' signature' : List Char} {token' : String}

theorem Joins.encloses {text : String} (h : Joins token (encode (toBytes text)) payload signature)
    (read : Json.ofText? text = some (.record members)) : Encloses token members := by
  have apart := Text.Base64Url.dot_not_mem_encode (toBytes text)
  refine ⟨?_, text, ?_, read⟩
  · rw [h.joined]
    simp [List.count_eq_zero_of_not_mem apart, List.count_eq_zero_of_not_mem h.payload,
      List.count_eq_zero_of_not_mem h.signature]
  · have kept : ∀ c ∈ encode (toBytes text), (fun c => decide (c ≠ '.')) c := by
      intro c mem
      exact decide_eq_true fun dot => apart (dot ▸ mem)
    rw [h.joined, List.takeWhile_append_of_pos kept]
    simp

/-- Where the first part has a dot there are three dots or more. -/
theorem Joins.headerJson?_eq (h : Joins token first payload signature)
    (h' : Joins token' first payload' signature') : headerJson? token = headerJson? token' := by
  unfold headerJson?
  by_cases apart : '.' ∈ first
  · have many {token : String} {payload signature : List Char} (h : Joins token first payload signature) :
        Compact.ofText? token = none := by
      rw [← Option.not_isSome_iff_eq_none, Compact.isSome_ofText?_iff, h.joined]
      have := List.count_pos_iff.2 apart
      simp only [List.count_append, List.count_cons_self]
      omega
    rw [many h, many h']
  · have cut {token : String} {payload signature : List Char} (h : Joins token first payload signature) :
        Compact.ofText? token = some ⟨first, payload, signature⟩ :=
      Compact.ofText?_eq_some_iff.2 ⟨h.joined, apart, h.payload, h.signature⟩
    rw [cut h, cut h']
    rfl

/-! ## The whole -/

/-- Which header is taken from a token, and what is said of a token without one. -/
structure Extracts (token : String) : Prop where
  tooLarge_iff : Header.ofToken token = .error .tooLarge ↔ 8192 < (toBytes token).length
  ok_iff : (toBytes token).length ≤ 8192 → ∀ keyId algorithm,
    (Header.ofToken token = .ok ⟨keyId, algorithm⟩ ↔ ∃ members, Encloses token members ∧
      Ends members "alg" algorithm ∧ Ends members "kid" keyId)
  missingKeyId_iff : (toBytes token).length ≤ 8192 → (Header.ofToken token = .error .missingKeyId ↔
    ∃ members, Encloses token members ∧ (∃ algorithm, Ends members "alg" algorithm) ∧
      ∀ keyId, ¬ Ends members "kid" keyId)
  malformed_iff : (toBytes token).length ≤ 8192 → (Header.ofToken token = .error .malformed ↔
    ∀ members algorithm, Encloses token members → ¬ Ends members "alg" algorithm)
  /-- There is no fifth outcome. -/
  outcomes : (∃ header, Header.ofToken token = .ok header) ∨
    Header.ofToken token ∈ [.error .tooLarge, .error .missingKeyId, .error .malformed]
  /-- Every header that is written is read. -/
  written : ∀ text members keyId algorithm payload signature, (toBytes token).length ≤ 8192 →
    Joins token (encode (toBytes text)) payload signature →
    Json.ofText? text = some (.record members) → Ends members "alg" algorithm →
    Ends members "kid" keyId → Header.ofToken token = .ok ⟨keyId, algorithm⟩
  /-- Payload and signature count by their length only. -/
  unread : ∀ token' first payload signature payload' signature',
    Joins token first payload signature → Joins token' first payload' signature' →
    (toBytes token).length = (toBytes token').length → Header.ofToken token = Header.ofToken token'

theorem extracts (token : String) : Extracts token where
  tooLarge_iff := Header.ofToken_eq_tooLarge_iff
  ok_iff small _ _ := Header.ofToken_eq_ok_iff_ends small
  missingKeyId_iff := Header.ofToken_eq_missingKeyId_iff
  malformed_iff := Header.ofToken_eq_malformed_iff
  outcomes := by
    by_cases large : Header.maxBytes < token.utf8ByteSize
    · exact .inr (by simp [Header.ofToken_of_large large])
    · rw [Header.ofToken_of_small (Nat.le_of_not_lt large)]
      cases headerJson? token with
      | none => exact .inr (by simp)
      | some v =>
        simp only [Option.elim_some, Header.ofJson]
        split
        · exact .inr (by simp)
        · exact .inr (by simp)
        · exact .inl ⟨_, rfl⟩
  written text members keyId algorithm payload signature small joins read alg kid :=
    (Header.ofToken_eq_ok_iff_ends small).2 ⟨members, joins.encloses read, alg, kid⟩
  unread token' first payload signature payload' signature' joins joins' size := by
    have size : token.utf8ByteSize = token'.utf8ByteSize := size
    by_cases large : Header.maxBytes < token.utf8ByteSize
    · rw [Header.ofToken_of_large large, Header.ofToken_of_large (size ▸ large)]
    · have small := Nat.le_of_not_lt large
      rw [Header.ofToken_of_small small, Header.ofToken_of_small (size ▸ small), joins.headerJson?_eq joins']

example : Header.ofToken "eyJhbGciOiJFZERTQSIsImtpZCI6ImEifQ.p.s" = .ok ⟨"a", "EdDSA"⟩ := by decide +kernel

end TokenGate.Token
