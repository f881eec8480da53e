import TokenGate.Proofs.Json.Named
import TokenGate.Proofs.Validation.Genuine

/-!
# Two readers of one header

The key of a token is looked up by the header as one reader sees it, and the signature is checked by
another reader, which cuts the token at its last dots and knows the names it wants. Whatever the header
repeats or spells in escapes, the two do not come apart.
-/

namespace TokenGate

namespace Json

theorem Form.of_value?_record {f : Form} {values : List (String × Json)}
    (h : Form.value? maxDepth f = some (.record values)) : ∃ members, f = .record members ∧
      members.mapM (Form.member? (maxDepth - 1)) = some values := by
  cases f with
  | record members =>
    obtain ⟨values', read, same⟩ :=
      Option.map_eq_some_iff.1 ((Form.value?_record 126 members).symm.trans h)
    obtain rfl := Json.record.inj same
    exact ⟨members, rfl, read⟩
  | list => simp [Form.value?, maxDepth] at h
  | _ => simp [Form.value?] at h

theorem record_of_member? {v w : Json} {name : String} (h : v.member? name = some w) :
    ∃ values, v = .record values := by
  cases v with
  | record values => exact ⟨values, rfl⟩
  | _ => cases h

end Json

open Json

namespace Token

/-! ## The token cut from its end -/

/-- The signature is what follows the last dot, and the payload what stands before it, down to the dot
before. -/
def Compact.ofEnd? (token : String) : Option Compact := do
  let (signature, signed) ← Text.splitOnce '.' token.toList.reverse
  let (payload, header) ← Text.splitOnce '.' signed
  some ⟨header.reverse, payload.reverse, signature.reverse⟩

theorem Compact.ofEnd?_of_ofText? {token : String} {parts : Compact} (h : ofText? token = some parts) :
    ofEnd? token = some parts := by
  obtain ⟨whole, header, payload, signature⟩ := ofText?_eq_some_iff.1 h
  have back : token.toList.reverse = parts.signature.reverse ++
      '.' :: (parts.payload.reverse ++ '.' :: parts.header.reverse) := by
    simp [whole]
  unfold ofEnd?
  rw [back, Text.splitOnce_append_sep _ (by simpa using signature)]
  simp only [Option.bind_eq_bind, Option.bind_some]
  rw [Text.splitOnce_append_sep _ (by simpa using payload)]
  simp

/-- The shape of the JSON text in a part. -/
def formOfPart? (part : List Char) : Option Form := do
  Form.ofText? (← Text.ofBytes? (← Text.Base64Url.decode part))

theorem decodeJson?_eq (part : List Char) :
    decodeJson? part = (formOfPart? part).bind (Form.value? maxDepth) := by
  unfold decodeJson? formOfPart? Json.ofText?
  simp only [Option.bind_eq_bind, Option.bind_assoc]

/-! ## A typed reader -/

/-- What a typed reader takes from a record: an algorithm that is there once, and an id that is there once
at most. What it takes for a text is that text. -/
structure TypedHeader (members : List (List Piece × Form)) (h : SignedHeader) : Prop where
  algorithm : ∃ f, Form.named "alg" members = [f] ∧
    ∀ pieces, f = .text pieces → string? pieces = some h.algorithm.name
  keyId : (Form.named "kid" members = [] ∧ h.keyId = none) ∨
    ∃ f, Form.named "kid" members = [f] ∧
      ∀ pieces, f = .text pieces → ∃ s, string? pieces = some s ∧ h.keyId = some s

/-- A reader that cuts the token at its last two dots, and reads the record before them. -/
structure DecodesTyped (decode : String → Option SignedHeader) : Prop where
  reads : ∀ token h, decode token = some h → ∃ parts, Compact.ofEnd? token = some parts ∧
    ∀ members, formOfPart? parts.header = some (.record members) → TypedHeader members h

/-- The header as the signature check reads it, of any token. -/
def typedHeader? (token : String) : Option SignedHeader :=
  (Compact.ofEnd? token).bind fun parts => (signedHeader parts).toOption

theorem SignedHeader.of_ofJson?_record {values : List (String × Json)} {h : SignedHeader}
    (read : ofJson? (.record values) = some h) :
    once? "alg" values = some (some (.text h.algorithm.name)) ∧
      ∃ v?, once? "kid" values = some v? ∧ optional text? v? = some h.keyId := by
  simp only [ofJson?, Option.bind_eq_bind, Option.bind_eq_some_iff] at read
  obtain ⟨_, alg, v, rfl, name, text, a, named, keyId?, kid, rest⟩ := read
  split at rest
  · obtain ⟨keyId, some_, same⟩ := rest
    obtain rfl := Option.some.inj same
    rw [text?_eq_some_iff] at text
    rw [text, Algorithm.ofName?_eq_some_iff.1 named] at alg
    exact ⟨alg, keyId?, kid, some_⟩
  · obtain ⟨_, _, same⟩ := rest
    cases same

theorem typedHeader_of_ofJson? {members : List (List Piece × Form)} {values : List (String × Json)}
    {depth : Nat} {h : SignedHeader} (read : members.mapM (Form.member? depth) = some values)
    (typed : SignedHeader.ofJson? (.record values) = some h) : TypedHeader members h := by
  obtain ⟨alg, v?, kid, keyId⟩ := SignedHeader.of_ofJson?_record typed
  constructor
  · have algs := Form.named_of_once? read alg
    obtain ⟨f, rest, value, others, spelled⟩ := List.forall₂_cons_right_iff.1 algs
    obtain rfl := List.forall₂_nil_right_iff.1 others
    refine ⟨f, spelled, fun pieces same => ?_⟩
    obtain ⟨pieces', same', text⟩ := Form.value?_eq_text_iff.1 value
    obtain rfl := Form.text.inj (same.symm.trans same')
    exact text
  · have kids := Form.named_of_once? read kid
    cases v? with
    | none =>
      exact .inl ⟨List.forall₂_nil_right_iff.1 kids, (Option.some.inj keyId).symm⟩
    | some v =>
      obtain ⟨f, rest, value, others, spelled⟩ := List.forall₂_cons_right_iff.1 kids
      obtain rfl := List.forall₂_nil_right_iff.1 others
      refine .inr ⟨f, spelled, fun pieces same => ?_⟩
      subst same
      rw [Form.value?, Option.map_eq_some_iff] at value
      obtain ⟨s, text, rfl⟩ := value
      exact ⟨s, text, (Option.some.inj keyId).symm⟩

theorem decodesTyped_typedHeader? : DecodesTyped typedHeader? where
  reads token h decoded := by
    obtain ⟨parts, cut, signed⟩ := Option.bind_eq_some_iff.1 decoded
    refine ⟨parts, cut, fun members shape => ?_⟩
    have signed : signedHeader parts = .ok h := by
      cases read : signedHeader parts with
      | error e => rw [read] at signed; cases signed
      | ok h' => rw [read] at signed; exact congrArg Except.ok (Option.some.inj signed)
    obtain ⟨v, json, typed⟩ := signedHeader_eq_ok_iff.1 signed
    rw [decodeJson?_eq, shape, Option.bind_some] at json
    obtain ⟨values, read, rfl⟩ :=
      Option.map_eq_some_iff.1 ((Form.value?_record 126 members).symm.trans json)
    exact typedHeader_of_ofJson? read typed

/-! ## Both readers -/

variable {decode : String → Option SignedHeader} {token : String} {header : Header}
  {signed : SignedHeader} {parts : Compact}

theorem Header.record_of_ofToken (h : Header.ofToken token = .ok header) : ∃ parts members values,
    Compact.ofText? token = some parts ∧ formOfPart? parts.header = some (.record members) ∧
      members.mapM (Form.member? (maxDepth - 1)) = some values ∧
      Json.lookup "alg" values = some (.text header.algorithm) ∧
      Json.lookup "kid" values = some (.text header.keyId) := by
  obtain ⟨-, parts, v, cut, json, read⟩ := ofToken_eq_ok_iff.1 h
  obtain ⟨alg, kid⟩ := ofJson_eq_ok_iff.1 read
  obtain ⟨alg, -⟩ := filledText?_eq_some_iff.1 alg
  obtain ⟨kid, -⟩ := filledText?_eq_some_iff.1 kid
  obtain ⟨values, rfl⟩ := Json.record_of_member? alg
  rw [decodeJson?_eq] at json
  obtain ⟨form, shape, value⟩ := Option.bind_eq_some_iff.1 json
  obtain ⟨members, rfl, read⟩ := Form.of_value?_record value
  exact ⟨parts, members, values, cut, shape, read, alg, kid⟩

theorem text_of_lookup {members : List (List Piece × Form)} {values : List (String × Json)}
    {depth : Nat} {name s : String} {f : Form} (read : members.mapM (Form.member? depth) = some values)
    (once : Form.named name members = [f]) (there : Json.lookup name values = some (.text s)) :
    ∃ pieces, f = .text pieces ∧ string? pieces = some s := by
  obtain ⟨v, value, single⟩ := Form.once?_of_named read once
  rw [Json.lookup_of_once? single] at there
  obtain rfl := Option.some.inj there
  exact Form.value?_eq_text_iff.1 value

theorem DecodesTyped.agrees (typed : DecodesTyped decode) (h : Header.ofToken token = .ok header)
    (decoded : decode token = some signed) :
    signed.keyId = some header.keyId ∧ header.algorithm = signed.algorithm.name := by
  obtain ⟨parts, members, values, cut, shape, read, alg, kid⟩ := Header.record_of_ofToken h
  obtain ⟨parts', cut', reads⟩ := typed.reads token signed decoded
  -- a token of three parts has two dots, so both readers have the same header before them
  obtain rfl := Option.some.inj (cut'.symm.trans (Compact.ofEnd?_of_ofText? cut))
  obtain ⟨algorithm, keyId⟩ := reads members shape
  constructor
  · obtain ⟨absent, -⟩ | ⟨f, once, text⟩ := keyId
    · rw [Json.lookup_of_once? (Form.once?_of_unnamed read absent)] at kid
      cases kid
    · obtain ⟨pieces, same, spelled⟩ := text_of_lookup read once kid
      obtain ⟨s, spelled', taken⟩ := text pieces same
      rw [taken, ← spelled', spelled]
  · obtain ⟨f, once, text⟩ := algorithm
    obtain ⟨pieces, same, spelled⟩ := text_of_lookup read once alg
    exact Option.some.inj (spelled.symm.trans (text pieces same))

end Token

namespace Gate

open Token

variable {g : Gate} {check : SignatureCheck} {v : Validator} {token : String} {now : Stamp}
  {t : ValidatedToken}

theorem authentic_of_accepted (h : (g.validate check v token now).answer = .ok t) :
    ∃ parts key payload, g.Authentic check v token t parts key payload := by
  have h : (g.verify check v token now).answer = .ok t := h
  obtain ⟨u, parts, key, payload, authentic⟩ | ⟨err, refused, -⟩ :=
    g.authentic_or_refused check v token
  · rw [authentic.verify] at h
    cases checked : u.claims.registered.times.check v.leeway now with
    | error fault => simp [checked, Except.mapError, Except.map] at h
    | ok =>
      rw [checked] at h
      obtain rfl := Except.ok.inj h
      exact ⟨parts, key, payload, authentic⟩
  · rw [refused] at h
    cases h

/-- What was looked up and pinned for an accepted token is what the signature check reads in it. -/
theorem Authentic.typedHeader? {parts : Compact} {key : Jwk} {payload : Json}
    (h : g.Authentic check v token t parts key payload) :
    Token.typedHeader? token = some ⟨t.algorithm, some t.keyId⟩ := by
  obtain ⟨json, decoded, -, -, -, typed⟩ := h.signed.named
  obtain ⟨signed, read⟩ := Option.isSome_iff_exists.1 typed
  have cut := Compact.ofText?_eq_some_iff.2 ⟨h.signed.parted, h.signed.dotless⟩
  have same : Token.typedHeader? token = some signed := by
    unfold Token.typedHeader?
    rw [Compact.ofEnd?_of_ofText? cut, Option.bind_some,
      signedHeader_eq_ok_iff.2 ⟨json, decoded, read⟩]
    rfl
  obtain ⟨keyId, name⟩ := decodesTyped_typedHeader?.agrees h.signed.ofToken same
  rw [same, ← keyId, Algorithm.name_injective name]

end Gate

/-! ## No key and no algorithm is put under a signature -/

namespace Token

/-- What the two readings of a header come to, of which the second one is `decode`. -/
structure HeadersAgree (decode : String → Option SignedHeader) : Prop where
  readings : ∀ token header signed, Header.ofToken token = .ok header → decode token = some signed →
    signed.keyId = some header.keyId ∧ Algorithm.ofName? header.algorithm = some signed.algorithm
  pinned : ∀ token header signed (key : Jwk) a, Header.ofToken token = .ok header →
    decode token = some signed → key.pin header.algorithm = .ok a → a = signed.algorithm
  /-- A member that comes twice, however it is spelled, is never accepted. -/
  repeated : ∀ token parts members name, name = "alg" ∨ name = "kid" →
    Compact.ofEnd? token = some parts → formOfPart? parts.header = some (.record members) →
    1 < (Form.named name members).length →
    decode token = none ∧ ∀ (g : Gate) check v now t, (g.validate check v token now).answer ≠ .ok t
  /-- An accepted token was checked with the key and the algorithm that its signed header names. -/
  accepted : ∀ (g : Gate) check v token now t, (g.validate check v token now).answer = .ok t →
    (∃ parts key publicKey signature, Compact.ofEnd? token = some parts ∧
      (g.getKey v.endpoint t.keyId).answer = .ok key ∧ PublicKey.ofJwk? key = some publicKey ∧
      Text.Base64Url.decode parts.signature = some signature ∧
      check publicKey t.algorithm parts.signedBytes signature) ∧
    typedHeader? token = some ⟨t.algorithm, some t.keyId⟩ ∧
    ∀ signed, decode token = some signed → signed = ⟨t.algorithm, some t.keyId⟩

variable {decode : String → Option SignedHeader}

theorem TypedHeader.length_named_le {members : List (List Piece × Form)} {h : SignedHeader}
    (typed : TypedHeader members h) {name : String} (known : name = "alg" ∨ name = "kid") :
    (Form.named name members).length ≤ 1 := by
  obtain rfl | rfl := known
  · obtain ⟨f, once, -⟩ := typed.algorithm
    rw [once]
    exact Nat.le_refl _
  · obtain ⟨absent, -⟩ | ⟨f, once, -⟩ := typed.keyId
    · rw [absent]
      exact Nat.zero_le _
    · rw [once]
      exact Nat.le_refl _

theorem DecodesTyped.none_of_repeated (typed : DecodesTyped decode) {token name : String}
    {parts : Compact} {members : List (List Piece × Form)} (known : name = "alg" ∨ name = "kid")
    (cut : Compact.ofEnd? token = some parts) (shape : formOfPart? parts.header = some (.record members))
    (repeated : 1 < (Form.named name members).length) : decode token = none := by
  by_contra decoded
  obtain ⟨signed, decoded⟩ := Option.ne_none_iff_exists'.1 decoded
  obtain ⟨parts', cut', reads⟩ := typed.reads token signed decoded
  obtain rfl := Option.some.inj (cut.symm.trans cut')
  have few := (reads members shape).length_named_le known
  omega

theorem headersAgree_of_typed (typed : DecodesTyped decode) : HeadersAgree decode where
  readings token header signed read decoded := by
    obtain ⟨keyId, name⟩ := typed.agrees read decoded
    exact ⟨keyId, Algorithm.ofName?_eq_some_iff.2 name⟩
  pinned token header signed key a read decoded pinned := by
    obtain ⟨-, name⟩ := typed.agrees read decoded
    obtain ⟨name', -, -⟩ := Jwk.pin_eq_ok_iff.1 pinned
    exact Algorithm.name_injective (name'.symm.trans name)
  repeated token parts members name known cut shape repeated := by
    refine ⟨typed.none_of_repeated known cut shape repeated, fun g check v now t accepted => ?_⟩
    obtain ⟨_, _, _, authentic⟩ := Gate.authentic_of_accepted accepted
    have unread := decodesTyped_typedHeader?.none_of_repeated known cut shape repeated
    rw [authentic.typedHeader?] at unread
    cases unread
  accepted g check v token now t accepted := by
    obtain ⟨parts, key, payload, authentic⟩ := Gate.authentic_of_accepted accepted
    obtain ⟨publicKey, signature, suits, decoded, checked⟩ := authentic.signed.verifies
    have cut := Compact.ofText?_eq_some_iff.2 ⟨authentic.signed.parted, authentic.signed.dotless⟩
    refine ⟨⟨parts, key, publicKey, signature, Compact.ofEnd?_of_ofText? cut, authentic.resolved, suits,
      decoded, checked⟩, authentic.typedHeader?, fun signed decoded => ?_⟩
    obtain ⟨keyId, name⟩ := typed.agrees authentic.signed.ofToken decoded
    obtain ⟨algorithm, _⟩ := signed
    simp only at keyId name
    rw [keyId, Algorithm.name_injective name]

/-! ## Spelled in escapes, and repeated -/

/-- Its header spells the name of the id with an escape. -/
def escaped : String :=
  "eyJhbGciOiJFZERTQSIsIlx1MDA2YmlkIjoiYSJ9.eyJpc3MiOiJpIiwiYXVkIjoidSIsImV4cCI6OX0."

/-- Its header has an id, and another one whose name is spelled with an escape. -/
def repeated : String :=
  "eyJhbGciOiJFZERTQSIsImtpZCI6ImIiLCJcdTAwNmJpZCI6ImEifQ.eyJpc3MiOiJpIiwiYXVkIjoidSIsImV4cCI6OX0."

/-- Both readers see the escaped id. Of two ids one reader sees the last one, and the other one none. -/
theorem escaped_id_read_alike :
    Header.ofToken escaped = .ok ⟨"a", "EdDSA"⟩ ∧ Header.ofToken repeated = .ok ⟨"a", "EdDSA"⟩ ∧
    (∃ signed, typedHeader? escaped = some signed ∧ signed.keyId = some "a" ∧
      Algorithm.ofName? "EdDSA" = some signed.algorithm) ∧
    typedHeader? repeated = none := by
  have read : Header.ofToken escaped = .ok ⟨"a", "EdDSA"⟩ := by decide +kernel
  obtain ⟨signed, decoded⟩ :=
    Option.isSome_iff_exists.1 (by decide +kernel : (typedHeader? escaped).isSome)
  have agree := headersAgree_of_typed decodesTyped_typedHeader?
  exact ⟨read, by decide +kernel, ⟨signed, decoded, agree.readings _ _ _ read decoded⟩, by decide +kernel⟩

end Token

end TokenGate
