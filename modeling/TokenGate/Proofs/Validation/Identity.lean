import TokenGate.Crowd.Basic
import TokenGate.Proofs.Claims.Basic
import TokenGate.Proofs.Validation.Genuine

/-!
# Where an identity comes from

What a token is taken for is written in the token. Validators of one dialect that take the same token
agree, whatever they expect, whichever keys they have seen and whenever they look.
-/

namespace TokenGate

namespace Token

/-- What a token says of itself and of its bearer, to readers of this dialect. -/
structure Says (d : Dialect) (token : String) (t : ValidatedToken) : Prop where
  header : Header.ofToken token = .ok ⟨t.keyId, t.algorithm.name⟩
  claims : ∃ parts payload, Compact.ofText? token = some parts ∧
    decodeJson? parts.payload = some payload ∧ Claims.ofJson? d payload = some t.claims

def payloadPart? (token : String) : Option (List Char) := (Compact.ofText? token).map (·.payload)

variable {d : Dialect} {token token₁ token₂ : String} {t t₁ t₂ : ValidatedToken}

theorem Says.claims_eq (h₁ : Says d token₁ t₁) (h₂ : Says d token₂ t₂)
    (same : payloadPart? token₁ = payloadPart? token₂) : t₁.claims = t₂.claims := by
  obtain ⟨parts₁, payload₁, cut₁, decoded₁, read₁⟩ := h₁.claims
  obtain ⟨parts₂, payload₂, cut₂, decoded₂, read₂⟩ := h₂.claims
  unfold payloadPart? at same
  rw [cut₁, cut₂, Option.map_some, Option.map_some, Option.some.injEq] at same
  rw [same, decoded₂, Option.some.injEq] at decoded₁
  rw [← decoded₁, read₂, Option.some.injEq] at read₁
  exact read₁.symm

theorem Says.unique (h₁ : Says d token t₁) (h₂ : Says d token t₂) : t₁ = t₂ := by
  have header := h₁.header.symm.trans h₂.header
  rw [Except.ok.injEq, Header.mk.injEq] at header
  obtain ⟨keyId, name⟩ := header
  have algorithm := Algorithm.name_injective name
  have claims := h₁.claims_eq h₂ rfl
  cases t₁
  cases t₂
  simp_all

end Token

namespace Validator

variable {v : Validator} {check : SignatureCheck} {token : String} {header : Token.Header}
  {now : Stamp} {t : ValidatedToken}

theorem says_of_judge {key : Jwk} (parsed : Token.Header.ofToken token = .ok header)
    (taken : v.judge check token header key now = .ok t) : Token.Says v.claims.dialect token t := by
  obtain ⟨a, claims, opens⟩ | ⟨e, refused, -⟩ := v.opens_or_refused check token header key
  swap
  · rw [refused] at taken
    cases taken
  rw [opens.judge] at taken
  obtain ⟨declared, -, -⟩ := Jwk.pin_eq_ok_iff.1 opens.pinned
  obtain ⟨publicKey, parts, payload, -, cut, sealed, read⟩ := opens.opened
  cases accepted : v.accept claims now with
  | error e =>
    rw [accepted] at taken
    cases taken
  | ok _ =>
    rw [accepted] at taken
    obtain rfl := Except.ok.inj taken
    refine ⟨?_, parts, payload, cut, (Token.payload_eq_ok_iff.1 sealed.payload).1, read⟩
    rw [parsed, ← declared]

theorem says_of_conclude {key : Except AuthError Jwk} (parsed : Token.Header.ofToken token = .ok header)
    (taken : v.conclude check token header key now = .ok t) : Token.Says v.claims.dialect token t := by
  cases key with
  | error e => cases taken
  | ok key => exact says_of_judge parsed taken

theorem says_of_verify {g : Gate} (taken : (g.verify check v token now).answer = .ok t) :
    Token.Says v.claims.dialect token t := by
  unfold Gate.verify at taken
  cases parsed : Token.Header.ofToken token with
  | error fault =>
    rw [parsed] at taken
    cases taken
  | ok header =>
    simp only [parsed] at taken
    exact says_of_conclude parsed taken

/-- The validator has taken a token for `t`: when asked, for a caller with a deadline, or for one of
many callers at once. -/
inductive Takes (v : Validator) (token : String) (t : ValidatedToken) : Prop
  | asked {g : Gate} {check : SignatureCheck} {now : Stamp}
      (taken : (g.validate check v token now).answer = .ok t)
  | inTime {g : Gate} {deadline : Instant} {check : SignatureCheck} {now : Stamp}
      (taken : (g.validateBefore deadline check v token now).answer = some (.ok t))
  | amongMany {c : Crowd} {i : Nat} {time : Instant} {key : Except AuthError Jwk}
      {header : Token.Header} {check : SignatureCheck} {now : Stamp}
      (parsed : Token.Header.ofToken token = .ok header)
      (told : c.callers[i]? = some (.done (.key key) time))
      (taken : v.conclude check token header key now = .ok t)

theorem Takes.says (h : v.Takes token t) : Token.Says v.claims.dialect token t := by
  cases h with
  | asked taken => exact says_of_verify taken
  | inTime taken => exact says_of_verify (Gate.verify_of_validateBefore taken)
  | amongMany parsed _ taken => exact says_of_conclude parsed taken

/-- An identity is told by the token alone, and its claims by the payload alone. -/
theorem identity_of_token_alone (d : Dialect) :
    (∀ v₁ v₂ : Validator, v₁.claims.dialect = d → v₂.claims.dialect = d →
      (∀ token t₁ t₂, v₁.Takes token t₁ → v₂.Takes token t₂ → t₁ = t₂) ∧
      (∀ token₁ token₂ t₁ t₂, v₁.Takes token₁ t₁ → v₂.Takes token₂ t₂ →
        Token.payloadPart? token₁ = Token.payloadPart? token₂ → t₁.claims = t₂.claims)) ∧
    (∀ blank uses, ∀ b ∈ Factory.builds [.new d blank] uses,
      b.2 = ((Factory.new d (.empty d)).build b.1).1) := by
  refine ⟨fun v₁ v₂ dialect₁ dialect₂ => ?_, fun blank uses => ?_⟩
  · have says₁ {token t} (h : v₁.Takes token t) : Token.Says d token t := dialect₁ ▸ h.says
    have says₂ {token t} (h : v₂.Takes token t) : Token.Says d token t := dialect₂ ▸ h.says
    refine ⟨fun token t₁ t₂ h₁ h₂ => ?_, fun token₁ token₂ t₁ t₂ h₁ h₂ same => ?_⟩
    · exact (says₁ h₁).unique (says₂ h₂)
    · exact (says₁ h₁).claims_eq (says₂ h₂) same
  · have alike : Factory.Alike d [.new d blank] := by
      intro f here
      rw [List.mem_singleton.1 here]
      rfl
    exact Factory.builds_alone alike uses

/-! ## Two validators with nothing in common but the dialect -/

def plain : Validator := ⟨"i", "u", .zero, "http://k/", .new .oidc (.empty .oidc)⟩

/-- Its constructor returns somebody's claims. -/
def stained : Validator :=
  ⟨"i", "w", .ofSeconds 10, "http://l/", .new .oidc
    ⟨⟨"i", "eve", .one "w", ⟨.greatest, none, none⟩, none⟩, .oidc ⟨some "e@x", some "Eve", ["admin"]⟩⟩⟩

def keyServer (uri : String) : Gate :=
  let keys := "\x7b\"keys\":[\x7b\"kty\":\"OKP\",\"crv\":\"Ed25519\",\"kid\":\"a\",\"x\":\"\"\x7d," ++
    "\x7b\"kty\":\"OKP\",\"crv\":\"Ed25519\",\"kid\":\"b\",\"x\":\"\"\x7d]\x7d"
  (Gate.new default .zero (.ofScripts true [(uri, [⟨200, [], keys, .zero, false, false⟩])])).register
    uri (.ofSeconds 60)

/-- The keys are held already, and have gone stale. -/
def oldServer : Gate := ((keyServer "http://l/").get "http://l/").gate.wait (.ofSeconds 301)

/-- A payload without roles, e-mail address or name, signed under key `a` and under key `b`. -/
def tokenOf (header : String) : String :=
  header ++ ".eyJpc3MiOiJpIiwiYXVkIjpbInUiLCJ3Il0sImV4cCI6OX0."

def underA : String := tokenOf "eyJhbGciOiJFZERTQSIsImtpZCI6ImEifQ"

def underB : String := tokenOf "eyJhbGciOiJFZERTQSIsImtpZCI6ImIifQ"

def bearer (keyId : String) : ValidatedToken :=
  ⟨⟨⟨"i", "", .many ["u", "w"], ⟨Stamp.zero.plus 9, none, none⟩, none⟩, .oidc ⟨none, none, []⟩⟩, keyId,
    .eddsa⟩

theorem plain_takes : plain.Takes underA (bearer "a") := by
  have taken : ((keyServer "http://k/").validate (fun _ _ _ _ => true) plain underA .zero).answer =
      .ok (bearer "a") := by decide +kernel
  exact .asked taken

theorem stained_takes : (∃ t, stained.Takes underA t) ∧ ∃ t, stained.Takes underB t := by
  have judged (token : String) (h : (oldServer.validate (fun _ _ _ _ => true) stained token
      (Stamp.zero.plus 19)).answer.isOk) : ∃ t, stained.Takes token t := by
    cases answer : (oldServer.validate (fun _ _ _ _ => true) stained token
        (Stamp.zero.plus 19)).answer with
    | ok t => exact ⟨t, .asked answer⟩
    | error e =>
      rw [answer] at h
      cases h
  exact ⟨judged underA (by decide +kernel), judged underB (by decide +kernel)⟩

/-- Nothing of Eve's claims comes through. -/
theorem stained_agrees_with_plain :
    (∃ t, stained.Takes underA t ∧ t = bearer "a") ∧
    (∃ t, stained.Takes underB t ∧ t.claims = (bearer "a").claims) ∧
    (∀ b ∈ Factory.builds [stained.claims]
        [.clone 0, .build 0 stained.claims.blank .null,
          .build 1 stained.claims.blank (.record [("exp", .ofInt 9)])],
      b.2 = ((Factory.new .oidc (.empty .oidc)).build b.1).1) := by
  obtain ⟨agree, builds⟩ := identity_of_token_alone .oidc
  obtain ⟨same, claims⟩ := agree stained plain rfl rfl
  obtain ⟨⟨t, taken⟩, ⟨t', taken'⟩⟩ := stained_takes
  refine ⟨⟨t, taken, same underA t (bearer "a") taken plain_takes⟩,
    ⟨t', taken', claims underB underA t' (bearer "a") taken' plain_takes ?_⟩,
    builds stained.claims.blank _⟩
  decide +kernel

end Validator

end TokenGate
