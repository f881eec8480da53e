import TokenGate.Gate.Validate
import TokenGate.Proofs.Claims.Basic
import TokenGate.Proofs.Key.Family
import TokenGate.Proofs.Time.Window
import TokenGate.Proofs.Token.Reading

/-! # What a judgement comes to

A token that opens under its key shows its claims, and the judgement is then theirs. Any other token
is refused, and never for its age.
-/

namespace TokenGate

namespace AuthError

/-- A refusal that has nothing to do with the token's age. -/
def Opaque (e : AuthError) : Prop := e.isRejection ∧ e ≠ .expired

theorem opaque_malformed (detail : String) : (malformed detail).Opaque := ⟨rfl, by simp⟩

def IsMalformed (e : AuthError) : Prop := ∃ detail, e = malformed detail

theorem IsMalformed.isOpaque {e : AuthError} (h : e.IsMalformed) : e.Opaque := by
  obtain ⟨detail, rfl⟩ := h
  exact opaque_malformed detail

theorem opaque_algorithmMismatch (declared allowed : String) :
    (algorithmMismatch declared allowed).Opaque := ⟨rfl, by simp⟩

theorem opaque_signatureInvalid : signatureInvalid.Opaque := ⟨rfl, by simp⟩

end AuthError

/-! ## The signature -/

namespace Token

/-- The payload is signed by this key, with this algorithm. -/
structure Sealed (check : SignatureCheck) (parts : Compact) (key : PublicKey) (a : Algorithm)
    (payload : Json) : Prop where
  fits : key.fits a
  header : ∃ header, signedHeader parts = .ok header ∧ header.algorithm = a
  signature : ∃ signature, Text.Base64Url.decode parts.signature = some signature ∧
    check key a parts.signedBytes signature
  payload : Token.payload parts = .ok payload

theorem Header.ofToken_error {token : String} {fault : Fault} (h : Header.ofToken token = .error fault) :
    (AuthError.ofFault fault).IsMalformed := by
  unfold Header.ofToken Header.ofJson at h
  repeat' split at h
  all_goals cases h
  all_goals exact ⟨_, rfl⟩

theorem jsonOfPart_error {part : List Char} {e : AuthError} (h : jsonOfPart part = .error e) :
    e.IsMalformed := by
  unfold jsonOfPart at h
  repeat' split at h
  all_goals cases h
  all_goals exact ⟨_, rfl⟩

theorem signedHeader_error {parts : Compact} {e : AuthError} (h : signedHeader parts = .error e) :
    e.IsMalformed := by
  unfold signedHeader at h
  cases hv : jsonOfPart parts.header with
  | error e' =>
    rw [hv] at h
    cases h
    exact jsonOfPart_error hv
  | ok v =>
    simp only [hv, bind, Except.bind] at h
    split at h
    · cases h
    · cases h
      exact ⟨_, rfl⟩

theorem payload_error {parts : Compact} {e : AuthError} (h : payload parts = .error e) :
    e.IsMalformed := by
  unfold payload at h
  cases hv : jsonOfPart parts.payload with
  | error e' =>
    rw [hv] at h
    cases h
    exact jsonOfPart_error hv
  | ok v =>
    simp only [hv, bind, Except.bind] at h
    split at h
    · cases h
    · cases h
      exact ⟨_, rfl⟩

theorem verifiedPayload_eq (check : SignatureCheck) (parts : Compact) (key : PublicKey)
    (a : Algorithm) :
    verifiedPayload check parts key a =
      if key.fits a then
        match signedHeader parts with
        | .error e => .error e
        | .ok header =>
          if header.algorithm = a then
            match Text.Base64Url.decode parts.signature with
            | none => .error badEncoding
            | some signature =>
              if check key a parts.signedBytes signature then payload parts
              else .error .signatureInvalid
          else .error (.algorithmMismatch a.name a.name)
      else .error (.algorithmMismatch a.name a.name) := by
  unfold verifiedPayload
  by_cases hfits : key.fits a = true
  · simp only [hfits, Bool.not_true, Bool.false_eq_true, if_false, if_true]
    cases signedHeader parts with
    | error e => rfl
    | ok header =>
      simp only [bind, Except.bind]
      by_cases ha : header.algorithm = a
      · simp only [ha, ne_eq, not_true_eq_false, if_false, if_true]
        rfl
      · simp only [ha, ne_eq, not_false_eq_true, if_false, if_true]
        rfl
  · simp only [hfits, Bool.not_false, if_true]
    rfl

section

variable {check : SignatureCheck} {parts : Compact} {key : PublicKey} {a : Algorithm}

theorem Sealed.verifiedPayload {payload : Json} (h : Sealed check parts key a payload) :
    verifiedPayload check parts key a = .ok payload := by
  obtain ⟨header, hheader, ha⟩ := h.header
  obtain ⟨signature, hs, hcheck⟩ := h.signature
  rw [verifiedPayload_eq, if_pos h.fits, hheader]
  simp only [ha, if_true, hs, hcheck]
  exact h.payload

theorem sealed_or_refused (check : SignatureCheck) (parts : Compact) (key : PublicKey)
    (a : Algorithm) : (∃ payload, Sealed check parts key a payload) ∨
      ∃ e, verifiedPayload check parts key a = .error e ∧ e.Opaque := by
  rw [verifiedPayload_eq]
  split
  swap
  · exact .inr ⟨_, rfl, AuthError.opaque_algorithmMismatch _ _⟩
  rename_i hfits
  cases hheader : signedHeader parts with
  | error e => exact .inr ⟨e, rfl, (signedHeader_error hheader).isOpaque⟩
  | ok header =>
    simp only
    split
    swap
    · exact .inr ⟨_, rfl, AuthError.opaque_algorithmMismatch _ _⟩
    rename_i ha
    cases hs : Text.Base64Url.decode parts.signature with
    | none => exact .inr ⟨_, rfl, AuthError.opaque_malformed _⟩
    | some signature =>
      simp only
      split
      swap
      · exact .inr ⟨_, rfl, AuthError.opaque_signatureInvalid⟩
      rename_i hcheck
      cases hpayload : payload parts with
      | error e => exact .inr ⟨e, rfl, (payload_error hpayload).isOpaque⟩
      | ok v => exact .inl ⟨v, hfits, ⟨header, hheader, ha⟩, ⟨signature, hs, hcheck⟩, hpayload⟩

end

end Token

/-! ## The judgement -/

namespace Validator

/-- The key opens the token, and these are the token's claims. -/
structure Opens (v : Validator) (check : SignatureCheck) (token declared : String) (key : Jwk)
    (a : Algorithm) (claims : Claims) : Prop where
  pinned : key.pin declared = .ok a
  opened : ∃ publicKey parts payload, PublicKey.ofJwk? key = some publicKey ∧
    Token.Compact.ofText? token = some parts ∧ Token.Sealed check parts publicKey a payload ∧
    Claims.ofJson? v.claims.dialect payload = some claims

theorem judge_eq (v : Validator) (check : SignatureCheck) (token : String) (header : Token.Header)
    (key : Jwk) (now : Stamp) :
    v.judge check token header key now =
      match key.pin header.algorithm with
      | .error e => .error e
      | .ok a =>
        match PublicKey.ofJwk? key, Token.Compact.ofText? token with
        | some publicKey, some parts =>
          match Token.verifiedPayload check parts publicKey a with
          | .error e => .error e
          | .ok payload =>
            match Claims.ofJson? v.claims.dialect payload with
            | none => .error Token.badClaims
            | some claims => (v.accept claims now).map fun _ => ⟨claims, header.keyId, a⟩
        | _, _ => .error .signatureInvalid := by
  unfold judge
  cases key.pin header.algorithm with
  | error e => rfl
  | ok a =>
    simp only [bind, Except.bind]
    cases PublicKey.ofJwk? key with
    | none => rfl
    | some publicKey => cases Token.Compact.ofText? token with
      | none => rfl
      | some parts =>
        simp only
        cases Token.verifiedPayload check parts publicKey a with
        | error e => rfl
        | ok payload =>
          simp only [Factory.build, Factory.fill]
          cases Claims.ofJson? v.claims.dialect payload with
          | none => rfl
          | some claims =>
            simp only
            cases v.accept claims now <;> rfl

variable {v : Validator} {check : SignatureCheck} {token : String} {header : Token.Header} {key : Jwk}

theorem Opens.judge {a : Algorithm} {claims : Claims}
    (h : v.Opens check token header.algorithm key a claims) (now : Stamp) :
    v.judge check token header key now =
      (v.accept claims now).map fun _ => ⟨claims, header.keyId, a⟩ := by
  obtain ⟨publicKey, parts, payload, hkey, hparts, hsealed, hclaims⟩ := h.opened
  rw [judge_eq, h.pinned]
  simp only [hkey, hparts, hsealed.verifiedPayload, hclaims]

theorem opens_or_refused (v : Validator) (check : SignatureCheck) (token : String)
    (header : Token.Header) (key : Jwk) :
    (∃ a claims, v.Opens check token header.algorithm key a claims) ∨
      ∃ e, (∀ now, v.judge check token header key now = .error e) ∧ e.Opaque := by
  simp only [judge_eq]
  cases hpin : key.pin header.algorithm with
  | error e =>
    obtain rfl := Jwk.pin_error hpin
    exact .inr ⟨_, fun _ => rfl, AuthError.opaque_algorithmMismatch ..⟩
  | ok a =>
    cases hkey : PublicKey.ofJwk? key with
    | none => exact .inr ⟨_, fun _ => rfl, AuthError.opaque_signatureInvalid⟩
    | some publicKey => cases hparts : Token.Compact.ofText? token with
      | none => exact .inr ⟨_, fun _ => rfl, AuthError.opaque_signatureInvalid⟩
      | some parts =>
        rcases Token.sealed_or_refused check parts publicKey a with ⟨payload, h⟩ | ⟨e, he, h⟩
        swap
        · exact .inr ⟨e, fun _ => by simp only [he], h⟩
        cases hclaims : Claims.ofJson? v.claims.dialect payload with
        | none =>
          refine .inr ⟨Token.badClaims, fun _ => ?_, AuthError.opaque_malformed _⟩
          simp only [h.verifiedPayload, hclaims]
        | some claims =>
          exact .inl ⟨a, claims, hpin, publicKey, parts, payload, hkey, hparts, h, hclaims⟩

/-! ## Issuer, audience and time -/

/-- Issued by the issuer that is expected, and for the audience that we are. -/
def Fits (v : Validator) (c : Claims) : Prop :=
  c.registered.issuer = v.issuer ∧ v.audience ∈ c.presentedAudience

theorem Fits.accept {c : Claims} (h : v.Fits c) (now : Stamp) :
    v.accept c now = (c.registered.times.check v.leeway now).mapError AuthError.ofFault := by
  have hfor := (Claims.isFor_iff_mem c v.audience).mpr h.2
  unfold Validator.accept Claims.isFrom
  simp [h.1, hfor]

theorem fits_or_refused (v : Validator) (c : Claims) :
    v.Fits c ∨ ∃ e, (∀ now, v.accept c now = .error e) ∧ e.Opaque := by
  unfold accept Claims.isFrom
  by_cases hi : c.registered.issuer = v.issuer
  swap
  · exact .inr ⟨.wrongIssuer c.registered.issuer, fun _ => by simp [hi], rfl, by simp⟩
  by_cases ha : c.isFor v.audience
  swap
  · exact .inr ⟨.wrongAudience (",".intercalate c.presentedAudience), fun _ => by simp [hi, ha], rfl,
      by simp⟩
  exact .inl ⟨hi, (Claims.isFor_iff_mem c v.audience).mp ha⟩

end Validator

end TokenGate
