import TokenGate.Proofs.Gate.Lookup
import TokenGate.Proofs.Validation.Judgement

/-! # Genuine tokens

A token is accepted exactly when it is genuine, in time and meant for us. It is told to have expired only
when nothing else is wrong with it.
-/

namespace TokenGate

namespace Token

/-- The token names the key by its id and bears a signature that verifies under it, with an algorithm
that the key allows. -/
structure SignedBy (check : SignatureCheck) (token : String) (parts : Compact) (keyId : String)
    (key : Jwk) (a : Algorithm) : Prop where
  size_le : token.utf8ByteSize ≤ 8192
  parted : token.toList = parts.header ++ '.' :: (parts.payload ++ '.' :: parts.signature)
  dotless : '.' ∉ parts.header ∧ '.' ∉ parts.payload ∧ '.' ∉ parts.signature
  named : ∃ header, decodeJson? parts.header = some header ∧
    header.member? "alg" = some (.text a.name) ∧ header.member? "kid" = some (.text keyId) ∧
    keyId ≠ "" ∧ (SignedHeader.ofJson? header).isSome
  suits : key.Suits a
  declared : ∀ own, key.algorithm = some own → own = a.name
  verifies : ∃ publicKey signature, PublicKey.ofJwk? key = some publicKey ∧
    Text.Base64Url.decode parts.signature = some signature ∧
    check publicKey a (Text.toBytes (String.ofList (parts.header ++ '.' :: parts.payload))) signature

theorem name_ne_empty (a : Algorithm) : a.name ≠ "" := by
  rcases a with d | d | d | _ | _ | _
  all_goals first | cases d <;> decide | decide

theorem SignedBy.ofToken {check : SignatureCheck} {token : String} {parts : Compact}
    {keyId : String} {key : Jwk} {a : Algorithm} (h : SignedBy check token parts keyId key a) :
    Header.ofToken token = .ok ⟨keyId, a.name⟩ := by
  obtain ⟨header, hheader, halg, hkid, hne, -⟩ := h.named
  rw [Header.ofToken_eq_ok_iff]
  have hparts := Compact.ofText?_eq_some_iff.mpr ⟨h.parted, h.dotless⟩
  refine ⟨h.size_le, parts, header, hparts, hheader, ?_⟩
  rw [Header.ofJson_eq_ok_iff, Header.filledText?_eq_some_iff, Header.filledText?_eq_some_iff]
  exact ⟨⟨halg, name_ne_empty a⟩, hkid, hne⟩

end Token

namespace Validator

variable {v : Validator} {check : SignatureCheck} {token : String} {header : Token.Header}
  {key : Jwk} {a : Algorithm} {claims : Claims}

theorem opens_iff (hheader : Token.Header.ofToken token = .ok header) :
    v.Opens check token header.algorithm key a claims ↔
      ∃ parts payload, Token.SignedBy check token parts header.keyId key a ∧
        Token.decodeJson? parts.payload = some payload ∧ Token.isReadable payload ∧
        Claims.ofJson? v.claims.dialect payload = some claims := by
  constructor
  · intro h
    obtain ⟨hsize, parts, json, hparts, hjson, hread⟩ := Token.Header.ofToken_eq_ok_iff.mp hheader
    rw [Token.Header.ofJson_eq_ok_iff, Token.Header.filledText?_eq_some_iff,
      Token.Header.filledText?_eq_some_iff] at hread
    obtain ⟨⟨halg, -⟩, hkid, hne⟩ := hread
    obtain ⟨hname, hsuits, hown⟩ := Jwk.pin_eq_ok_iff.mp h.pinned
    obtain ⟨publicKey, parts', payload, hkey, hparts', hsealed, hclaims⟩ := h.opened
    -- The key was looked up by the very header that the signature check reads.
    obtain rfl : parts' = parts := by rw [hparts] at hparts'; exact (Option.some.inj hparts').symm
    obtain ⟨hpayload, hreadable⟩ := Token.payload_eq_ok_iff.mp hsealed.payload
    obtain ⟨signed, hsigned, -⟩ := hsealed.header
    obtain ⟨json', hjson', hsigned⟩ := Token.signedHeader_eq_ok_iff.mp hsigned
    obtain rfl : json' = json := by rw [hjson] at hjson'; exact (Option.some.inj hjson').symm
    obtain ⟨signature, hsignature, hcheck⟩ := hsealed.signature
    obtain ⟨hparted, hdotless⟩ := Token.Compact.ofText?_eq_some_iff.mp hparts
    rw [hname] at halg hown
    exact ⟨parts', payload,
      ⟨hsize, hparted, hdotless, ⟨json', hjson, halg, hkid, hne, by rw [hsigned]; rfl⟩, hsuits, hown,
        ⟨publicKey, signature, hkey, hsignature, hcheck⟩⟩,
      hpayload, hreadable, hclaims⟩
  · rintro ⟨parts, payload, hs, hpayload, hreadable, hclaims⟩
    have hname : header.algorithm = a.name := by
      rw [hs.ofToken, Except.ok.injEq] at hheader
      rw [← hheader]
    rw [hname]
    obtain ⟨publicKey, signature, hkey, hsignature, hcheck⟩ := hs.verifies
    obtain ⟨json, hjson, halg, -, -, hsome⟩ := hs.named
    obtain ⟨signed, hsigned⟩ := Option.isSome_iff_exists.mp hsome
    refine ⟨Jwk.pin_eq_ok_iff.mpr ⟨rfl, hs.suits, hs.declared⟩, publicKey, parts, payload, hkey,
      Token.Compact.ofText?_eq_some_iff.mpr ⟨hs.parted, hs.dotless⟩, ?_, hclaims⟩
    exact {
      fits := hs.suits.fits hkey
      header := ⟨signed, Token.signedHeader_eq_ok_iff.mpr ⟨json, hjson, hsigned⟩,
        Token.algorithm_eq_of_readings halg hsigned⟩
      signature := ⟨signature, hsignature, hcheck⟩
      payload := Token.payload_eq_ok_iff.mpr ⟨hpayload, hreadable⟩ }

end Validator

namespace Gate

/-- `t` is what the token says: signed by the key that the gate finds for it, from the expected issuer,
and for us. -/
structure Authentic (g : Gate) (check : SignatureCheck) (v : Validator) (token : String)
    (t : ValidatedToken) (parts : Token.Compact) (key : Jwk) (payload : Json) : Prop where
  resolved : (g.getKey v.endpoint t.keyId).answer = .ok key
  signed : Token.SignedBy check token parts t.keyId key t.algorithm
  decoded : Token.decodeJson? parts.payload = some payload
  readable : Token.isReadable payload
  built : Claims.ofJson? v.claims.dialect payload = some t.claims
  issuer : t.claims.registered.issuer = v.issuer
  audience : v.audience ∈ t.claims.presentedAudience

/-- An authentic token in its time. -/
structure Genuine (g : Gate) (check : SignatureCheck) (v : Validator) (token : String) (now : Stamp)
    (t : ValidatedToken) (parts : Token.Compact) (key : Jwk) (payload : Json) : Prop extends
    g.Authentic check v token t parts key payload where
  unexpired : t.claims.registered.times.Unexpired (Window.leewaySeconds v.leeway) now
  started : t.claims.registered.times.Started (Window.leewaySeconds v.leeway) now

variable {g : Gate} {check : SignatureCheck} {v : Validator} {token : String} {now : Stamp}
  {t : ValidatedToken} {parts : Token.Compact} {key : Jwk} {payload : Json}

theorem authentic_of_opens {header : Token.Header} {a : Algorithm} {claims : Claims}
    (hheader : Token.Header.ofToken token = .ok header)
    (hkey : (g.getKey v.endpoint header.keyId).answer = .ok key)
    (hopens : v.Opens check token header.algorithm key a claims) (hfits : v.Fits claims) :
    ∃ parts payload, g.Authentic check v token ⟨claims, header.keyId, a⟩ parts key payload := by
  obtain ⟨parts, payload, hsigned, hdecoded, hreadable, hbuilt⟩ :=
    (Validator.opens_iff hheader).mp hopens
  exact ⟨parts, payload, hkey, hsigned, hdecoded, hreadable, hbuilt, hfits.1, hfits.2⟩

theorem Authentic.verify (h : g.Authentic check v token t parts key payload) (now : Stamp) :
    (g.verify check v token now).answer =
      ((t.claims.registered.times.check v.leeway now).mapError AuthError.ofFault).map fun _ => t := by
  have hheader := h.signed.ofToken
  have hopens := (Validator.opens_iff (v := v) hheader).mpr
    ⟨parts, payload, h.signed, h.decoded, h.readable, h.built⟩
  have hfits : v.Fits t.claims := ⟨h.issuer, h.audience⟩
  unfold Gate.verify
  simp only [hheader, h.resolved, Validator.conclude]
  rw [hopens.judge, hfits.accept]

/-- A token that is not authentic is refused whatever the time, and never for its age. -/
theorem authentic_or_refused (g : Gate) (check : SignatureCheck) (v : Validator) (token : String) :
    (∃ t parts key payload, g.Authentic check v token t parts key payload) ∨
      ∃ e, (∀ now, (g.verify check v token now).answer = .error e) ∧ (e.Opaque ∨ e.IsOutage) := by
  -- The checks in their order. The first that fails refuses the token, and none looks at the time.
  unfold Gate.verify
  cases hheader : Token.Header.ofToken token with
  | error fault =>
    refine .inr ⟨.ofFault fault, fun _ => rfl, .inl ?_⟩
    exact (Token.Header.ofToken_error hheader).isOpaque
  | ok header =>
    simp only [Validator.conclude]
    cases hkey : (g.getKey v.endpoint header.keyId).answer with
    | error e =>
      refine .inr ⟨e, fun _ => rfl, ?_⟩
      obtain houtage | ⟨keyId, rfl⟩ := getKey_error hkey
      · exact .inr houtage
      · exact .inl ⟨rfl, by simp⟩
    | ok key =>
      simp only
      rcases v.opens_or_refused check token header key with ⟨a, claims, hopens⟩ | ⟨e, he, hopaque⟩
      swap
      · exact .inr ⟨e, he, .inl hopaque⟩
      rcases v.fits_or_refused claims with hfits | ⟨e, he, hopaque⟩
      swap
      · refine .inr ⟨e, fun now => ?_, .inl hopaque⟩
        rw [hopens.judge, he]
        rfl
      obtain ⟨parts, payload, h⟩ := authentic_of_opens hheader hkey hopens hfits
      exact .inl ⟨_, parts, key, payload, h⟩

theorem verify_eq_expired_iff :
    (g.verify check v token now).answer = .error .expired ↔
      ∃ t parts key payload, g.Authentic check v token t parts key payload ∧
        ¬ t.claims.registered.times.Unexpired (Window.leewaySeconds v.leeway) now := by
  constructor
  · intro hexpired
    rcases g.authentic_or_refused check v token with ⟨t, parts, key, payload, h⟩ | ⟨e, he, hclass⟩
    · refine ⟨t, parts, key, payload, h, (Window.expired_iff ..).mp ?_⟩
      rw [h.verify] at hexpired
      cases hcheck : t.claims.registered.times.check v.leeway now with
      | error fault => cases fault <;> simp_all [Except.mapError, Except.map, AuthError.ofFault]
      | ok u => simp [hcheck, Except.mapError, Except.map] at hexpired
    · rw [he, Except.error.injEq] at hexpired
      subst hexpired
      rcases hclass with hopaque | ⟨_, houtage⟩
      · exact absurd rfl hopaque.2
      · cases houtage
  · rintro ⟨t, parts, key, payload, h, hexpired⟩
    rw [h.verify, (Window.expired_iff ..).mpr hexpired]
    rfl

theorem verify_error {e : AuthError} (he : (g.verify check v token now).answer = .error e) :
    e.Opaque ∨ e = .expired ∨ e.IsOutage := by
  rcases g.authentic_or_refused check v token with ⟨t, parts, key, payload, h⟩ | ⟨e', he', hclass⟩
  · rw [h.verify] at he
    cases hcheck : t.claims.registered.times.check v.leeway now with
    | ok u => simp [hcheck, Except.mapError, Except.map] at he
    | error fault =>
      rw [hcheck] at he
      cases he
      cases fault with
      | expired => exact .inr (.inl rfl)
      | _ => exact .inl ⟨rfl, by simp [AuthError.ofFault]⟩
  · rw [he', Except.error.injEq] at he
    subst he
    exact hclass.imp_right .inr

theorem verify_of_validateBefore {deadline : Instant} {verdict : Verdict}
    (h : (g.validateBefore deadline check v token now).answer = some verdict) :
    (g.verify check v token now).answer = verdict := by
  unfold validateBefore at h
  unfold Gate.verify
  cases hheader : Token.Header.ofToken token with
  | error fault =>
    rw [hheader] at h
    exact Option.some.inj h
  | ok header =>
    simp only [hheader] at h
    split at h
    · cases h
    · rename_i key hkey
      simp only [getKey_of_getKeyBefore hkey]
      exact Option.some.inj h

/-- A token is accepted exactly when it is genuine, and then for what it says. -/
theorem validate_eq_ok_iff_genuine (g : Gate) (check : SignatureCheck) (v : Validator)
    (token : String) (now : Stamp) (t : ValidatedToken) :
    (g.validate check v token now).answer = .ok t ↔
      ∃ parts key payload, g.Genuine check v token now t parts key payload := by
  change (g.verify check v token now).answer = .ok t ↔ _
  constructor
  · intro hok
    rcases g.authentic_or_refused check v token with ⟨u, parts, key, payload, h⟩ | ⟨e, he, -⟩
    swap
    · simp [he] at hok
    rw [h.verify] at hok
    cases hcheck : u.claims.registered.times.check v.leeway now with
    | error fault => simp [hcheck, Except.mapError, Except.map] at hok
    | ok _ =>
      rw [hcheck] at hok
      obtain rfl := Except.ok.inj hok
      obtain ⟨hunexpired, hstarted⟩ := (Window.check_eq_ok_iff ..).mp hcheck
      exact ⟨parts, key, payload, h, hunexpired, hstarted⟩
  · rintro ⟨parts, key, payload, h⟩
    rw [h.toAuthentic.verify, (Window.check_eq_ok_iff ..).mpr ⟨h.unexpired, h.started⟩]
    rfl

/-! ## A token of one key -/

/-- A server with one key to give. -/
def holding (key : String) : Gate :=
  let network := .ofScripts true
    [("http://k/", [⟨200, [], "\x7b\"keys\":[" ++ key ++ "]\x7d", .zero, false, false⟩])]
  (new default .zero network).register "http://k/" .zero

def signing : Gate := holding "\x7b\"kty\":\"OKP\",\"crv\":\"Ed25519\",\"kid\":\"a\",\"x\":\"\"\x7d"

def exacting : Validator := ⟨"i", "u", .zero, "http://k/", .new .minimal (.empty .minimal)⟩

/-- It names the key `a`, and the ninth second of the clock as its expiry. -/
def nine : String := "eyJhbGciOiJFZERTQSIsImtpZCI6ImEifQ.eyJpc3MiOiJpIiwiYXVkIjoidSIsImV4cCI6OX0."

/-- Without a look at the signature. -/
def verdictAt (now : Stamp) : Verdict := (signing.validate (fun _ _ _ _ => true) exacting nine now).answer

theorem nine_genuine_until_expiry :
    (∃ t parts key payload,
      signing.Genuine (fun _ _ _ _ => true) exacting nine (Stamp.zero.plus 9) t parts key payload) ∧
    ∀ t parts key payload,
      ¬ signing.Genuine (fun _ _ _ _ => true) exacting nine (Stamp.zero.plus 10) t parts key payload := by
  constructor
  · have accepted : (verdictAt (Stamp.zero.plus 9)).isOk := by decide +kernel
    cases answer : verdictAt (Stamp.zero.plus 9) with
    | ok t =>
      rw [verdictAt, validate_eq_ok_iff_genuine] at answer
      exact ⟨t, answer⟩
    | error e =>
      rw [answer] at accepted
      cases accepted
  · intro t parts key payload genuine
    have accepted : verdictAt (Stamp.zero.plus 10) = .ok t := by
      rw [verdictAt, validate_eq_ok_iff_genuine]
      exact ⟨parts, key, payload, genuine⟩
    have expired : verdictAt (Stamp.zero.plus 10) = .error .expired := by decide +kernel
    rw [expired] at accepted
    cases accepted

end Gate

end TokenGate
