import TokenGate.Proofs.Validation.Genuine

/-!
# Algorithms are pinned to keys

Whether a token is refused for its algorithm is settled by the word in its header and by what the key says
of itself, before a parameter of the key, the signature or the payload is looked at. Once a token has
passed here, the check of its signature does not refuse it for its algorithm again.
-/

namespace TokenGate

/-! ## What a key allows -/

namespace Jwk

variable {k k' : Jwk} {declared : String} {a : Algorithm} {e : AuthError}

/-- The name is that of an algorithm in the key's family, and the one that the key declares, if it
declares any. -/
structure Allows (k : Jwk) (declared : String) : Prop where
  named : ∃ a ∈ k.family, a.name = declared
  own : ∀ own, k.algorithm = some own → own = declared

theorem allows_of_pin (h : k.pin declared = .ok a) : k.Allows declared := by
  obtain ⟨name, suits, own⟩ := pin_eq_ok_iff.1 h
  exact ⟨⟨a, mem_family_iff.2 suits, name.symm⟩, own⟩

theorem Allows.pin (h : k.Allows declared) : ∃ a, k.pin declared = .ok a := by
  obtain ⟨a, member, rfl⟩ := h.named
  exact ⟨a, pin_eq_ok_iff.2 ⟨rfl, mem_family_iff.1 member, h.own⟩⟩

theorem pin_eq_error_iff :
    k.pin declared = .error e ↔
      e = .algorithmMismatch declared k.allowedText ∧ ¬ k.Allows declared := by
  constructor
  · intro refused
    refine ⟨pin_error refused, fun allows => ?_⟩
    obtain ⟨a, pinned⟩ := allows.pin
    rw [pinned] at refused
    cases refused
  · rintro ⟨rfl, forbidden⟩
    cases pinned : k.pin declared with
    | ok a => exact absurd (allows_of_pin pinned) forbidden
    | error e => rw [pin_error pinned]

theorem not_allows_iff :
    ¬ k.Allows declared ↔
      (∀ a ∈ k.family, a.name ≠ declared) ∨ ∃ own, k.algorithm = some own ∧ own ≠ declared := by
  constructor
  · intro forbidden
    by_cases named : ∃ a ∈ k.family, a.name = declared
    · refine .inr (Classical.byContradiction fun other => forbidden ⟨named, fun own h => ?_⟩)
      exact Classical.byContradiction fun differs => other ⟨own, h, differs⟩
    · exact .inl fun a member name => named ⟨a, member, name⟩
  · rintro (unnamed | ⟨own, h, differs⟩) allows
    · obtain ⟨a, member, name⟩ := allows.named
      exact unnamed a member name
    · exact differs (allows.own own h)

/-- The parts of a key that decide about algorithms. -/
structure SameRole (k k' : Jwk) : Prop where
  keyType : k'.keyType = k.keyType
  curve : k'.curve = k.curve
  algorithm : k'.algorithm = k.algorithm

theorem SameRole.family (h : SameRole k k') : k'.family = k.family := by
  unfold Jwk.family
  rw [h.keyType, h.curve]

theorem SameRole.allowedText (h : SameRole k k') : k'.allowedText = k.allowedText := by
  unfold Jwk.allowedText
  rw [h.algorithm, h.family]

theorem Suits.ne_hmac (h : k.Suits a) (digest : Digest) : a ≠ .hmac digest := by
  rintro rfl
  cases h

end Jwk

theorem Algorithm.name_ne_none (a : Algorithm) : a.name ≠ "none" := by
  rcases a with d | d | d | _ | _ | _
  all_goals first | cases d <;> decide | decide

/-! ## Refusals for another cause -/

namespace AuthError

def IsMismatch (e : AuthError) : Prop := ∃ declared allowed, e = algorithmMismatch declared allowed

theorem IsMalformed.not_isMismatch {e : AuthError} (h : e.IsMalformed) : ¬ e.IsMismatch := by
  obtain ⟨detail, rfl⟩ := h
  rintro ⟨declared, allowed, h⟩
  cases h

theorem not_isMismatch_ofFault (fault : Token.Fault) : ¬ (ofFault fault).IsMismatch := by
  rintro ⟨declared, allowed, h⟩
  cases fault <;> cases h

end AuthError

namespace Token

/-- The signature check reads the header anew, and comes to the same algorithm. -/
theorem verifiedPayload_error {check : SignatureCheck} {token : String} {header : Header} {key : Jwk}
    {publicKey : PublicKey} {parts : Compact} {a : Algorithm} {e : AuthError}
    (parsed : Header.ofToken token = .ok header) (pinned : key.pin header.algorithm = .ok a)
    (opened : PublicKey.ofJwk? key = some publicKey) (parted : Compact.ofText? token = some parts)
    (h : verifiedPayload check parts publicKey a = .error e) : ¬ e.IsMismatch := by
  obtain ⟨name, suits, -⟩ := Jwk.pin_eq_ok_iff.1 pinned
  rw [verifiedPayload_eq, if_pos (suits.fits opened)] at h
  cases read : signedHeader parts with
  | error e' =>
    rw [read] at h
    cases h
    exact (signedHeader_error read).not_isMismatch
  | ok signed =>
    obtain ⟨-, parts', json, parted', decoded, first⟩ := Header.ofToken_eq_ok_iff.1 parsed
    obtain rfl := Option.some.inj (parted.symm.trans parted')
    obtain ⟨json', decoded', second⟩ := signedHeader_eq_ok_iff.1 read
    obtain rfl := Option.some.inj (decoded.symm.trans decoded')
    have word := (Header.filledText?_eq_some_iff.1 (Header.ofJson_eq_ok_iff.1 first).1).1
    rw [name] at word
    simp only [read, algorithm_eq_of_readings word second, if_true] at h
    split at h
    · cases h
      exact AuthError.IsMalformed.not_isMismatch ⟨_, rfl⟩
    · split at h
      · exact (payload_error h).not_isMismatch
      · cases h
        rintro ⟨declared, allowed, h⟩
        cases h

end Token

namespace Validator

variable {v : Validator} {check : SignatureCheck} {token : String} {header : Token.Header} {key : Jwk}
  {now : Stamp} {declared allowed : String} {e : AuthError}

theorem accept_error {c : Claims} (h : v.accept c now = .error e) : ¬ e.IsMismatch := by
  unfold accept at h
  split at h
  · cases h
    rintro ⟨declared, allowed, h⟩
    cases h
  · split at h
    · cases h
      rintro ⟨declared, allowed, h⟩
      cases h
    · cases checked : c.registered.times.check v.leeway now with
      | ok _ => rw [checked] at h; cases h
      | error fault =>
        rw [checked] at h
        cases h
        exact AuthError.not_isMismatch_ofFault fault

theorem judge_error_of_allows (parsed : Token.Header.ofToken token = .ok header)
    (allows : key.Allows header.algorithm) (h : v.judge check token header key now = .error e) :
    ¬ e.IsMismatch := by
  obtain ⟨a, pinned⟩ := allows.pin
  rw [judge_eq, pinned] at h
  simp only at h
  split at h
  · rename_i publicKey parts opened parted
    cases verified : Token.verifiedPayload check parts publicKey a with
    | error e' =>
      rw [verified] at h
      cases h
      exact Token.verifiedPayload_error parsed pinned opened parted verified
    | ok payload =>
      rw [verified] at h
      simp only at h
      split at h
      · cases h
        exact AuthError.IsMalformed.not_isMismatch ⟨_, rfl⟩
      · rename_i claims _
        cases accepted : v.accept claims now with
        | ok _ => rw [accepted] at h; cases h
        | error e' =>
          rw [accepted] at h
          cases h
          exact accept_error accepted
  · cases h
    rintro ⟨declared, allowed, h⟩
    cases h

theorem judge_mismatch_iff (parsed : Token.Header.ofToken token = .ok header) :
    v.judge check token header key now = .error (.algorithmMismatch declared allowed) ↔
      declared = header.algorithm ∧ allowed = key.allowedText ∧ ¬ key.Allows header.algorithm := by
  constructor
  · intro refused
    by_cases allows : key.Allows header.algorithm
    · exact absurd ⟨declared, allowed, rfl⟩ (judge_error_of_allows parsed allows refused)
    · rw [judge_eq, Jwk.pin_eq_error_iff.2 ⟨rfl, allows⟩] at refused
      injection refused with same
      injection same with word text
      exact ⟨word.symm, text.symm, allows⟩
  · rintro ⟨rfl, rfl, forbidden⟩
    rw [judge_eq, Jwk.pin_eq_error_iff.2 ⟨rfl, forbidden⟩]

end Validator

/-! ## At the gate -/

namespace Gate

variable {g : Gate} {check : SignatureCheck} {v : Validator} {token : String} {now : Stamp}
  {header : Token.Header} {key : Jwk} {declared allowed : String}

/-- The token has this header, and the gate finds this key for it. -/
structure Resolves (g : Gate) (v : Validator) (token : String) (header : Token.Header) (key : Jwk) :
    Prop where
  parsed : Token.Header.ofToken token = .ok header
  found : (g.getKey v.endpoint header.keyId).answer = .ok key

theorem Resolves.validate (h : g.Resolves v token header key) :
    (g.validate check v token now).answer = v.judge check token header key now := by
  unfold Gate.validate verify
  simp only [h.parsed, h.found]
  rfl

theorem Resolves.mismatch_iff (h : g.Resolves v token header key) :
    (g.validate check v token now).answer = .error (.algorithmMismatch declared allowed) ↔
      declared = header.algorithm ∧ allowed = key.allowedText ∧ ¬ key.Allows header.algorithm := by
  rw [h.validate]
  exact Validator.judge_mismatch_iff h.parsed

theorem resolves_of_validate {t : ValidatedToken}
    (accepted : (g.validate check v token now).answer = .ok t) :
    ∃ header key, g.Resolves v token header key := by
  unfold Gate.validate verify at accepted
  cases parsed : Token.Header.ofToken token with
  | error fault => simp [parsed, reply] at accepted
  | ok header =>
    cases found : (g.getKey v.endpoint header.keyId).answer with
    | error e => simp [parsed, found, Validator.conclude] at accepted
    | ok key => exact ⟨header, key, parsed, found⟩

theorem Resolves.accepted {t : ValidatedToken} (h : g.Resolves v token header key)
    (accepted : (g.validate check v token now).answer = .ok t) :
    header.algorithm = t.algorithm.name ∧ key.Suits t.algorithm := by
  rw [h.validate] at accepted
  obtain ⟨a, claims, opens⟩ | ⟨e, refused, -⟩ := v.opens_or_refused check token header key
  · obtain ⟨name, suits, -⟩ := Jwk.pin_eq_ok_iff.1 opens.pinned
    rw [opens.judge] at accepted
    cases judged : v.accept claims now with
    | error e => rw [judged] at accepted; cases accepted
    | ok _ =>
      rw [judged] at accepted
      cases accepted
      exact ⟨name, suits⟩
  · rw [refused] at accepted
    cases accepted

/-- What the gate makes of the algorithm that a token declares. -/
structure Pinned (g : Gate) (check : SignatureCheck) (v : Validator) (token : String) (now : Stamp) :
    Prop where
  /-- The token is refused for it exactly when the key does not allow it. -/
  refused_iff : ∀ header key, g.Resolves v token header key → ∀ declared allowed,
    (g.validate check v token now).answer = .error (.algorithmMismatch declared allowed) ↔
      declared = header.algorithm ∧ allowed = key.allowedText ∧
        ((∀ a ∈ key.family, a.name ≠ header.algorithm) ∨
          ∃ own, key.algorithm = some own ∧ own ≠ header.algorithm)
  /-- Another token, key, gate, validator and time come to the same, if the declared algorithm is the
  same and the key plays the same role. -/
  blind : ∀ header key, g.Resolves v token header key →
    ∀ (g' : Gate) (check' : SignatureCheck) (v' : Validator) (token' : String) (now' : Stamp) header' key',
      g'.Resolves v' token' header' key' → header'.algorithm = header.algorithm →
      key.SameRole key' → ∀ declared allowed,
        (g'.validate check' v' token' now').answer = .error (.algorithmMismatch declared allowed) ↔
          (g.validate check v token now).answer = .error (.algorithmMismatch declared allowed)
  /-- The check of the signature does not refuse it again. -/
  settled : ∀ header (key : Jwk) a publicKey parts, Token.Header.ofToken token = .ok header →
    key.pin header.algorithm = .ok a → PublicKey.ofJwk? key = some publicKey →
    Token.Compact.ofText? token = some parts → ∀ declared allowed,
      Token.verifiedPayload check parts publicKey a ≠ .error (.algorithmMismatch declared allowed)
  /-- An accepted token is signed with an algorithm for keys of this type, with no secret shared. -/
  accepted : ∀ t, (g.validate check v token now).answer = .ok t →
    ∃ header key, g.Resolves v token header key ∧ header.algorithm = t.algorithm.name ∧
      key.Suits t.algorithm ∧ (∀ digest, t.algorithm ≠ .hmac digest) ∧ header.algorithm ≠ "none"

theorem algorithm_pinned (g : Gate) (check : SignatureCheck) (v : Validator) (token : String)
    (now : Stamp) : g.Pinned check v token now := by
  refine ⟨fun header key h declared allowed => ?_, fun header key h => ?_,
    fun header key a publicKey parts parsed pin opened parted declared allowed same => ?_,
    fun t accepted => ?_⟩
  · rw [h.mismatch_iff, Jwk.not_allows_iff]
  · intro g' check' v' token' now' header' key' h' word role declared allowed
    rw [h'.mismatch_iff, h.mismatch_iff, Jwk.not_allows_iff, Jwk.not_allows_iff, word,
      role.allowedText, role.family, role.algorithm]
  · exact Token.verifiedPayload_error parsed pin opened parted same ⟨declared, allowed, rfl⟩
  · obtain ⟨header, key, h⟩ := resolves_of_validate accepted
    obtain ⟨name, suits⟩ := h.accepted accepted
    refine ⟨header, key, h, name, suits, suits.ne_hmac, ?_⟩
    rw [name]
    exact t.algorithm.name_ne_none

/-! ## A shared secret among the published keys -/

def secret : Jwk :=
  ⟨"oct", some "a", some "HS256", none, none, none, none, none, none⟩

def confiding : Gate :=
  holding "\x7b\"kty\":\"oct\",\"alg\":\"HS256\",\"kid\":\"a\",\"k\":\"c2VjcmV0\"\x7d"

/-- The header declares the algorithm of the secret, and the payload is empty. -/
def shared : String := "eyJhbGciOiJIUzI1NiIsImtpZCI6ImEifQ.e30."

/-- The secret is found, and good for nothing. -/
theorem secret_refused :
    confiding.Resolves exacting shared ⟨"a", "HS256"⟩ secret ∧
    ∀ (check : SignatureCheck) (now : Stamp), (confiding.validate check exacting shared now).answer =
      .error (.algorithmMismatch "HS256" "HS256") := by
  have resolves : confiding.Resolves exacting shared ⟨"a", "HS256"⟩ secret :=
    ⟨by decide +kernel, by decide +kernel⟩
  refine ⟨resolves, fun check now => ?_⟩
  have pinned := algorithm_pinned confiding check exacting shared now
  exact (pinned.refused_iff _ _ resolves _ _).2 ⟨rfl, by decide +kernel, .inl (by decide +kernel)⟩

end Gate

end TokenGate
