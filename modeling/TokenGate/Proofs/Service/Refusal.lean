import TokenGate.Proofs.Validation.Genuine
import TokenGate.Service.Routes

/-!
# What a refused caller learns

The guard has three answers for a token that it refuses: one for an outage of the keys, one for a token
that was good and has expired, and one for everything else.
-/

namespace TokenGate.Service

/-! ## The three answers -/

def invalidNotice : Response :=
  ⟨401, [("content-type", "application/json"),
    ("www-authenticate", "Bearer realm=\"bearer-auth\", error=\"invalid_token\"")],
    "\x7b\"error\":\x7b\"code\":\"INVALID_TOKEN\",\"message\":\"The access token is invalid\"\x7d\x7d"⟩

def expiredNotice : Response :=
  ⟨401, [("content-type", "application/json"),
    ("www-authenticate", "Bearer realm=\"bearer-auth\", error=\"invalid_token\", " ++
      "error_description=\"The access token has expired\"")],
    "\x7b\"error\":\x7b\"code\":\"TOKEN_EXPIRED\",\"message\":\"The access token has expired\"\x7d\x7d"⟩

def outageNotice : Response :=
  ⟨503, [("content-type", "application/json")],
    "\x7b\"error\":\x7b\"code\":\"SERVICE_UNAVAILABLE\"," ++
      "\"message\":\"Authentication service temporarily unavailable\"\x7d\x7d"⟩

theorem ofError_signatureInvalid : Response.ofError .signatureInvalid = invalidNotice := by
  decide +kernel

theorem ofError_expired : Response.ofError .expired = expiredNotice := by
  decide +kernel

theorem ofError_keysUnavailable (detail : String) :
    Response.ofError (.keysUnavailable detail) = outageNotice := by
  -- The detail goes to the log alone.
  change Response.ofError (.keysUnavailable "") = outageNotice
  decide +kernel

theorem ofError_eq_invalidNotice {e : AuthError} (h : e.Opaque) : Response.ofError e = invalidNotice := by
  rw [← ofError_signatureInvalid]
  cases e with
  | discovery | keysUnavailable | unauthenticated => cases h.1
  | expired => exact absurd rfl h.2
  | _ => rfl

theorem ofError_of_outage {e : AuthError} (h : e.IsOutage) : Response.ofError e = outageNotice := by
  obtain ⟨detail, rfl⟩ := h
  exact ofError_keysUnavailable detail

/-! ## From the guard to the client -/

section

variable {g : Gate} {check : SignatureCheck} {v : Validator} {app : App} {r : Request} {token : String}

theorem request_of_none (bare : guardedToken? app r = none) :
    g.request check v app r = g.reply (serve g v app r none) := by
  unfold Gate.request
  simp only [bare]

theorem request_of_verdict {verdict : Verdict} (shown : guardedToken? app r = some token)
    (judged : (g.validateBefore (g.now.wake requestTimeout) check v token g.wallStamp).answer =
      some verdict) :
    g.request check v app r =
      { g.validateBefore (g.now.wake requestTimeout) check v token g.wallStamp with
        answer := serve (g.validateBefore (g.now.wake requestTimeout) check v token g.wallStamp).gate
          v app r (some verdict) } := by
  unfold Gate.request
  simp only [shown, judged]

theorem request_of_late (shown : guardedToken? app r = some token)
    (late : (g.validateBefore (g.now.wake requestTimeout) check v token g.wallStamp).answer = none) :
    (g.request check v app r).answer = timedOut := by
  unfold Gate.request
  simp only [shown, late]

end

/-- A request as the guard meets it. -/
structure Encounter where
  gate : Gate
  check : SignatureCheck
  validator : Validator
  app : App
  request : Request

namespace Encounter

def route (x : Encounter) : Option Route := x.app.route? x.request.path

def judged (x : Encounter) (token : String) : Answered (Option Verdict) :=
  x.gate.validateBefore (x.gate.now.wake requestTimeout) x.check x.validator token x.gate.wallStamp

/-- The guard has this token to judge, and refuses it. -/
structure Refuses (x : Encounter) (token : String) (e : AuthError) : Prop where
  asked : guardedToken? x.app x.request = some token
  refused : (x.judged token).answer = some (.error e)

/-- The guard's own response to a token that it refuses. -/
def response (x : Encounter) (token : String) (e : AuthError) : Response :=
  guarded (x.judged token).gate x.request x.route (some (.error e))

/-- What becomes of the guard's response for this kind of request. -/
def framed (x : Encounter) (r : Response) : Response := finish x.request (allowing x.request x.route r)

/-- What the client gets. -/
def received (x : Encounter) : Response :=
  (x.gate.request x.check x.validator x.app x.request).answer.response

/-- No key that the gate finds has signed the token. -/
def Unsigned (x : Encounter) (token : String) : Prop :=
  ∀ parts keyId key a, (x.gate.getKey x.validator.endpoint keyId).answer = .ok key →
    ¬ Token.SignedBy x.check token parts keyId key a

variable {x y : Encounter} {token : String} {e : AuthError}

theorem verify_of_judged {verdict : Verdict} (h : (x.judged token).answer = some verdict) :
    (x.gate.verify x.check x.validator token x.gate.wallStamp).answer = verdict :=
  Gate.verify_of_validateBefore h

theorem Refuses.received (h : x.Refuses token e) : x.received = x.framed (.ofError e) := by
  unfold Encounter.received
  rw [request_of_verdict h.asked h.refused]
  rfl

/-- A refusal is one of the three, and which one depends on the cause alone. -/
theorem Refuses.cases (h : x.Refuses token e) :
    Response.ofError e = invalidNotice ∨ e = .expired ∨ e.IsOutage := by
  obtain hopaque | aged | outage := Gate.verify_error (verify_of_judged h.refused)
  · exact .inl (ofError_eq_invalidNotice hopaque)
  · exact .inr (.inl aged)
  · exact .inr (.inr outage)

theorem Unsigned.received (h : x.Unsigned token) (asked : guardedToken? x.app x.request = some token) :
    x.received = x.framed invalidNotice ∨ x.received = x.framed outageNotice ∨
      x.received = timedOut.response := by
  have unsigned {t parts key payload} :
      ¬ x.gate.Authentic x.check x.validator token t parts key payload :=
    fun authentic => h parts t.keyId key t.algorithm authentic.resolved authentic.signed
  cases answer : (x.judged token).answer with
  | none =>
    refine .inr (.inr ?_)
    unfold Encounter.received
    rw [request_of_late asked answer]
  | some verdict =>
    have verified := verify_of_judged answer
    obtain ⟨t, parts, key, payload, authentic⟩ | ⟨e, refused, cause⟩ :=
      x.gate.authentic_or_refused x.check x.validator token
    · exact absurd authentic unsigned
    · rw [refused] at verified
      subst verified
      have received := Refuses.received ⟨asked, answer⟩
      obtain hopaque | outage := cause
      · exact .inl (by rw [received, ofError_eq_invalidNotice hopaque])
      · exact .inr (.inl (by rw [received, ofError_of_outage outage]))

theorem framed_congr (method : x.request.method = y.request.method)
    (known : x.route.isSome = y.route.isSome) (r : Response) : x.framed r = y.framed r := by
  unfold framed finish allowing Request.reads Request.isHead
  rw [method, known]

/-- Refusals for any cause but age and outage are the same. Age is told only of a token that was
authentic and has expired, and an unsigned token is refused whatever it says. -/
theorem refusals_tell_no_cause (x y : Encounter) :
    (∀ token₁ token₂ e₁ e₂, x.Refuses token₁ e₁ → y.Refuses token₂ e₂ →
      e₁ ≠ .expired ∧ ¬ e₁.IsOutage → e₂ ≠ .expired ∧ ¬ e₂.IsOutage →
      x.response token₁ e₁ = y.response token₂ e₂ ∧
      x.received = x.framed invalidNotice ∧ y.received = y.framed invalidNotice ∧
      (x.request.method = y.request.method → x.route.isSome = y.route.isSome →
        x.received = y.received)) ∧
    (∀ token e, x.Refuses token e → x.response token e = expiredNotice →
      ∃ t parts key payload, x.gate.Authentic x.check x.validator token t parts key payload ∧
        ¬ t.claims.registered.times.Unexpired (Window.leewaySeconds x.validator.leeway)
          x.gate.wallStamp) ∧
    (∀ token, guardedToken? x.app x.request = some token → x.Unsigned token →
      x.received = x.framed invalidNotice ∨ x.received = x.framed outageNotice ∨
        x.received = timedOut.response) := by
  refine ⟨fun token₁ token₂ e₁ e₂ h₁ h₂ other₁ other₂ => ?_, fun token e h told => ?_,
    fun token asked unsigned => unsigned.received asked⟩
  · have same₁ := h₁.cases.resolve_right fun h => h.elim other₁.1 other₁.2
    have same₂ := h₂.cases.resolve_right fun h => h.elim other₂.1 other₂.2
    have received₁ := h₁.received
    have received₂ := h₂.received
    rw [same₁] at received₁
    rw [same₂] at received₂
    refine ⟨same₁.trans same₂.symm, received₁, received₂, fun method known => ?_⟩
    rw [received₁, received₂, framed_congr method known]
  · have aged : e = .expired := by
      obtain invalid | aged | outage := h.cases
      · have differ : invalidNotice ≠ expiredNotice := by decide +kernel
        exact absurd (invalid.symm.trans told) differ
      · exact aged
      · have differ : outageNotice ≠ expiredNotice := by decide +kernel
        exact absurd ((ofError_of_outage outage).symm.trans told) differ
    subst aged
    exact Gate.verify_eq_expired_iff.mp (verify_of_judged h.refused)

/-! ## Refused callers -/

def ofIssuer : Validator := ⟨"i", "u", .zero, "http://k/", .new .minimal (.empty .minimal)⟩

def garbage (method : String) : Encounter :=
  ⟨.new default .zero (.ofScripts true []), fun _ _ _ _ => true, ofIssuer, .service,
    ⟨method, "/v1/me", [("authorization", "Bearer x")]⟩⟩

def published : Http.Reply :=
  ⟨200, [], "\x7b\"keys\":[\x7b\"kty\":\"OKP\",\"crv\":\"Ed25519\",\"kid\":\"a\",\"x\":\"\"\x7d]\x7d",
    .zero, false, false⟩

def forgedToken : String := "eyJhbGciOiJFZERTQSIsImtpZCI6ImEifQ.eyJpc3MiOiJpIiwiYXVkIjoidSIsImV4cCI6OX0."

def forgery : Encounter :=
  ⟨(Gate.new default .zero (.ofScripts true [("http://k/", [published])])).register "http://k/" .zero,
    fun _ _ _ _ => false, ofIssuer, .whoami,
    ⟨"GET", "/whoami", [("authorization", "Bearer " ++ forgedToken)]⟩⟩

theorem garbage_refused : (garbage "GET").Refuses "x" (.malformed "invalid JWT structure") :=
  ⟨by decide +kernel, by decide +kernel⟩

theorem forgery_refused : forgery.Refuses forgedToken .signatureInvalid :=
  ⟨by decide +kernel, by decide +kernel⟩

theorem garbage_answered_like_forgery : (garbage "GET").received = forgery.received := by
  have unlike {e : AuthError} (h : e.isRejection) : ¬ e.IsOutage := by
    rintro ⟨detail, rfl⟩
    cases h
  have alike := (refusals_tell_no_cause (garbage "GET") forgery).1 _ _ _ _ garbage_refused
    forgery_refused ⟨by simp, unlike rfl⟩ ⟨by simp, unlike rfl⟩
  exact alike.2.2.2 rfl (by decide +kernel)

/-- A caller with the same token, whose keys are with a server that takes a minute for an answer. -/
def stalled : Encounter :=
  ⟨(Gate.new default .zero (.ofScripts true
      [("http://k/", [⟨200, [], "", ⟨.ofSeconds 60, .zero⟩, false, false⟩])])).register "http://k/" .zero,
    fun _ _ _ _ => false, ofIssuer, .service,
    ⟨"GET", "/v1/me", [("authorization", "Bearer " ++ forgedToken)]⟩⟩

theorem stalled_unsigned : stalled.Unsigned forgedToken := by
  intro parts keyId key a _ signed
  obtain ⟨publicKey, signature, -, -, verified⟩ := signed.verifies
  cases verified

/-- The frame of a refusal shows in its fields and its body. A leeway beyond the last second counts as
if it ended there. Who waits for keys too long is told neither that the token is invalid nor that there
are no keys. -/
theorem refusals_differ_in_frame :
    (garbage "GET").Refuses "x" (.malformed "invalid JWT structure") ∧
    (garbage "HEAD").Refuses "x" (.malformed "invalid JWT structure") ∧
    (garbage "POST").Refuses "x" (.malformed "invalid JWT structure") ∧
    (garbage "GET").received.body ≠ (garbage "HEAD").received.body ∧
    (garbage "GET").received.fields ≠ (garbage "POST").received.fields ∧
    Window.check ⟨.least, none, none⟩ .longest .zero = .error .expired ∧
    ¬ Stamp.least.seconds + Span.longest.seconds < Stamp.zero.seconds ∧
    guardedToken? stalled.app stalled.request = some forgedToken ∧
    stalled.Unsigned forgedToken ∧ stalled.received.status = 408 := by
  refine ⟨garbage_refused, ⟨?_, ?_⟩, ⟨?_, ?_⟩, ?_, ?_, ?_, ?_, ?_, stalled_unsigned, ?_⟩ <;>
    decide +kernel

end Encounter

end TokenGate.Service
