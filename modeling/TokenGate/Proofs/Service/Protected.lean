import TokenGate.Proofs.Gate.Patience
import TokenGate.Proofs.Service.Refusal

/-!
# Who gets to see claims

The guard lets callers without a token pass, and leaves it to the route to turn them away. Between the
two, a caller sees claims only if they are those of a good token that the caller showed.
-/

namespace TokenGate.Service

/-- What a caller without a token is told. The challenge names no error. -/
def anonymousNotice : Response :=
  ⟨401, [("content-type", "application/json"), ("www-authenticate", "Bearer realm=\"bearer-auth\"")],
    "\x7b\"error\":\x7b\"code\":\"UNAUTHENTICATED\",\"message\":\"Authentication required\"\x7d\x7d"⟩

theorem me_none : me none = anonymousNotice := by
  decide +kernel

structure Request.AsksMe (r : Request) : Prop where
  method : r.method = "GET"
  path : r.path = "/v1/me"

/-- A token of the request is judged before the request runs out of time. -/
def Request.InTime (r : Request) (g : Gate) (check : SignatureCheck) (v : Validator) : Prop :=
  ∀ token, bearerToken? r.fields = some token →
    (g.validate check v token g.wallStamp).time < g.now.wake requestTimeout

variable {g : Gate} {check : SignatureCheck} {v : Validator} {app : App} {r : Request}
  {token : String} {e : AuthError} {t : ValidatedToken}

/-! ## The route -/

namespace Request.AsksMe

theorem route (asks : r.AsksMe) : App.service.route? r.path = some .me := by
  rw [asks.path]
  decide

theorem guardedToken? (asks : r.AsksMe) : guardedToken? .service r = bearerToken? r.fields := by
  unfold Service.guardedToken?
  rw [asks.route]
  rfl

theorem reads (asks : r.AsksMe) : r.reads = true := by
  simp [Request.reads, asks.method]

theorem body_finish (asks : r.AsksMe) (response : Response) :
    (finish r response).body = response.body := by
  simp [finish, Request.isHead, asks.method]

theorem respond_me (asks : r.AsksMe) (g : Gate) (caller : Option ValidatedToken) :
    respond g .service r (caller.map .ok) = finish r (me caller) := by
  unfold respond allowing
  simp only [asks.route, asks.reads, Option.isSome_some, Bool.not_true, Bool.and_false,
    Bool.false_eq_true, if_false]
  cases caller <;>
    simp only [Option.map_none, Option.map_some, guarded, dispatch, asks.reads, if_true, handle]

theorem respond_error (asks : r.AsksMe) (g : Gate) (e : AuthError) :
    respond g .service r (some (.error e)) = finish r (.ofError e) := by
  unfold respond allowing
  simp only [asks.route, asks.reads, Option.isSome_some, Bool.not_true, Bool.and_false,
    Bool.false_eq_true, if_false, guarded]

end Request.AsksMe

/-! ## The guard -/

theorem request_of_inTime (h : guardedToken? app r = some token)
    (inTime : (g.validate check v token g.wallStamp).time < g.now.wake requestTimeout) :
    g.request check v app r =
      { g.validate check v token g.wallStamp with
        answer := serve (g.validate check v token g.wallStamp).gate v app r
          (some (g.validate check v token g.wallStamp).answer) } := by
  have judged := Gate.validateBefore_of_time inTime
  rw [request_of_verdict h (congrArg Answered.answer judged), judged]

theorem request_of_refused (h : guardedToken? app r = some token)
    (refused : (g.validate check v token g.wallStamp).answer = .error e) :
    (∃ after, (g.request check v app r).answer.response = respond after app r (some (.error e))) ∨
      (g.request check v app r).answer = timedOut := by
  cases answer : (g.validateBefore (g.now.wake requestTimeout) check v token g.wallStamp).answer with
  | none => exact .inr (request_of_late h answer)
  | some verdict =>
    have verified := Gate.verify_of_validateBefore answer
    obtain rfl : verdict = .error e := verified.symm.trans refused
    rw [request_of_verdict h answer]
    exact .inl ⟨_, rfl⟩

/-! ## What a refused caller gets -/

theorem ofError_of_refused (refused : (g.validate check v token g.wallStamp).answer = .error e) :
    Response.ofError e = invalidNotice ∨ Response.ofError e = expiredNotice ∨
      Response.ofError e = outageNotice := by
  obtain hopaque | rfl | outage := Gate.verify_error refused
  · exact .inl (ofError_eq_invalidNotice hopaque)
  · exact .inr (.inl ofError_expired)
  · exact .inr (.inr (ofError_of_outage outage))

theorem status_finish (r : Request) (response : Response) :
    (finish r response).status = response.status := rfl

theorem status_me_some (t : ValidatedToken) : (me (some t)).status = 200 := rfl

theorem ofError_ne_me (refused : (g.validate check v token g.wallStamp).answer = .error e)
    (caller : Option ValidatedToken) :
    (Response.ofError e).status ≠ (me caller).status ∨ (Response.ofError e).body ≠ (me caller).body := by
  cases caller with
  | none =>
    rw [me_none]
    obtain h | h | h := ofError_of_refused refused <;> rw [h] <;> decide +kernel
  | some t =>
    left
    rw [status_me_some]
    obtain h | h | h := ofError_of_refused refused <;> rw [h] <;> decide +kernel

theorem timedOut_ne_me (caller : Option ValidatedToken) :
    timedOut.response.status ≠ (me caller).status := by
  cases caller with
  | none => rw [me_none]; decide +kernel
  | some t => rw [status_me_some]; decide +kernel

/-! ## The route and the guard together -/

/-- The answers to one request that asks the service who its caller is. -/
structure Protected (g : Gate) (check : SignatureCheck) (v : Validator) (r : Request) : Prop where
  served_iff : r.InTime g check v →
    ((g.request check v .service r).answer.response.status = 200 ↔
      ∃ token t, bearerToken? r.fields = some token ∧
        (g.validate check v token g.wallStamp).answer = .ok t)
  /-- A caller sees the claims of the token it showed. -/
  served : r.InTime g check v → ∀ token t, bearerToken? r.fields = some token →
    (g.validate check v token g.wallStamp).answer = .ok t →
    (g.request check v .service r).answer.response = finish r (.ofJson 200 t.claims.me) ∧
    (g.request check v .service r).answer.response.body = t.claims.me.write
  /-- Nothing is looked up for a caller without a token, and nothing changes. -/
  anonymous : bearerToken? r.fields = none →
    (g.request check v .service r).answer.response = finish r anonymousNotice ∧
    (g.request check v .service r).gate = g ∧
    ∀ other : Gate, (other.request check v .service r).answer = (g.request check v .service r).answer
  refused : r.InTime g check v → ∀ token e, bearerToken? r.fields = some token →
    (g.validate check v token g.wallStamp).answer = .error e →
    (g.request check v .service r).answer.response = finish r (.ofError e)
  /-- With time or without, the route has no part in the answer to a refused token. -/
  never_served : ∀ token e, bearerToken? r.fields = some token →
    (g.validate check v token g.wallStamp).answer = .error e →
    ∀ caller, (g.request check v .service r).answer.response ≠ finish r (me caller)

namespace Request.AsksMe

theorem anonymous (asks : r.AsksMe) (h : bearerToken? r.fields = none) (g : Gate) :
    g.request check v .service r = g.reply ⟨finish r anonymousNotice, []⟩ := by
  have response : respond g .service r none = finish r (me none) := asks.respond_me g none
  rw [request_of_none (asks.guardedToken?.trans h)]
  simp only [serve, response, me_none]

theorem judged (asks : r.AsksMe) (inTime : r.InTime g check v)
    (shown : bearerToken? r.fields = some token) :
    ∃ after, (g.request check v .service r).answer.response =
      respond after .service r (some (g.validate check v token g.wallStamp).answer) := by
  rw [request_of_inTime (asks.guardedToken?.trans shown) (inTime token shown)]
  exact ⟨_, rfl⟩

theorem served (asks : r.AsksMe) (inTime : r.InTime g check v)
    (shown : bearerToken? r.fields = some token)
    (good : (g.validate check v token g.wallStamp).answer = .ok t) :
    (g.request check v .service r).answer.response = finish r (.ofJson 200 t.claims.me) := by
  obtain ⟨after, answered⟩ := asks.judged inTime shown
  rw [answered, good]
  exact asks.respond_me after (some t)

theorem refused (asks : r.AsksMe) (inTime : r.InTime g check v)
    (shown : bearerToken? r.fields = some token)
    (refused : (g.validate check v token g.wallStamp).answer = .error e) :
    (g.request check v .service r).answer.response = finish r (.ofError e) := by
  obtain ⟨after, answered⟩ := asks.judged inTime shown
  rw [answered, refused, asks.respond_error]

theorem never_served (asks : r.AsksMe) (shown : bearerToken? r.fields = some token)
    (refused : (g.validate check v token g.wallStamp).answer = .error e)
    (caller : Option ValidatedToken) :
    (g.request check v .service r).answer.response ≠ finish r (me caller) := by
  intro same
  obtain ⟨after, answered⟩ | late := request_of_refused (asks.guardedToken?.trans shown) refused
  · rw [answered, asks.respond_error] at same
    obtain status | body := ofError_ne_me refused caller
    · have statuses := congrArg Response.status same
      rw [status_finish, status_finish] at statuses
      exact status statuses
    · have bodies := congrArg Response.body same
      rw [asks.body_finish, asks.body_finish] at bodies
      exact body bodies
  · have statuses := congrArg Response.status same
    rw [late, status_finish] at statuses
    exact timedOut_ne_me caller statuses

theorem served_iff (asks : r.AsksMe) (inTime : r.InTime g check v) :
    (g.request check v .service r).answer.response.status = 200 ↔
      ∃ token t, bearerToken? r.fields = some token ∧
        (g.validate check v token g.wallStamp).answer = .ok t := by
  constructor
  · intro ok
    cases shown : bearerToken? r.fields with
    | none =>
      rw [asks.anonymous shown] at ok
      cases ok
    | some token =>
      cases verdict : (g.validate check v token g.wallStamp).answer with
      | ok t => exact ⟨token, t, rfl, verdict⟩
      | error e =>
        rw [asks.refused inTime shown verdict] at ok
        change (Response.ofError e).status = 200 at ok
        obtain h | h | h := ofError_of_refused verdict <;> rw [h] at ok <;> cases ok
  · rintro ⟨token, t, shown, good⟩
    rw [asks.served inTime shown good]
    rfl

/-- The route to a caller's claims fails closed. -/
theorem fails_closed (asks : r.AsksMe) (g : Gate) (check : SignatureCheck) (v : Validator) :
    Protected g check v r where
  served_iff inTime := asks.served_iff inTime
  served inTime token t shown good := by
    have response := asks.served inTime shown good
    refine ⟨response, ?_⟩
    rw [response, asks.body_finish]
    rfl
  anonymous none := by
    simp only [asks.anonymous none]
    exact ⟨rfl, rfl, fun _ => rfl⟩
  refused inTime token e shown refused := asks.refused inTime shown refused
  never_served token e shown refused := asks.never_served shown refused

end Request.AsksMe

/-! ## A caller with a token -/

def holder : Request := ⟨"GET", "/v1/me", [("authorization", "bearer " ++ Encounter.forgedToken)]⟩

/-- What the holder's token comes to if its signature is taken for good. -/
def held : ValidatedToken :=
  ⟨⟨⟨"i", "", .one "u", ⟨Stamp.zero.plus 9, none, none⟩, none⟩, .minimal⟩, "a", .eddsa⟩

def keyed : Gate := Encounter.forgery.gate

def vouch (answer : Bool) : SignatureCheck := fun _ _ _ _ => answer

theorem bearerToken?_holder : bearerToken? holder.fields = some Encounter.forgedToken := by
  decide +kernel

theorem judged_holder (answer : Bool) :
    (keyed.validate (vouch answer) Encounter.ofIssuer Encounter.forgedToken keyed.wallStamp).answer =
      (if answer then .ok held else .error .signatureInvalid) ∧
    (keyed.validate (vouch answer) Encounter.ofIssuer Encounter.forgedToken keyed.wallStamp).time <
      keyed.now.wake requestTimeout := by
  cases answer <;> decide +kernel

theorem holder_inTime (answer : Bool) : holder.InTime keyed (vouch answer) Encounter.ofIssuer := by
  intro token shown
  obtain rfl := Option.some.inj (bearerToken?_holder.symm.trans shown)
  exact (judged_holder answer).2

/-- The same request, with a signature that is good and one that is not. -/
theorem holder_served_if_vouched :
    (keyed.request (vouch true) Encounter.ofIssuer .service holder).answer.response.body
      = "\x7b\"subject_id\":\"\",\"roles\":[],\"issuer\":\"i\",\"exp\":9\x7d" ∧
    (keyed.request (vouch false) Encounter.ofIssuer .service holder).answer.response
      = finish holder (.ofError .signatureInvalid) := by
  have asks : holder.AsksMe := ⟨by decide, by decide⟩
  constructor
  · have claims := (asks.fails_closed keyed (vouch true) Encounter.ofIssuer).served
      (holder_inTime true) _ _ bearerToken?_holder (judged_holder true).1
    rw [claims.2]
    decide +kernel
  · exact (asks.fails_closed keyed (vouch false) Encounter.ofIssuer).refused
      (holder_inTime false) _ _ bearerToken?_holder (judged_holder false).1

end TokenGate.Service
