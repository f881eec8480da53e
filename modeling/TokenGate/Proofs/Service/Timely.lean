import TokenGate.Proofs.Cache.Duration
import TokenGate.Proofs.Service.Protected

/-!
# How long a caller waits

A caller with a token waits for one refresh at most. With the default settings, that takes longer than a
request may only if the server keeps all three attempts waiting to the end, or nearly so.
-/

namespace TokenGate.Service

variable {g : Gate} {check : SignatureCheck} {v : Validator} {r : Request} {token : String}

/-! ## What is told of a verdict -/

/-- The status of a response to a caller whose token was judged. -/
inductive Tells (response : Response) : Verdict → Prop
  | served (t : ValidatedToken) (status : response.status = 200) : Tells response (.ok t)
  | refused (e : AuthError) (rejection : e.isRejection) (status : response.status = 401) :
      Tells response (.error e)
  | unserved (detail : String) (status : response.status = 503) :
      Tells response (.error (.keysUnavailable detail))

theorem tells_ofError {e : AuthError}
    (refused : (g.validate check v token g.wallStamp).answer = .error e) (r : Request) :
    Tells (finish r (.ofError e)) (.error e) := by
  obtain hopaque | rfl | ⟨detail, rfl⟩ := Gate.verify_error refused
  · exact .refused e hopaque.1 (by rw [ofError_eq_invalidNotice hopaque]; rfl)
  · exact .refused _ rfl rfl
  · exact .unserved detail rfl

theorem Request.AsksMe.tells (asks : r.AsksMe) (shown : bearerToken? r.fields = some token)
    (inTime : (g.validate check v token g.wallStamp).time < g.now.wake requestTimeout) :
    Tells (g.request check v .service r).answer.response
      (g.validate check v token g.wallStamp).answer := by
  have inTime : r.InTime g check v := by
    intro token' shown'
    obtain rfl := Option.some.inj (shown.symm.trans shown')
    exact inTime
  cases verdict : (g.validate check v token g.wallStamp).answer with
  | ok t =>
    rw [asks.served inTime shown verdict]
    exact .served t rfl
  | error e =>
    rw [asks.refused inTime shown verdict]
    exact tells_ofError verdict r

theorem Request.AsksMe.timedOut (asks : r.AsksMe) (shown : bearerToken? r.fields = some token)
    (late : g.now.wake requestTimeout ≤ (g.validate check v token g.wallStamp).time) :
    (g.request check v .service r).answer = timedOut := by
  have ahead : g.now < g.now.wake requestTimeout := by
    have woken := g.now.le_wake requestTimeout
    have positive : 0 < requestTimeout.nanos := by decide
    simp only [Instant.lt_def]
    omega
  exact request_of_late (asks.guardedToken?.trans shown) (Gate.validateBefore_of_late ahead late)

/-! ## Time enough -/

/-- How long a request waits for its token to be judged, with the default settings. All times are in
nanoseconds. -/
structure Timely (g : Gate) (check : SignatureCheck) (v : Validator) (r : Request) (token : String) :
    Prop where
  /-- It waits for nothing, or for one refresh of its endpoint. -/
  once : (g.validate check v token g.wallStamp).time = g.now ∨
    (g.lookup? v.endpoint).isSome ∧ (g.validate check v token g.wallStamp).time =
      (Fetched.run g.settings g.epoch v.endpoint g.network g.now).ended
  bounded : (g.validate check v token g.wallStamp).time.nanos ≤ g.now.nanos + 30752000000
  /-- Two attempts do not take so long, nor do three unless they take nearly all their time. -/
  prompt : (Fetched.durations g.settings g.epoch v.endpoint g.network g.now).length < 3 ∨
      (Fetched.durations g.settings g.epoch v.endpoint g.network g.now).sum < 29248000000 →
    (g.validate check v token g.wallStamp).time.nanos < g.now.nanos + 30000000000 ∧
      Tells (g.request check v .service r).answer.response
        (g.validate check v token g.wallStamp).answer
  answered : (g.validate check v token g.wallStamp).time < g.now.wake requestTimeout →
    Tells (g.request check v .service r).answer.response (g.validate check v token g.wallStamp).answer
  late : g.now.wake requestTimeout ≤ (g.validate check v token g.wallStamp).time →
    (g.request check v .service r).answer = timedOut

theorem waits_once (positive : ∀ e, g.lookup? v.endpoint = some e → 0 < e.floor.nanos)
    (check : SignatureCheck) (token : String) :
    (g.validate check v token g.wallStamp).time = g.now ∨
      (g.lookup? v.endpoint).isSome ∧ (g.validate check v token g.wallStamp).time =
        (Fetched.run g.settings g.epoch v.endpoint g.network g.now).ended := by
  obtain time | ⟨e, found, time⟩ := Gate.time_validate check token g.wallStamp positive
  · exact .inl time
  · refine .inr ⟨Option.isSome_of_eq_some found, ?_⟩
    rw [time, ← Gate.uri_of_lookup? found]
    rfl

theorem waits_of_default (settings : g.settings = default)
    (positive : ∀ e, g.lookup? v.endpoint = some e → 0 < e.floor.nanos) (check : SignatureCheck)
    (token : String) :
    (g.validate check v token g.wallStamp).time.nanos ≤ g.now.nanos + 30752000000 ∧
      (g.now.nanos + 30000000000 ≤ (g.validate check v token g.wallStamp).time.nanos →
        (Fetched.durations g.settings g.epoch v.endpoint g.network g.now).length = 3 ∧
          29248000000 ≤ (Fetched.durations g.settings g.epoch v.endpoint g.network g.now).sum) := by
  obtain time | ⟨-, time⟩ := waits_once positive check token
  · rw [time]
    omega
  · rw [time, settings]
    exact Fetched.ended_run_default_le ..

theorem timely_of_default (settings : g.settings = default)
    (positive : ∀ e, g.lookup? v.endpoint = some e → 0 < e.floor.nanos) (asks : r.AsksMe)
    (shown : bearerToken? r.fields = some token) : Timely g check v r token := by
  have waits := waits_of_default settings positive check token
  refine ⟨waits_once positive check token, waits.1, fun brief => ?_, asks.tells shown, asks.timedOut shown⟩
  have prompt : (g.validate check v token g.wallStamp).time.nanos < g.now.nanos + 30000000000 := by
    by_contra slow
    have long := waits.2 (Nat.not_lt.1 slow)
    omega
  refine ⟨prompt, asks.tells shown ?_⟩
  have woken := g.now.le_wake requestTimeout
  have limit : requestTimeout.nanos = 30000000000 := by decide
  simp only [Instant.lt_def]
  omega

/-! ## A slow server -/

/-- An endpoint that nobody has asked for yet, with the default settings. -/
def untouched (replies : List Http.Reply) : Gate :=
  (Gate.new default .zero (.ofScripts true [("http://k/", replies)])).register "http://k/" (.ofSeconds 60)

def minuteLate : Http.Reply := ⟨200, [], "", ⟨.ofSeconds 60, .zero⟩, false, false⟩

def waiting (replies : List Http.Reply) : Answered Verdict :=
  (untouched replies).validate (vouch true) Encounter.ofIssuer Encounter.forgedToken
    (untouched replies).wallStamp

def served (replies : List Http.Reply) : Response :=
  ((untouched replies).request (vouch true) Encounter.ofIssuer .service holder).answer.response

/-- Two attempts run out of time, and the third is answered. -/
theorem served_after_two_timeouts :
    (waiting [minuteLate, minuteLate, Encounter.published]).time.nanos = 20750000000 ∧
    (served [minuteLate, minuteLate, Encounter.published]).status = 200 := by
  have timely : Timely (untouched [minuteLate, minuteLate, Encounter.published]) (vouch true)
      Encounter.ofIssuer holder Encounter.forgedToken :=
    timely_of_default rfl (by decide +kernel) ⟨by decide, by decide⟩ bearerToken?_holder
  have waited : (waiting [minuteLate, minuteLate, Encounter.published]).time.nanos = 20750000000 ∧
      (waiting [minuteLate, minuteLate, Encounter.published]).answer = .ok held := by
    decide +kernel
  have deadline : ((untouched [minuteLate, minuteLate, Encounter.published]).now.wake
      requestTimeout).nanos = 30000000000 := by decide +kernel
  have inTime : (waiting [minuteLate, minuteLate, Encounter.published]).time <
      (untouched [minuteLate, minuteLate, Encounter.published]).now.wake requestTimeout := by
    rw [Instant.lt_def, waited.1, deadline]
    omega
  have told := timely.answered inTime
  change Tells (served _) (waiting _).answer at told
  rw [waited.2] at told
  refine ⟨waited.1, ?_⟩
  cases told with
  | served t status => exact status

/-- Three attempts run out of time, and so does the request. -/
theorem timed_out_after_three_timeouts :
    (waiting [minuteLate]).time.nanos = 30750000000 ∧ (served [minuteLate]).status = 408 := by
  decide +kernel

end TokenGate.Service
