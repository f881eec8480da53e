import TokenGate.Crowd.Schedule
import TokenGate.Gate.Basic
import TokenGate.Scene.Basic

/-!
# Playing a scene
-/

namespace TokenGate

namespace Result

def ofKeys (same : Bool) : KeyAnswer → Result
  | .ok held => keys held same
  | .error err => failed err

def ofKey : Except AuthError Jwk → Result
  | .ok k => key k
  | .error err => failed err

def ofVerdict : Verdict → Result
  | .ok token => validated token
  | .error err => failed err

def ofMetadata : Except AuthError ProviderMetadata → Result
  | .ok m => metadata m
  | .error err => failed err

end Result

namespace Scene

/-- A validator counts on its endpoint being tracked, and does not track it. -/
def new (gate : Gate) (check : SignatureCheck) (validator : Option Validator) : Scene :=
  ⟨gate, check, validator, [], none⟩

/-! ## One call at a time -/

/-- Tells whether the keys are those that the last such call got, and remembers them. -/
def getResult (s : Scene) (uri : String) (answer : KeyAnswer) : Result × Scene :=
  match answer with
  | .error err => (.failed err, s)
  | .ok held =>
    (.keys held (s.seen.lookup uri == some held.refreshNumber),
      { s with seen := (uri, held.refreshNumber) :: s.seen.filter (·.1 ≠ uri) })

def told {α : Type} (s : Scene) (a : Answered α) (f : α → Result) : Result × Scene :=
  (f a.answer, { s with gate := a.gate })

/-- A call while nothing else goes on. -/
def perform (s : Scene) (c : Call) : Result × Scene :=
  let g := s.gate
  match c with
  | .register uri floor => (.nothing, { s with gate := g.register uri floor })
  | .get uri =>
    let a := g.get uri
    { s with gate := a.gate }.getResult uri a.answer
  | .getKey uri id => s.told (g.getKey uri id) .ofKey
  | .status => (.statuses g.status, s)
  | .refreshStale => s.told g.refreshStale .count
  | .publish url replies => (.nothing, { s with gate := g.publish url replies })
  | .advance d => (.nothing, { s with gate := g.wait d })
  | .validate token stamp =>
    match s.validator with
    | none => (.noValidator, s)
    | some v => s.told (g.validate s.check v token (stamp.getD g.wallStamp)) .ofVerdict
  | .request app r =>
    match s.validator with
    | none => (.noValidator, s)
    | some v => s.told (g.request s.check v app r) .served
  | .discover timeout url => s.told (g.discover timeout url) .ofMetadata

/-! ## Calls side by side -/

/-- Which keys a call has to wait for, if any, and the token that they are for. -/
inductive Want
  | none
  | plain (wish : Wish)
  | token (v : Validator) (token : String) (header : Token.Header)

def wantOfToken (v : Validator) (token : String) : Want :=
  match Token.Header.ofToken token with
  | .ok header => .token v token header
  | .error _ => .none

/-- What a call asks of the cache. -/
def want (s : Scene) : Call → Want
  | .get uri => .plain (.keys uri)
  | .getKey uri id => .plain (.key uri id)
  | .refreshStale => .plain .sweep
  | .validate token _ => s.validator.elim .none (wantOfToken · token)
  | .request app r =>
    match s.validator, Service.guardedToken? app r with
    | some v, some token => wantOfToken v token
    | _, _ => .none
  | _ => .none

def Want.wish? : Want → Option Wish
  | none => Option.none
  | plain wish => some wish
  | token v _ header => some (.key v.endpoint header.keyId)

/-- A request is given up when its time is over. Other calls wait. -/
def patience (start : Instant) : Call → Option Instant
  | .request _ _ => some (start.wake Service.requestTimeout)
  | _ => none

/-- A call has been answered at its start, or its caller is one of the crowd. -/
inductive Part
  | answered (r : Result)
  | caller (c : Call) (want : Want)

/-- Calls that have started side by side. `spent` is the time of those that are answered already. -/
structure Started where
  crowd : Crowd
  parts : List Part
  patience : Crowd.Patience
  spent : Span

/-- A call that wants no keys is answered at once. The time that it takes passes at the end. -/
def startCall (s : Scene) (start : Instant) (t : Started) (c : Call) : Started :=
  let want := s.want c
  match want.wish? with
  | some wish =>
    { t with
      crowd := t.crowd.enter wish
      parts := t.parts ++ [.caller c want]
      patience := t.patience ++ [patience start c] }
  | none =>
    let (r, after) := { s with gate := t.crowd.gate }.perform c
    { t with
      crowd := { t.crowd with gate := { after.gate with now := start } }
      parts := t.parts ++ [.answered r]
      spent := t.spent.plus (after.gate.now.since start) }

/-- What a call comes to when its caller has the key, or has left. A validation that has come to its end
is counted. -/
def conclude (s : Scene) (g : Gate) (start : Instant) (c : Call) (w : Want) (stage : Stage) :
    Result × List Event :=
  match stage, w, c with
  | .done (.keys answer) _, _, _ => (.ofKeys false answer, [])
  | .done (.refreshed n) _, _, _ => (.count n, [])
  | .done (.key answer) time, .token v token header, c =>
    let stamp := match c with
      | .validate _ (some stamp) => stamp
      | _ => Clock.wallStamp g.epoch start
    let verdict := v.conclude s.check token header answer stamp
    let result := match c with
      | .request app r => .served (Service.serve g v app r (some verdict))
      | _ => .ofVerdict verdict
    (result, [verdict.event start time])
  | .done (.key answer) _, _, _ => (.ofKey answer, [])
  | _, _, .request _ _ => (.served Service.timedOut, [])
  | _, _, _ => (.aborted, [])

/-- All results in the order of the calls. `i` is the next caller of the crowd. -/
def results (s : Scene) (c : Crowd) (start : Instant) : (i : Nat) → List Part →
    List Result × List Event
  | _, [] => ([], [])
  | i, .answered r :: rest =>
    let (rs, events) := results s c start i rest
    (r :: rs, events)
  | i, .caller call want :: rest =>
    let (r, own) := conclude s c.gate start call want (c.callers.getD i .gone)
    let (rs, events) := results s c start (i + 1) rest
    (r :: rs, own ++ events)

/-- Calls that all start before any fetch ends. -/
def performAll (s : Scene) (calls : List Call) : Result × Scene :=
  let start := s.gate.now
  let t := calls.foldl (startCall s start) ⟨.ofGate s.gate, [], [], .zero⟩
  let c := (t.crowd.toEnd t.patience).step (.wait t.spent)
  let (rs, events) := s.results c start 0 t.parts
  (.several rs, { s with gate := events.foldl Gate.record c.gate })

/-- The caller leaves as soon as it has to wait, and what it set off goes on. -/
def performAborted (s : Scene) (call : Call) : Result × Scene :=
  match (s.want call).wish? with
  | none => s.perform call
  | some wish =>
    let c := (Crowd.ofGate s.gate).enter wish
    if (c.callers.getD 0 .gone).isOver then s.perform call
    else (.aborted, { s with gate := ((c.cancel 0).toEnd []).gate })

/-! ## Steps -/

/-- The sweeps that came due during a step. -/
def catchUp (s : Scene) : Scene :=
  match s.refresher with
  | none => s
  | some r =>
    let (g, r) := r.sweep Refresher.maxSweeps s.gate
    { s with gate := g, refresher := some r }

/-- Time passes, with sweeps in it while a refresher runs. -/
def wait (s : Scene) (d : Span) : Scene :=
  match s.refresher with
  | none => { s with gate := s.gate.wait d }
  | some r =>
    let (g, r) := r.wait d s.gate
    { s with gate := g, refresher := some r }

def step (s : Scene) : Step → Result × Scene
  | .call (.advance d) => (.nothing, s.wait d)
  | .call c =>
    let (r, s) := s.perform c
    (r, s.catchUp)
  | .startRefresher period =>
    (.nothing, { s with refresher := some (.startAt period s.gate.now) })
  | .stopRefresher => (.stopped, { s with refresher := none })
  | .parallel calls =>
    let (r, s) := s.performAll calls
    (r, s.catchUp)
  | .abort c =>
    let (r, s) := s.performAborted c
    (r, s.catchUp)

/-- What a step asked for is told in ascending order. -/
def report (s : Scene) (st : Step) : StepReport × Scene :=
  let (result, after) := s.step st
  let asked := after.gate.network.log.drop s.gate.network.log.length
  ({ result, fetched := asked.mergeSort fun a b => decide (a ≤ b), millis := after.gate.now.millis },
    after)

def play (s : Scene) : List Step → List StepReport
  | [] => []
  | st :: rest =>
    let (r, s) := s.report st
    r :: play s rest

end Scene

end TokenGate
