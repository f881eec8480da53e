import Mathlib.Data.List.Induction
import TokenGate.Proofs.Crowd.Uncounted
import TokenGate.Proofs.Crowd.Unknown
import TokenGate.Proofs.Gate.Record
import TokenGate.Proofs.Service.Protected

/-!
# Calls that name no key

A token without a readable header, a request without a token, a look at the service's health: none of
them reaches the keys. Left out of a run or put into it, at any place, they change no later answer but
the count of validations.
-/

namespace TokenGate

open Service

def Token.namesKey (token : String) : Bool := (Token.Header.ofToken token).isOk

/-- A token whose header is refused, or a request that brings no other token to the guard. -/
def Call.isKeyless : Call → Bool
  | validate token _ => !Token.namesKey token
  | request app r => !(guardedToken? app r).any Token.namesKey
  | _ => false

/-- A request for the metrics, of which the count of validations is one. -/
def Call.showsCount : Call → Bool
  | request app r => app.route? r.path = some .metrics
  | _ => false

theorem Token.fault_of_keyless {token : String} (h : Token.namesKey token = false) :
    ∃ fault, Token.Header.ofToken token = .error fault := by
  unfold Token.namesKey at h
  cases parsed : Token.Header.ofToken token with
  | error fault => exact ⟨fault, rfl⟩
  | ok header => rw [parsed] at h; cases h

/-! ## At the gate -/

namespace Gate

variable (g : Gate) (check : SignatureCheck) (v : Validator) {app : App} {r : Request} {token : String}
  {fault : Token.Fault}

theorem validate_of_fault (parsed : Token.Header.ofToken token = .error fault) (stamp : Stamp) :
    ∃ detail took, g.validate check v token stamp =
      ⟨.error (.malformed detail), g.now, g.record (.validated "malformed_token" took)⟩ := by
  obtain ⟨detail, malformed⟩ := Token.Header.ofToken_error parsed
  refine ⟨detail, g.now.since g.now, ?_⟩
  unfold validate verify
  simp only [parsed, malformed]
  rfl

theorem request_of_fault (shown : guardedToken? app r = some token)
    (parsed : Token.Header.ofToken token = .error fault) :
    ∃ detail took, g.request check v app r =
      ⟨serve (g.record (.validated "malformed_token" took)) v app r
        (some (.error (.malformed detail))), g.now, g.record (.validated "malformed_token" took)⟩ := by
  obtain ⟨detail, malformed⟩ := Token.Header.ofToken_error parsed
  refine ⟨detail, g.now.since g.now, ?_⟩
  unfold request validateBefore
  simp only [shown, parsed, malformed]
  rfl

theorem request_of_unguarded (none : guardedToken? app r = none) :
    (g.request check v app r).gate = g ∧ (g.request check v app r).time = g.now := by
  rw [request_of_none none]
  exact ⟨rfl, rfl⟩

end Gate

theorem Service.guardedToken?_of_bare {r : Request} (app : App) (bare : bearerToken? r.fields = none) :
    guardedToken? app r = none := by
  unfold guardedToken?
  split
  · exact bare
  · rfl

/-- The places that nobody guards. -/
def Service.openPaths : List String := ["/health", "/ready", "/metrics"]

theorem Service.guardedToken?_of_open {r : Request} (path : r.path ∈ openPaths) :
    guardedToken? .service r = none := by
  have unguarded : App.service.isGuarded (App.service.route? r.path) = false := by
    generalize r.path = place at path
    simp only [openPaths, List.mem_cons, List.not_mem_nil, or_false] at path
    obtain rfl | rfl | rfl := path <;> decide
  unfold guardedToken?
  simp only [unguarded, Bool.false_eq_true, if_false]

/-! ## One call -/

theorem Call.not_showsCount_of_keyed {c : Call} (keyed : c.isKeyless = false) : c.showsCount = false := by
  cases c with
  | request app r =>
    refine decide_eq_false fun place => ?_
    cases app with
    | service => simp [isKeyless, guardedToken?, App.isGuarded, place] at keyed
    | whoami =>
      have among : Route.metrics ∈ App.whoami.routes := List.mem_of_find?_eq_some place
      exact absurd among (by decide)
  | _ => rfl

namespace Scene

def uncounted (s : Scene) : Scene := { s with gate := s.gate.uncounted }

variable {s s' : Scene} {c : Call}

theorem uncounted_perform_of_keyless (keyless : c.isKeyless) :
    (s.perform c).2.uncounted = s.uncounted := by
  cases c with
  | validate token stamp =>
    simp only [Call.isKeyless, Bool.not_eq_true'] at keyless
    obtain ⟨fault, parsed⟩ := Token.fault_of_keyless keyless
    simp only [perform]
    split
    · rfl
    · rename_i v _
      obtain ⟨detail, took, same⟩ := s.gate.validate_of_fault s.check v parsed
        (stamp.getD s.gate.wallStamp)
      simp only [told, same, uncounted, Gate.uncounted_record_validated]
  | request app r =>
    simp only [perform]
    split
    · rfl
    · rename_i v _
      simp only [told, uncounted]
      cases shown : guardedToken? app r with
      | none => rw [(s.gate.request_of_unguarded s.check v shown).1]
      | some token =>
        simp only [Call.isKeyless, shown, Option.any_some, Bool.not_eq_true'] at keyless
        obtain ⟨fault, parsed⟩ := Token.fault_of_keyless keyless
        obtain ⟨detail, took, same⟩ := s.gate.request_of_fault s.check v shown parsed
        simp only [same, Gate.uncounted_record_validated]
  | _ => cases keyless

/-- The same result, and scenes that only the count tells apart. -/
def Alike (p p' : Result × Scene) : Prop := p.1 = p'.1 ∧ p.2.uncounted = p'.2.uncounted

theorem alike_uncounted (s : Scene) (r : Result) : Alike (r, s.uncounted) (r, s) :=
  ⟨rfl, congrArg (fun g => { s with gate := g }) s.gate.uncounted_uncounted⟩

theorem alike_told (s : Scene) {α : Type} (f : α → Result) {a a' : Answered α}
    (same : a.uncounted = a'.uncounted) : Alike (s.uncounted.told a f) (s.told a' f) := by
  obtain ⟨answer, _, after⟩ := a
  obtain ⟨answer', _, after'⟩ := a'
  simp only [Answered.uncounted, Answered.mk.injEq] at same
  obtain ⟨rfl, -, gates⟩ := same
  exact ⟨rfl, by simp only [told, uncounted, gates]⟩

theorem alike_told_uncounted (s : Scene) {α : Type} (f : α → Result) (a : Answered α) :
    Alike (s.uncounted.told a.uncounted f) (s.told a f) :=
  alike_told s f (by simp only [Answered.uncounted, Gate.uncounted_uncounted])

theorem perform_uncounted (s : Scene) (hidden : c.showsCount = false) :
    Alike (s.uncounted.perform c) (s.perform c) := by
  have again (g : Gate) : g.uncounted.uncounted = g.uncounted := g.uncounted_uncounted
  cases c with
  | register uri floor =>
    exact ⟨rfl, by simp only [perform, uncounted, Gate.register_uncounted, again]⟩
  | get uri =>
    have gates := s.gate.get_uncounted uri
    simp only [perform, uncounted, gates, Answered.uncounted, getResult]
    cases (s.gate.get uri).answer with
    | ok | error => exact ⟨rfl, by simp only [uncounted, again]⟩
  | getKey uri id =>
    simp only [perform]
    rw [show s.uncounted.gate = s.gate.uncounted from rfl, Gate.getKey_uncounted]
    exact alike_told_uncounted s _ _
  | status => exact alike_uncounted s _
  | refreshStale =>
    simp only [perform]
    rw [show s.uncounted.gate = s.gate.uncounted from rfl, Gate.refreshStale_uncounted]
    exact alike_told_uncounted s _ _
  | publish url replies => exact alike_uncounted { s with gate := s.gate.publish url replies } _
  | advance d => exact alike_uncounted { s with gate := s.gate.wait d } _
  | validate token stamp =>
    cases there : s.validator with
    | none =>
      simp only [perform, show s.uncounted.validator = none from there, there]
      exact alike_uncounted s _
    | some v =>
      simp only [perform, show s.uncounted.validator = some v from there, there]
      exact alike_told s _ (s.gate.validate_uncounted s.check v token _)
  | request app r =>
    have unmetered : app.route? r.path ≠ some .metrics := of_decide_eq_false hidden
    cases there : s.validator with
    | none =>
      simp only [perform, show s.uncounted.validator = none from there, there]
      exact alike_uncounted s _
    | some v =>
      simp only [perform, show s.uncounted.validator = some v from there, there]
      exact alike_told s _ (s.gate.request_uncounted s.check v unmetered)
  | discover timeout url => exact alike_told_uncounted s _ (s.gate.discover timeout url)

theorem alike_perform (same : s.uncounted = s'.uncounted) (hidden : c.showsCount = false) :
    Alike (s.perform c) (s'.perform c) := by
  have left := s.perform_uncounted hidden
  have right := s'.perform_uncounted hidden
  rw [same] at left
  exact ⟨left.1.symm.trans right.1, left.2.symm.trans right.2⟩

/-! ## Runs -/

theorem uncounted_performed (s : Scene) (calls : List Call) :
    (s.performed calls).uncounted = (s.performed (calls.filter (!·.isKeyless))).uncounted := by
  -- from the last call back: a keyless one adds to the count only, any other does not look at it
  induction calls using List.reverseRecOn with
  | nil => rfl
  | append_singleton calls c ih =>
    rw [List.filter_append, performed_append, performed_append]
    cases keyless : c.isKeyless with
    | true =>
      simp only [List.filter_singleton, keyless, Bool.not_true, cond_false]
      exact (uncounted_perform_of_keyless keyless).trans ih
    | false =>
      simp only [List.filter_singleton, keyless, Bool.not_false, cond_true]
      exact (alike_perform ih (Call.not_showsCount_of_keyed keyless)).2

theorem uncounted_performed_of_same (s : Scene) {calls calls' : List Call}
    (same : calls.filter (!·.isKeyless) = calls'.filter (!·.isKeyless)) :
    (s.performed calls).uncounted = (s.performed calls').uncounted := by
  rw [uncounted_performed, same, ← uncounted_performed]

end Scene

namespace Crowd

/-- A turn of the crowd, or a call that is over at once. -/
inductive Incident
  | turn (a : Action)
  | call (c : Call) (keyless : c.isKeyless)

def Incident.turn? : Incident → Option Action
  | turn a => some a
  | call _ _ => none

def meet (check : SignatureCheck) (v : Option Validator) (c : Crowd) : Incident → Crowd
  | .turn a => c.step a
  | .call call _ => { c with gate := ((Scene.new c.gate check v).perform call).2.gate }

variable (check : SignatureCheck) (v : Option Validator)

theorem uncounted_meet (c : Crowd) (incidents : List Incident) :
    (incidents.foldl (meet check v) c).uncounted =
      (c.run (incidents.filterMap Incident.turn?)).uncounted := by
  induction incidents using List.reverseRecOn with
  | nil => rfl
  | append_singleton incidents last ih =>
    rw [List.foldl_append, List.filterMap_append]
    generalize incidents.foldl (meet check v) c = there at ih ⊢
    cases last with
    | turn a =>
      calc (there.step a).uncounted = there.uncounted.step a := (step_uncounted there a).symm
        _ = ((c.run (incidents.filterMap Incident.turn?)).step a).uncounted := by
          rw [ih, step_uncounted]
        _ = _ := by rw [← run_snoc]; rfl
    | call call keyless =>
      have spared := Scene.uncounted_perform_of_keyless (s := .new there.gate check v) keyless
      have gates : ((Scene.new there.gate check v).perform call).2.gate.uncounted =
        there.gate.uncounted := congrArg Scene.gate spared
      have same : (there.meet check v (.call call keyless)).uncounted = there.uncounted :=
        congrArg (fun g => { there with gate := g }) gates
      rw [show [Incident.call call keyless].filterMap Incident.turn? = [] from rfl, List.append_nil]
      exact same.trans ih

end Crowd

/-- Answered at once, and no key was looked at. -/
def Gate.Spared {α : Type} (g : Gate) (a : Answered α) : Prop := a.time = g.now ∧ g.SameKeys a.gate

theorem Gate.spared_record_validated {α : Type} (g : Gate) (answer : α) (outcome : String) (took : Span) :
    g.Spared ⟨answer, g.now, g.record (.validated outcome took)⟩ :=
  ⟨rfl, sameKeys_of_uncounted (uncounted_record_validated ..).symm⟩

/-- What calls that name no key leave as it was: of a gate, all but the count of validations, and of
runs, all that the other calls come to. -/
structure KeylessFrame (check : SignatureCheck) (v : Validator) : Prop where
  token : ∀ (g : Gate) (token : String) (fault : Token.Fault) (stamp : Stamp),
    Token.Header.ofToken token = .error fault →
      (∃ detail, (g.validate check v token stamp).answer = .error (.malformed detail)) ∧
        g.Spared (g.validate check v token stamp)
  shown : ∀ (g : Gate) (app : App) (r : Request) (token : String) (fault : Token.Fault),
    guardedToken? app r = some token → Token.Header.ofToken token = .error fault →
      (∃ detail, (g.request check v app r).answer =
        serve (g.request check v app r).gate v app r (some (.error (.malformed detail)))) ∧
        g.Spared (g.request check v app r)
  bare : ∀ (g : Gate) (app : App) (r : Request), bearerToken? r.fields = none →
    (g.request check v app r).gate = g ∧ (g.request check v app r).time = g.now
  unguarded : ∀ (g : Gate) (r : Request), r.path ∈ openPaths →
    (g.request check v .service r).gate = g ∧ (g.request check v .service r).time = g.now
  run : ∀ (s : Scene) (calls calls' : List Call),
    calls.filter (!·.isKeyless) = calls'.filter (!·.isKeyless) →
      (s.performed calls).gate.SameKeys (s.performed calls').gate ∧
        ∀ c : Call, c.showsCount = false →
          ((s.performed calls).perform c).1 = ((s.performed calls').perform c).1
  crowd : ∀ (c : Crowd) (incidents : List Crowd.Incident),
    let met := incidents.foldl (Crowd.meet check (some v)) c
    let turned := c.run (incidents.filterMap Crowd.Incident.turn?)
    met.gate.SameKeys turned.gate ∧ met.callers = turned.callers ∧ met.guards = turned.guards ∧
      met.fetches = turned.fetches

theorem keyless_calls_spare_keys (check : SignatureCheck) (v : Validator) : KeylessFrame check v where
  token := by
    intro g token fault stamp parsed
    obtain ⟨detail, took, same⟩ := g.validate_of_fault check v parsed stamp
    rw [same]
    exact ⟨⟨detail, rfl⟩, g.spared_record_validated ..⟩
  shown := by
    intro g app r token fault shown parsed
    obtain ⟨detail, took, same⟩ := g.request_of_fault check v shown parsed
    rw [same]
    exact ⟨⟨detail, rfl⟩, g.spared_record_validated ..⟩
  bare g app r bare := g.request_of_unguarded check v (guardedToken?_of_bare app bare)
  unguarded g r path := g.request_of_unguarded check v (guardedToken?_of_open path)
  run := by
    intro s calls calls' same
    have alike := s.uncounted_performed_of_same same
    exact ⟨Gate.sameKeys_of_uncounted (congrArg Scene.gate alike),
      fun c hidden => (Scene.alike_perform alike hidden).1⟩
  crowd := by
    intro c incidents
    have alike := Crowd.uncounted_meet check (some v) c incidents
    have part {α : Type} (f : Crowd → α) := congrArg f alike
    exact ⟨Gate.sameKeys_of_uncounted (part Crowd.gate), part Crowd.callers, part Crowd.guards,
      part Crowd.fetches⟩

/-! ## A run with hostile calls in it -/

namespace Hostile

def validator : Validator := ⟨"i", "u", .zero, "http://k/", .new .minimal (.empty .minimal)⟩

def scene : Scene := .new Crowd.rotating (fun _ _ _ _ => false) (some validator)

def calls : List Call :=
  [.register "http://k/" (.ofSeconds 60), .validate "a.b" none, .get "http://k/",
    .request .service ⟨"GET", "/v1/me", [("authorization", "Bearer a.b.c")]⟩, .advance (.ofSeconds 61),
    .request .service ⟨"GET", "/ready", [("authorization", "Bearer a.b.c")]⟩, .validate "" none]

def others : List Call :=
  [.register "http://k/" (.ofSeconds 60), .get "http://k/", .advance (.ofSeconds 61)]

end Hostile

open Hostile in
/-- The key that has come up since is found, with as many requests as without the hostile calls. -/
theorem keyless_calls_spare_rotation :
    (scene.performed calls).gate.SameKeys (scene.performed others).gate ∧
    ((scene.performed calls).gate.network.log.length = 1 ∧
      (scene.performed calls).gate.events.length = 4) ∧
    ((scene.performed calls).perform (.getKey "http://k/" "b")).1 =
      ((scene.performed others).perform (.getKey "http://k/" "b")).1 ∧
    ((scene.performed calls).perform (.getKey "http://k/" "b")).2.gate.network.log.length = 2 := by
  have keyless : calls.map Call.isKeyless = [false, true, false, true, false, true, true] := by
    decide +kernel
  simp only [calls, List.map_cons, List.map_nil, List.cons.injEq, and_true] at keyless
  obtain ⟨register, token, get, request, advance, ready, empty⟩ := keyless
  have frame := (keyless_calls_spare_keys (fun _ _ _ _ => false) validator).run scene calls others
    (by simp [calls, others, register, token, get, request, advance, ready, empty])
  refine ⟨frame.1, ⟨?_, ?_⟩, frame.2 _ rfl, ?_⟩ <;> decide +kernel

end TokenGate
