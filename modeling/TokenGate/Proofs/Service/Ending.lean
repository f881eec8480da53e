import TokenGate.Proofs.Service.Protected
import TokenGate.Scene.Play

/-!
# What a validation ended with

A token is validated for a caller who holds it, or for the guard of a request. What it came to shows in
the result of the call, and for a request in its log.
-/

namespace TokenGate

open Service (guardedToken?)

/-! ## What a call ended with -/

namespace Service

/-- What the guard found, if the caller was not sent away before. -/
def Served.outcome? (s : Served) : Option String :=
  if s.response.status = 408 then none
  else
    match s.log with
    | [] => some "success"
    | entry :: _ => entry.lookup "error_kind"

theorem status_allowing (r : Request) (route : Option Route) (response : Response) :
    (allowing r route response).status = response.status := by
  unfold allowing
  split <;> rfl

theorem status_handle_ne (g : Gate) (caller : Option ValidatedToken) (route : Route) :
    (handle g caller route).status ≠ 408 := by
  cases route with
  | ready =>
    simp only [handle, readiness]
    split <;> simp [Response.ofJson]
  | me =>
    simp only [handle, me]
    split <;> simp [Response.ofJson, Response.ofError, AuthError.status]
  | _ => simp [handle, health, metrics, whoami, maybe, fail, Response.ofJson, Response.ofText]

theorem status_dispatch_ne (g : Gate) (r : Request) (route : Option Route)
    (caller : Option ValidatedToken) : (dispatch g r route caller).status ≠ 408 := by
  unfold dispatch
  split
  · simp [Response.ofStatus]
  · split
    · exact status_handle_ne g caller _
    · simp [Response.ofStatus]

theorem status_guarded_ne (g : Gate) (r : Request) (route : Option Route) (verdict : Option Verdict) :
    (guarded g r route verdict).status ≠ 408 := by
  unfold guarded
  split
  · exact status_dispatch_ne g r route none
  · exact status_dispatch_ne g r route _
  · rename_i err
    cases err <;> simp [Response.ofError, Response.ofJson, AuthError.status]

theorem outcome?_serve (g : Gate) (v : Validator) (app : App) (r : Request) (verdict : Verdict) :
    (serve g v app r (some verdict)).outcome? = some verdict.outcome := by
  have status : (serve g v app r (some verdict)).response.status ≠ 408 := by
    simp only [serve, respond, status_finish, status_allowing]
    exact status_guarded_ne g r _ (some verdict)
  unfold Served.outcome?
  rw [if_neg status]
  cases verdict <;> rfl

end Service

/-- Does the call have a token to be validated? -/
def Call.validates : Call → Bool
  | validate _ _ => true
  | request app r => (guardedToken? app r).isSome
  | _ => false

/-- What a validation ended with. -/
def Call.ending? : Call → Result → Option String
  | validate _ _, .validated _ => some "success"
  | validate _ _, .failed err => some err.kind
  | request app r, .served s => if (guardedToken? app r).isSome then s.outcome? else none
  | _, _ => none

/-- Did the caller stay to the end? There is none without a validator. -/
def Result.isEnd : Result → Bool
  | aborted | noValidator => false
  | served s => s.response.status ≠ 408
  | _ => true

/-- All that a call may come to, as far as validations go. -/
inductive Call.Ends : Call → Result → Option String → Prop
  | plain {c : Call} (r : Result) (other : c.validates = false) : Ends c r none
  | unguarded (c : Call) : Ends c .noValidator none
  | judged (token : String) (stamp : Option Stamp) (verdict : Verdict) :
    Ends (.validate token stamp) (.ofVerdict verdict) (some verdict.outcome)
  | served {app : Service.App} {r : Service.Request} (guarded : (guardedToken? app r).isSome) (g : Gate)
      (v : Validator) (verdict : Verdict) :
    Ends (.request app r) (.served (Service.serve g v app r (some verdict))) (some verdict.outcome)
  | late (app : Service.App) (r : Service.Request) : Ends (.request app r) (.served Service.timedOut) none
  | left (c : Call) : Ends c .aborted none

namespace Call.Ends

variable {c : Call} {r : Result} {o : Option String}

theorem ending? (h : c.Ends r o) : c.ending? r = o := by
  cases h with
  | plain r other =>
    cases c with
    | validate => cases other
    | request app request =>
      have unguarded : (guardedToken? app request).isSome = false := other
      cases r <;> simp [Call.ending?, unguarded]
    | _ => rfl
  | judged token stamp verdict => cases verdict <;> rfl
  | served guarded g v verdict =>
    simp only [Call.ending?, guarded, if_true]
    exact Service.outcome?_serve ..
  | late app r =>
    simp only [Call.ending?]
    split <;> rfl
  | unguarded | left => cases c <;> rfl

theorem isSome_eq (h : c.Ends r o) : o.isSome = (c.validates && r.isEnd) := by
  cases h with
  | plain r other => rw [other]; rfl
  | judged token stamp verdict => cases verdict <;> rfl
  | served guarded g v verdict =>
    have outcome := Service.outcome?_serve g v ‹_› ‹_› verdict
    unfold Service.Served.outcome? at outcome
    split at outcome
    · cases outcome
    · rename_i status
      simp [Call.validates, guarded, Result.isEnd, status]
  | late app r => simp [Result.isEnd, Service.timedOut, Service.status_finish, Service.Response.ofStatus]
  | unguarded | left => simp [Result.isEnd]

end Call.Ends

end TokenGate
