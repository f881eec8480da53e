import TokenGate.Claims.Basic
import TokenGate.Gate.Validate
import TokenGate.Http.Message
import TokenGate.Service.Response
import TokenGate.Text.Basic

/-!
# Routes

Requests with a bearer token pass the guard first, where the token is validated. A request without
one goes on without a caller, and each route decides whether that will do.
-/

namespace TokenGate.Service

/-- A request as far as the service reads it. It never reads a body. -/
structure Request where
  method : String
  target : String
  fields : Http.Fields
  deriving DecidableEq

/-- The guard stands in two applications: in the service itself, and in one that has no other purpose than
to say how the guard sees its callers. That one is no part of the service. It is made for tests of the
guard, and stands here for any host that puts the guard before routes of its own. -/
inductive App
  | service
  | whoami
  deriving DecidableEq, Repr

inductive Route
  | health
  | ready
  | metrics
  | me
  | whoami
  | maybe
  | fail
  deriving DecidableEq, Repr

namespace Route

def path : Route → String
  | health => "/health"
  | ready => "/ready"
  | metrics => "/metrics"
  | me => "/v1/me"
  | whoami => "/whoami"
  | maybe => "/maybe"
  | fail => "/fail"

end Route

namespace App

def routes : App → List Route
  | service => [.health, .ready, .metrics, .me]
  | whoami => [.whoami, .maybe, .fail]

def route? (app : App) (path : String) : Option Route := app.routes.find? (·.path = path)

/-- Does the guard stand before this place? In the second application it stands before all of them. -/
def isGuarded : App → Option Route → Bool
  | service, route => route = some .me
  | whoami, _ => true

end App

namespace Request

/-- What follows a question mark is no part of the path. -/
def path (r : Request) : String := String.ofList (r.target.toList.takeWhile (· ≠ '?'))

def isHead (r : Request) : Bool := r.method = "HEAD"

def reads (r : Request) : Bool := r.method = "GET" || r.isHead

end Request

/-- The token of `Authorization: Bearer <token>`. The scheme may be in any case. -/
def bearerToken? (fields : Http.Fields) : Option String := do
  let value ← (fields.first? "authorization").bind Http.Fields.visible?
  let (scheme, rest) ← Text.splitOnce ' ' (Text.trim Text.isBlank value)
  let token := Text.trim Text.isBlank rest
  if Text.sameIgnoringCase scheme "bearer".toList ∧ token ≠ [] then some (String.ofList token)
  else none

abbrev LogEntry := List (String × String)

/-- The entry for a refused token. Issuer and audience are logged with the expected ones. -/
def rejectionEntry (v : Validator) (err : AuthError) : LogEntry :=
  [("message", "Bearer token rejected"), ("error_kind", err.kind)] ++
    match err with
    | .wrongIssuer issuer => [("issuer", issuer), ("expected_issuer", v.issuer)]
    | .wrongAudience audience => [("audience", audience), ("expected_audience", v.audience)]
    | err => [("error", err.message)]

/-! ## Handlers of the service -/

def statusJson (s : Entry.Status) : Json :=
  .record [("jwks_uri", .text s.uri), ("ready", .bool s.ready), ("key_count", .ofNat s.keyCount),
    ("stale", .bool s.stale)]

def healthJson (word : String) (endpoints : List Entry.Status) : Json :=
  .record [("status", .text word), ("jwks", .list (endpoints.map statusJson))]

def health (endpoints : List Entry.Status) : Response := .ofJson 200 (healthJson "ok" endpoints)

/-- Without endpoints there is nothing to be ready with. -/
def isReady (endpoints : List Entry.Status) : Bool := !endpoints.isEmpty && endpoints.all (·.ready)

/-- Ready once every endpoint has had keys. That they are stale does not count. -/
def readiness (endpoints : List Entry.Status) : Response :=
  if isReady endpoints then .ofJson 200 (healthJson "ready" endpoints)
  else .ofJson 503 (healthJson "not_ready" endpoints)

def metrics (lines : List String) : Response := .ofText 200 (String.join (lines.map (· ++ "\n")))

def me (caller : Option ValidatedToken) : Response :=
  match caller with
  | some token => .ofJson 200 token.claims.me
  | none => .ofError .unauthenticated

/-! ## Handlers of the application for tests -/

/-- It has no names for subjects of its own, and shows them as they stand in the token. -/
def whoami (caller : Option ValidatedToken) : Response :=
  .ofText 200 (caller.elim "anonymous" (·.claims.registered.subject))

/-- With what the caller has been let in, if there is one. -/
def maybe (caller : Option ValidatedToken) : Response :=
  .ofText 200 (caller.elim "none" fun token =>
    token.keyId ++ " " ++ token.algorithm.name ++ " " ++ (if token.isVerified then "true" else "false"))

/-- A handler that breaks off. The layer around it answers in its place. -/
def fail : Response := .ofText 500 "Service panicked"

/-! ## Both applications -/

/-- What the handler of a route answers to a caller, or to nobody. -/
def handle (g : Gate) (caller : Option ValidatedToken) : Route → Response
  | .health => health g.status
  | .ready => readiness g.status
  | .metrics => metrics g.metricLines
  | .me => me caller
  | .whoami => whoami caller
  | .maybe => maybe caller
  | .fail => fail

/-! ## From request to response -/

def withAllow (r : Response) : Response := { r with fields := r.fields ++ [("allow", "GET,HEAD")] }

/-- A route that is asked in another way than by reading tells how it can be asked. -/
def allowing (request : Request) (route : Option Route) (r : Response) : Response :=
  if route.isSome && !request.reads then withAllow r else r

/-- An unknown path comes before a wrong method. -/
def dispatch (g : Gate) (request : Request) (route : Option Route)
    (caller : Option ValidatedToken) : Response :=
  match route with
  | none => .ofStatus 404
  | some route =>
    if request.reads then handle g caller route else .ofStatus 405

/-- The body of an answer to HEAD counts, but is not sent. -/
def finish (request : Request) (r : Response) : Response :=
  { r with
    fields := r.fields ++ [("content-length", toString r.body.utf8ByteSize)]
    body := if request.isHead then "" else r.body }

/-- A refused token is answered in place of the route, whatever the route is. -/
def guarded (g : Gate) (request : Request) (route : Option Route) (verdict : Option Verdict) :
    Response :=
  match verdict with
  | none => dispatch g request route none
  | some (.ok token) => dispatch g request route (some token)
  | some (.error err) => .ofError err

/-- The response to a request, given the verdict on its token if it has one. -/
def respond (g : Gate) (app : App) (request : Request) (verdict : Option Verdict) : Response :=
  let route := app.route? request.path
  finish request (allowing request route (guarded g request route verdict))

/-- The token to validate. Open paths do not look at tokens. -/
def guardedToken? (app : App) (request : Request) : Option String :=
  if app.isGuarded (app.route? request.path) then bearerToken? request.fields else none

/-- What goes to the client, and what stays here. -/
structure Served where
  response : Response
  log : List LogEntry

/-- Longer than this no request is worked on. -/
def requestTimeout : Span := .ofSeconds 30

/-- The outer layer knows nothing of the request. -/
def timedOut : Served := ⟨finish ⟨"GET", "/", []⟩ (.ofStatus 408), []⟩

/-- The response and the log of a request in time. -/
def serve (g : Gate) (v : Validator) (app : App) (request : Request) (verdict : Option Verdict) :
    Served :=
  ⟨respond g app request verdict,
    match verdict with
    | some (.error err) => [rejectionEntry v err]
    | _ => []⟩

end TokenGate.Service

namespace TokenGate.Gate

open Service

/-- A request from its arrival to the response. A refresh that it has set off goes on when the request has
run out of time. -/
def request (g : Gate) (check : SignatureCheck) (v : Validator) (app : App) (r : Request) :
    Answered Served :=
  match guardedToken? app r with
  | none => g.reply (serve g v app r none)
  | some token =>
    let a := g.validateBefore (g.now.wake requestTimeout) check v token g.wallStamp
    match a.answer with
    | none => { a with answer := timedOut }
    | some verdict => { a with answer := serve a.gate v app r (some verdict) }

end TokenGate.Gate
