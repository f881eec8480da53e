import TokenGate.Cache.Freshness
import TokenGate.Http.Exchange
import TokenGate.Key.KeySet
import TokenGate.Retry
import TokenGate.Time.Stamp

/-!
# Fetching keys

One attempt asks the endpoint for its key document. Attempts that failed for a reason that may pass
are repeated.
-/

namespace TokenGate

/-- A body that is lost on the way counts as a bad document, since it cannot be read. -/
inductive FetchFault
  | transport (detail : String)
  | status (code : Nat)
  | document (detail : String)
  deriving DecidableEq, Repr

namespace FetchFault

def message : FetchFault → String
  | transport detail => "request failed: " ++ detail
  | status code => "unexpected HTTP status " ++ toString code
  | document detail => "invalid JWKS document: " ++ detail

/-- Lost connections, overload and faults of the server may pass. -/
def mayPass : FetchFault → Bool
  | transport _ => true
  | status code => code == 429 || (500 ≤ code && code < 600)
  | document _ => false

end FetchFault

/-- The keys of a document, and how long its server says that they are fresh. -/
structure Fetched where
  keys : List Jwk
  hint : Option Span
  deriving DecidableEq

/-- The time of one attempt, how attempts are repeated, and how long keys are fresh that come without a
word on it. -/
structure FetchSettings where
  timeout : Span
  retry : RetryPolicy
  freshness : Span

namespace FetchSettings

instance : Inhabited FetchSettings := ⟨.ofSeconds 10, default, Freshness.standard⟩

end FetchSettings

namespace Fetched

/-- Any success will do, with a document that can be read. -/
def ofAnswer (wallNanos : Int) (a : Http.Answer) : Except FetchFault Fetched :=
  if !Http.Status.isSuccess a.status then .error (.status a.status)
  else
    match a.body.bind KeyDocument.keys? with
    | none => .error (.document Http.Answer.unreadable)
    | some keys => .ok { keys, hint := Freshness.hint? a.fields wallNanos }

def ofExchange (epoch : Stamp) (e : Http.Exchange) : Except FetchFault Fetched :=
  match e.result with
  | .error reason => .error (.transport reason.message)
  | .ok answer => ofAnswer (Clock.wallNanos epoch e.ended) answer

abbrev Run := RetryPolicy.Run FetchFault Fetched Http.Network

/-- One exchange. Only the body of a success is read. -/
def attempt (s : FetchSettings) (epoch : Stamp) (uri : String) (n : Http.Network) (now : Instant) :
    Run :=
  let e := Http.Exchange.run s.timeout n now uri
  ⟨ofExchange epoch e, e.doneAt Http.Status.isSuccess, e.network⟩

def run (s : FetchSettings) (epoch : Stamp) (uri : String) (n : Http.Network) (now : Instant) : Run :=
  s.retry.run FetchFault.mayPass (attempt s epoch uri) n now

end Fetched

end TokenGate
