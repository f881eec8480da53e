import TokenGate.Discovery
import TokenGate.Gate.Basic
import TokenGate.Gate.Keys
import TokenGate.Service.Routes

/-!
# Scenes

A scene plays out calls on a gate, one after the other or side by side, and tells what each was
answered.
-/

namespace TokenGate

/-- A call on the service. Without a stamp a token is judged by the wall clock. -/
inductive Call
  | register (uri : String) (floor : Span)
  | get (uri : String)
  | getKey (uri id : String)
  | status
  | refreshStale
  | publish (url : String) (replies : List Http.Reply)
  | advance (s : Span)
  | validate (token : String) (stamp : Option Stamp)
  | request (app : Service.App) (r : Service.Request)
  | discover (timeout : Span) (url : String)

/-- What happens next in a scene. -/
inductive Step
  | call (c : Call)
  | startRefresher (period : Span)
  | stopRefresher
  /-- All calls start before any fetch ends. -/
  | parallel (calls : List Call)
  /-- The caller leaves as soon as it has to wait. -/
  | abort (c : Call)

/-- What the caller of a step gets to see. -/
inductive Result
  | nothing
  /-- A key set, and whether it is the very one that the last such call got. -/
  | keys (held : HeldKeys) (same : Bool)
  | key (k : Jwk)
  | failed (err : AuthError)
  | statuses (endpoints : List Entry.Status)
  | count (n : Nat)
  | validated (token : ValidatedToken)
  | served (s : Service.Served)
  | metadata (m : ProviderMetadata)
  | stopped
  | several (results : List Result)
  | aborted
  | noValidator

/-- The time between two sweeps, and when the next one is due. -/
structure Refresher where
  period : Span
  next : Instant

/-- A gate, and what stands around it. -/
structure Scene where
  gate : Gate
  check : SignatureCheck
  validator : Option Validator
  /-- The number of the refresh that brought the key set which was last got from each endpoint. -/
  seen : List (String × Nat)
  refresher : Option Refresher

/-- What a step was answered, what it asked for over the network, and when it was over. -/
structure StepReport where
  result : Result
  fetched : List String
  millis : Nat

/-!
## The background refresher

It sweeps over the endpoints once in each period. A sweep that comes late, because the one before it
took long, moves all later sweeps.
-/

namespace Refresher

def shortestPeriod : Span := .ofMillis 100

/-- A sweep that comes no later than this is in time. -/
def tolerance : Span := .ofMillis 5

/-- The first sweep comes after a whole period. -/
def startAt (period : Span) (now : Instant) : Refresher :=
  let period := max period shortestPeriod
  ⟨period, now.wake period⟩

def isDue (r : Refresher) (now : Instant) : Bool := decide (r.next ≤ now)

/-- A sweep in time keeps the beat, and a late one starts it anew. -/
def after (r : Refresher) (now : Instant) : Refresher :=
  let base := if r.next.plus tolerance < now then now else r.next
  { r with next := base.wake r.period }

/-- More than can be due at once. -/
def maxSweeps : Nat := 1000

def sweep : (fuel : Nat) → Gate → Refresher → Gate × Refresher
  | 0, g, r => (g, r)
  | fuel + 1, g, r =>
    if r.isDue g.now then sweep fuel g.refreshStale.gate (r.after g.now) else (g, r)

/-- While a refresher runs, time passes in pieces of this length. -/
def slice : Span := .ofMillis 100

/-- Sweeps take time of their own, which comes on top. -/
def wait (total : Span) (g : Gate) (r : Refresher) : Gate × Refresher :=
  let rest := Span.ofNanos (total.nanos % slice.nanos)
  let pieces := List.replicate (total.nanos / slice.nanos) slice
    ++ (if rest = .zero then [] else [rest])
  pieces.foldl (fun (g, r) piece => sweep maxSweeps (g.wait piece) r) (g, r)

end Refresher

end TokenGate
