import TokenGate.Gate.Keys

/-!
# Many callers at once

Callers of the cache run side by side and take turns wherever they wait: for an entry, for an endpoint's
guard, in line for it, and for the outcome of a fetch. Who judges an entry by the clock has read the
clock before it waits for the entry. Whoever holds the guard may start a fetch, which takes the guard
over and keeps it to its end. So a caller may leave at any time, and the fetch that it started goes on.
-/

namespace TokenGate

/-- What a caller has come for. -/
inductive Wish
  | keys (uri : String)
  | key (uri id : String)
  | sweep
  deriving DecidableEq

inductive Outcome
  | keys (answer : KeyAnswer)
  | key (answer : Except AuthError Jwk)
  | refreshed (count : Nat)

/-- What a caller will do with the answer of a guard, which it asks for the keys of one endpoint. -/
inductive Errand
  | keys
  | firstKey (id : String)
  | forcedKey (id : String)
  /-- The endpoint is due. More endpoints come after it. -/
  | sweep (later : List String) (count : Nat)
  deriving DecidableEq

/-- Where a caller is. At each stage but the last two it may be made to wait, or may leave. -/
inductive Stage
  | look (wish : Wish)
  | read (uri : String) (time : Instant) (errand : Errand)
  | lookAgain (uri id : String)
  | excuse (uri : String) (errand : Errand)
  | visit (uris : List String) (count : Nat)
  /-- About to ask for the guard. `seen` is the number of refreshes that the caller knew of. -/
  | reach (uri : String) (seen : Nat) (errand : Errand)
  | queue (uri : String) (seen : Nat) (errand : Errand)
  /-- Holds the guard, and is about to compare what it knew with what is there now. -/
  | compare (uri : String) (seen : Nat) (errand : Errand)
  | join (uri : String) (errand : Errand)
  | done (outcome : Outcome) (time : Instant)
  | gone

namespace Stage

/-- From the line to the guard. -/
def admitted : Stage → Stage
  | queue uri seen errand => compare uri seen errand
  | s => s

/-- A caller in line, and one who has joined a fetch, must wait for others. -/
def canMove : Stage → Bool
  | look _ | read _ _ _ | lookAgain _ _ | excuse _ _ | visit _ _ | reach _ _ _ | compare _ _ _ => true
  | _ => false

def isOver : Stage → Bool
  | done _ _ | gone => true
  | _ => false

end Stage

/-- How a caller goes on with an answer. -/
def Errand.next (uri : String) (answer : KeyAnswer) (now : Instant) : Errand → Stage
  | keys => .done (.keys answer) now
  | firstKey id =>
    match Gate.FirstLook.ofAnswer id answer with
    | .settled r => .done (.key r) now
    | .missing => .lookAgain uri id
  | forcedKey id => .done (.key (Gate.keyIn id answer)) now
  | sweep later count => .visit later (if answer.isOk then count + 1 else count)

/-- Who holds a guard. -/
inductive Holder
  | caller (i : Nat)
  | fetch (n : Nat)
  deriving DecidableEq

/-- The guard of one endpoint, and who stands in line for it. -/
structure Guard where
  uri : String
  holder : Option Holder
  line : List Nat
  deriving DecidableEq

/-- A fetch for nobody has been woken before it runs, and has read the clock then. -/
inductive Phase
  | spawned
  | woken (time : Instant)
  /-- Since `started`. How it will end is settled already. -/
  | running (started : Instant) (run : Fetched.Run)
  | ended

/-- A running fetch waits for the network. -/
def Phase.canMove : Phase → Bool
  | spawned | woken _ => true
  | _ => false

/-- A fetch, and the caller who joined it when it began. -/
structure Fetch where
  uri : String
  waiter : Option Nat
  phase : Phase

/-- All that goes on at a gate. Callers and fetches are numbered in the order of their coming. -/
structure Crowd where
  gate : Gate
  callers : List Stage
  /-- Guards that have been held. The others are free. -/
  guards : List Guard
  fetches : List Fetch

namespace Crowd

def ofGate (g : Gate) : Crowd := ⟨g, [], [], []⟩

def guard (c : Crowd) (uri : String) : Guard :=
  (c.guards.find? (·.uri = uri)).getD ⟨uri, none, []⟩

def setGuard (c : Crowd) (g : Guard) : Crowd :=
  { c with guards := g :: c.guards.filter (·.uri ≠ g.uri) }

def setCaller (c : Crowd) (i : Nat) (s : Stage) : Crowd := { c with callers := c.callers.set i s }

def setPhase (c : Crowd) (n : Nat) (p : Phase) : Crowd :=
  { c with fetches := c.fetches.modify n fun f => { f with phase := p } }

/-- The caller notes when it got its answer. -/
def finishCaller (c : Crowd) (i : Nat) (o : Outcome) : Crowd := c.setCaller i (.done o c.gate.now)

/-! ## The guard -/

/-- The guard, if it is free, and else a place in line. -/
def acquire (c : Crowd) (i : Nat) (uri : String) (seen : Nat) (errand : Errand) : Crowd :=
  let g := c.guard uri
  match g.holder with
  | none => (c.setGuard { g with holder := some (.caller i) }).setCaller i (.compare uri seen errand)
  | some _ => (c.setGuard { g with line := g.line ++ [i] }).setCaller i (.queue uri seen errand)

/-- The guard goes to the first in line. -/
def release (c : Crowd) (uri : String) : Crowd :=
  let g := c.guard uri
  match g.line with
  | [] => c.setGuard { g with holder := none }
  | i :: rest =>
    { c.setGuard { g with holder := some (.caller i), line := rest } with
      callers := c.callers.modify i Stage.admitted }

/-- A new fetch takes the guard over. -/
def spawn (c : Crowd) (uri : String) (waiter : Option Nat) : Crowd :=
  let g := c.guard uri
  { c.setGuard { g with holder := some (.fetch c.fetches.length) } with
    fetches := c.fetches ++ [⟨uri, waiter, .spawned⟩] }

/-- A fetch for nobody, unless the guard is taken. It never stands in line. -/
def spawnBehind (c : Crowd) (uri : String) : Crowd :=
  if (c.guard uri).holder.isSome then c else c.spawn uri none

/-! ## Callers -/

def settle (c : Crowd) (i : Nat) (uri : String) (answer : KeyAnswer) (errand : Errand) : Crowd :=
  c.setCaller i (errand.next uri answer c.gate.now)

/-- Finds the entry, and reads the clock before the entry can be read. -/
def look (c : Crowd) (i : Nat) (uri : String) (errand : Errand) : Crowd :=
  match c.gate.lookup? uri with
  | none => c.settle i uri (.error (Gate.unregistered uri)) errand
  | some _ => c.setCaller i (.read uri c.gate.now errand)

/-- What a caller does for an entry that it has read. A sweep refreshes what is due, and others take
what is there. -/
def serve (c : Crowd) (i : Nat) (e : Entry) (time : Instant) : Errand → Crowd
  | .sweep later count =>
    if e.isDue time then c.setCaller i (.reach e.uri e.attempts (.sweep later count))
    else c.setCaller i (.visit later count)
  | errand =>
    match e.decision time with
    | .serve held behind => (if behind then c.spawnBehind e.uri else c).settle i e.uri (.ok held) errand
    | .fetch => c.setCaller i (.reach e.uri e.attempts errand)
    | .refuse => c.setCaller i (.excuse e.uri errand)

/-- The second look for a key. It reads the floor and the count of refreshes, and not the keys. -/
def lookAgain (c : Crowd) (i : Nat) (uri id : String) : Crowd :=
  match c.gate.lookup? uri with
  | none => c.finishCaller i (.key (.error (Gate.unregistered uri)))
  | some e =>
    if e.mayRefresh c.gate.now then c.setCaller i (.reach uri e.attempts (.forcedKey id))
    else c.finishCaller i (.key (.error (.unknownKey id)))

/-- Tells why there are no keys, as it stands when the entry is read once more. -/
def excuse (c : Crowd) (i : Nat) (uri : String) (errand : Errand) : Crowd :=
  match c.gate.lookup? uri with
  | none => c.settle i uri (.error (Gate.unregistered uri)) errand
  | some e => c.settle i uri (.error e.unavailable) errand

/-- A sweep goes to its next endpoint. -/
def visit (c : Crowd) (i : Nat) (uris : List String) (count : Nat) : Crowd :=
  match uris with
  | [] => c.finishCaller i (.refreshed count)
  | uri :: later =>
    match c.gate.lookup? uri with
    | none => c.setCaller i (.visit later count)
    | some _ => c.setCaller i (.read uri c.gate.now (.sweep later count))

/-- A caller with the guard fetches, unless another refresh has ended since its look at the entry. -/
def compare (c : Crowd) (i : Nat) (uri : String) (seen : Nat) (errand : Errand) : Crowd :=
  match c.gate.lookup? uri with
  | none => (c.release uri).settle i uri (.error (Gate.unregistered uri)) errand
  | some e =>
    if e.attempts = seen then (c.spawn uri (some i)).setCaller i (.join uri errand)
    else (c.release uri).settle i uri e.joined errand

/-- A caller moves on to the next place where it may have to wait. -/
def move (c : Crowd) (i : Nat) : Crowd :=
  match c.callers[i]? with
  | some (.look (.keys uri)) => c.look i uri .keys
  | some (.look (.key uri id)) => c.look i uri (.firstKey id)
  | some (.look .sweep) => c.setCaller i (.visit (c.gate.entries.map (·.uri)) 0)
  | some (.read uri time errand) =>
    match c.gate.lookup? uri with
    | none => c
    | some e => c.serve i e time errand
  | some (.lookAgain uri id) => c.lookAgain i uri id
  | some (.excuse uri errand) => c.excuse i uri errand
  | some (.visit uris count) => c.visit i uris count
  | some (.reach uri seen errand) => c.acquire i uri seen errand
  | some (.compare uri seen errand) => c.compare i uri seen errand
  | _ => c

/-- A caller leaves. It gives up its place in line, or the guard. -/
def cancel (c : Crowd) (i : Nat) : Crowd :=
  match c.callers[i]? with
  | some (.queue uri _ _) =>
    let g := c.guard uri
    (c.setGuard { g with line := g.line.filter (· ≠ i) }).setCaller i .gone
  | some (.compare uri _ _) => (c.release uri).setCaller i .gone
  | some (.done _ _) | none => c
  | some _ => c.setCaller i .gone

/-! ## Fetches -/

/-- How the fetch will end is settled here, and nobody sees it before it has ended. -/
def request (c : Crowd) (n : Nat) (uri : String) : Crowd :=
  let g := c.gate
  let run := Fetched.run g.settings g.epoch uri g.network g.now
  { c with gate := { g with network := run.state } }.setPhase n (.running g.now run)

/-- A fetch goes on to the next place where it may wait. One that nobody waits for looks again whether
it is due. -/
def start (c : Crowd) (n : Nat) : Crowd :=
  match c.fetches[n]? with
  | some ⟨uri, some _, .spawned⟩ => c.request n uri
  | some ⟨_, none, .spawned⟩ => c.setPhase n (.woken c.gate.now)
  | some ⟨uri, none, .woken time⟩ =>
    match c.gate.lookup? uri with
    | none => (c.setPhase n .ended).release uri
    | some e => if e.isDue time then c.request n uri else (c.setPhase n .ended).release uri
  | _ => c

/-- The answer for the caller who is still waiting for it. -/
def tell (c : Crowd) (waiter : Option Nat) (answer : KeyAnswer) : Crowd :=
  match waiter with
  | none => c
  | some i =>
    match c.callers[i]? with
    | some (.join uri errand) => c.settle i uri answer errand
    | _ => c

/-- A fetch whose time has come stores its result, frees the guard, and answers. -/
def finish (c : Crowd) (n : Nat) : Crowd :=
  match c.fetches[n]? with
  | some ⟨uri, waiter, .running started run⟩ =>
    match c.gate.lookup? uri with
    | none => c
    | some e =>
      if run.ended ≤ c.gate.now then
        let (answer, g) := c.gate.publishRefresh e ⟨uri, started, c.gate.now, run.result⟩
        (({ c with gate := g }.setPhase n .ended).release uri).tell waiter answer
      else c
  | _ => c

/-! ## All that may happen -/

/-- What may happen next. An action that is not possible changes nothing. -/
inductive Action
  | arrive (wish : Wish)
  | move (i : Nat)
  | cancel (i : Nat)
  | start (n : Nat)
  | finish (n : Nat)
  | wait (s : Span)
  | register (uri : String) (floor : Span)
  | publish (url : String) (replies : List Http.Reply)

def step (c : Crowd) : Action → Crowd
  | .arrive wish => { c with callers := c.callers ++ [.look wish] }
  | .move i => c.move i
  | .cancel i => c.cancel i
  | .start n => c.start n
  | .finish n => c.finish n
  | .wait s => { c with gate := c.gate.wait s }
  | .register uri floor => { c with gate := c.gate.register uri floor }
  | .publish url replies => { c with gate := c.gate.publish url replies }

def run (c : Crowd) (actions : List Action) : Crowd := actions.foldl step c

end Crowd

end TokenGate
