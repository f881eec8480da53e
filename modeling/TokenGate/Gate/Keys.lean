import TokenGate.Gate.Basic

/-!
# Looking up keys

The calls on the cache, one at a time. A key set that has gone stale is served all the same, and
refreshed behind the caller's back. A key that is not in the set may be new, so the set is refreshed
once, as far as the floor allows.
-/

namespace TokenGate.Gate

def unregistered (uri : String) : AuthError :=
  .keysUnavailable ("JWKS endpoint " ++ uri ++ " is not registered")

/-- Keys of an endpoint. Only a caller who finds none has to wait. -/
def get (g : Gate) (uri : String) : Answered KeyAnswer :=
  match g.lookup? uri with
  | none => g.reply (.error (unregistered uri))
  | some e =>
    match e.decision g.now with
    | .serve held false => g.reply (.ok held)
    | .serve held true => { g.reply (.ok held) with gate := (g.refresh e).2 }
    | .fetch =>
      let (answer, g) := g.refresh e
      g.reply answer
    | .refuse => g.reply (.error e.unavailable)

/-- The key of an id in an answer, for a caller who takes no for an answer. -/
def keyIn (id : String) (answer : KeyAnswer) : Except AuthError Jwk :=
  match answer with
  | .error err => .error err
  | .ok held =>
    match held.keys.get? id with
    | some k => .ok k
    | none => .error (.unknownKey id)

/-- After the first look a caller knows the answer, or that the key is missing from the set that is
held. -/
inductive FirstLook
  | settled (r : Except AuthError Jwk)
  | missing

/-- A key set without the key calls for a second look. -/
def FirstLook.ofAnswer (id : String) : KeyAnswer → FirstLook
  | .error err => .settled (.error err)
  | .ok held =>
    match held.keys.get? id with
    | some k => .settled (.ok k)
    | none => .missing

/-- What a refresh that somebody else began has left. -/
def joined (g : Gate) (uri : String) : KeyAnswer :=
  match g.lookup? uri with
  | none => .error (unregistered uri)
  | some e => e.joined

/-- Looks for a key. If a refresh has begun behind the caller's back and the key is missing, the
caller waits for that refresh. -/
def firstLook (g : Gate) (uri id : String) : Answered FirstLook :=
  match g.lookup? uri with
  | none => g.reply (.settled (.error (unregistered uri)))
  | some e =>
    match e.decision g.now with
    | .serve held behind =>
      let after := if behind then (g.refresh e).2 else g
      match held.keys.get? id, behind with
      | some k, _ => { g.reply (.settled (.ok k)) with gate := after }
      | none, true => after.reply (.settled (keyIn id (after.joined uri)))
      | none, false => g.reply .missing
    | .fetch =>
      let (answer, g) := g.refresh e
      g.reply (.ofAnswer id answer)
    | .refuse => g.reply (.settled (.error e.unavailable))

/-- Refreshes keys from which one is missing, though they may be fresh. The floor holds all the same. -/
def forceKey (g : Gate) (uri id : String) : Answered (Except AuthError Jwk) :=
  match g.lookup? uri with
  | none => g.reply (.error (unregistered uri))
  | some e =>
    if e.mayRefresh g.now then
      let (answer, g) := g.refresh e
      g.reply (keyIn id answer)
    else g.reply (.error (.unknownKey id))

/-- One look, and a second one if the key is missing. -/
def getKey (g : Gate) (uri id : String) : Answered (Except AuthError Jwk) :=
  let a := g.firstLook uri id
  match a.answer with
  | .settled r => { a with answer := r }
  | .missing => a.gate.forceKey uri id

/-- The key of an id, for a caller who waits until `deadline` at most. None: the caller gave up, and
asked for nothing more. What had begun goes on. -/
def getKeyBefore (g : Gate) (deadline : Instant) (uri id : String) :
    Answered (Option (Except AuthError Jwk)) :=
  let inTime {α : Type} (a : Answered α) : Bool := decide (a.time < deadline)
  let a := g.firstLook uri id
  if !inTime a then { a with answer := none }
  else
    match a.answer with
    | .settled r => { a with answer := some r }
    | .missing =>
      let b := a.gate.forceKey uri id
      { b with answer := if inTime b then some b.answer else none }

/-- Visits endpoints one after the other and refreshes those that are due. Counts the refreshed ones
that have keys afterwards. -/
def visit (g : Gate) : (count : Nat) → List String → Nat × Gate
  | count, [] => (count, g)
  | count, uri :: rest =>
    match g.lookup? uri with
    | none => visit g count rest
    | some e =>
      if e.isDue g.now then
        let (answer, g) := g.refresh e
        visit g (if answer.isOk then count + 1 else count) rest
      else visit g count rest

/-- A sweep over all endpoints that are registered when it starts. -/
def refreshStale (g : Gate) : Answered Nat :=
  let (count, g) := g.visit 0 (g.entries.map (·.uri))
  g.reply count

end TokenGate.Gate
