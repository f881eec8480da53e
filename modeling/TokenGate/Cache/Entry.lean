import TokenGate.AuthError
import TokenGate.Cache.Fetch
import TokenGate.Key.KeySet
import TokenGate.Metrics

/-!
# The cache entry of one endpoint

An entry remembers the last key set, how long it is fresh, and when the last refresh ended. The
decisions that callers take on it are here: serve, fetch, or refuse. A refresh may start only when
the floor has passed since the last one, whatever the server says about freshness.
-/

/-!
## Refreshes

A refresh is one fetch of an endpoint with all its attempts. What has happened to an endpoint is the
list of its refreshes.
-/

namespace TokenGate

/-- When it ended, its result was there and had not yet been stored. -/
structure Refresh where
  uri : String
  started : Instant
  ended : Instant
  result : Except FetchFault Fetched

namespace Refresh

def took (r : Refresh) : Span := r.ended.since r.started

/-- The keys that were fetched, whether or not they could be stored with all that belongs to them. -/
def keySet? (r : Refresh) : Option KeySet :=
  match r.result with
  | .ok fetched => some (.ofKeys r.uri fetched.keys)
  | .error _ => none

/-- What the metrics see of a refresh. Its attempts count as one. -/
def samples (r : Refresh) : List Metrics.Sample :=
  match r.keySet? with
  | some keys => [.refresh "success" r.took, .keys r.uri keys.size]
  | none => [.refresh "error" r.took]

end Refresh

/-! ## Entries -/

/-- A key set, and the number of the refresh that brought it. Two sets of one number are the same
object. -/
structure HeldKeys where
  keys : KeySet
  refreshNumber : Nat
  deriving DecidableEq

/-- Keys stay until others take their place. Nothing ever takes them away. -/
structure Entry where
  uri : String
  floor : Span
  held : Option HeldKeys
  attempts : Nat
  lastAttempt : Option Instant
  freshUntil : Option Instant
  /-- The text of the last failure, if no success followed it. -/
  lastError : Option String
  deriving DecidableEq

/-- What a caller gets who asks for keys. -/
abbrev KeyAnswer := Except AuthError HeldKeys

namespace Entry

def new (uri : String) (floor : Span) : Entry := ⟨uri, floor, none, 0, none, none, none⟩

/-- Keys whose freshness was never stored count as stale. -/
def isStale (e : Entry) (now : Instant) : Bool :=
  match e.freshUntil with
  | none => true
  | some t => decide (t ≤ now)

/-- The floor is counted from the end of the last refresh, successful or not. -/
def mayRefresh (e : Entry) (now : Instant) : Bool :=
  match e.lastAttempt with
  | none => true
  | some t => decide (e.floor ≤ now.since t)

def isDue (e : Entry) (now : Instant) : Bool := e.isStale now && e.mayRefresh now

/-- The last failure, for a caller who finds no keys. -/
def unavailable (e : Entry) : AuthError :=
  .keysUnavailable (e.lastError.getD "no key set fetched yet")

/-! ## Decisions -/

/-- What to do for a caller who asks for keys. -/
inductive Decision
  /-- Serve the keys, and refresh them behind the caller's back if need be. -/
  | serve (held : HeldKeys) (refresh : Bool)
  | fetch
  | refuse

/-- Held keys are served at once, however old they are. -/
def decision (e : Entry) (now : Instant) : Decision :=
  match e.held with
  | some held => .serve held (e.isDue now)
  | none => if e.mayRefresh now then .fetch else .refuse

theorem mayRefresh_of_isDue {e : Entry} {t : Instant} (h : e.isDue t) : e.mayRefresh t := by
  unfold isDue at h
  simp only [Bool.and_eq_true] at h
  exact h.2

theorem mayRefresh_of_fetch {e : Entry} {t : Instant} (h : e.decision t = .fetch) :
    e.mayRefresh t := by
  unfold decision at h
  split at h
  · cases h
  · split at h
    · assumption
    · cases h

theorem mayRefresh_of_serve {e : Entry} {t : Instant} {held : HeldKeys}
    (h : e.decision t = .serve held true) : e.mayRefresh t := by
  unfold decision at h
  split at h
  · simp only [Decision.serve.injEq] at h
    exact mayRefresh_of_isDue h.2
  · split at h <;> cases h

/-- What the last refresh left, for a caller who waited while another one's refresh went on. -/
def joined (e : Entry) : KeyAnswer :=
  match e.held with
  | some held => .ok held
  | none => .error e.unavailable

/-! ## Publishing -/

/-- What a caller hears when the refresh that he waited for has broken off. -/
def refreshFailed : AuthError := .keysUnavailable "refresh task failed"

/-- What a refresh answers its callers, and what it leaves. -/
structure Published where
  answer : KeyAnswer
  entry : Entry

/-- Every refresh counts, and starts the floor anew, before anything else is stored. -/
def counted (e : Entry) (r : Refresh) : Entry :=
  { e with attempts := e.attempts + 1, lastAttempt := some r.ended }

/-- Stores fetched keys. When the clock cannot show the end of their freshness, the keys are there
all the same, and stale. -/
def publishKeys (s : FetchSettings) (e : Entry) (r : Refresh) (fetched : Fetched) : Published :=
  let held : HeldKeys := ⟨.ofKeys e.uri fetched.keys, e.attempts + 1⟩
  let e := { e.counted r with held := some held }
  match r.ended.plus? (Freshness.granted fetched.hint s.freshness e.floor) with
  | some t => ⟨.ok held, { e with freshUntil := some t, lastError := none }⟩
  | none => ⟨.error refreshFailed, e⟩

/-- A failure leaves the keys that are held, and is answered with them. -/
def publishFault (e : Entry) (r : Refresh) (fault : FetchFault) : Published :=
  let e := { e.counted r with lastError := some fault.message }
  ⟨e.joined, e⟩

def publish (s : FetchSettings) (e : Entry) (r : Refresh) : Published :=
  match r.result with
  | .ok fetched => e.publishKeys s r fetched
  | .error fault => e.publishFault r fault

/-- Beyond the count of refreshes, publishing touches only the keys, their freshness and the last
failure. -/
theorem entry_publish (s : FetchSettings) (e : Entry) (r : Refresh) :
    ∃ held freshUntil lastError,
      (e.publish s r).entry = { e.counted r with held, freshUntil, lastError } := by
  unfold publish publishKeys publishFault
  split
  · simp only
    split
    · exact ⟨_, _, _, rfl⟩
    · exact ⟨_, _, _, rfl⟩
  · exact ⟨_, _, _, rfl⟩

@[simp] theorem uri_publish (s : FetchSettings) (e : Entry) (r : Refresh) :
    (e.publish s r).entry.uri = e.uri := by
  obtain ⟨_, _, _, h⟩ := e.entry_publish s r
  rw [h]; rfl

@[simp] theorem floor_publish (s : FetchSettings) (e : Entry) (r : Refresh) :
    (e.publish s r).entry.floor = e.floor := by
  obtain ⟨_, _, _, h⟩ := e.entry_publish s r
  rw [h]; rfl

@[simp] theorem attempts_publish (s : FetchSettings) (e : Entry) (r : Refresh) :
    (e.publish s r).entry.attempts = e.attempts + 1 := by
  obtain ⟨_, _, _, h⟩ := e.entry_publish s r
  rw [h]; rfl

@[simp] theorem lastAttempt_publish (s : FetchSettings) (e : Entry) (r : Refresh) :
    (e.publish s r).entry.lastAttempt = some r.ended := by
  obtain ⟨_, _, _, h⟩ := e.entry_publish s r
  rw [h]; rfl

/-! ## Status -/

structure Status where
  uri : String
  ready : Bool
  keyCount : Nat
  stale : Bool
  deriving DecidableEq

def status (e : Entry) (now : Instant) : Status :=
  ⟨e.uri, e.held.isSome, e.held.elim 0 (·.keys.size), e.isStale now⟩

end Entry

end TokenGate
