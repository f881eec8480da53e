import TokenGate.Cache.Entry
import TokenGate.Discovery

/-!
# The gate

All that a running service remembers: the entries of its key endpoints, the network behind them, the
clock, and what has happened so far. A call is answered at some instant. The work that it set off may
go on for longer, and has ended in the gate that the call leaves.
-/

namespace TokenGate

/-- What has happened that the metrics tell of, in the order in which it ended. -/
inductive Event
  | refreshed (r : Refresh)
  | validated (outcome : String) (took : Span)

def Event.samples : Event → List Metrics.Sample
  | refreshed r => r.samples
  | validated outcome took => [.validation outcome took]

/-- Entries stand in the order of their registration, one for each endpoint. -/
structure Gate where
  settings : FetchSettings
  epoch : Stamp
  now : Instant
  entries : List Entry
  network : Http.Network
  events : List Event

/-- What a call was answered, and when, and the gate after all that the call set off. -/
structure Answered (α : Type) where
  answer : α
  time : Instant
  gate : Gate

namespace Gate

/-- Nothing has been registered yet, and nothing has happened. -/
def new (settings : FetchSettings) (epoch : Stamp) (network : Http.Network) : Gate :=
  ⟨settings, epoch, .start, [], network, []⟩

def lookup? (g : Gate) (uri : String) : Option Entry := g.entries.find? (·.uri = uri)

def put (g : Gate) (e : Entry) : Gate :=
  { g with entries := g.entries.map fun old => if old.uri = e.uri then e else old }

/-- Starts to track an endpoint. One that is tracked already keeps its floor. -/
def register (g : Gate) (uri : String) (floor : Span) : Gate :=
  if (g.lookup? uri).isSome then g else { g with entries := g.entries ++ [.new uri floor] }

theorem lookup?_put {g : Gate} {e old : Entry} (h : g.lookup? e.uri = some old) :
    (g.put e).lookup? e.uri = some e := by
  simp only [lookup?, put] at h ⊢
  generalize g.entries = es at h ⊢
  induction es with
  | nil => simp at h
  | cons x xs ih =>
    by_cases hx : x.uri = e.uri
    · simp [hx]
    · simp only [List.find?_cons, List.map_cons, hx, decide_false, if_false] at h ⊢
      exact ih h

theorem lookup?_put_of_ne (g : Gate) {e : Entry} {uri : String} (h : uri ≠ e.uri) :
    (g.put e).lookup? uri = g.lookup? uri := by
  simp only [lookup?, put]
  induction g.entries with
  | nil => rfl
  | cons x xs ih =>
    by_cases hx : x.uri = e.uri
    · simp [hx, h.symm, ih]
    · by_cases hu : x.uri = uri
      · simp [hu, h]
      · simp [hx, hu, ih]

theorem lookup?_register_of_some {g : Gate} {uri : String} {e : Entry} (h : g.lookup? uri = some e)
    (other : String) (floor : Span) : (g.register other floor).lookup? uri = some e := by
  unfold register
  split
  · exact h
  · simp only [lookup?, List.find?_append] at h ⊢
    rw [h, Option.some_or]

/-- A server changes its mind, from its next reply on. -/
def publish (g : Gate) (url : String) (replies : List Http.Reply) : Gate :=
  { g with network := g.network.publish url replies }

def record (g : Gate) (e : Event) : Gate := { g with events := g.events ++ [e] }

def wait (g : Gate) (s : Span) : Gate := { g with now := g.now.plus s }

def wallStamp (g : Gate) : Stamp := Clock.wallStamp g.epoch g.now

/-- Ascending by endpoint. It asks nobody. -/
def status (g : Gate) : List Entry.Status :=
  (g.entries.map (·.status g.now)).mergeSort fun a b => decide (a.uri ≤ b.uri)

/-- All that has happened, in the text format. -/
def metricLines (g : Gate) : List String := Metrics.lines (g.events.flatMap Event.samples)

/-- An answer that sets nothing off. -/
def reply {α : Type} (g : Gate) (a : α) : Answered α := ⟨a, g.now, g⟩

/-- A refresh has ended: its entry is put back, and the event noted. -/
def publishRefresh (g : Gate) (e : Entry) (r : Refresh) : KeyAnswer × Gate :=
  let p := e.publish g.settings r
  (p.answer, (g.put p.entry).record (.refreshed r))

def refresh (g : Gate) (e : Entry) : KeyAnswer × Gate :=
  let run := Fetched.run g.settings g.epoch e.uri g.network g.now
  { g with now := run.ended, network := run.state }.publishRefresh e
    ⟨e.uri, g.now, run.ended, run.result⟩

/-- Looks up a provider. Only the body of a 200 is read. -/
def discover (g : Gate) (timeout : Span) (url : String) :
    Answered (Except AuthError ProviderMetadata) :=
  let e := Http.Exchange.run timeout g.network g.now url
  { g with now := e.doneAt (· == 200), network := e.network }.reply (Discovery.ofExchange url e)

end Gate

end TokenGate
