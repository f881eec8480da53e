import TokenGate.Crowd.Basic

/-!
# One order of events

Of all orders in which callers and fetches may take turns, this is the fair one: callers move in the
order of their arrival, then fetches begin, and time passes only when nobody can move. It moves to
the next event, which is the end of the running fetches or the end of a caller's patience.
-/

namespace TokenGate.Crowd

/-- When each caller leaves, if it is to leave. -/
abbrev Patience := List (Option Instant)

def mover? (c : Crowd) : Option Nat := c.callers.findIdx? Stage.canMove

/-- The first fetch that can begin, or go on to its request. -/
def starter? (c : Crowd) : Option Nat := c.fetches.findIdx? (·.phase.canMove)

structure Event where
  time : Instant
  action : Action

/-- The length of a fetch that began at this very time. -/
def lengthFrom (started : Instant) (f : Fetch) : Span :=
  match f.phase with
  | .running begun run => if begun = started then run.ended.since begun else .zero
  | _ => .zero

/-- When the fetches that began at `started` end. They share the clock: each one's pauses and delays
hold up the others. -/
def endOf (c : Crowd) (started : Instant) : Instant :=
  c.fetches.foldl (fun t f => t.plus (lengthFrom started f)) started

def fetchEvents (c : Crowd) : List Event :=
  c.fetches.zipIdx.filterMap fun (f, n) =>
    match f.phase with
    | .running started _ => some ⟨c.endOf started, .finish n⟩
    | _ => none

def leaveEvents (c : Crowd) (patience : Patience) : List Event :=
  c.callers.zipIdx.filterMap fun (s, i) =>
    if s.isOver then none
    else (patience.getD i none).map fun t => ⟨t, .cancel i⟩

/-- Of two events at one time it is the first. -/
def earlier (found : Option Event) (e : Event) : Option Event :=
  match found with
  | none => some e
  | some f => if e.time < f.time then some e else some f

/-- The next event. A caller whose patience ends leaves before a fetch that ends then. -/
def nextEvent? (c : Crowd) (patience : Patience) : Option Event :=
  (c.leaveEvents patience ++ c.fetchEvents).foldl earlier none

/-- Time does not run backwards. -/
def jump (c : Crowd) (t : Instant) : Crowd :=
  if c.gate.now ≤ t then { c with gate := { c.gate with now := t } } else c

/-- Callers move until all of them have to wait. -/
def advanceCallers : (fuel : Nat) → Crowd → Crowd
  | 0, c => c
  | fuel + 1, c =>
    match c.mover? with
    | some i => advanceCallers fuel (c.move i)
    | none => c

/-- Goes on until nothing is left to do. -/
def runOut (patience : Patience) : (fuel : Nat) → Crowd → Crowd
  | 0, c => c
  | fuel + 1, c =>
    match c.mover?, c.starter?, c.nextEvent? patience with
    | some i, _, _ => runOut patience fuel (c.move i)
    | none, some n, _ => runOut patience fuel (c.start n)
    | none, none, some e => runOut patience fuel ((c.jump e.time).step e.action)
    | none, none, none => c

/-- More than all callers and fetches can do: each caller passes a few stages, and for each endpoint
of a sweep a few more. -/
def enough (c : Crowd) : Nat := (c.callers.length + 1) * (c.gate.entries.length + 2) * 24

/-- A caller arrives, and all move as far as they can. -/
def enter (c : Crowd) (wish : Wish) : Crowd :=
  let c := c.step (.arrive wish)
  advanceCallers c.enough c

/-- Everybody has an answer or has left, and no fetch is running. -/
def toEnd (c : Crowd) (patience : Patience) : Crowd := runOut patience c.enough c

end TokenGate.Crowd
