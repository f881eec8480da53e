import TokenGate.Proofs.Cache.History
import TokenGate.Proofs.Crowd.Views

/-!
# All that one action can do

Each action of a crowd is one of the turns below. A turn names who acts, what it has seen and what it
changes, so a law of the crowd is a case analysis on turns.
-/

namespace TokenGate

namespace Stage

/-- Neither asks for a guard, nor holds one, nor waits for a fetch. -/
def isFree : Stage → Bool
  | reach _ _ _ | queue _ _ _ | compare _ _ _ | join _ _ => false
  | _ => true

/-- The time by which a caller judges an entry. -/
def clock (now : Instant) : Stage → Instant
  | read _ time _ => time
  | _ => now

theorem queued?_of_isFree {s : Stage} (h : s.isFree) : s.queued? = none := by
  cases s <;> simp_all [isFree, queued?]

theorem held?_of_isFree {s : Stage} (h : s.isFree) : s.held? = none := by
  cases s <;> simp_all [isFree, held?]

end Stage

theorem Errand.isFree_next (uri : String) (answer : KeyAnswer) (now : Instant) (errand : Errand) :
    (errand.next uri answer now).isFree := by
  cases errand with
  | firstKey id =>
    simp only [Errand.next]
    cases Gate.FirstLook.ofAnswer id answer <;> rfl
  | _ => rfl

theorem Errand.clock_next (uri : String) (answer : KeyAnswer) (now : Instant) (errand : Errand) :
    (errand.next uri answer now).clock now = now := by
  cases errand with
  | firstKey id =>
    simp only [Errand.next]
    cases Gate.FirstLook.ofAnswer id answer <;> rfl
  | _ => rfl

namespace Crowd

def published (c : Crowd) (n : Nat) (e : Entry) (r : Refresh) (waiter : Option Nat) : Crowd :=
  let p := c.gate.publishRefresh e r
  (({ c with gate := p.2 }.setPhase n .ended).release r.uri).tell waiter p.1

inductive Turn (c : Crowd) : Action → Crowd → Prop
  | stays (a : Action) : Turn c a c
  | arrives (wish : Wish) : Turn c (.arrive wish) { c with callers := c.callers ++ [.look wish] }
  | passes {i : Nat} {s s' : Stage} (here : c.callers[i]? = some s) (free : s.isFree)
      (free' : s'.isFree) (clock : s'.clock c.gate.now = c.gate.now) :
      Turn c (.move i) (c.setCaller i s')
  | observes {i : Nat} {s : Stage} {e : Entry} (errand : Errand) (here : c.callers[i]? = some s)
      (free : s.isFree) (found : c.gate.lookup? e.uri = some e)
      (may : e.mayRefresh (s.clock c.gate.now)) :
      Turn c (.move i) (c.setCaller i (.reach e.uri e.attempts errand))
  | spawnsBehind {i : Nat} {s s' : Stage} {e : Entry} (here : c.callers[i]? = some s)
      (free : s.isFree) (free' : s'.isFree) (clock : s'.clock c.gate.now = c.gate.now)
      (found : c.gate.lookup? e.uri = some e) (idle : (c.guard e.uri).holder = none) :
      Turn c (.move i) ((c.spawn e.uri none).setCaller i s')
  | takes {i seen : Nat} {uri : String} {errand : Errand}
      (here : c.callers[i]? = some (.reach uri seen errand)) (idle : (c.guard uri).holder = none) :
      Turn c (.move i)
        ((c.setGuard ⟨uri, some (.caller i), (c.guard uri).line⟩).setCaller i
          (.compare uri seen errand))
  | queues {i seen : Nat} {uri : String} {errand : Errand} {h : Holder}
      (here : c.callers[i]? = some (.reach uri seen errand))
      (busy : (c.guard uri).holder = some h) :
      Turn c (.move i)
        ((c.setGuard ⟨uri, some h, (c.guard uri).line ++ [i]⟩).setCaller i (.queue uri seen errand))
  | joins {i seen : Nat} {uri : String} {errand : Errand} {answer : KeyAnswer}
      (here : c.callers[i]? = some (.compare uri seen errand))
      (late : ∀ e, c.gate.lookup? uri = some e → e.attempts ≠ seen ∧ answer = e.joined) :
      Turn c (.move i) ((c.release uri).setCaller i (errand.next uri answer c.gate.now))
  | begins {i : Nat} {uri : String} {errand : Errand} {e : Entry}
      (here : c.callers[i]? = some (.compare uri e.attempts errand))
      (found : c.gate.lookup? uri = some e) :
      Turn c (.move i) ((c.spawn uri (some i)).setCaller i (.join uri errand))
  | quits {i : Nat} {s : Stage} (here : c.callers[i]? = some s) (queued : s.queued? = none)
      (held : s.held? = none) :
      Turn c (.cancel i) (c.setCaller i .gone)
  | quitsLine {i seen : Nat} {uri : String} {errand : Errand}
      (here : c.callers[i]? = some (.queue uri seen errand)) :
      Turn c (.cancel i)
        ((c.setGuard ⟨uri, (c.guard uri).holder, (c.guard uri).line.filter (· ≠ i)⟩).setCaller i .gone)
  | quitsGuard {i seen : Nat} {uri : String} {errand : Errand}
      (here : c.callers[i]? = some (.compare uri seen errand)) :
      Turn c (.cancel i) ((c.release uri).setCaller i .gone)
  | wakes {n : Nat} {uri : String} (here : c.fetches[n]? = some ⟨uri, none, .spawned⟩) :
      Turn c (.start n) (c.setPhase n (.woken c.gate.now))
  | asks {n : Nat} {f : Fetch} (here : c.fetches[n]? = some f) (ready : f.phase.canMove)
      (due : f.phase = .spawned ∧ f.waiter.isSome ∨ ∃ time e, f.phase = .woken time ∧
        c.gate.lookup? f.uri = some e ∧ e.isDue time) :
      Turn c (.start n) (c.request n f.uri)
  | retires {n : Nat} {uri : String} {time : Instant}
      (here : c.fetches[n]? = some ⟨uri, none, .woken time⟩) :
      Turn c (.start n) ((c.setPhase n .ended).release uri)
  | publishes {n : Nat} {uri : String} {waiter : Option Nat} {started : Instant} {run : Fetched.Run}
      {e : Entry} (here : c.fetches[n]? = some ⟨uri, waiter, .running started run⟩)
      (found : c.gate.lookup? uri = some e) (past : run.ended ≤ c.gate.now) :
      Turn c (.finish n) (c.published n e ⟨uri, started, c.gate.now, run.result⟩ waiter)
  | waits (s : Span) : Turn c (.wait s) { c with gate := c.gate.wait s }
  | registers (uri : String) (floor : Span) :
      Turn c (.register uri floor) { c with gate := c.gate.register uri floor }
  | scripts (url : String) (replies : List Http.Reply) :
      Turn c (.publish url replies) { c with gate := c.gate.publish url replies }

variable {c : Crowd} {i n : Nat} {uri : String}

/-! ## Callers -/

theorem turn_settle {s : Stage} (here : c.callers[i]? = some s) (free : s.isFree)
    (uri : String) (answer : KeyAnswer) (errand : Errand) :
    Turn c (.move i) (c.settle i uri answer errand) :=
  .passes here free (errand.isFree_next ..) (errand.clock_next ..)

theorem turn_look {s : Stage} (here : c.callers[i]? = some s) (free : s.isFree)
    (uri : String) (errand : Errand) : Turn c (.move i) (c.look i uri errand) := by
  unfold look
  split
  · exact turn_settle here free ..
  · exact .passes here free rfl rfl

theorem turn_serve {e : Entry} {time : Instant} {errand : Errand}
    (here : c.callers[i]? = some (.read uri time errand)) (found : c.gate.lookup? uri = some e) :
    Turn c (.move i) (c.serve i e time errand) := by
  obtain rfl := Gate.uri_of_lookup? found
  unfold serve
  split
  · split
    · rename_i due
      exact .observes _ here rfl found (Entry.mayRefresh_of_isDue due)
    · exact .passes here rfl rfl rfl
  · split
    · rename_i held behind _
      cases behind with
      | false => exact turn_settle here rfl ..
      | true =>
        simp only [if_true, spawnBehind]
        cases idle : (c.guard e.uri).holder with
        | none =>
          simp only [Option.isSome_none, Bool.false_eq_true, if_false]
          exact .spawnsBehind here rfl (Errand.isFree_next ..) (Errand.clock_next ..) found idle
        | some h =>
          simp only [Option.isSome_some, if_true]
          exact turn_settle here rfl ..
    · rename_i fetch
      exact .observes _ here rfl found (Entry.mayRefresh_of_fetch fetch)
    · exact .passes here rfl rfl rfl

theorem turn_lookAgain {id : String} (here : c.callers[i]? = some (.lookAgain uri id)) :
    Turn c (.move i) (c.lookAgain i uri id) := by
  unfold lookAgain
  split
  · exact .passes here rfl rfl rfl
  · rename_i e found
    obtain rfl := Gate.uri_of_lookup? found
    split
    · rename_i may
      exact .observes _ here rfl found may
    · exact .passes here rfl rfl rfl

theorem turn_excuse {errand : Errand} (here : c.callers[i]? = some (.excuse uri errand)) :
    Turn c (.move i) (c.excuse i uri errand) := by
  unfold excuse
  split <;> exact turn_settle here rfl ..

theorem turn_visit {uris : List String} {count : Nat}
    (here : c.callers[i]? = some (.visit uris count)) : Turn c (.move i) (c.visit i uris count) := by
  unfold visit
  split
  · exact .passes here rfl rfl rfl
  · split <;> exact .passes here rfl rfl rfl

theorem turn_acquire {seen : Nat} {errand : Errand}
    (here : c.callers[i]? = some (.reach uri seen errand)) :
    Turn c (.move i) (c.acquire i uri seen errand) := by
  cases h : (c.guard uri).holder with
  | none =>
    simp only [acquire, h, uri_guard]
    exact .takes here h
  | some holder =>
    simp only [acquire, h, uri_guard]
    exact .queues here h

theorem turn_compare {seen : Nat} {errand : Errand}
    (here : c.callers[i]? = some (.compare uri seen errand)) :
    Turn c (.move i) (c.compare i uri seen errand) := by
  unfold compare settle
  split
  · rename_i none
    rw [gate_release]
    exact .joins here fun e found => by rw [none] at found; cases found
  · rename_i e found
    split
    · rename_i same
      subst same
      exact .begins here found
    · rename_i differs
      rw [gate_release]
      refine .joins here fun e' found' => ?_
      rw [found] at found'
      obtain rfl := Option.some.inj found'
      exact ⟨differs, rfl⟩

theorem turn_move (c : Crowd) (i : Nat) : Turn c (.move i) (c.move i) := by
  unfold move
  split
  · rename_i here; exact turn_look here rfl ..
  · rename_i here; exact turn_look here rfl ..
  · rename_i here; exact .passes here rfl rfl rfl
  · rename_i here
    split
    · exact .stays _
    · rename_i found; exact turn_serve here found
  · rename_i here; exact turn_lookAgain here
  · rename_i here; exact turn_excuse here
  · rename_i here; exact turn_visit here
  · rename_i here; exact turn_acquire here
  · rename_i here; exact turn_compare here
  · exact .stays _

theorem turn_cancel (c : Crowd) (i : Nat) : Turn c (.cancel i) (c.cancel i) := by
  unfold cancel
  split
  · rename_i here
    simp only [uri_guard]
    exact .quitsLine here
  · rename_i here; exact .quitsGuard here
  · exact .stays _
  · exact .stays _
  · rename_i s hq hc _ here
    refine .quits here ?_ ?_
    · exact Option.eq_none_iff_forall_not_mem.2 fun uri h => by
        obtain ⟨seen, errand, rfl⟩ := Stage.queued?_eq_some_iff.1 h
        exact hq _ _ _ rfl
    · exact Option.eq_none_iff_forall_not_mem.2 fun uri h => by
        obtain ⟨seen, errand, rfl⟩ := Stage.held?_eq_some_iff.1 h
        exact hc _ _ _ rfl

/-! ## Fetches -/

theorem turn_start (c : Crowd) (n : Nat) : Turn c (.start n) (c.start n) := by
  unfold start
  split
  · rename_i here
    have asks := Turn.asks here rfl (.inl ⟨rfl, rfl⟩)
    exact asks
  · rename_i here; exact .wakes here
  · rename_i here
    split
    · exact .retires here
    · rename_i found
      split
      · rename_i due
        have asks := Turn.asks here rfl (.inr ⟨_, _, rfl, found, due⟩)
        exact asks
      · exact .retires here
  · exact .stays _

theorem turn_finish (c : Crowd) (n : Nat) : Turn c (.finish n) (c.finish n) := by
  unfold finish
  split
  · rename_i here
    split
    · exact .stays _
    · rename_i found
      split
      · rename_i past
        exact .publishes here found past
      · exact .stays _
  · exact .stays _

theorem turn_step (c : Crowd) (a : Action) : Turn c a (c.step a) := by
  cases a with
  | arrive wish => exact .arrives wish
  | move i => exact c.turn_move i
  | cancel i => exact c.turn_cancel i
  | start n => exact c.turn_start n
  | finish n => exact c.turn_finish n
  | wait s => exact .waits s
  | register uri floor => exact .registers uri floor
  | publish url replies => exact .scripts url replies

end Crowd

end TokenGate
