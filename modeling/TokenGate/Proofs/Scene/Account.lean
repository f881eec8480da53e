import TokenGate.Proofs.Crowd.Books
import TokenGate.Proofs.Service.Ending

/-!
# Verdicts, told and entered

Calls come one after the other or side by side, and some callers leave early. However they come, each
verdict that a caller waited for is entered once, and no other.
-/

namespace TokenGate

open Service (guardedToken?)

/-! ## One call -/

namespace Scene

variable {s : Scene} {c : Call} {w : Wish}

theorem books_perform (s : Scene) (c : Call) :
    ∃ o, c.Ends (s.perform c).1 o ∧ s.gate.Books o.toList (s.perform c).2.gate := by
  cases c with
  | register uri floor => exact ⟨none, .plain _ rfl, .registers ..⟩
  | get uri =>
    refine ⟨none, .plain _ rfl, ?_⟩
    simp only [perform, gate_getResult]
    exact s.gate.books_get uri
  | getKey uri id => exact ⟨none, .plain _ rfl, s.gate.books_getKey uri id⟩
  | status => exact ⟨none, .plain _ rfl, .refl _⟩
  | refreshStale => exact ⟨none, .plain _ rfl, s.gate.books_refreshStale⟩
  | publish | advance | discover => exact ⟨none, .plain _ rfl, .same rfl rfl⟩
  | validate token stamp =>
    unfold perform
    cases s.validator with
    | none => exact ⟨none, .unguarded _, .refl _⟩
    | some v => exact ⟨_, .judged token stamp _, Gate.books_validate ..⟩
  | request app r =>
    unfold perform
    cases s.validator with
    | none => exact ⟨none, .unguarded _, .refl _⟩
    | some v =>
      simp only [told, Gate.request]
      split
      · rename_i unguarded
        exact ⟨none, .plain _ (by rw [Call.validates, unguarded]; rfl), .refl _⟩
      · rename_i token guarded
        have books := s.gate.books_validateBefore s.check v token s.gate.wallStamp
          (s.gate.now.wake Service.requestTimeout)
        split
        · rename_i gaveUp
          rw [gaveUp] at books
          exact ⟨none, .late app r, books⟩
        · rename_i verdict judged
          rw [judged] at books
          exact ⟨some verdict.outcome, .served (by rw [guarded]; rfl) .., books⟩

theorem want_request {app : Service.App} {r : Service.Request} {token : String}
    (guarded : guardedToken? app r = some token) :
    s.want (.request app r) = s.validator.elim .none (wantOfToken · token) := by
  simp only [want, guarded]
  cases s.validator <;> rfl

theorem want_of_token {want : Want} {validator : Option Validator} {token : String}
    (same : want = validator.elim .none (wantOfToken · token)) (wants : want.wish? = some w) :
    ∃ v token header, want = .token v token header ∧ w = .key v.endpoint header.keyId := by
  subst same
  cases validator with
  | none => cases wants
  | some v =>
    simp only [Option.elim_some, wantOfToken] at wants ⊢
    cases read : Token.Header.ofToken token with
    | ok header =>
      rw [read] at wants
      exact ⟨v, token, header, rfl, (Option.some.inj wants).symm⟩
    | error fault =>
      rw [read] at wants
      cases wants

theorem want_of_validates (validates : c.validates) (wants : (s.want c).wish? = some w) :
    ∃ v token header, s.want c = .token v token header ∧ w = .key v.endpoint header.keyId := by
  cases c with
  | validate token stamp => exact want_of_token rfl wants
  | request app r =>
    obtain ⟨token, guarded⟩ := Option.isSome_iff_exists.1 validates
    exact want_of_token (want_request guarded) wants
  | _ => cases validates

theorem want_of_plain (plain : c.validates = false) (wants : (s.want c).wish? = some w) :
    s.want c = .plain w := by
  cases c with
  | get | getKey | refreshStale =>
    obtain rfl := Option.some.inj wants
    rfl
  | request app r =>
    have unguarded : guardedToken? app r = none := by simpa [Call.validates] using plain
    simp only [want, unguarded] at wants
    split at wants
    · rename_i none
      cases none
    · cases wants
  | validate => cases plain
  | _ => cases wants

/-- Enters what has been seen of a call. -/
def entered (g : Gate) (events : List Event) : Gate := events.foldl Gate.record g

theorem books_conclude (g : Gate) (came : Instant) {stage : Stage}
    (wants : (s.want c).wish? = some w) (suits : stage.Suits w) :
    ∃ o, c.Ends (s.conclude g came c (s.want c) stage).1 o ∧
      ∀ h : Gate, h.Books o.toList (entered h (s.conclude g came c (s.want c) stage).2) := by
  cases validates : c.validates with
  | false =>
    refine ⟨none, .plain _ validates, fun h => ?_⟩
    rw [want_of_plain validates wants]
    have nothing : (s.conclude g came c (.plain w) stage).2 = [] := by
      unfold conclude
      split <;> first | rfl | (rename_i same; cases same)
    rw [nothing]
    exact .refl h
  | true =>
    obtain ⟨v, token, header, same, rfl⟩ := want_of_validates validates wants
    rw [same]
    cases stage with
    | done outcome time =>
      cases outcome with
      | keys answer =>
        obtain ⟨uri, other⟩ := suits
        cases other
      | refreshed count => cases suits
      | key answer =>
        cases c with
        | validate token' stamp => exact ⟨_, .judged token' stamp _, fun h => .validates ..⟩
        | request app r => exact ⟨_, .served validates g v _, fun h => .validates ..⟩
        | _ => cases validates
    | _ =>
      -- The caller has left, or its turn has not come.
      cases c with
      | validate token' stamp => exact ⟨none, .left _, fun h => .refl h⟩
      | request app r => exact ⟨none, .late app r, fun h => .refl h⟩
      | _ => cases validates

end Scene

/-! ## Calls side by side -/

namespace Scene

variable {s : Scene}

/-- Calls that have come to a crowd, and what has become of each. Callers and fetches take their turns in
any order, and callers come and leave at any time. -/
inductive Gathers (s : Scene) : List (Call × Part) → Crowd → Prop
  | opens : Gathers s [] (.ofGate s.gate)
  | acts {visits : List (Call × Part)} {c : Crowd} (before : Gathers s visits c) (a : Crowd.Action)
      (stays : a.arrival? = none) : Gathers s visits (c.step a)
  | passes {visits : List (Call × Part)} {c : Crowd} (before : Gathers s visits c) (t : Instant) :
      Gathers s visits (c.jump t)
  | comes {visits : List (Call × Part)} {c : Crowd} (before : Gathers s visits c) (call : Call) (w : Wish)
      (wants : (s.want call).wish? = some w) :
      Gathers s (visits ++ [(call, .caller call (s.want call))]) (c.step (.arrive w))
  /-- A call that wants no keys is answered at once. -/
  | answers {visits : List (Call × Part)} {c : Crowd} (before : Gathers s visits c) (call : Call)
      (t : Instant) (wants : (s.want call).wish? = none) :
      Gathers s (visits ++ [(call, .answered ({ s with gate := c.gate }.perform call).1)])
        { c with gate := { ({ s with gate := c.gate }.perform call).2.gate with now := t } }

/-- What all calls are told, where caller `i` came at the instant `came i`, and what is to be entered. -/
def concludes (s : Scene) (c : Crowd) (came : Nat → Instant) : (i : Nat) → List (Call × Part) →
    List (Call × Result) × List Event
  | _, [] => ([], [])
  | i, (call, .answered r) :: rest =>
    let (told, events) := concludes s c came i rest
    ((call, r) :: told, events)
  | i, (call, .caller mine want) :: rest =>
    let (r, own) := conclude s c.gate (came i) mine want (c.callers.getD i .gone)
    let (told, events) := concludes s c came (i + 1) rest
    ((call, r) :: told, own ++ events)

theorem calls_concludes (s : Scene) (c : Crowd) (came : Nat → Instant) (i : Nat)
    (visits : List (Call × Part)) :
    (s.concludes c came i visits).1.map (·.1) = visits.map (·.1) := by
  induction visits generalizing i with
  | nil => rfl
  | cons p rest ih =>
    obtain ⟨call, part⟩ := p
    cases part with
    | answered r => simp only [concludes, List.map_cons, ih]
    | caller mine want => simp only [concludes, List.map_cons, ih]

theorem results_eq_concludes (s : Scene) (c : Crowd) (start : Instant) (i : Nat)
    (visits : List (Call × Part)) : s.results c start i (visits.map (·.2)) =
      ((s.concludes c (fun _ => start) i visits).1.map (·.2),
        (s.concludes c (fun _ => start) i visits).2) := by
  induction visits generalizing i with
  | nil => rfl
  | cons p rest ih =>
    obtain ⟨call, part⟩ := p
    cases part with
    | answered r => simp only [List.map_cons, results, concludes, ih]
    | caller mine want => simp only [List.map_cons, results, concludes, ih]

end Scene

/-! ## What is told, and what is entered -/

/-- The wish of a caller that is still to be told. -/
def Scene.Part.wish? : Scene.Part → Option Wish
  | answered _ => none
  | caller _ want => want.wish?

/-- What a call ended with that was answered at once. -/
def Call.early? : Call × Scene.Part → Option String
  | (c, .answered r) => c.ending? r
  | (_, .caller _ _) => none

/-- What the calls ended with, but for those whose callers left. -/
def endings (told : List (Call × Result)) : List String := told.filterMap fun p => p.1.ending? p.2

theorem endings_cons {c : Call} {r : Result} {o : Option String} (ends : c.Ends r o)
    (told : List (Call × Result)) : endings ((c, r) :: told) = o.toList ++ endings told := by
  unfold endings
  rw [List.filterMap_cons, ends.ending?]
  cases o <;> rfl

/-- From one gate to the other these calls were told of, and the verdicts among them entered. -/
structure Accounted (g : Gate) (told : List (Call × Result)) (g' : Gate) : Prop where
  ends : ∀ p ∈ told, ∃ o, p.1.Ends p.2 o
  books : ∃ os, g.Books os g' ∧ os.Perm (endings told)

namespace Accounted

variable {g g' g'' : Gate} {told told' : List (Call × Result)}

theorem of_books (books : g.Books [] g') : Accounted g [] g' :=
  ⟨by simp, [], books, .refl _⟩

theorem of_ends {c : Call} {r : Result} {o : Option String} (ends : c.Ends r o)
    (books : g.Books o.toList g') : Accounted g [(c, r)] g' := by
  refine ⟨fun p here => ?_, o.toList, books, ?_⟩
  · obtain rfl := List.mem_singleton.1 here
    exact ⟨o, ends⟩
  · rw [endings_cons ends, endings, List.filterMap_nil, List.append_nil]

theorem trans (first : Accounted g told g') (second : Accounted g' told' g'') :
    Accounted g (told ++ told') g'' := by
  obtain ⟨os, books, perm⟩ := first.books
  obtain ⟨os', books', perm'⟩ := second.books
  refine ⟨fun p here => (List.mem_append.1 here).elim (first.ends p) (second.ends p), os ++ os',
    books.trans books', ?_⟩
  rw [endings, List.filterMap_append]
  exact perm.append perm'

theorem tail (first : Accounted g told g') (books : g'.Books [] g'') : Accounted g told g'' := by
  have both := first.trans (of_books books)
  rwa [List.append_nil] at both

end Accounted

namespace Scene

variable {s : Scene} {c : Crowd} {visits : List (Call × Part)}

/-- What is known of a call that has come to a crowd. -/
inductive Fits (s : Scene) : Call × Part → Prop
  | answered {call : Call} {r : Result} {o : Option String} (ends : call.Ends r o) :
    Fits s (call, .answered r)
  | caller {call : Call} {w : Wish} (wants : (s.want call).wish? = some w) :
    Fits s (call, .caller call (s.want call))

structure Gathered (s : Scene) (visits : List (Call × Part)) (c : Crowd) : Prop where
  books : s.gate.Books (visits.filterMap Call.early?) c.gate
  serving : c.Serving (visits.filterMap (·.2.wish?))
  fits : ∀ p ∈ visits, s.Fits p

theorem Gathers.gathered (h : s.Gathers visits c) : s.Gathered visits c := by
  induction h with
  | opens => exact ⟨.refl _, Crowd.serving_ofGate _, by simp⟩
  | @acts visits c _ a stays ih => exact ⟨ih.books.tail (c.turn_step a).books, ih.serving.step stays, ih.fits⟩
  | @passes visits c _ t ih =>
    unfold Crowd.jump
    split
    · exact ⟨ih.books.tail (.same rfl rfl), ih.serving.of_callers rfl, ih.fits⟩
    · exact ih
  | @comes visits c _ call w wants ih =>
    obtain ⟨books, serving, fits⟩ := ih
    refine ⟨?_, ?_, fun p here => ?_⟩
    · rw [List.filterMap_append]
      exact books.trans (c.turn_step (.arrive w)).books
    · rw [List.filterMap_append, List.filterMap_cons, Part.wish?, wants]
      exact serving.arrive w
    · obtain old | new := List.mem_append.1 here
      · exact fits p old
      · obtain rfl := List.mem_singleton.1 new
        exact .caller wants
  | @answers visits c _ call t wants ih =>
    obtain ⟨books, serving, fits⟩ := ih
    obtain ⟨o, ends, entered⟩ := { s with gate := c.gate }.books_perform call
    refine ⟨?_, ?_, fun p here => ?_⟩
    · rw [List.filterMap_append]
      have early : [(call, Part.answered ({ s with gate := c.gate }.perform call).1)].filterMap Call.early? =
          o.toList := by
        rw [List.filterMap_cons, Call.early?, ends.ending?]
        cases o <;> rfl
      rw [early]
      exact (books.trans entered).tail (.same rfl rfl)
    · rw [List.filterMap_append, List.filterMap_cons, Part.wish?, List.filterMap_nil, List.append_nil]
      exact serving.of_callers rfl
    · obtain old | new := List.mem_append.1 here
      · exact fits p old
      · obtain rfl := List.mem_singleton.1 new
        exact .answered ends

/-- What the calls are told and what is entered at the end agree. -/
structure Concluded (visits : List (Call × Part)) (ended : List (Call × Result) × List Event) : Prop where
  ends : ∀ p ∈ ended.1, ∃ o, p.1.Ends p.2 o
  books : ∃ os, (∀ g : Gate, g.Books os (entered g ended.2)) ∧
    (visits.filterMap Call.early? ++ os).Perm (endings ended.1)

namespace Concluded

variable {call : Call} {r : Result} {o : Option String} {ended : List (Call × Result) × List Event}

theorem answered (h : Concluded visits ended) (ends : call.Ends r o) :
    Concluded ((call, .answered r) :: visits) ((call, r) :: ended.1, ended.2) := by
  obtain ⟨others, os, books, perm⟩ := h
  refine ⟨List.forall_mem_cons.2 ⟨⟨o, ends⟩, others⟩, os, books, ?_⟩
  have early : ((call, Part.answered r) :: visits).filterMap Call.early? =
      o.toList ++ visits.filterMap Call.early? := by
    rw [List.filterMap_cons, Call.early?, ends.ending?]
    cases o <;> rfl
  rw [early, List.append_assoc, endings_cons ends]
  exact perm.append_left _

theorem caller (h : Concluded visits ended) (want : Want) {own : List Event} (ends : call.Ends r o)
    (enters : ∀ g : Gate, g.Books o.toList (entered g own)) :
    Concluded ((call, .caller call want) :: visits) ((call, r) :: ended.1, own ++ ended.2) := by
  obtain ⟨others, os, books, perm⟩ := h
  refine ⟨List.forall_mem_cons.2 ⟨⟨o, ends⟩, others⟩, o.toList ++ os, fun g => ?_, ?_⟩
  · unfold entered
    rw [List.foldl_append]
    exact (enters g).trans (books _)
  · rw [endings_cons ends]
    exact (List.perm_append_comm_assoc ..).trans (perm.append_left _)

end Concluded

theorem concluded (came : Nat → Instant) {i : Nat} (fits : ∀ p ∈ visits, s.Fits p)
    (suits : ∀ (k : Nat) w, (visits.filterMap (·.2.wish?))[k]? = some w →
      ∃ stage, c.callers[i + k]? = some stage ∧ stage.Suits w) :
    Concluded visits (s.concludes c came i visits) := by
  induction visits generalizing i with
  | nil => exact ⟨fun _ none => (by cases none), [], fun g => .refl g, .refl []⟩
  | cons p rest ih =>
    have others : ∀ p ∈ rest, s.Fits p := fun p here => fits p (List.mem_cons_of_mem _ here)
    cases fits p (List.mem_cons_self ..) with
    | answered ends => exact (ih others suits).answered ends
    | @caller call w wants =>
      rw [List.filterMap_cons, Part.wish?, wants] at suits
      obtain ⟨stage, here, mine⟩ := suits 0 w rfl
      obtain ⟨o, ends, enters⟩ := books_conclude c.gate (came i) wants mine
      have later := ih (i := i + 1) others fun k w' there => by
        have next := suits (k + 1) w' there
        rwa [show i + (k + 1) = i + 1 + k by omega] at next
      have stands : c.callers.getD i .gone = stage := by
        rw [Nat.add_zero] at here
        rw [List.getD_eq_getElem?_getD, here, Option.getD_some]
      rw [← stands] at ends enters
      exact later.caller (s.want call) ends enters

/-- Whatever order the turns are taken in, what the callers are told is entered once. -/
theorem Gathers.accounted (h : s.Gathers visits c) (came : Nat → Instant) :
    Accounted s.gate (s.concludes c came 0 visits).1 (entered c.gate (s.concludes c came 0 visits).2) := by
  obtain ⟨books, serving, fits⟩ := h.gathered
  obtain ⟨ends, os, enters, perm⟩ := concluded (i := 0) came fits fun k w here => by
    rw [Nat.zero_add]
    exact serving.suits k w here
  exact ⟨ends, _, books.trans (enters c.gate), perm⟩

/-! ## The fair order -/

theorem Gathers.advanceCallers (h : s.Gathers visits c) (fuel : Nat) :
    s.Gathers visits (Crowd.advanceCallers fuel c) := by
  induction fuel generalizing c with
  | zero => exact h
  | succ fuel ih =>
    unfold Crowd.advanceCallers
    split
    · rename_i i _
      exact ih (h.acts (.move i) rfl)
    · exact h

theorem Gathers.runOut (h : s.Gathers visits c) (patience : Crowd.Patience) (fuel : Nat) :
    s.Gathers visits (Crowd.runOut patience fuel c) := by
  induction fuel generalizing c with
  | zero => exact h
  | succ fuel ih =>
    unfold Crowd.runOut
    cases c.mover? with
    | some i => exact ih (h.acts (.move i) rfl)
    | none =>
      cases c.starter? with
      | some n => exact ih (h.acts (.start n) rfl)
      | none =>
        cases next : c.nextEvent? patience with
        | some e => exact ih ((h.passes e.time).acts e.action (Crowd.arrival?_of_next next))
        | none => exact h

theorem Gathers.toEnd (h : s.Gathers visits c) (patience : Crowd.Patience) :
    s.Gathers visits (c.toEnd patience) :=
  h.runOut patience c.enough

theorem Gathers.enter (h : s.Gathers visits c) (call : Call) {w : Wish}
    (wants : (s.want call).wish? = some w) :
    s.Gathers (visits ++ [(call, .caller call (s.want call))]) (c.enter w) :=
  (h.comes call w wants).advanceCallers (c.step (.arrive w)).enough

theorem Gathers.startCall {t : Started} (h : s.Gathers visits t.crowd) (parts : t.parts = visits.map (·.2))
    (start : Instant) (call : Call) : ∃ visits', visits'.map (·.1) = visits.map (·.1) ++ [call] ∧
      (s.startCall start t call).parts = visits'.map (·.2) ∧
      s.Gathers visits' (s.startCall start t call).crowd := by
  unfold Scene.startCall
  simp only
  split
  · rename_i w wants
    exact ⟨_, List.map_append, by rw [List.map_append, ← parts]; rfl,
      h.enter call wants⟩
  · rename_i wants
    exact ⟨_, List.map_append, by rw [List.map_append, ← parts]; rfl, h.answers call start wants⟩

theorem gathers_startCalls (s : Scene) (start : Instant) (calls : List Call) :
    ∃ visits, visits.map (·.1) = calls ∧
      (calls.foldl (s.startCall start) ⟨.ofGate s.gate, [], [], .zero⟩).parts = visits.map (·.2) ∧
      s.Gathers visits (calls.foldl (s.startCall start) ⟨.ofGate s.gate, [], [], .zero⟩).crowd := by
  induction calls using List.reverseRecOn with
  | nil => exact ⟨[], rfl, rfl, .opens⟩
  | append_singleton calls call ih =>
    obtain ⟨visits, mine, parts, gathers⟩ := ih
    obtain ⟨visits', mine', parts', gathers'⟩ := gathers.startCall parts start call
    rw [List.foldl_append]
    exact ⟨visits', by rw [mine', mine], parts', gathers'⟩

/-! ## Steps -/

end Scene

def Step.told : Step → Result → List (Call × Result)
  | .call c, r | .abort c, r => [(c, r)]
  | .parallel calls, .several rs => calls.zip rs
  | _, _ => []

namespace Scene

theorem accounted_perform (s : Scene) (c : Call) :
    Accounted s.gate [(c, (s.perform c).1)] (s.perform c).2.gate := by
  obtain ⟨o, ends, books⟩ := s.books_perform c
  exact .of_ends ends books

theorem accounted_performAll (s : Scene) (calls : List Call) :
    Accounted s.gate (Step.told (.parallel calls) (s.performAll calls).1) (s.performAll calls).2.gate := by
  obtain ⟨visits, mine, parts, gathers⟩ := s.gathers_startCalls s.gate.now calls
  let t := calls.foldl (s.startCall s.gate.now) ⟨.ofGate s.gate, [], [], .zero⟩
  let c := (t.crowd.toEnd t.patience).step (.wait t.spent)
  have ended : s.Gathers visits c := (gathers.toEnd t.patience).acts (.wait t.spent) rfl
  have results : s.results c s.gate.now 0 t.parts = _ :=
    parts ▸ s.results_eq_concludes c s.gate.now 0 visits
  have told : calls.zip (s.results c s.gate.now 0 t.parts).1 =
      (s.concludes c (fun _ => s.gate.now) 0 visits).1 := by
    rw [results]
    exact (List.zip_of_prod ((s.calls_concludes ..).trans mine) rfl).symm
  change Accounted s.gate (calls.zip (s.results c s.gate.now 0 t.parts).1)
    (entered c.gate (s.results c s.gate.now 0 t.parts).2)
  rw [told, results]
  exact ended.accounted fun _ => s.gate.now

theorem accounted_performAborted (s : Scene) (c : Call) :
    Accounted s.gate [(c, (s.performAborted c).1)] (s.performAborted c).2.gate := by
  unfold performAborted
  split
  · exact s.accounted_perform c
  · rename_i w wants
    simp only
    split
    · exact s.accounted_perform c
    · have left := ((Gathers.opens.enter c wants).acts (.cancel 0) rfl).toEnd []
      exact .of_ends (.left c) left.gathered.books

theorem books_sweep (fuel : Nat) (g : Gate) (r : Refresher) : g.Books [] (Refresher.sweep fuel g r).1 := by
  induction fuel generalizing g r with
  | zero => exact .refl g
  | succ fuel ih =>
    unfold Refresher.sweep
    split
    · exact g.books_refreshStale.tail (ih ..)
    · exact .refl g

theorem books_pieces (pieces : List Span) (p : Gate × Refresher) :
    p.1.Books [] (pieces.foldl (fun (g, r) piece => Refresher.sweep Refresher.maxSweeps (g.wait piece) r)
      p).1 := by
  induction pieces generalizing p with
  | nil => exact .refl _
  | cons piece rest ih =>
    obtain ⟨g, r⟩ := p
    have waited : g.Books [] (g.wait piece) := .same rfl rfl
    exact (waited.tail (books_sweep ..)).tail (ih _)

theorem books_catchUp (s : Scene) : s.gate.Books [] s.catchUp.gate := by
  unfold catchUp
  split
  · exact .refl _
  · exact books_sweep ..

theorem books_wait (s : Scene) (d : Span) : s.gate.Books [] (s.wait d).gate := by
  unfold wait
  split
  · exact .same rfl rfl
  · rename_i r _
    exact books_pieces _ (s.gate, r)

theorem accounted_step (s : Scene) (st : Step) :
    Accounted s.gate (st.told (s.step st).1) (s.step st).2.gate := by
  cases st with
  | call c =>
    cases c with
    | advance d => exact .of_ends (.plain _ rfl) (s.books_wait d)
    | _ => exact (s.accounted_perform _).tail (books_catchUp _)
  | startRefresher | stopRefresher => exact .of_books (.refl _)
  | parallel calls => exact (s.accounted_performAll calls).tail (books_catchUp _)
  | abort c => exact (s.accounted_performAborted c).tail (books_catchUp _)

/-! ## Runs -/

/-- From one scene to a later one, with all calls in between and what their callers were told: the steps of
scenes, and calls side by side in whatever order they take their turns. -/
inductive Plays (s : Scene) : (told : List (Call × Result)) → (s' : Scene) → Prop
  | rests : Plays s [] s
  | steps {told : List (Call × Result)} {s' : Scene} (before : Plays s told s') (st : Step) :
      Plays s (told ++ st.told (s'.step st).1) (s'.step st).2
  | gathers {told : List (Call × Result)} {s' : Scene} {visits : List (Call × Part)} {c : Crowd}
      (before : Plays s told s') (together : s'.Gathers visits c) (came : Nat → Instant) :
      Plays s (told ++ (s'.concludes c came 0 visits).1)
        { s' with gate := entered c.gate (s'.concludes c came 0 visits).2 }

theorem Plays.accounted {s s' : Scene} {told : List (Call × Result)} (h : s.Plays told s') :
    Accounted s.gate told s'.gate := by
  induction h with
  | rests => exact .of_books (.refl _)
  | steps _ st ih => exact ih.trans (accounted_step _ st)
  | gathers _ together came ih => exact ih.trans (together.accounted came)

end Scene

end TokenGate
