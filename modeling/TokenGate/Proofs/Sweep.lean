import Mathlib.Algebra.GroupWithZero.Nat
import Mathlib.Data.List.Nodup
import TokenGate.Proofs.Cache.Upcoming
import TokenGate.Proofs.Roster

/-!
# Sweeps over the endpoints

A sweep visits all endpoints, in some order, and refreshes those that are due when their turn comes. What
becomes of one endpoint does not depend on how the others fare. As long as no time passes, and no two
endpoints ask a server that tells them different things, the order makes no difference.
-/

namespace TokenGate

theorem Entry.isOk_joined (e : Entry) : e.joined.isOk = e.held.isSome := by
  unfold joined
  cases e.held <;> rfl

namespace Gate

variable {g g' h last : Gate} {uri other : String} {e : Entry} {before later order rest : List String}
  {rs : List Refresh}

/-- The endpoint has no keys that are known to be fresh, and its floor has passed since its last refresh. -/
def Due (g : Gate) (uri : String) : Prop :=
  ∃ e, g.lookup? uri = some e ∧ (e.Outdated g.now ∨ e.Undated) ∧ e.Rested g.now

/-- The requests that a refresh of the endpoint would make now. -/
def asks (g : Gate) (uri : String) : List String :=
  Fetched.requests g.settings g.epoch uri g.network g.now

theorem Settled.due_iff (h : g.Settled) (found : g.lookup? uri = some e) :
    g.Due uri ↔ e.isDue g.now := by
  unfold Entry.isDue
  rw [Bool.and_eq_true, h.isStale_iff found, h.rested_iff found]
  constructor
  · rintro ⟨e', found', due⟩
    obtain rfl := Option.some.inj (found.symm.trans found')
    exact due
  · exact fun due => ⟨e, found, due⟩

theorem Settled.deeds (h : g.Settled) (deeds : Deeds g g') : g'.Settled :=
  deeds.keeps (P := Settled) (fun _ _ deed before =>
    ⟨fun uri => deed.paced (before.paced uri), fun uri => deed.replayed (before.replayed uri)⟩) h

theorem Settled.visit (h : g.Settled) (count : Nat) (uris : List String) : (g.visit count uris).2.Settled :=
  h.deeds (g.deeds_visit count uris)

theorem Deeds.uris (deeds : Deeds g g') : g'.uris = g.uris := by
  induction deeds with
  | refl => rfl
  | tail _ deed ih => rw [deed.uris, ih]

/-! ## One visit after the other -/

theorem visit_cons_of_due (found : g.lookup? uri = some e) (due : e.isDue g.now) (count : Nat)
    (rest : List String) : g.visit count (uri :: rest) =
      (g.refresh e).2.visit (if (g.refresh e).1.isOk then count + 1 else count) rest := by
  conv => lhs; unfold Gate.visit
  simp only [found, due, if_true]

theorem visit_cons_of_spared (spared : ∀ e, g.lookup? uri = some e → ¬ e.isDue g.now) (count : Nat)
    (rest : List String) : g.visit count (uri :: rest) = g.visit count rest := by
  conv => lhs; unfold Gate.visit
  split
  · rfl
  · rename_i e found
    rw [if_neg (spared e found)]

theorem due_or_spared (g : Gate) (uri : String) :
    (∃ e, g.lookup? uri = some e ∧ e.isDue g.now) ∨ ∀ e, g.lookup? uri = some e → ¬ e.isDue g.now := by
  by_cases due : ∃ e, g.lookup? uri = some e ∧ e.isDue g.now
  · exact .inl due
  · exact .inr fun e found now => due ⟨e, found, now⟩

theorem visit_eq (g : Gate) (count : Nat) (uris : List String) :
    g.visit count uris = (count + (g.visit 0 uris).1, (g.visit 0 uris).2) := by
  induction uris generalizing g count with
  | nil => rfl
  | cons uri rest ih =>
    obtain ⟨e, found, due⟩ | spared := g.due_or_spared uri
    · rw [visit_cons_of_due found due, visit_cons_of_due found due,
        ih _ (if (g.refresh e).1.isOk then count + 1 else count),
        ih _ (if (g.refresh e).1.isOk then 0 + 1 else 0)]
      split <;> simp [Nat.add_assoc]
    · rw [visit_cons_of_spared spared, visit_cons_of_spared spared]
      exact ih ..

theorem visit_append (g : Gate) (before later : List String) :
    g.visit 0 (before ++ later) =
      ((g.visit 0 before).1 + ((g.visit 0 before).2.visit 0 later).1,
        ((g.visit 0 before).2.visit 0 later).2) := by
  have from_ (count : Nat) : g.visit count (before ++ later) =
      (g.visit count before).2.visit (g.visit count before).1 later := by
    induction before generalizing g count with
    | nil => rfl
    | cons uri rest ih =>
      rw [List.cons_append]
      obtain ⟨e, found, due⟩ | spared := g.due_or_spared uri
      · rw [visit_cons_of_due found due, visit_cons_of_due found due]
        exact ih ..
      · rw [visit_cons_of_spared spared, visit_cons_of_spared spared]
        exact ih ..
  rw [from_, visit_eq]

theorem visit_cons (g : Gate) (uri : String) (rest : List String) :
    g.visit 0 (uri :: rest) =
      ((g.visit 0 [uri]).1 + ((g.visit 0 [uri]).2.visit 0 rest).1,
        ((g.visit 0 [uri]).2.visit 0 rest).2) :=
  g.visit_append [uri] rest

theorem visit_of_due (found : g.lookup? uri = some e) (due : e.isDue g.now) :
    g.visit 0 [uri] = (if (g.refresh e).1.isOk then 1 else 0, (g.refresh e).2) :=
  visit_cons_of_due found due 0 []

theorem visit_of_spared (spared : ∀ e, g.lookup? uri = some e → ¬ e.isDue g.now) :
    g.visit 0 [uri] = (0, g) :=
  visit_cons_of_spared spared 0 []

theorem le_now_visit (g : Gate) (uris : List String) : g.now ≤ (g.visit 0 uris).2.now := by
  induction uris generalizing g with
  | nil => exact Nat.le_refl _
  | cons uri rest ih =>
    rw [visit_cons]
    refine Nat.le_trans ?_ (ih _)
    obtain ⟨e, found, due⟩ | spared := g.due_or_spared uri
    · rw [visit_of_due found due]
      exact Fetched.le_ended_run ..
    · rw [visit_of_spared spared]

/-- A sweep that takes no time takes none up to any of its visits. -/
theorem now_visit_of_still (still : (g.visit 0 (before ++ later)).2.now = g.now) :
    (g.visit 0 before).2.now = g.now := by
  have forward := (g.visit 0 before).2.le_now_visit later
  rw [visit_append] at still
  rw [still] at forward
  exact Instant.ext (Nat.le_antisymm forward (g.le_now_visit before))

theorem Settled.grown_visit (settled : g.Settled) (uri : String) :
    (g.Due uri → g.Grown (g.visit 0 [uri]).2 uri [g.nextRefresh uri] ∧
      (g.visit 0 [uri]).2.network.log = g.network.log ++ g.asks uri) ∧
    (¬ g.Due uri → (g.visit 0 [uri]).2 = g) := by
  refine ⟨fun due => ?_, fun spared => ?_⟩
  · obtain ⟨e, found, -⟩ := id due
    rw [visit_of_due found ((settled.due_iff found).1 due)]
    refine ⟨(refreshedOnce_refresh found).here, ?_⟩
    obtain rfl := uri_of_lookup? found
    exact Fetched.log_run ..
  · rw [visit_of_spared fun e found => mt (settled.due_iff found).2 spared]

theorem grown_visit_of_not_mem (away : uri ∉ rest) : g.Grown (g.visit 0 rest).2 uri [] := by
  induction rest generalizing g with
  | nil => exact .refl g uri
  | cons other rest ih =>
    rw [List.mem_cons, not_or] at away
    have first : g.Grown (g.visit 0 [other]).2 uri [] := by
      obtain ⟨e, found, due⟩ | spared := g.due_or_spared other
      · rw [visit_of_due found due]
        exact (refreshedOnce_refresh found).elsewhere uri away.1
      · rw [visit_of_spared spared]
        exact .refl g uri
    rw [visit_cons]
    exact first.trans (ih away.2)

/-- What has become of an endpoint since the gate `g`. Its turn came in the gate `turn`. -/
structure TakesTurn (g turn last : Gate) (uri : String) : Prop where
  /-- Until then nothing has happened to it. -/
  until_ : g.Grown turn uri []
  /-- If it was due it has been refreshed once, with the requests of one refresh. -/
  refreshed : turn.Due uri → (turn.nextRefresh uri).AskedOf turn ∧
    g.Grown last uri [turn.nextRefresh uri] ∧
    (turn.visit 0 [uri]).2.network.log = turn.network.log ++ turn.asks uri
  spared : ¬ turn.Due uri → g.Grown last uri [] ∧ (turn.visit 0 [uri]).2 = turn

theorem Settled.takesTurn (settled : g.Settled) (distinct : (before ++ uri :: later).Nodup) :
    g.TakesTurn (g.visit 0 before).2 (g.visit 0 (before ++ uri :: later)).2 uri := by
  have apart : uri ∉ before ∧ uri ∉ later := by
    have distinct := List.nodup_middle.1 distinct
    rw [List.nodup_cons, List.mem_append, not_or] at distinct
    exact distinct.1
  have until_ : g.Grown (g.visit 0 before).2 uri [] := grown_visit_of_not_mem apart.1
  have visited := (settled.visit 0 before).grown_visit uri
  rw [visit_append g before (uri :: later), visit_cons _ uri later]
  have rest : Grown ((g.visit 0 before).2.visit 0 [uri]).2 _ uri [] := grown_visit_of_not_mem apart.2
  refine ⟨until_, fun due => ?_, fun spared => ?_⟩
  · obtain ⟨grown, log⟩ := visited.1 due
    exact ⟨askedOf_nextRefresh .., (until_.trans grown).trans rest, log⟩
  · have same := visited.2 spared
    rw [same] at rest
    exact ⟨by rw [same]; exact until_.trans rest, same⟩

/-! ## The count -/

/-- The refreshes of an endpoint that have ended since the gate `g`. -/
def since (g last : Gate) (uri : String) : List Refresh :=
  (last.refreshes uri).drop (g.refreshes uri).length

/-- The endpoint has been refreshed since the gate `g`, and has keys. -/
def Filled (g last : Gate) (uri : String) : Bool :=
  !(g.since last uri).isEmpty && (last.lookup? uri).any (·.held.isSome)

theorem Grown.since_eq (grown : g.Grown last uri rs) : g.since last uri = rs := by
  unfold since
  rw [grown.refreshes, List.drop_left]

theorem Grown.lookup?_eq (grown : g.Grown last uri []) (uris : last.uris = g.uris) :
    last.lookup? uri = g.lookup? uri := by
  cases found : g.lookup? uri with
  | some e => exact grown.entry e found
  | none =>
    rw [← Option.not_isSome_iff_eq_none, ← mem_uris_iff] at found ⊢
    rwa [uris]

theorem uris_visit (g : Gate) (count : Nat) (uris : List String) : (g.visit count uris).2.uris = g.uris :=
  (g.deeds_visit count uris).uris

theorem since_of_kept (g : Gate) (kept : h.Grown last uri []) : g.since last uri = g.since h uri := by
  unfold since
  rw [kept.refreshes, List.append_nil]

theorem filled_of_kept (g : Gate) (kept : h.Grown last uri []) (uris : last.uris = h.uris) :
    g.Filled last uri = g.Filled h uri := by
  unfold Filled
  rw [since_of_kept g kept, kept.lookup?_eq uris]

theorem count_of_due (found : g.lookup? uri = some e) (due : e.isDue g.now)
    (lasts : (g.nextRefresh uri).Lasts g.settings e.floor) :
    (g.visit 0 [uri]).1 = if ((g.visit 0 [uri]).2.lookup? uri).any (·.held.isSome) then 1 else 0 := by
  have entry := (refreshedOnce_refresh found).here.entry e found
  obtain joined | ⟨-, runsOut⟩ := e.answer_publish g.settings (g.nextRefresh uri)
  · rw [visit_of_due found due, entry, answer_refresh found, joined, Entry.isOk_joined]
    rfl
  · exact absurd lasts runsOut

theorem Settled.count_one (settled : h.Settled) (until_ : g.Grown h uri []) (uris : h.uris = g.uris)
    (lasts : ∀ e, g.lookup? uri = some e →
      ∀ r ∈ g.since (h.visit 0 [uri]).2 uri, r.Lasts g.settings e.floor) :
    (h.visit 0 [uri]).1 = if g.Filled (h.visit 0 [uri]).2 uri then 1 else 0 := by
  have visited := settled.grown_visit uri
  by_cases due : h.Due uri
  · have new : g.since (h.visit 0 [uri]).2 uri = [h.nextRefresh uri] :=
      (until_.trans (visited.1 due).1).since_eq
    obtain ⟨e, found, -⟩ := id due
    have shown := lasts e (by rwa [← until_.lookup?_eq uris]) (h.nextRefresh uri) (by simp [new])
    rw [← until_.settings] at shown
    rw [count_of_due found ((settled.due_iff found).1 due) shown]
    simp [Filled, new]
  · have none : g.since h uri = [] := until_.since_eq
    rw [visit_of_spared fun e found => mt (settled.due_iff found).2 due]
    simp [Filled, none]

theorem Settled.count_eq (settled : g.Settled) (distinct : order.Nodup)
    (lasts : ∀ uri ∈ order, ∀ e, g.lookup? uri = some e →
      ∀ r ∈ g.since (g.visit 0 order).2 uri, r.Lasts g.settings e.floor) :
    (g.visit 0 order).1 = order.countP (g.Filled (g.visit 0 order).2) := by
  -- from the back, since the last visit leaves alone what the visits before have done
  induction order using List.reverseRecOn with
  | nil => rfl
  | append_singleton before uri ih =>
    obtain ⟨distinct, -, apart⟩ := List.nodup_append.1 distinct
    have away : uri ∉ before := fun here => apart uri here uri (by simp) rfl
    rw [visit_append] at lasts ⊢
    simp only at lasts ⊢
    have kept (other : String) (here : other ∈ before) :
        (g.visit 0 before).2.Grown ((g.visit 0 before).2.visit 0 [uri]).2 other [] :=
      grown_visit_of_not_mem fun mem => away (List.mem_singleton.1 mem ▸ here)
    have earlier := ih distinct fun other here e found r new => by
      rw [← since_of_kept g (kept other here)] at new
      exact lasts other (List.mem_append_left _ here) e found r new
    have one := (settled.visit 0 before).count_one (grown_visit_of_not_mem away) (uris_visit ..)
      (lasts uri (by simp))
    rw [List.countP_append, List.countP_singleton, earlier, one]
    congr 1
    exact List.countP_congr fun other here => by
      rw [filled_of_kept g (kept other here) (uris_visit ..)]

/-! ## Any order -/

/-- Where two endpoints that are due ask one address, the server there answers all requests alike. -/
def Apart (g : Gate) : Prop :=
  ∀ uri other, g.Due uri → g.Due other → uri ≠ other → ∀ url ∈ g.asks uri, url ∈ g.asks other →
    ∀ k, g.network.upcoming url k = g.network.upcoming url 0

/-- For the endpoints `rest` it makes no difference whether they are visited in `g` or in `h`. -/
structure Awaits (g h : Gate) (rest : List String) : Prop where
  settings : h.settings = g.settings
  epoch : h.epoch = g.epoch
  now : h.now = g.now
  entry : ∀ uri ∈ rest, h.lookup? uri = g.lookup? uri
  refreshes : ∀ uri ∈ rest, h.refreshes uri = g.refreshes uri
  servers : ∀ uri ∈ rest, g.Due uri → Http.Network.Agree (· ∈ g.asks uri) g.network h.network

theorem Awaits.refl (g : Gate) (rest : List String) : g.Awaits g rest :=
  ⟨rfl, rfl, rfl, fun _ _ => rfl, fun _ _ => rfl, fun _ _ _ => ⟨rfl, rfl, fun _ _ _ => rfl⟩⟩

theorem Awaits.mono (awaits : g.Awaits h order) (fewer : rest ⊆ order) : g.Awaits h rest :=
  ⟨awaits.settings, awaits.epoch, awaits.now, fun uri here => awaits.entry uri (fewer here),
    fun uri here => awaits.refreshes uri (fewer here), fun uri here => awaits.servers uri (fewer here)⟩

theorem Awaits.due_iff (awaits : g.Awaits h rest) (here : uri ∈ rest) : h.Due uri ↔ g.Due uri := by
  unfold Due
  rw [awaits.now, awaits.entry uri here]

theorem Awaits.nextRefresh_eq (awaits : g.Awaits h rest) (here : uri ∈ rest) (due : g.Due uri) :
    h.nextRefresh uri = g.nextRefresh uri := by
  have run := Fetched.agree_run (s := g.settings) (n := g.network) (awaits.servers uri here due)
    fun url asked => asked
  unfold nextRefresh
  simp only [awaits.settings, awaits.epoch, awaits.now, Refresh.mk.injEq, true_and]
  exact ⟨run.ended, run.result⟩

/-- What a visit of an endpoint comes to. -/
structure SameVisit (g h : Gate) (uri : String) : Prop where
  count : (h.visit 0 [uri]).1 = (g.visit 0 [uri]).1
  now : (h.visit 0 [uri]).2.now = (g.visit 0 [uri]).2.now
  entry : (h.visit 0 [uri]).2.lookup? uri = (g.visit 0 [uri]).2.lookup? uri
  refreshes : (h.visit 0 [uri]).2.refreshes uri = (g.visit 0 [uri]).2.refreshes uri

theorem Awaits.sameVisit (settled : g.Settled) (awaits : g.Awaits h rest) (here : uri ∈ rest) :
    g.SameVisit h uri := by
  have entry := awaits.entry uri here
  have refreshes := awaits.refreshes uri here
  obtain ⟨e, found, due⟩ | spared := g.due_or_spared uri
  · have found' : h.lookup? uri = some e := entry.trans found
    have due' : e.isDue h.now := by rwa [awaits.now]
    have next := awaits.nextRefresh_eq here ((settled.due_iff found).2 due)
    have visited := (refreshedOnce_refresh found).here
    have visited' := (refreshedOnce_refresh found').here
    constructor <;> rw [visit_of_due found due, visit_of_due found' due']
    · rw [answer_refresh found, answer_refresh found', next, awaits.settings]
    · rw [now_refresh found, now_refresh found', next]
    · rw [visited.entry e found, visited'.entry e found', next, awaits.settings]
    · rw [visited.refreshes, visited'.refreshes, next, refreshes]
  · have spared' : ∀ e, h.lookup? uri = some e → ¬ e.isDue h.now := by
      rw [entry, awaits.now]
      exact spared
    constructor <;> rw [visit_of_spared spared, visit_of_spared spared']
    · exact awaits.now
    · exact entry
    · exact refreshes

theorem Awaits.servers_after (awaits : g.Awaits h rest) (apart : g.Apart) (away : uri ≠ other)
    (here : uri ∈ rest) (there : other ∈ rest) (due : g.Due uri) (due' : g.Due other) :
    Http.Network.Agree (· ∈ g.asks other) g.network
      (Fetched.run h.settings h.epoch uri h.network h.now).state := by
  have mine := awaits.servers uri here due
  have others := awaits.servers other there due'
  -- compared with the same refresh in `g`, wherever the two networks agree
  have agree : Http.Network.Agree (fun url => ∀ k, h.network.upcoming url k = g.network.upcoming url k)
      g.network h.network := ⟨mine.reachable, mine.names, fun _ same => same⟩
  have run := Fetched.agree_run (s := g.settings) agree mine.replies
  rw [awaits.settings, awaits.epoch, awaits.now]
  have advanced := Fetched.advances_run g.settings g.epoch uri h.network g.now
  refine ⟨advanced.reachable.trans others.reachable, advanced.names.trans others.names,
    fun url asked k => ?_⟩
  rw [run.state.replies url (others.replies url asked) k, Fetched.upcoming_run]
  by_cases both : url ∈ g.asks uri
  · have alike := apart uri other due due' away url both asked
    rw [alike, alike k]
  · have none : (Fetched.requests g.settings g.epoch uri g.network g.now).count url = 0 :=
      List.count_eq_zero.2 both
    rw [none, Nat.add_zero]

theorem Awaits.visited (settled' : h.Settled) (apart : g.Apart)
    (awaits : g.Awaits h (uri :: rest)) (away : uri ∉ rest) (still : (h.visit 0 [uri]).2.now = g.now) :
    g.Awaits (h.visit 0 [uri]).2 rest := by
  have later := awaits.mono (List.subset_cons_self uri rest)
  have other {other : String} (there : other ∈ rest) : h.Grown (h.visit 0 [uri]).2 other [] :=
    grown_visit_of_not_mem fun mem => away (List.mem_singleton.1 mem ▸ there)
  by_cases due : g.Due uri
  · obtain ⟨e, found, -⟩ := id ((awaits.due_iff List.mem_cons_self).2 due)
    have now := (settled'.due_iff found).1 ((awaits.due_iff List.mem_cons_self).2 due)
    obtain rfl := uri_of_lookup? found
    have visit : (h.visit 0 [e.uri]).2 = (h.refresh e).2 := by rw [visit_of_due found now]
    have once := refreshedOnce_refresh found
    refine ⟨?_, ?_, still, fun uri there => ?_, fun uri there => ?_, fun uri there needs => ?_⟩
    · rw [visit, once.here.settings, awaits.settings]
    · rw [visit, once.here.epoch, awaits.epoch]
    · rw [(other there).lookup?_eq (uris_visit ..), later.entry uri there]
    · rw [(other there).refreshes, List.append_nil, later.refreshes uri there]
    · rw [visit]
      have elsewhere : e.uri ≠ uri := fun same => away (same ▸ there)
      exact awaits.servers_after apart elsewhere List.mem_cons_self (List.mem_cons_of_mem _ there) due needs
  · have spared := mt (awaits.due_iff List.mem_cons_self).1 due
    rw [visit_of_spared fun e found => mt (settled'.due_iff found).2 spared]
    exact later

/-- Visits that take no time each come to what they would have come to alone. -/
theorem Awaits.visits (settled : g.Settled) (settled' : h.Settled) (apart : g.Apart)
    (distinct : order.Nodup) (awaits : g.Awaits h order) :
    ((h.visit 0 order).2.now = g.now ↔ ∀ uri ∈ order, (g.visit 0 [uri]).2.now = g.now) ∧
    ((h.visit 0 order).2.now = g.now →
      (h.visit 0 order).1 = (order.map fun uri => (g.visit 0 [uri]).1).sum ∧
      ∀ uri ∈ order, (h.visit 0 order).2.lookup? uri = (g.visit 0 [uri]).2.lookup? uri ∧
        (h.visit 0 order).2.refreshes uri = (g.visit 0 [uri]).2.refreshes uri) := by
  induction order generalizing h with
  | nil => exact ⟨by simp [Gate.visit, awaits.now], fun _ => ⟨rfl, by simp⟩⟩
  | cons uri rest ih =>
    obtain ⟨away, distinct⟩ := List.nodup_cons.1 distinct
    have first := awaits.sameVisit settled List.mem_cons_self
    rw [visit_cons]
    by_cases still : (h.visit 0 [uri]).2.now = g.now
    · obtain ⟨now_iff, same⟩ := ih (settled'.visit 0 [uri]) distinct
        (awaits.visited settled' apart away still)
      refine ⟨?_, fun now => ?_⟩
      · rw [now_iff, List.forall_mem_cons, ← first.now]
        simp [still]
      · obtain ⟨count, alone⟩ := same now
        have kept : (h.visit 0 [uri]).2.Grown ((h.visit 0 [uri]).2.visit 0 rest).2 uri [] :=
          grown_visit_of_not_mem away
        refine ⟨?_, List.forall_mem_cons.2 ⟨⟨?_, ?_⟩, alone⟩⟩
        · rw [first.count, count, List.map_cons, List.sum_cons]
        · rw [kept.lookup?_eq (uris_visit ..), first.entry]
        · rw [kept.refreshes, List.append_nil, first.refreshes]
    · -- time has passed, and does not come back
      have passed : ((h.visit 0 [uri]).2.visit 0 rest).2.now ≠ g.now := by
        intro now
        rw [← awaits.now] at still now
        have whole : (h.visit 0 ([uri] ++ rest)).2.now = h.now := by rw [visit_append]; exact now
        exact still (now_visit_of_still whole)
      refine ⟨iff_of_false passed fun all => still ?_, fun now => absurd now passed⟩
      rw [first.now]
      exact all uri List.mem_cons_self

/-- The entries and what they have come from. -/
structure SameEntries (g g' : Gate) : Prop where
  now : g.now = g'.now
  entries : g.entries = g'.entries
  refreshes : ∀ uri, g.refreshes uri = g'.refreshes uri

theorem entries_eq_filterMap (distinct : g.uris.Nodup) : g.entries = g.uris.filterMap g.lookup? := by
  unfold uris
  rw [List.filterMap_map, List.filterMap_congr (g := some) fun e here => ?_, List.filterMap_some]
  exact lookup?_of_mem distinct here

theorem Settled.unordered (settled : g.Settled) (distinct : g.uris.Nodup) (apart : g.Apart)
    (all : order.Perm g.uris) (still : (g.visit 0 order).2.now = g.now) {order' : List String}
    (perm : order'.Perm order) : (g.visit 0 order').1 = (g.visit 0 order).1 ∧
      (g.visit 0 order').2.SameEntries (g.visit 0 order).2 := by
  have once : order.Nodup := all.nodup_iff.2 distinct
  obtain ⟨now_iff, same⟩ := (Awaits.refl g order).visits settled settled apart once
  obtain ⟨now_iff', same'⟩ := (Awaits.refl g order').visits settled settled apart (perm.nodup_iff.2 once)
  have still' := now_iff'.2 fun uri here => now_iff.1 still uri (perm.mem_iff.1 here)
  obtain ⟨count, alone⟩ := same still
  obtain ⟨count', alone'⟩ := same' still'
  have uris : (g.visit 0 order').2.uris = (g.visit 0 order).2.uris := by rw [uris_visit, uris_visit]
  refine ⟨?_, still'.trans still.symm, ?_, fun uri => ?_⟩
  · rw [count, count']
    exact (perm.map _).sum_eq
  · rw [entries_eq_filterMap (by rwa [uris_visit]), entries_eq_filterMap (by rwa [uris_visit]), uris]
    refine List.filterMap_congr fun uri here => ?_
    rw [uris_visit] at here
    have there := all.mem_iff.2 here
    rw [(alone uri there).1, (alone' uri (perm.mem_iff.2 there)).1]
  · by_cases here : uri ∈ order
    · rw [(alone uri here).2, (alone' uri (perm.mem_iff.2 here)).2]
    · rw [(grown_visit_of_not_mem here).refreshes,
        (grown_visit_of_not_mem (mt perm.mem_iff.1 here)).refreshes]

/-! ## Nothing left to do -/

theorem Settled.visit_of_idle (settled : g.Settled) (idle : ∀ uri, ¬ g.Due uri) (uris : List String) :
    g.visit 0 uris = (0, g) := by
  induction uris with
  | nil => rfl
  | cons uri rest ih =>
    rw [visit_cons_of_spared fun e found => mt (settled.due_iff found).2 (idle uri)]
    exact ih

theorem not_due_of_refreshed {r : Refresh} (found : g.lookup? uri = some e) (grown : g.Grown last uri [r])
    (just : last.now ≤ r.ended) (positive : 0 < e.floor.nanos) : ¬ last.Due uri := by
  rintro ⟨e', found', -, rested⟩
  obtain rfl := Option.some.inj ((grown.entry e found).symm.trans found')
  rw [Entry.after_cons] at rested
  have rest := rested _ (Entry.lastAttempt_publish ..)
  change _ + (e.publish g.settings r).entry.floor.nanos ≤ _ at rest
  rw [Entry.floor_publish] at rest
  simp only [Instant.le_def] at just
  omega

theorem due_of_kept (kept : h.Grown last uri []) (uris : last.uris = h.uris) (now : last.now = h.now) :
    last.Due uri ↔ h.Due uri := by
  unfold Due
  rw [kept.lookup?_eq uris, now]

theorem Settled.idle_visit (settled : g.Settled) (distinct : order.Nodup) (all : ∀ uri ∈ g.uris, uri ∈ order)
    (still : (g.visit 0 order).2.now = g.now) (positive : ∀ e ∈ g.entries, 0 < e.floor.nanos)
    (uri : String) : ¬ (g.visit 0 order).2.Due uri := by
  intro due
  have tracked : uri ∈ g.uris := by
    obtain ⟨e, found, -⟩ := id due
    rw [← uris_visit g 0 order, mem_uris_iff, found]
    rfl
  obtain ⟨before, later, rfl⟩ := List.append_of_mem (all uri tracked)
  have turn := settled.takesTurn distinct
  have now := now_visit_of_still still
  by_cases was : (g.visit 0 before).2.Due uri
  · obtain ⟨e, found⟩ := Option.isSome_iff_exists.1 (mem_uris_iff.1 tracked)
    refine not_due_of_refreshed found (turn.refreshed was).2.1 ?_
      (positive e (List.mem_of_find?_eq_some found)) due
    rw [still, ← now]
    exact Fetched.le_ended_run ..
  · rw [due_of_kept (turn.spared was).1 (uris_visit ..) still] at due
    rw [due_of_kept turn.until_ (uris_visit ..) now] at was
    exact was due

/-! ## The whole sweep -/

theorem refreshStale_eq (g : Gate) : g.refreshStale = (g.visit 0 g.uris).2.reply (g.visit 0 g.uris).1 := rfl

/-- What a visit of the endpoints `order` comes to. -/
structure Sweeps (g : Gate) (order : List String) : Prop where
  turns : ∀ before uri later, order = before ++ uri :: later →
    g.TakesTurn (g.visit 0 before).2 (g.visit 0 order).2 uri
  tracked : (g.visit 0 order).2.uris = g.uris
  count : (∀ uri e, g.lookup? uri = some e →
      ∀ r ∈ g.since (g.visit 0 order).2 uri, r.Lasts g.settings e.floor) →
    (g.visit 0 order).1 = order.countP (g.Filled (g.visit 0 order).2)
  unordered : (g.visit 0 order).2.now = g.now → g.Apart → ∀ order', order'.Perm order →
    (g.visit 0 order').1 = (g.visit 0 order).1 ∧
      (g.visit 0 order').2.SameEntries (g.visit 0 order).2
  /-- Right after the sweep nothing is due. -/
  idle : (g.visit 0 order).2.now = g.now → (∀ e ∈ g.entries, 0 < e.floor.nanos) →
    ∀ uris, (g.visit 0 order).2.visit 0 uris = (0, (g.visit 0 order).2)

theorem refreshStale_sweeps (h : g.Reached) :
    g.refreshStale = (g.visit 0 g.uris).2.reply (g.visit 0 g.uris).1 ∧
    ∀ order, order.Perm g.uris → g.Sweeps order := by
  have settled := h.settled
  refine ⟨g.refreshStale_eq, fun order all => ?_⟩
  have distinct : order.Nodup := all.nodup_iff.2 h.nodup_uris
  refine ⟨?_, uris_visit .., fun lasts => ?_, fun still apart order' perm => ?_,
    fun still positive uris => ?_⟩
  · rintro before uri later rfl
    exact settled.takesTurn distinct
  · exact settled.count_eq distinct fun uri _ => lasts uri
  · exact settled.unordered h.nodup_uris apart all still perm
  · exact (settled.visit 0 order).visit_of_idle
      (settled.idle_visit distinct (fun uri here => all.mem_iff.2 here) still positive) uris

/-- Two servers with keys, and a third one that cannot be found. -/
def servers : Gate :=
  let keys := "\x7b\"keys\":[\x7b\"kty\":\"OKP\",\"crv\":\"Ed25519\",\"kid\":\"a\",\"x\":\"\"\x7d]\x7d"
  let found : Http.Reply := ⟨200, [], keys, .zero, false, false⟩
  .new ⟨.ofSeconds 10, .once, .ofSeconds 300⟩ .zero
    (.ofScripts true [("http://b/", [found]), ("http://c/", [found])])

/-- One of three endpoints has been asked for its keys just now. -/
def sweeping : Gate :=
  let calls : List Call := [.register "http://a/" (.ofSeconds 60), .register "http://b/" (.ofSeconds 60),
    .register "http://c/" (.ofSeconds 60), .get "http://c/"]
  ((Scene.new servers (fun _ _ _ _ => true) none).performed calls).gate

theorem reached_sweeping : sweeping.Reached := by
  have leads : servers.Leads sweeping := .single (.calls (.new servers (fun _ _ _ _ => true) none) rfl _)
  exact ⟨_, _, _, leads⟩

theorem uris_sweeping : sweeping.uris = ["http://a/", "http://b/", "http://c/"] := by decide +kernel

theorem apart_sweeping : sweeping.Apart := by
  have own : ∀ uri ∈ sweeping.uris, sweeping.asks uri = [uri] := by decide +kernel
  have tracked {uri : String} (due : sweeping.Due uri) : uri ∈ sweeping.uris := by
    obtain ⟨e, found, -⟩ := due
    rw [mem_uris_iff, found]
    rfl
  intro uri other due due' away url mine others
  rw [own uri (tracked due), List.mem_singleton] at mine
  rw [own other (tracked due'), List.mem_singleton] at others
  exact absurd (mine.symm.trans others) away

/-- One failure, one success and one endpoint left alone, in either order. -/
theorem failure_spares_others :
    (sweeping.visit 0 sweeping.uris).1 = 1 ∧
    (sweeping.visit 0 ["http://c/", "http://b/", "http://a/"]).1 = (sweeping.visit 0 sweeping.uris).1 ∧
    (sweeping.visit 0 ["http://c/", "http://b/", "http://a/"]).2.SameEntries
      (sweeping.visit 0 sweeping.uris).2 ∧
    (sweeping.visit 0 sweeping.uris).2.entries.map (·.held.isSome) = [false, true, true] ∧
    (sweeping.visit 0 sweeping.uris).2.network.log = ["http://c/", "http://a/", "http://b/"] ∧
    (sweeping.visit 0 sweeping.uris).2.visit 0 ["http://a/"] = (0, (sweeping.visit 0 sweeping.uris).2) := by
  have sweeps := (refreshStale_sweeps reached_sweeping).2 sweeping.uris (.refl _)
  have still : (sweeping.visit 0 sweeping.uris).2.now = sweeping.now := by decide +kernel
  have turned : ["http://c/", "http://b/", "http://a/"].Perm sweeping.uris := by
    rw [uris_sweeping]
    decide
  obtain ⟨count, entries⟩ := sweeps.unordered still apart_sweeping _ turned
  refine ⟨by decide +kernel, count, entries, by decide +kernel, by decide +kernel, ?_⟩
  exact sweeps.idle still (by decide +kernel) ["http://a/"]

/-- Two endpoints at one address, where the second answer is another one. -/
def twofold : Gate :=
  (Crowd.rotating.register "http://k/" (.ofSeconds 60)).register "http://k/#x" (.ofSeconds 60)

theorem reached_twofold : twofold.Reached :=
  ⟨_, _, _, (leads_call Crowd.rotating (.register "http://k/" (.ofSeconds 60))).trans
    (leads_call _ (.register "http://k/#x" (.ofSeconds 60)))⟩

/-- At one address the order tells who is given which keys. And where the clock runs out, an endpoint
that has been given its keys is not counted. -/
theorem order_tells_at_one_address :
    twofold.Reached ∧ ["http://k/", "http://k/#x"].Perm twofold.uris ∧
    ["http://k/#x", "http://k/"].Perm twofold.uris ∧
    (twofold.visit 0 ["http://k/", "http://k/#x"]).2.now = twofold.now ∧
    (twofold.visit 0 ["http://k/#x", "http://k/"]).2.now = twofold.now ∧
    ¬ (twofold.visit 0 ["http://k/", "http://k/#x"]).2.SameEntries
      (twofold.visit 0 ["http://k/#x", "http://k/"]).2 ∧
    boundless.Reached ∧ boundless.uris = ["http://k/"] ∧ boundless.refreshStale.answer = 0 ∧
    ["http://k/"].countP (boundless.Filled boundless.refreshStale.gate) = 1 := by
  refine ⟨reached_twofold, by decide +kernel, by decide +kernel, by decide +kernel, by decide +kernel,
    fun same => ?_, reached_endpointOf .., by decide +kernel, by decide +kernel, by decide +kernel⟩
  have sizes := congrArg (List.map fun e => e.held.map (·.keys.size)) same.entries
  revert sizes
  decide +kernel

end Gate

end TokenGate
