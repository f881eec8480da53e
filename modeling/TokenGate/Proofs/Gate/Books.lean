import TokenGate.Proofs.Cache.Keys
import TokenGate.Proofs.Gate.Deeds
import TokenGate.Proofs.Metrics
import TokenGate.Proofs.Roster

/-!
# The books

Metrics are read off the events on record. Whatever happens to a gate, each refresh of an entry and each
verdict is entered once, so that the entries and the metrics agree.
-/

namespace TokenGate

namespace Event

def outcome? : Event → Option String
  | refreshed _ => none
  | validated outcome _ => some outcome

def refresh? : Event → Option Refresh
  | refreshed r => some r
  | validated _ _ => none

end Event

namespace Refresh

/-- The label under which a refresh is counted. -/
def status (r : Refresh) : String := if r.fetched?.isSome then "success" else "error"

theorem samples_eq (r : Refresh) :
    r.samples = .refresh r.status r.took :: (r.keySet?.map fun keys => .keys r.uri keys.size).toList := by
  unfold samples status keySet? fetched?
  cases r.result <;> rfl

theorem keySet?_eq (r : Refresh) : r.keySet? = r.fetched?.map fun fetched => .ofKeys r.uri fetched.keys := by
  unfold keySet? fetched?
  cases r.result <;> rfl

end Refresh

namespace Gate

variable {g g' g'' : Gate} {e : Entry} {r : Refresh} {uri : String} {os os' : List String}

/-! ## What is read off the record -/

def samples (g : Gate) : List Metrics.Sample := g.events.flatMap Event.samples

/-- The counter of validations with this outcome. -/
def validationsTotal (g : Gate) (outcome : String) : Nat :=
  Metrics.count (Metrics.validations g.samples) outcome

/-- The counter of refreshes with this status. -/
def refreshTotal (g : Gate) (status : String) : Nat :=
  Metrics.count (Metrics.refreshes g.samples) status

/-- The gauge of keys, if it has been set. -/
def keysGauge? (g : Gate) (uri : String) : Option Nat :=
  Metrics.last? (Metrics.keyCounts g.samples) uri

/-- The outcomes of all validations, the latest last. -/
def outcomes (g : Gate) : List String := g.events.filterMap Event.outcome?

/-- The refreshes of all endpoints, the latest last. -/
def allRefreshes (g : Gate) : List Refresh := g.events.filterMap Event.refresh?

theorem samples_record (g : Gate) (e : Event) : (g.record e).samples = g.samples ++ e.samples := by
  simp [samples, record]

theorem map_validations_samples (g : Gate) :
    (Metrics.validations g.samples).map (·.1) = g.outcomes := by
  unfold samples outcomes Metrics.validations
  induction g.events with
  | nil => rfl
  | cons e rest ih =>
    rw [List.flatMap_cons, List.filterMap_append, List.map_append, ih]
    cases e with
    | validated => rfl
    | refreshed r =>
      rw [Event.samples, Refresh.samples_eq]
      cases r.keySet? <;> rfl

theorem map_refreshes_samples (g : Gate) :
    (Metrics.refreshes g.samples).map (·.1) = g.allRefreshes.map Refresh.status := by
  unfold samples allRefreshes Metrics.refreshes
  induction g.events with
  | nil => rfl
  | cons e rest ih =>
    rw [List.flatMap_cons, List.filterMap_append, List.map_append, ih]
    cases e with
    | validated => rfl
    | refreshed r =>
      rw [Event.samples, Refresh.samples_eq]
      cases r.keySet? <;> rfl

theorem validationsTotal_eq (g : Gate) (outcome : String) :
    g.validationsTotal outcome = g.outcomes.count outcome := by
  rw [validationsTotal, Metrics.count_eq, map_validations_samples]

theorem refreshTotal_success (g : Gate) :
    g.refreshTotal "success" = g.allRefreshes.countP (·.fetched?.isSome) := by
  rw [refreshTotal, Metrics.count_eq, map_refreshes_samples, List.count, List.countP_map]
  refine List.countP_congr fun r _ => ?_
  unfold Refresh.status
  cases h : r.fetched? <;> simp [h]

theorem refreshTotal_error (g : Gate) :
    g.refreshTotal "error" = g.allRefreshes.countP (·.fault?.isSome) := by
  rw [refreshTotal, Metrics.count_eq, map_refreshes_samples, List.count, List.countP_map]
  refine List.countP_congr fun r _ => ?_
  rw [Refresh.isSome_fault?_iff]
  unfold Refresh.status
  cases h : r.fetched? <;> simp [h]

theorem refreshTotal_add (g : Gate) :
    g.refreshTotal "success" + g.refreshTotal "error" = g.allRefreshes.length := by
  rw [refreshTotal_success, refreshTotal_error, List.length_eq_countP_add_countP (·.fetched?.isSome)]
  congr 1
  refine List.countP_congr fun r _ => ?_
  simp [Refresh.isSome_fault?_iff]

theorem keysGauge?_record_refreshed (g : Gate) (r : Refresh) (uri : String) :
    (g.record (.refreshed r)).keysGauge? uri =
      (if r.uri = uri then r.keySet?.map (·.size) else none).or (g.keysGauge? uri) := by
  unfold keysGauge? Metrics.last? Metrics.keyCounts
  rw [samples_record, Event.samples, Refresh.samples_eq, List.filterMap_append, List.filter_append,
    List.getLast?_append]
  cases r.keySet? with
  | none => simp
  | some keys => by_cases mine : r.uri = uri <;> simp [mine]

theorem keysGauge?_record_validated (g : Gate) (outcome : String) (took : Span) (uri : String) :
    (g.record (.validated outcome took)).keysGauge? uri = g.keysGauge? uri := by
  unfold keysGauge? Metrics.keyCounts
  rw [samples_record, List.filterMap_append]
  simp [Event.samples]

/-! ## What may happen -/

/-- A gate, and one that has come of it, as far as the metrics can tell. The list has the outcomes of the
validations in between. -/
inductive Books : Gate → List String → Gate → Prop
  /-- Clock and network may have changed. -/
  | same {g g' : Gate} (entries : g'.entries = g.entries) (events : g'.events = g.events) : Books g [] g'
  | registers (g : Gate) (uri : String) (floor : Span) : Books g [] (g.register uri floor)
  | publishes {g : Gate} {e : Entry} {r : Refresh} (found : g.lookup? e.uri = some e)
      (mine : r.uri = e.uri) : Books g [] (g.publishRefresh e r).2
  | validates (g : Gate) (outcome : String) (took : Span) :
    Books g [outcome] (g.record (.validated outcome took))
  | trans {g g' g'' : Gate} {os os' : List String} (first : Books g os g') (second : Books g' os' g'') :
    Books g (os ++ os') g''

theorem Books.refl (g : Gate) : g.Books [] g := .same rfl rfl

theorem Books.tail (first : g.Books os g') (second : g'.Books [] g'') : g.Books os g'' := by
  have both := first.trans second
  rwa [List.append_nil] at both

theorem Books.outcomes (books : g.Books os g') : g'.outcomes = g.outcomes ++ os := by
  induction books with
  | same _ events => simp [Gate.outcomes, events]
  | registers g uri floor =>
    unfold Gate.outcomes register
    split <;> simp
  | publishes => simp [Gate.outcomes, publishRefresh, record, put, Event.outcome?]
  | validates => simp [Gate.outcomes, record, Event.outcome?]
  | trans _ _ ih ih' => rw [ih', ih, List.append_assoc]

/-! ## Refreshes and entries -/

/-- The refreshes on record are those that the entries have counted, and the gauges show what the entries
hold. -/
structure Balanced (g : Gate) : Prop where
  distinct : g.uris.Nodup
  counted : ∀ uri, (g.lookup? uri).elim 0 (·.attempts) = (g.refreshes uri).length
  total : (g.entries.map (·.attempts)).sum = g.allRefreshes.length
  gauges : ∀ uri, g.keysGauge? uri = (g.lookup? uri).bind fun e => e.held.map (·.keys.size)

theorem balanced_new (settings : FetchSettings) (epoch : Stamp) (network : Http.Network) :
    (new settings epoch network).Balanced :=
  ⟨List.nodup_nil, fun _ => rfl, rfl, fun _ => rfl⟩

theorem Balanced.same (h : g.Balanced) (entries : g'.entries = g.entries) (events : g'.events = g.events) :
    g'.Balanced := by
  obtain ⟨distinct, counted, total, gauges⟩ := h
  constructor
  · simpa only [uris, entries] using distinct
  · simpa only [lookup?, refreshes, entries, events] using counted
  · simpa only [allRefreshes, entries, events] using total
  · simpa only [keysGauge?, samples, lookup?, entries, events] using gauges

theorem Balanced.register (h : g.Balanced) (uri : String) (floor : Span) :
    (g.register uri floor).Balanced := by
  by_cases known : (g.lookup? uri).isSome
  · rw [Gate.register, if_pos known]
    exact h
  have new : g.lookup? uri = none := by simpa using known
  have entry (other : String) : (g.register uri floor).lookup? other =
      (g.lookup? other).or (if uri = other then some (.new uri floor) else none) := by
    rw [lookup?_register]
  refine ⟨nodup_uris_register h.distinct uri floor, fun other => ?_, ?_, fun other => ?_⟩
  · rw [entry, refreshes_register, ← h.counted other]
    by_cases mine : uri = other
    · subst mine
      simp [new, Entry.new]
    · simp [mine]
  · rw [Gate.register, if_neg known, List.map_append, List.sum_append]
    exact h.total
  · have events : (g.register uri floor).keysGauge? other = g.keysGauge? other := by
      rw [Gate.register, if_neg known]
      rfl
    rw [events, entry, h.gauges other]
    by_cases mine : uri = other
    · subst mine
      simp [new, Entry.new]
    · simp [mine]

/-- Of entries with different endpoints, one has its count raised. -/
theorem sum_attempts_put {e' : Entry} (distinct : g.uris.Nodup) (found : g.lookup? e.uri = some e)
    (mine : e'.uri = e.uri) (more : e'.attempts = e.attempts + 1) :
    ((g.put e').entries.map (·.attempts)).sum = (g.entries.map (·.attempts)).sum + 1 := by
  unfold uris at distinct
  unfold lookup? at found
  unfold put
  generalize g.entries = es at distinct found ⊢
  simp only [mine]
  induction es with
  | nil => cases found
  | cons first rest ih =>
    rw [List.map_cons, List.nodup_cons] at distinct
    by_cases here : first.uri = e.uri
    · obtain rfl : first = e := by simpa [here] using found
      have others : rest.map (fun old => if old.uri = first.uri then e' else old) = rest := by
        refine (List.map_congr_left fun old there => if_neg fun same => distinct.1 ?_).trans (List.map_id _)
        exact same ▸ List.mem_map_of_mem there
      rw [List.map_cons, if_pos rfl, others]
      simp only [List.map_cons, List.sum_cons, more]
      omega
    · rw [List.find?_cons_of_neg (by simpa using here)] at found
      have rest := ih distinct.2 found
      rw [List.map_cons, if_neg here]
      simp only [List.map_cons, List.sum_cons] at rest ⊢
      omega

theorem Balanced.publish (h : g.Balanced) (found : g.lookup? e.uri = some e) (mine : r.uri = e.uri) :
    (g.publishRefresh e r).2.Balanced := by
  refine ⟨?_, fun uri => ?_, ?_, fun uri => ?_⟩
  · rw [uris_publishRefresh]
    exact h.distinct
  · rw [refreshes_publishRefresh, List.length_append, ← h.counted uri]
    by_cases same : e.uri = uri
    · subst same
      rw [lookup?_publishRefresh found, found, if_pos mine]
      exact e.attempts_publish g.settings r
    · rw [lookup?_publishRefresh_of_ne (Ne.symm same), if_neg (mine ▸ same)]
      rfl
  · have more := sum_attempts_put h.distinct found (e.uri_publish g.settings r)
      (e.attempts_publish g.settings r)
    have events : (g.publishRefresh e r).2.allRefreshes = g.allRefreshes ++ [r] := by
      simp [allRefreshes, publishRefresh, record, put, Event.refresh?]
    rw [events, List.length_append, ← h.total]
    exact more
  · rw [publishRefresh, keysGauge?_record_refreshed]
    have before : (g.put (e.publish g.settings r).entry).keysGauge? uri = g.keysGauge? uri := rfl
    have entry : ((g.put (e.publish g.settings r).entry).record (.refreshed r)).lookup? uri =
        (g.publishRefresh e r).2.lookup? uri := rfl
    rw [before, entry, h.gauges uri]
    by_cases same : e.uri = uri
    · subst same
      rw [lookup?_publishRefresh found, found, if_pos mine, Option.bind_some, Option.bind_some,
        Entry.held_publish, Refresh.keySet?_eq, mine]
      cases r.fetched? <;> rfl
    · rw [lookup?_publishRefresh_of_ne (Ne.symm same), if_neg (mine ▸ same)]
      rfl

theorem Balanced.validate (h : g.Balanced) (outcome : String) (took : Span) :
    (g.record (.validated outcome took)).Balanced := by
  refine ⟨h.distinct, fun uri => ?_, ?_, fun uri => ?_⟩
  · rw [refreshes_record_validated]
    exact h.counted uri
  · have events : (g.record (.validated outcome took)).allRefreshes = g.allRefreshes := by
      simp [allRefreshes, record, Event.refresh?]
    rw [events]
    exact h.total
  · rw [keysGauge?_record_validated]
    exact h.gauges uri

theorem Books.balanced (books : g.Books os g') (h : g.Balanced) : g'.Balanced := by
  induction books with
  | same entries events => exact h.same entries events
  | registers g uri floor => exact h.register uri floor
  | publishes found mine => exact h.publish found mine
  | validates g outcome took => exact h.validate outcome took
  | trans _ _ ih ih' => exact ih' (ih h)

/-! ## Looking up keys -/

theorem books_refresh (found : g.lookup? uri = some e) : g.Books [] (g.refresh e).2 := by
  obtain rfl := uri_of_lookup? found
  let run := Fetched.run g.settings g.epoch e.uri g.network g.now
  have asked : g.Books [] { g with now := run.ended, network := run.state } := .same rfl rfl
  exact asked.tail (.publishes found rfl)

theorem books_get (g : Gate) (uri : String) : g.Books [] (g.get uri).gate := by
  unfold get
  split
  · exact .refl g
  · rename_i found
    split
    · exact .refl g
    · exact books_refresh found
    · exact books_refresh found
    · exact .refl g

theorem books_firstLook (g : Gate) (uri id : String) : g.Books [] (g.firstLook uri id).gate := by
  unfold firstLook
  split
  · exact .refl g
  · rename_i e found
    split
    · rename_i behind _
      have after : g.Books [] (if behind then (g.refresh e).2 else g) := by
        cases behind with
        | false => exact .refl g
        | true => exact books_refresh found
      simp only
      split
      · exact after
      · exact after
      · exact .refl g
    · exact books_refresh found
    · exact .refl g

theorem books_forceKey (g : Gate) (uri id : String) : g.Books [] (g.forceKey uri id).gate := by
  unfold forceKey
  split
  · exact .refl g
  · rename_i found
    split
    · exact books_refresh found
    · exact .refl g

theorem books_getKey (g : Gate) (uri id : String) : g.Books [] (g.getKey uri id).gate := by
  have first := g.books_firstLook uri id
  unfold getKey
  simp only
  split
  · exact first
  · exact first.tail (books_forceKey ..)

theorem books_getKeyBefore (g : Gate) (deadline : Instant) (uri id : String) :
    g.Books [] (g.getKeyBefore deadline uri id).gate := by
  have first := g.books_firstLook uri id
  unfold getKeyBefore
  simp only
  split
  · exact first
  · split
    · exact first
    · exact first.tail (books_forceKey ..)

theorem books_visit (g : Gate) (count : Nat) (uris : List String) :
    g.Books [] (g.visit count uris).2 := by
  induction uris generalizing g count with
  | nil => exact .refl g
  | cons uri rest ih =>
    unfold visit
    split
    · exact ih ..
    · rename_i found
      split
      · exact (books_refresh found).tail (ih ..)
      · exact ih ..

theorem books_refreshStale (g : Gate) : g.Books [] g.refreshStale.gate := books_visit ..

/-! ## Tokens -/

variable (g) (check : SignatureCheck) (v : Validator) (token : String) (stamp : Stamp)

theorem books_verify : g.Books [] (g.verify check v token stamp).gate := by
  unfold verify
  split
  · exact .refl g
  · exact books_getKey ..

theorem books_validate : g.Books [(g.validate check v token stamp).answer.outcome]
    (g.validate check v token stamp).gate :=
  (books_verify g check v token stamp).trans (.validates ..)

theorem books_validateBefore (deadline : Instant) :
    g.Books ((g.validateBefore deadline check v token stamp).answer.map (·.outcome)).toList
      (g.validateBefore deadline check v token stamp).gate := by
  unfold validateBefore
  split
  · exact .validates ..
  · rename_i header _
    have looked := g.books_getKeyBefore deadline v.endpoint header.keyId
    simp only
    split
    · exact looked
    · exact looked.trans (.validates ..)

end Gate

end TokenGate
