import TokenGate.Proofs.Scene.Account
import TokenGate.Proofs.Service.Timely
import TokenGate.Proofs.Standing

/-!
# What the metrics account for

After any run, the counters of validations count what the callers were told, the counters of refreshes
count what the entries have counted, and the gauges show how many keys there are.
-/

namespace TokenGate

namespace Gate

open Metrics (HasLine)

variable {g : Gate} {told : List (Call × Result)}

/-- All counters of validations together. -/
def allValidations (g : Gate) : Nat :=
  ((Metrics.labels (Metrics.validations g.samples)).map g.validationsTotal).sum

/-- The metrics of a gate, and what its callers have been told. -/
structure Accounts (g : Gate) (told : List (Call × Result)) : Prop where
  validations : ∀ outcome,
    g.validationsTotal outcome = told.countP fun p => p.1.ending? p.2 = some outcome
  /-- Validations whose callers left are not counted. -/
  allValidations : g.allValidations = told.countP fun p => p.1.validates && p.2.isEnd
  refreshes : g.refreshTotal "success" + g.refreshTotal "error" = (g.entries.map (·.attempts)).sum
  attempts : ∀ e ∈ g.entries, e.attempts = g.allRefreshes.countP (·.uri = e.uri)
  /-- Keys that were kept in spite of a failure do not make it a success. -/
  failures : g.refreshTotal "error" = g.allRefreshes.countP (·.fault?.isSome)
  gauges : ∀ uri n, g.keysGauge? uri = some n ↔
    ∃ st ∈ g.status, st.uri = uri ∧ st.ready ∧ st.keyCount = n
  validationsShown : ∀ outcome, g.validationsTotal outcome ≠ 0 →
    HasLine g.metricLines "bearer_auth_token_validations_total" "outcome" outcome
      (toString (g.validationsTotal outcome))
  refreshesShown : ∀ status, g.refreshTotal status ≠ 0 →
    HasLine g.metricLines "bearer_auth_jwks_refresh_total" "status" status
      (toString (g.refreshTotal status))
  gaugesShown : ∀ uri n, g.keysGauge? uri = some n →
    HasLine g.metricLines "bearer_auth_jwks_keys" "jwks_uri" uri
      (((Binary64.ofNat? n).map (·.toPositional)).getD "")

theorem length_refreshes (g : Gate) (uri : String) :
    (g.refreshes uri).length = g.allRefreshes.countP (·.uri = uri) := by
  unfold refreshes allRefreshes
  rw [List.countP_filterMap, List.length_filterMap_eq_countP]
  refine List.countP_congr fun e _ => ?_
  cases e with
  | validated => simp [Event.refresh?]
  | refreshed r =>
    simp only [Event.refresh?]
    split <;> simp_all

theorem Balanced.gauge_iff (h : g.Balanced) (uri : String) (n : Nat) : g.keysGauge? uri = some n ↔
    ∃ st ∈ g.status, st.uri = uri ∧ st.ready ∧ st.keyCount = n := by
  rw [h.gauges uri]
  constructor
  · intro set
    obtain ⟨e, found, set⟩ := Option.bind_eq_some_iff.1 set
    obtain ⟨held, there, rfl⟩ := Option.map_eq_some_iff.1 set
    refine ⟨e.status g.now, mem_status_iff.2 ⟨e, List.mem_of_find?_eq_some found, rfl⟩,
      uri_of_lookup? found, ?_, ?_⟩
    · simp [Entry.status, there]
    · simp [Entry.status, there]
  · rintro ⟨st, here, rfl, ready, rfl⟩
    obtain ⟨e, tracked, rfl⟩ := mem_status_iff.1 here
    obtain ⟨held, there⟩ := Option.isSome_iff_exists.1 ready
    have found : g.lookup? (e.status g.now).uri = some e := lookup?_of_mem h.distinct tracked
    rw [found, Option.bind_some, there]
    simp [Entry.status, there]

theorem allValidations_eq (g : Gate) : g.allValidations = g.outcomes.length := by
  rw [← map_validations_samples, List.length_map, ← Metrics.sum_count]
  rfl

theorem Balanced.accounts (h : g.Balanced) (ends : ∀ p ∈ told, ∃ o, p.1.Ends p.2 o)
    (outcomes : g.outcomes.Perm (endings told)) : g.Accounts told where
  validations outcome := by
    rw [validationsTotal_eq, outcomes.count_eq, endings, List.count, List.countP_filterMap]
    refine List.countP_congr fun p _ => ?_
    cases p.1.ending? p.2 <;> simp
  allValidations := by
    rw [allValidations_eq, outcomes.length_eq, endings, List.length_filterMap_eq_countP]
    refine List.countP_congr fun p here => ?_
    obtain ⟨o, ends⟩ := ends p here
    rw [ends.ending?, ends.isSome_eq]
  refreshes := by rw [refreshTotal_add, h.total]
  attempts e here := by
    rw [← length_refreshes, ← h.counted, lookup?_of_mem h.distinct here]
    rfl
  failures := g.refreshTotal_error
  gauges := h.gauge_iff
  validationsShown outcome counted := by
    have shown := Metrics.hasLine_counterLines "bearer_auth_token_validations_total" "outcome" counted
    simp only [HasLine, metricLines, Metrics.lines, List.mem_mergeSort, List.mem_append]
    exact .inl (.inl (.inl (.inl shown)))
  refreshesShown status counted := by
    have shown := Metrics.hasLine_counterLines "bearer_auth_jwks_refresh_total" "status" counted
    simp only [HasLine, metricLines, Metrics.lines, List.mem_mergeSort, List.mem_append]
    exact .inl (.inl (.inr shown))
  gaugesShown uri n set := by
    have shown := Metrics.hasLine_gaugeLines "bearer_auth_jwks_keys" "jwks_uri" set
    simp only [HasLine, metricLines, Metrics.lines, List.mem_mergeSort, List.mem_append]
    exact .inr shown

end Gate

namespace Scene

theorem accounts_of_plays {settings : FetchSettings} {epoch : Stamp} {network : Http.Network}
    {check : SignatureCheck} {validator : Option Validator} {s : Scene} {told : List (Call × Result)}
    (plays : (Scene.new (.new settings epoch network) check validator).Plays told s) :
    s.gate.Accounts told := by
  obtain ⟨ends, os, books, perm⟩ := plays.accounted
  have balanced := books.balanced (Gate.balanced_new settings epoch network)
  refine balanced.accounts ends ?_
  rw [books.outcomes]
  exact perm

/-! ## A server that fails after a while -/

/-- What the callers have been told after these steps, and the scene then. -/
def through (s : Scene) (steps : List Step) : List (Call × Result) × Scene :=
  steps.foldl (fun (told, s) st => (told ++ st.told (s.step st).1, (s.step st).2)) ([], s)

theorem plays_through (s : Scene) (steps : List Step) : s.Plays (s.through steps).1 (s.through steps).2 := by
  induction steps using List.reverseRecOn with
  | nil => exact .rests
  | append_singleton steps st ih =>
    unfold through at ih ⊢
    rw [List.foldl_append]
    exact ih.steps st

def failing : Scene :=
  .new (.new default .zero (.ofScripts true
    [("http://k/", [Service.Encounter.published, ⟨503, [], "", .zero, false, false⟩])])) (Service.vouch true)
    (some Service.Encounter.ofIssuer)

def tracking : Step := .call (.register "http://k/" (.ofSeconds 60))

def crowded : List Step :=
  [tracking,
    .parallel [.validate Service.Encounter.forgedToken none, .request .service Service.holder,
      .validate "x" none],
    .call (.advance (.ofSeconds 400)), .call .refreshStale]

/-- Side by side, two tokens are accepted after one refresh, and one is refused. All attempts of the
second refresh fail. -/
theorem crowded_accounted :
    (failing.through crowded).2.gate.Accounts (failing.through crowded).1 ∧
    (failing.through crowded).2.gate.validationsTotal "success" = 2 ∧
    (failing.through crowded).2.gate.validationsTotal "malformed_token" = 1 ∧
    (failing.through crowded).2.gate.refreshTotal "success" = 1 ∧
    (failing.through crowded).2.gate.refreshTotal "error" = 1 ∧
    (failing.through crowded).2.gate.keysGauge? "http://k/" = some 1 := by
  refine ⟨accounts_of_plays (plays_through failing crowded), ?_⟩
  decide +kernel

def hasty : List Step := [tracking, .abort (.validate Service.Encounter.forgedToken none)]

/-- A caller who leaves before the keys are there is counted nowhere. The refresh that it set off is. -/
theorem dropped_validation_uncounted :
    failing.Plays (failing.through hasty).1 (failing.through hasty).2 ∧
    ((failing.through hasty).1.countP fun p => p.1.validates) = 1 ∧
    (failing.through hasty).2.gate.allValidations = 0 ∧
    (failing.through hasty).2.gate.refreshTotal "success" = 1 := by
  refine ⟨plays_through failing hasty, ?_⟩
  decide +kernel

end Scene

end TokenGate
