import TokenGate.Proofs.Gate.Deeds

/-!
# The count of validations

A gate has its refreshes and its validations on record. The validations are there for the metrics only:
without them the gate answers all else the same, and does the same.
-/

namespace TokenGate

def Event.isRefresh : Event → Bool
  | refreshed _ => true
  | validated _ _ => false

namespace Gate

/-- The gate without the validations on record. -/
def uncounted (g : Gate) : Gate := { g with events := g.events.filter Event.isRefresh }

theorem entries_uncounted (g : Gate) : g.uncounted.entries = g.entries := rfl

theorem lookup?_uncounted (g : Gate) (uri : String) : g.uncounted.lookup? uri = g.lookup? uri := rfl

theorem now_uncounted (g : Gate) : g.uncounted.now = g.now := rfl

theorem uncounted_record_validated (g : Gate) (outcome : String) (took : Span) :
    (g.record (.validated outcome took)).uncounted = g.uncounted := by
  unfold uncounted record
  rw [List.filter_append]
  simp [Event.isRefresh]

theorem uncounted_uncounted (g : Gate) : g.uncounted.uncounted = g.uncounted := by
  unfold uncounted
  rw [List.filter_filter]
  simp

/-- Gates that differ at most in the validations on record. -/
structure SameKeys (g g' : Gate) : Prop where
  settings : g.settings = g'.settings
  epoch : g.epoch = g'.epoch
  entries : g.entries = g'.entries
  now : g.now = g'.now
  network : g.network = g'.network
  refreshes : ∀ uri, g.refreshes uri = g'.refreshes uri

theorem refreshes_uncounted (g : Gate) (uri : String) : g.uncounted.refreshes uri = g.refreshes uri := by
  unfold refreshes uncounted
  rw [List.filterMap_filter]
  congr 1
  funext e
  cases e <;> rfl

theorem sameKeys_of_uncounted {g g' : Gate} (h : g.uncounted = g'.uncounted) : g.SameKeys g' := by
  have part {α : Type} (f : Gate → α) : f g.uncounted = f g'.uncounted := congrArg f h
  refine ⟨part settings, part epoch, part entries, part now, part network, fun uri => ?_⟩
  rw [← refreshes_uncounted, h, refreshes_uncounted]

end Gate

def Answered.uncounted {α : Type} (a : Answered α) : Answered α := { a with gate := a.gate.uncounted }

namespace Gate

/-! ## Looking up keys -/

theorem uncounted_publishRefresh (g : Gate) (e : Entry) (r : Refresh) :
    (g.uncounted.publishRefresh e r).2 = (g.publishRefresh e r).2.uncounted := by
  unfold publishRefresh record uncounted
  rw [List.filter_append]
  rfl

theorem refresh_uncounted (g : Gate) (e : Entry) :
    g.uncounted.refresh e = ((g.refresh e).1, (g.refresh e).2.uncounted) := by
  let run := Fetched.run g.settings g.epoch e.uri g.network g.now
  have after := uncounted_publishRefresh { g with now := run.ended, network := run.state } e
    ⟨e.uri, g.now, run.ended, run.result⟩
  exact Prod.ext rfl after

theorem get_uncounted (g : Gate) (uri : String) : g.uncounted.get uri = (g.get uri).uncounted := by
  unfold get
  rw [lookup?_uncounted, now_uncounted]
  split
  · rfl
  · simp only [refresh_uncounted]
    split <;> rfl

theorem firstLook_uncounted (g : Gate) (uri id : String) :
    g.uncounted.firstLook uri id = (g.firstLook uri id).uncounted := by
  unfold firstLook
  rw [lookup?_uncounted, now_uncounted]
  split
  · rfl
  · simp only [refresh_uncounted]
    split
    · rename_i behind _
      cases behind <;> simp only [if_true, Bool.false_eq_true, if_false] <;> split <;> rfl
    · rfl
    · rfl

theorem forceKey_uncounted (g : Gate) (uri id : String) :
    g.uncounted.forceKey uri id = (g.forceKey uri id).uncounted := by
  unfold forceKey
  rw [lookup?_uncounted, now_uncounted]
  split
  · rfl
  · simp only [refresh_uncounted]
    split <;> rfl

theorem getKey_uncounted (g : Gate) (uri id : String) :
    g.uncounted.getKey uri id = (g.getKey uri id).uncounted := by
  unfold getKey
  rw [firstLook_uncounted]
  simp only [Answered.uncounted]
  split
  · rfl
  · exact forceKey_uncounted ..

theorem getKeyBefore_uncounted (g : Gate) (deadline : Instant) (uri id : String) :
    g.uncounted.getKeyBefore deadline uri id = (g.getKeyBefore deadline uri id).uncounted := by
  unfold getKeyBefore
  simp only [firstLook_uncounted, Answered.uncounted, forceKey_uncounted]
  split
  · rfl
  · split <;> rfl

theorem visit_uncounted (g : Gate) (count : Nat) (uris : List String) :
    g.uncounted.visit count uris = ((g.visit count uris).1, (g.visit count uris).2.uncounted) := by
  induction uris generalizing g count with
  | nil => rfl
  | cons uri rest ih =>
    unfold visit
    rw [lookup?_uncounted, now_uncounted]
    split
    · exact ih ..
    · split
      · rw [refresh_uncounted]
        exact ih ..
      · exact ih ..

theorem refreshStale_uncounted (g : Gate) :
    g.uncounted.refreshStale = g.refreshStale.uncounted := by
  unfold refreshStale
  rw [entries_uncounted, visit_uncounted]
  rfl

theorem register_uncounted (g : Gate) (uri : String) (floor : Span) :
    g.uncounted.register uri floor = (g.register uri floor).uncounted := by
  unfold register
  rw [lookup?_uncounted]
  split <;> rfl

/-! ## Tokens and requests -/

variable (g : Gate) (check : SignatureCheck) (v : Validator) (token : String) (stamp : Stamp)

theorem verify_uncounted :
    g.uncounted.verify check v token stamp = (g.verify check v token stamp).uncounted := by
  unfold verify
  split
  · rfl
  · rw [getKey_uncounted]
    rfl

theorem validate_uncounted :
    (g.uncounted.validate check v token stamp).uncounted = (g.validate check v token stamp).uncounted := by
  unfold validate
  rw [verify_uncounted]
  simp only [Answered.uncounted, Verdict.event, uncounted_record_validated, uncounted_uncounted]

theorem validateBefore_uncounted (deadline : Instant) :
    (g.uncounted.validateBefore deadline check v token stamp).uncounted =
      (g.validateBefore deadline check v token stamp).uncounted := by
  unfold validateBefore
  split
  · simp only [Answered.uncounted, reply, Verdict.event, uncounted_record_validated, uncounted_uncounted]
    rfl
  · rw [getKeyBefore_uncounted]
    simp only [Answered.uncounted]
    split
    · simp only [uncounted_uncounted]
    · simp only [Verdict.event, uncounted_record_validated, uncounted_uncounted, now_uncounted]

end Gate

namespace Service

variable {g : Gate} {app : App} {r : Request}

theorem serve_uncounted (v : Validator) (unmetered : app.route? r.path ≠ some .metrics)
    (verdict : Option Verdict) : serve g.uncounted v app r verdict = serve g v app r verdict := by
  have same (caller : Option ValidatedToken) :
      dispatch g.uncounted r (app.route? r.path) caller = dispatch g r (app.route? r.path) caller := by
    unfold dispatch
    split
    · rfl
    · rename_i route place
      cases route with
      | metrics => exact absurd place unmetered
      | _ => rfl
  unfold serve respond guarded
  simp only [same]

end Service

open Service

theorem Gate.request_uncounted (g : Gate) (check : SignatureCheck) (v : Validator) {app : App}
    {r : Request} (unmetered : app.route? r.path ≠ some .metrics) :
    (g.uncounted.request check v app r).uncounted = (g.request check v app r).uncounted := by
  unfold Gate.request
  split
  · simp only [Answered.uncounted, reply, serve_uncounted v unmetered, uncounted_uncounted, now_uncounted]
  · rename_i token _
    have judged := validateBefore_uncounted g check v token g.wallStamp (g.now.wake requestTimeout)
    rw [now_uncounted, show g.uncounted.wallStamp = g.wallStamp from rfl]
    generalize g.uncounted.validateBefore .. = a' at judged ⊢
    generalize g.validateBefore .. = a at judged ⊢
    obtain ⟨answer, time, after⟩ := a
    obtain ⟨answer', time', after'⟩ := a'
    simp only [Answered.uncounted, Answered.mk.injEq] at judged
    obtain ⟨rfl, rfl, same⟩ := judged
    simp only
    split
    · simp only [Answered.uncounted, same]
    · rename_i verdict
      have served : serve after' v app r (some verdict) = serve after v app r (some verdict) := by
        rw [← serve_uncounted v unmetered, same, serve_uncounted v unmetered]
      simp only [Answered.uncounted, same, served]

end TokenGate
