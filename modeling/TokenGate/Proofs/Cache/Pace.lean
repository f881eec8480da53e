import TokenGate.Proofs.Cache.History

/-!
# The floor between refreshes

Two refreshes of an endpoint are at least its floor apart. The gate keeps this as long as a refresh
begins only when the entry has rested.
-/

namespace TokenGate

namespace Entry

variable {e : Entry} {now time : Instant}

/-- The floor has passed since the last refresh. -/
def Rested (e : Entry) (now : Instant) : Prop :=
  ∀ t, e.lastAttempt = some t → t.nanos + e.floor.nanos ≤ now.nanos

theorem Rested.mono (h : e.Rested time) (le : time ≤ now) : e.Rested now :=
  fun t last => Nat.le_trans (h t last) le

/-- Who judges by a time that has passed meanwhile is on the safe side. -/
theorem rested_of_mayRefresh (may : e.mayRefresh time) (le : time ≤ now)
    (past : ∀ t, e.lastAttempt = some t → t ≤ now) : e.Rested now := by
  intro t last
  have before := past t last
  unfold mayRefresh at may
  simp only [last, decide_eq_true_eq] at may
  have span : e.floor.nanos ≤ time.nanos - t.nanos := by
    have cut := Span.nanos_ofNanos (time.nanos - t.nanos)
    have may : e.floor.nanos ≤ (time.since t).nanos := may
    rw [Instant.since, cut] at may
    omega
  simp only [Instant.le_def] at le before
  omega

end Entry

namespace Gate

variable {g g' : Gate} {uri other : String} {e : Entry} {r : Refresh}

/-- Each refresh starts at least the floor after the end of the one before. -/
def Spaced (floor : Span) (rs : List Refresh) : Prop :=
  rs.Pairwise fun a b => a.ended.nanos + floor.nanos ≤ b.started.nanos

/-- The refreshes of an endpoint are spaced, and its entry knows the last of them. -/
structure Paced (g : Gate) (uri : String) : Prop where
  spaced : ∀ e, g.lookup? uri = some e → Spaced e.floor (g.refreshes uri)
  last : ∀ e, g.lookup? uri = some e → ∀ r ∈ g.refreshes uri,
    r.started ≤ r.ended ∧ ∃ t, e.lastAttempt = some t ∧ r.ended ≤ t
  past : ∀ e, g.lookup? uri = some e → ∀ t, e.lastAttempt = some t → t ≤ g.now
  untracked : g.lookup? uri = none → g.refreshes uri = []

theorem paced_new (settings : FetchSettings) (epoch : Stamp) (network : Http.Network) (uri : String) :
    (new settings epoch network).Paced uri := by
  refine ⟨fun e h => ?_, fun e h => ?_, fun e h => ?_, fun _ => rfl⟩ <;> cases h

theorem Paced.mono (h : g.Paced uri) (entry : g'.lookup? uri = g.lookup? uri)
    (refreshes : g'.refreshes uri = g.refreshes uri) (now : g.now ≤ g'.now) : g'.Paced uri := by
  refine ⟨?_, ?_, fun e found t last => ?_, ?_⟩
  · rw [entry, refreshes]; exact h.spaced
  · rw [entry, refreshes]; exact h.last
  · rw [entry] at found
    exact Nat.le_trans (h.past e found t last) now
  · rw [entry, refreshes]; exact h.untracked

theorem lookup?_register (g : Gate) (uri other : String) (floor : Span) :
    (g.register uri floor).lookup? other =
      (g.lookup? other).or (if uri = other then some (.new uri floor) else none) := by
  unfold register
  split
  · rename_i tracked
    split
    · rename_i same
      subst same
      obtain ⟨e, found⟩ := Option.isSome_iff_exists.1 tracked
      rw [found, Option.some_or]
    · rw [Option.or_none]
  · unfold lookup?
    rw [List.find?_append]
    congr 1
    by_cases same : uri = other <;> simp [Entry.new, same]

theorem Paced.register (h : g.Paced uri) (other : String) (floor : Span) :
    (g.register other floor).Paced uri := by
  have now : (g.register other floor).now = g.now := by
    unfold Gate.register
    split <;> rfl
  cases found : g.lookup? uri with
  | some e =>
    refine h.mono ?_ (refreshes_register ..) (by rw [now]; exact Nat.le_refl _)
    rw [found, lookup?_register_of_some found]
  | none =>
    have none := h.untracked found
    refine ⟨fun e _ => ?_, fun e _ r hr => ?_, fun e new t last => ?_, fun _ => ?_⟩
    · rw [refreshes_register, none]; exact List.Pairwise.nil
    · rw [refreshes_register, none] at hr; cases hr
    · rw [lookup?_register, found, Option.none_or] at new
      split at new
      · obtain rfl := Option.some.inj new
        cases last
      · cases new
    · rw [refreshes_register, none]

theorem Paced.publish (h : g.Paced uri) (found : g.lookup? uri = some e) (mine : r.uri = uri)
    (rested : e.Rested r.started) (forward : r.started ≤ r.ended) (ended : r.ended = g.now) :
    (g.publishRefresh e r).2.Paced uri := by
  have entry := lookup?_publishRefresh (r := r) found
  have refreshes := g.refreshes_publishRefresh e r uri
  rw [if_pos mine] at refreshes
  refine ⟨fun e' found' => ?_, fun e' found' r' hr => ?_, fun e' found' t last => ?_, fun none => ?_⟩
  · rw [entry] at found'
    obtain rfl := Option.some.inj found'
    rw [Entry.floor_publish, refreshes]
    refine List.pairwise_append.2 ⟨h.spaced e found, List.pairwise_singleton .., ?_⟩
    intro a ha b hb
    obtain rfl := List.mem_singleton.1 hb
    obtain ⟨-, t, last, le⟩ := h.last e found a ha
    have rest := rested t last
    simp only [Instant.le_def] at le
    omega
  · rw [entry] at found'
    obtain rfl := Option.some.inj found'
    rw [refreshes, List.mem_append, List.mem_singleton] at hr
    rw [Entry.lastAttempt_publish]
    obtain old | rfl := hr
    · obtain ⟨forward', t, last, le⟩ := h.last e found r' old
      have past := h.past e found t last
      exact ⟨forward', r.ended, rfl, by rw [ended]; exact Nat.le_trans le past⟩
    · exact ⟨forward, r'.ended, rfl, Nat.le_refl _⟩
  · rw [entry] at found'
    obtain rfl := Option.some.inj found'
    rw [Entry.lastAttempt_publish, Option.some.injEq] at last
    rw [← last, ended]
    exact Nat.le_refl _
  · rw [entry] at none
    cases none

theorem Paced.publish_of_ne (h : g.Paced uri) (entry : uri ≠ e.uri) (mine : r.uri ≠ uri) :
    (g.publishRefresh e r).2.Paced uri := by
  refine h.mono (lookup?_publishRefresh_of_ne entry) ?_ (Nat.le_refl _)
  rw [refreshes_publishRefresh, if_neg mine, List.append_nil]

theorem Paced.rested (h : g.Paced uri) (found : g.lookup? uri = some e) {time : Instant}
    (may : e.mayRefresh time) (le : time ≤ g.now) : e.Rested g.now :=
  Entry.rested_of_mayRefresh may le (h.past e found)

end Gate

end TokenGate
