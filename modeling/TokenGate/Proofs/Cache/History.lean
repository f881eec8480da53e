import TokenGate.Gate.Basic

/-!
# What the refreshes of an endpoint make of its entry

The gate records each refresh when it ends. An entry at a later time is the earlier one with the
refreshes in between published into it, one after the other.
-/

namespace TokenGate

namespace Entry

def after (s : FetchSettings) (e : Entry) (rs : List Refresh) : Entry :=
  rs.foldl (fun e r => (e.publish s r).entry) e

variable (s : FetchSettings) (e : Entry) (r : Refresh) (rs rs' : List Refresh)

theorem after_cons : e.after s (r :: rs) = (e.publish s r).entry.after s rs := rfl

theorem after_append : e.after s (rs ++ rs') = (e.after s rs).after s rs' := by
  unfold after
  rw [List.foldl_append]

theorem after_snoc : e.after s (rs ++ [r]) = ((e.after s rs).publish s r).entry := by
  rw [after_append]
  rfl

theorem attempts_after : (e.after s rs).attempts = e.attempts + rs.length := by
  induction rs generalizing e with
  | nil => rfl
  | cons r rs ih =>
    rw [after_cons, ih, attempts_publish, List.length_cons]
    omega

end Entry

namespace Gate

def refreshes (g : Gate) (uri : String) : List Refresh :=
  g.events.filterMap fun
    | .refreshed r => if r.uri = uri then some r else none
    | .validated _ _ => none

variable {g g' g'' : Gate} {uri other : String} {e : Entry} {r : Refresh}

theorem uri_of_lookup? (h : g.lookup? uri = some e) : e.uri = uri := by
  simpa using List.find?_some h

theorem refreshes_record_refreshed (g : Gate) (r : Refresh) (uri : String) :
    (g.record (.refreshed r)).refreshes uri =
      g.refreshes uri ++ if r.uri = uri then [r] else [] := by
  unfold refreshes record
  rw [List.filterMap_append]
  by_cases h : r.uri = uri <;> simp [h]

theorem refreshes_record_validated (g : Gate) (outcome : String) (took : Span) (uri : String) :
    (g.record (.validated outcome took)).refreshes uri = g.refreshes uri := by
  unfold refreshes record
  rw [List.filterMap_append]
  simp

@[simp] theorem settings_publishRefresh (g : Gate) (e : Entry) (r : Refresh) :
    (g.publishRefresh e r).2.settings = g.settings := rfl

@[simp] theorem epoch_publishRefresh (g : Gate) (e : Entry) (r : Refresh) :
    (g.publishRefresh e r).2.epoch = g.epoch := rfl

@[simp] theorem settings_register (g : Gate) (uri : String) (floor : Span) :
    (g.register uri floor).settings = g.settings := by
  unfold register
  split <;> rfl

@[simp] theorem epoch_register (g : Gate) (uri : String) (floor : Span) :
    (g.register uri floor).epoch = g.epoch := by
  unfold register
  split <;> rfl

@[simp] theorem refreshes_register (g : Gate) (uri other : String) (floor : Span) :
    (g.register uri floor).refreshes other = g.refreshes other := by
  unfold register
  split <;> rfl

theorem lookup?_publishRefresh (h : g.lookup? uri = some e) :
    (g.publishRefresh e r).2.lookup? uri = some (e.publish g.settings r).entry := by
  obtain rfl := uri_of_lookup? h
  have found : g.lookup? (e.publish g.settings r).entry.uri = some e := by rw [Entry.uri_publish, h]
  have put := lookup?_put found
  rw [Entry.uri_publish] at put
  exact put

theorem lookup?_publishRefresh_of_ne (h : uri ≠ e.uri) :
    (g.publishRefresh e r).2.lookup? uri = g.lookup? uri := by
  have other : uri ≠ (e.publish g.settings r).entry.uri := by rw [Entry.uri_publish]; exact h
  exact g.lookup?_put_of_ne other

theorem refreshes_publishRefresh (g : Gate) (e : Entry) (r : Refresh) (uri : String) :
    (g.publishRefresh e r).2.refreshes uri = g.refreshes uri ++ if r.uri = uri then [r] else [] :=
  refreshes_record_refreshed ..

/-- Since the gate `g`, the refreshes `rs` of an endpoint have ended and nothing else has happened
to its entry. -/
structure Grown (g g' : Gate) (uri : String) (rs : List Refresh) : Prop where
  settings : g'.settings = g.settings
  epoch : g'.epoch = g.epoch
  refreshes : g'.refreshes uri = g.refreshes uri ++ rs
  entry : ∀ e, g.lookup? uri = some e → g'.lookup? uri = some (e.after g.settings rs)

theorem Grown.refl (g : Gate) (uri : String) : Grown g g uri [] :=
  ⟨rfl, rfl, (List.append_nil _).symm, fun _ h => h⟩

theorem Grown.trans {rs rs' : List Refresh} (h : Grown g g' uri rs) (h' : Grown g' g'' uri rs') :
    Grown g g'' uri (rs ++ rs') := by
  refine ⟨h'.settings.trans h.settings, h'.epoch.trans h.epoch, ?_, fun e found => ?_⟩
  · rw [h'.refreshes, h.refreshes, List.append_assoc]
  · rw [h'.entry _ (h.entry e found), h.settings, Entry.after_append]

theorem Grown.of_eq (settings : g'.settings = g.settings) (epoch : g'.epoch = g.epoch)
    (refreshes : g'.refreshes uri = g.refreshes uri)
    (entry : ∀ e, g.lookup? uri = some e → g'.lookup? uri = some e) : Grown g g' uri [] :=
  ⟨settings, epoch, by rw [refreshes, List.append_nil], entry⟩

theorem grown_publishRefresh (found : g.lookup? uri = some e) (mine : r.uri = uri) :
    Grown g (g.publishRefresh e r).2 uri [r] := by
  refine ⟨rfl, rfl, ?_, fun e' found' => ?_⟩
  · rw [refreshes_publishRefresh, if_pos mine]
  · rw [found] at found'
    obtain rfl := Option.some.inj found'
    exact lookup?_publishRefresh found

theorem grown_publishRefresh_of_ne (entry : uri ≠ e.uri) (mine : r.uri ≠ uri) :
    Grown g (g.publishRefresh e r).2 uri [] := by
  refine .of_eq rfl rfl ?_ fun e' found => ?_
  · rw [refreshes_publishRefresh, if_neg mine, List.append_nil]
  · rw [lookup?_publishRefresh_of_ne entry, found]

end Gate

end TokenGate
