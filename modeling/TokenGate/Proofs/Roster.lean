import TokenGate.Proofs.Serving

/-!
# The endpoints

An endpoint is tracked from its first registration on, with the floor that it was given then, and is
never dropped. Nothing but a registration changes which endpoints there are. What the entry of each one
holds has come with the last refresh that brought keys.
-/

namespace TokenGate

namespace Gate

variable {g g' : Gate} {uri : String} {e : Entry}

/-- The endpoints that are tracked, in the order of their registration. -/
def uris (g : Gate) : List String := g.entries.map (·.uri)

theorem mem_uris_iff : uri ∈ g.uris ↔ (g.lookup? uri).isSome := by
  simp [uris, lookup?]

theorem uris_put (g : Gate) (e : Entry) : (g.put e).uris = g.uris := by
  unfold uris put
  rw [List.map_map]
  refine List.map_congr_left fun old _ => ?_
  simp only [Function.comp_apply]
  split
  · rename_i same
    exact same.symm
  · rfl

theorem uris_publishRefresh (g : Gate) (e : Entry) (r : Refresh) :
    (g.publishRefresh e r).2.uris = g.uris :=
  g.uris_put _

theorem uris_register (g : Gate) (uri : String) (floor : Span) :
    (g.register uri floor).uris = if uri ∈ g.uris then g.uris else g.uris ++ [uri] := by
  unfold register
  simp only [mem_uris_iff]
  split
  · rfl
  · unfold uris
    rw [List.map_append]
    rfl

theorem nodup_uris_register (h : g.uris.Nodup) (uri : String) (floor : Span) :
    (g.register uri floor).uris.Nodup := by
  rw [uris_register]
  split
  · exact h
  · rename_i new
    refine List.nodup_append.2 ⟨h, by simp, fun other there uri' here => ?_⟩
    rintro rfl
    rw [List.mem_singleton.1 here] at there
    exact new there

theorem lookup?_of_mem (nodup : g.uris.Nodup) (here : e ∈ g.entries) : g.lookup? e.uri = some e := by
  unfold uris at nodup
  unfold lookup?
  generalize g.entries = es at nodup here
  induction es with
  | nil => cases here
  | cons first rest ih =>
    rw [List.map_cons, List.nodup_cons] at nodup
    obtain rfl | later := List.mem_cons.1 here
    · simp
    · have other : first.uri ≠ e.uri := fun same => nodup.1 (same ▸ List.mem_map_of_mem later)
      rw [List.find?_cons_of_neg (by simpa using other)]
      exact ih nodup.2 later

theorem Deed.uris (deed : Deed g g') : g'.uris = g.uris := by
  cases deed with
  | refreshes => exact uris_publishRefresh ..
  | _ => rfl

end Gate

/-! ## Runs -/

namespace Crowd

variable {c c' : Crowd} {a : Action}

theorem Turn.uris (turn : Turn c a c') (other : ∀ uri floor, a ≠ .register uri floor) :
    c'.gate.uris = c.gate.uris := by
  cases turn with
  | registers uri floor => exact absurd rfl (other uri floor)
  | publishes => rw [gate_published, Gate.uris_publishRefresh]
  | joins | quitsGuard | retires => simp only [gate_setCaller, gate_release, gate_setPhase]
  | _ => rfl

theorem nodup_uris_step (h : c.gate.uris.Nodup) (a : Action) : (c.step a).gate.uris.Nodup := by
  cases a with
  | register uri floor => exact Gate.nodup_uris_register h uri floor
  | _ =>
    rw [(c.turn_step _).uris (by simp)]
    exact h

theorem nodup_uris_run (h : c.gate.uris.Nodup) (actions : List Action) :
    (c.run actions).gate.uris.Nodup := by
  induction actions generalizing c with
  | nil => exact h
  | cons a rest ih => exact ih (nodup_uris_step h a)

end Crowd

def Call.registration? : Call → Option (String × Span)
  | register uri floor => some (uri, floor)
  | _ => none

def Crowd.Action.registration? : Crowd.Action → Option (String × Span)
  | register uri floor => some (uri, floor)
  | _ => none

theorem Call.floor?_eq (uri : String) (c : Call) :
    c.floor? uri = (c.registration?.filter (·.1 = uri)).map (·.2) := by
  cases c with
  | register other floor =>
    by_cases mine : other = uri <;> simp [registration?, floor?, Option.filter, mine]
  | _ => rfl

theorem Crowd.Action.floor?_eq (uri : String) (a : Crowd.Action) :
    a.floor? uri = (a.registration?.filter (·.1 = uri)).map (·.2) := by
  cases a with
  | register other floor =>
    by_cases mine : other = uri <;> simp [registration?, floor?, Option.filter, mine]
  | _ => rfl

theorem lookup_filterMap {α : Type} {uri : String} {registration? : α → Option (String × Span)}
    {floor? : α → Option Span}
    (h : ∀ a, floor? a = ((registration? a).filter (·.1 = uri)).map (·.2)) (l : List α) :
    (l.filterMap registration?).lookup uri = l.findSome? floor? := by
  induction l with
  | nil => rfl
  | cons a rest ih =>
    rw [List.filterMap_cons, List.findSome?_cons, h]
    split
    · rename_i none
      rw [none, ih]
      rfl
    · rename_i registered some
      obtain ⟨other, floor⟩ := registered
      rw [some, List.lookup_cons, ih]
      by_cases mine : other = uri
      · simp [Option.filter, mine]
      · have away : (uri == other) = false := beq_false_of_ne (Ne.symm mine)
        simp [Option.filter, mine, away]

namespace Gate

variable {g g' g'' : Gate} {uri : String} {registered later : List (String × Span)}

/-- Calls one after the other, or turns of callers and fetches, and so on. The list tells what has been
registered, first things first. -/
inductive Runs (g : Gate) : List (String × Span) → Gate → Prop
  | rests : Runs g [] g
  | calls {registered : List (String × Span)} {s : Scene} (before : Runs g registered s.gate)
      (calls : List Call) :
      Runs g (registered ++ calls.filterMap Call.registration?) (s.performed calls).gate
  | crowd {registered : List (String × Span)} {h : Gate} (before : Runs g registered h)
      (actions : List Crowd.Action) :
      Runs g (registered ++ actions.filterMap Crowd.Action.registration?)
        ((Crowd.ofGate h).run actions).gate

theorem Runs.leads (h : g.Runs registered g') : g.Leads g' := by
  induction h with
  | rests => exact .refl
  | @calls _ s _ calls ih => exact ih.tail (.calls s rfl calls)
  | crowd _ actions ih => exact ih.tail (.crowd actions)

theorem Runs.trans (h : g.Runs registered g') (h' : g'.Runs later g'') :
    g.Runs (registered ++ later) g'' := by
  induction h' with
  | rests =>
    rw [List.append_nil]
    exact h
  | calls _ calls ih =>
    rw [← List.append_assoc]
    exact ih.calls calls
  | crowd _ actions ih =>
    rw [← List.append_assoc]
    exact ih.crowd actions

theorem Runs.floor (h : g.Runs registered g') (uri : String) :
    (g'.lookup? uri).map (·.floor) = ((g.lookup? uri).map (·.floor)).or (registered.lookup uri) := by
  induction h with
  | rests => exact (Option.or_none ..).symm
  | calls _ calls ih =>
    have first := lookup_filterMap (Call.floor?_eq uri) calls
    rw [Scene.floor_performed, ih, List.lookup_append, first, Option.or_assoc]
  | @crowd _ h _ actions ih =>
    have first := lookup_filterMap (Crowd.Action.floor?_eq uri) actions
    have floor := (Crowd.ofGate h).floor_run actions uri
    rw [show (Crowd.ofGate h).gate = h from rfl, ih] at floor
    rw [floor, List.lookup_append, first, Option.or_assoc]

theorem Turns.nodup_uris (turns : g.Turns g') (h : g.uris.Nodup) : g'.uris.Nodup := by
  cases turns with
  | calls s mine calls =>
    subst mine
    exact Scene.performed_induction (P := fun g => g.uris.Nodup)
      (fun _ _ deed before => by rw [deed.uris]; exact before)
      (fun _ uri floor before => nodup_uris_register before uri floor) h calls
  | crowd actions => exact Crowd.nodup_uris_run h actions

theorem Reached.nodup_uris (h : g.Reached) : g.uris.Nodup := by
  obtain ⟨settings, epoch, network, leads⟩ := h
  induction leads with
  | refl => exact List.nodup_nil
  | tail _ last ih => exact last.nodup_uris ih

end Gate

/-! ## What an entry holds -/

namespace Entry

/-- No keys are there, or the time until which they are fresh has come. -/
def Outdated (e : Entry) (now : Instant) : Prop :=
  e.held = none ∨ ∃ t, e.freshUntil = some t ∧ t ≤ now

/-- Keys are there, but no time until which they are fresh. -/
def Undated (e : Entry) : Prop := e.held.isSome ∧ e.freshUntil = none

theorem Undated.not_outdated {e : Entry} (undated : e.Undated) (now : Instant) : ¬ e.Outdated now := by
  obtain ⟨held, unknown⟩ := undated
  rintro (bare | ⟨t, known, -⟩)
  · rw [bare] at held
    cases held
  · rw [unknown] at known
    cases known

@[simp] theorem uri_after (s : FetchSettings) (e : Entry) (rs : List Refresh) :
    (e.after s rs).uri = e.uri := by
  induction rs generalizing e with
  | nil => rfl
  | cons r rest ih => rw [after_cons, ih, uri_publish]

theorem heldKeys_after (s : FetchSettings) (uri : String) (floor : Span) (rs : List Refresh) :
    ((new uri floor).after s rs).held.map (·.keys) =
      (Refresh.lastGood? rs).map fun (_, fetched) => .ofKeys uri fetched.keys := by
  induction rs using List.reverseRecOn with
  | nil => rfl
  | append_singleton rs r ih =>
    rw [after_snoc, held_publish, uri_after]
    cases result : r.result with
    | ok fetched =>
      rw [Refresh.lastGood?_snoc_ok rs result]
      simp [Refresh.fetched?, result, new]
    | error fault =>
      rw [Refresh.lastGood?_snoc_error rs result, ← ih]
      simp [Refresh.fetched?, result]

end Entry

/-- The refresh has brought keys. -/
def Refresh.Succeeds (r : Refresh) : Prop := ∃ fetched, r.result = .ok fetched

theorem Refresh.isSome_lastGood?_iff {rs : List Refresh} :
    (lastGood? rs).isSome ↔ ∃ r ∈ rs, r.Succeeds := by
  unfold lastGood?
  rw [List.getLast?_isSome, ← List.length_pos_iff, List.length_filterMap_eq_countP, List.countP_pos_iff]
  refine exists_congr fun r => and_congr_right fun _ => ?_
  unfold fetched? Succeeds
  cases r.result <;> simp

namespace Gate

variable {g g' : Gate} {uri : String} {e : Entry}

theorem Settled.heldKeys (h : g.Settled) (found : g.lookup? uri = some e) :
    e.held.map (·.keys) = (Refresh.lastGood? (g.refreshes uri)).map fun (_, fetched) =>
      .ofKeys uri fetched.keys := by
  rw [h.replayed uri e found]
  exact Entry.heldKeys_after ..

theorem Settled.isSome_held_iff (h : g.Settled) (found : g.lookup? uri = some e) :
    e.held.isSome ↔ ∃ r ∈ g.refreshes uri, r.Succeeds := by
  rw [← Refresh.isSome_lastGood?_iff, ← Option.isSome_map (f := (·.keys)), h.heldKeys found,
    Option.isSome_map]

theorem Settled.freshUntil_of_bare (h : g.Settled) (found : g.lookup? uri = some e)
    (bare : e.held = none) : e.freshUntil = none := by
  rw [h.replayed uri e found] at bare
  have kept := Entry.kept_of_failed (s := g.settings) (e := .new uri e.floor) (Entry.failed_of_bare bare)
  rw [h.replayed uri e found, kept.2]
  rfl

theorem Settled.isStale_iff (h : g.Settled) (found : g.lookup? uri = some e) (now : Instant) :
    e.isStale now ↔ e.Outdated now ∨ e.Undated := by
  unfold Entry.isStale Entry.Outdated Entry.Undated
  cases held : e.held with
  | none => simp [h.freshUntil_of_bare found held]
  | some keys => cases e.freshUntil <;> simp

end Gate

end TokenGate
