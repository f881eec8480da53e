import Mathlib.Data.List.Induction
import TokenGate.Proofs.Cache.Record
import TokenGate.Proofs.Gate.Lookup
import TokenGate.Proofs.Gate.Pace

/-!
# The record of calls one after the other

Every refresh on record asked its endpoint while one of the calls went on. Once an endpoint has keys,
callers can count on them.
-/

namespace TokenGate

namespace Gate

variable {g g' : Gate} {uri id : String} {e : Entry} {r : Refresh}

/-! ## Deeds -/

theorem Deed.replayed (deed : Deed g g') (h : g.Replayed uri) : g'.Replayed uri := by
  cases deed with
  | waits | scripts | discovers => exact h.of_eq rfl rfl rfl
  | records => exact h.of_eq rfl rfl (refreshes_record_validated ..)
  | @refreshes e found _ =>
    let run := Fetched.run g.settings g.epoch e.uri g.network g.now
    have moved : Replayed { g with now := run.ended, network := run.state } uri := h.of_eq rfl rfl rfl
    by_cases mine : e.uri = uri
    · subst mine
      exact moved.publish found rfl
    · exact moved.publish_of_ne (Ne.symm mine) mine

theorem refreshes_refresh (g : Gate) (e : Entry) (uri : String) :
    (g.refresh e).2.refreshes uri = g.refreshes uri ++
      if e.uri = uri then
        [⟨e.uri, g.now, (Fetched.run g.settings g.epoch e.uri g.network g.now).ended,
          (Fetched.run g.settings g.epoch e.uri g.network g.now).result⟩]
      else [] :=
  refreshes_publishRefresh ..

theorem Deed.grown (deed : Deed g g') (uri : String) : ∃ rs, g.Grown g' uri rs := by
  cases deed with
  | waits | scripts | discovers => exact ⟨[], .of_eq rfl rfl rfl fun _ h => h⟩
  | records => exact ⟨[], .of_eq rfl rfl (refreshes_record_validated ..) fun _ h => h⟩
  | @refreshes e found _ =>
    let run := Fetched.run g.settings g.epoch e.uri g.network g.now
    have moved : g.Grown { g with now := run.ended, network := run.state } uri [] :=
      .of_eq rfl rfl rfl fun _ h => h
    by_cases mine : e.uri = uri
    · subst mine
      exact ⟨_, moved.trans (grown_publishRefresh found rfl)⟩
    · exact ⟨_, moved.trans (grown_publishRefresh_of_ne (Ne.symm mine) mine)⟩

theorem Deed.asked (deed : Deed g g') (here : r ∈ g'.refreshes uri) :
    r ∈ g.refreshes uri ∨ r.uri = uri ∧ r.AskedOf g := by
  cases deed with
  | waits | scripts | discovers => exact .inl here
  | records =>
    rw [refreshes_record_validated] at here
    exact .inl here
  | @refreshes e found _ =>
    rw [refreshes_refresh, List.mem_append] at here
    refine here.imp_right fun new => ?_
    split at new
    · rename_i mine
      rw [List.mem_singleton.1 new]
      exact ⟨mine, Refresh.askedOf_of_run rfl (Nat.le_refl _) rfl⟩
    · cases new

theorem Deeds.asked (deeds : Deeds g g') (here : r ∈ g'.refreshes uri) :
    r ∈ g.refreshes uri ∨ ∃ h, Deeds g h ∧ Deeds h g' ∧ r.uri = uri ∧ r.AskedOf h := by
  induction deeds with
  | refl => exact .inl here
  | @tail h _ before last ih =>
    obtain old | ⟨mine, asked⟩ := last.asked here
    · refine (ih old).imp_right fun ⟨h', first, later, asked⟩ => ⟨h', first, later.tail last, asked⟩
    · exact .inr ⟨h, before, .single last, mine, asked⟩

/-! ## Callers of an endpoint with keys -/

theorem lookup?_refresh (found : g.lookup? uri = some e) :
    ∃ r, (g.refresh e).2.lookup? uri = some (e.publish g.settings r).entry ∧
      (g.refresh e).1 = (e.publish g.settings r).answer ∧ r ∈ (g.refresh e).2.refreshes uri := by
  obtain rfl := uri_of_lookup? found
  let run := Fetched.run g.settings g.epoch e.uri g.network g.now
  let r : Refresh := ⟨e.uri, g.now, run.ended, run.result⟩
  refine ⟨r, ?_, rfl, ?_⟩
  · exact lookup?_publishRefresh (g := { g with now := run.ended, network := run.state }) found
  · rw [refreshes_refresh, if_pos rfl]
    exact List.mem_append_right _ (List.mem_singleton.2 rfl)

theorem decision_of_held {held : HeldKeys} (h : e.held = some held) (now : Instant) :
    e.decision now = .serve held (e.isDue now) := by
  unfold Entry.decision
  rw [h]

theorem get_of_held (found : g.lookup? uri = some e) (h : e.held.isSome) :
    ∃ held, e.held = some held ∧ (g.get uri).answer = .ok held := by
  obtain ⟨held, there⟩ := Option.isSome_iff_exists.1 h
  refine ⟨held, there, ?_⟩
  unfold get
  simp only [found, decision_of_held there]
  cases e.isDue g.now <;> rfl

theorem keyIn_ok_error {held : HeldKeys} {err : AuthError} (h : keyIn id (.ok held) = .error err) :
    err = .unknownKey id := by
  obtain told | ⟨unknown, -⟩ := keyIn_refused h
  · cases told
  · exact unknown

theorem forceKey_of_held (found : g.lookup? uri = some e) (h : e.held.isSome)
    (lasts : ∀ r ∈ (g.forceKey uri id).gate.refreshes uri, r.Lasts g.settings e.floor)
    {err : AuthError} (refused : (g.forceKey uri id).answer = .error err) : err = .unknownKey id := by
  unfold forceKey at lasts refused
  simp only [found] at lasts refused
  split at refused
  · rename_i may
    simp only [may, if_true] at lasts
    obtain ⟨r, -, answer, recorded⟩ := lookup?_refresh found
    obtain joined | ⟨-, runsOut⟩ := e.answer_publish g.settings r
    · obtain ⟨held, -, ok⟩ := Entry.joined_of_held (Entry.isSome_held_publish g.settings r h)
      have refused : keyIn id (g.refresh e).1 = .error err := refused
      rw [answer, joined, ok] at refused
      exact keyIn_ok_error refused
    · exact absurd (lasts r recorded) runsOut
  · exact (Except.error.inj refused).symm

theorem getKey_of_held (found : g.lookup? uri = some e) (h : e.held.isSome)
    (lasts : ∀ r ∈ (g.getKey uri id).gate.refreshes uri, r.Lasts g.settings e.floor)
    {err : AuthError} (refused : (g.getKey uri id).answer = .error err) : err = .unknownKey id := by
  obtain ⟨held, there⟩ := Option.isSome_iff_exists.1 h
  unfold getKey firstLook at lasts refused
  simp only [found, decision_of_held there] at lasts refused
  cases key : held.keys.get? id with
  | some k =>
    simp only [key] at refused
    cases refused
  | none =>
    cases due : e.isDue g.now with
    | false =>
      simp only [key, due] at lasts refused
      exact forceKey_of_held found h lasts refused
    | true =>
      simp only [key, due, if_true] at refused
      obtain ⟨r, after, -, -⟩ := lookup?_refresh found
      obtain ⟨held', -, ok⟩ := Entry.joined_of_held (Entry.isSome_held_publish g.settings r h)
      have refused : keyIn id ((g.refresh e).2.joined uri) = .error err := refused
      unfold joined at refused
      simp only [after, ok] at refused
      exact keyIn_ok_error refused

end Gate

/-! ## Calls -/

namespace Scene

/-- The gate as it was at some time while one of the calls went on. -/
def Passes (s : Scene) (calls : List Call) (g : Gate) : Prop :=
  ∃ before c rest, calls = before ++ c :: rest ∧ (s.performed before).gate.Deeds g ∧
    g.Deeds (s.performed (before ++ [c])).gate

theorem performed_append (s : Scene) (calls calls' : List Call) :
    s.performed (calls ++ calls') = (s.performed calls).performed calls' :=
  List.foldl_append ..

theorem replayed_performed {s : Scene} {uri : String} (paced : s.gate.Paced uri)
    (h : s.gate.Replayed uri) (calls : List Call) : (s.performed calls).gate.Replayed uri := by
  have both := performed_induction (P := fun g => g.Paced uri ∧ g.Replayed uri)
    (fun _ _ deed before => ⟨deed.paced before.1, deed.replayed before.2⟩)
    (fun _ other floor before =>
      ⟨before.1.register other floor, before.2.register before.1.untracked other floor⟩)
    ⟨paced, h⟩ calls
  exact both.2

theorem asked_performed {s : Scene} {uri : String} {r : Refresh} (calls : List Call)
    (here : r ∈ (s.performed calls).gate.refreshes uri) :
    r ∈ s.gate.refreshes uri ∨ r.uri = uri ∧ ∃ g, s.Passes calls g ∧ r.AskedOf g := by
  induction calls using List.reverseRecOn with
  | nil => exact .inl here
  | append_singleton calls c ih =>
    have earlier (old : r ∈ (s.performed calls).gate.refreshes uri) :
        r ∈ s.gate.refreshes uri ∨ r.uri = uri ∧ ∃ g, s.Passes (calls ++ [c]) g ∧ r.AskedOf g := by
      refine (ih old).imp_right fun ⟨mine, g, ⟨before, c', rest, same, first, later⟩, asked⟩ => ?_
      exact ⟨mine, g, ⟨before, c', rest ++ [c], by simp [same], first, later⟩, asked⟩
    have last : s.performed (calls ++ [c]) = ((s.performed calls).perform c).2 := performed_append ..
    obtain ⟨other, floor, -, gate⟩ | ⟨-, deeds⟩ := (s.performed calls).perform_cases c
    · rw [last, gate, Gate.refreshes_register] at here
      exact earlier here
    · rw [last] at here
      obtain old | ⟨g, first, later, mine, asked⟩ := deeds.asked here
      · exact earlier old
      · exact .inr ⟨mine, g, ⟨calls, c, [], rfl, first, by rw [last]; exact later⟩, asked⟩

theorem grown_performed (s : Scene) (calls : List Call) (uri : String) :
    ∃ rs, s.gate.Grown (s.performed calls).gate uri rs := by
  refine performed_induction (P := fun g => ∃ rs, s.gate.Grown g uri rs) ?_ ?_ ⟨[], .refl ..⟩ calls
  · rintro g g' deed ⟨rs, before⟩
    obtain ⟨rs', last⟩ := deed.grown uri
    exact ⟨rs ++ rs', before.trans last⟩
  · rintro g other floor ⟨rs, before⟩
    refine ⟨rs ++ [], before.trans (.of_eq (Gate.settings_register ..) (Gate.epoch_register ..)
      (Gate.refreshes_register ..) fun e h => ?_)⟩
    exact Gate.lookup?_register_of_some h other floor

end Scene

end TokenGate
