import Mathlib.Logic.Relation
import TokenGate.Proofs.Cache.History
import TokenGate.Scene.Play

/-!
# What a call does to the gate

Apart from the registration of an endpoint, a gate changes by deeds of a few kinds, one after the other.
A law of gates that registrations and deeds keep holds after any sequence of calls.
-/

namespace TokenGate

namespace Gate

inductive Deed (g : Gate) : Gate → Prop
  | waits (s : Span) : Deed g (g.wait s)
  | scripts (url : String) (replies : List Http.Reply) : Deed g (g.publish url replies)
  | records (outcome : String) (took : Span) : Deed g (g.record (.validated outcome took))
  | discovers (timeout : Span) (url : String) : Deed g (g.discover timeout url).gate
  | refreshes {e : Entry} (found : g.lookup? e.uri = some e) (may : e.mayRefresh g.now) :
      Deed g (g.refresh e).2

abbrev Deeds : Gate → Gate → Prop := Relation.ReflTransGen Deed

theorem Deeds.keeps {P : Gate → Prop} {g g' : Gate} (deeds : Deeds g g')
    (deed : ∀ g g', Deed g g' → P g → P g') (h : P g) : P g' := by
  induction deeds with
  | refl => exact h
  | tail _ last before => exact deed _ _ last before

variable {g : Gate} {uri : String} {e : Entry}

theorem deeds_refresh (found : g.lookup? uri = some e) (may : e.mayRefresh g.now) :
    Deeds g (g.refresh e).2 := by
  obtain rfl := uri_of_lookup? found
  exact .single (.refreshes found may)

/-! ## Looking up keys -/

theorem deeds_get (g : Gate) (uri : String) : Deeds g (g.get uri).gate := by
  unfold get
  split
  · exact .refl
  · rename_i found
    split
    · exact .refl
    · rename_i serve
      exact deeds_refresh found (Entry.mayRefresh_of_serve serve)
    · rename_i fetch
      exact deeds_refresh found (Entry.mayRefresh_of_fetch fetch)
    · exact .refl

theorem deeds_firstLook (g : Gate) (uri id : String) : Deeds g (g.firstLook uri id).gate := by
  unfold firstLook
  split
  · exact .refl
  · rename_i e found
    split
    · rename_i behind serve
      have after : Deeds g (if behind then (g.refresh e).2 else g) := by
        cases behind with
        | false => exact .refl
        | true => exact deeds_refresh found (Entry.mayRefresh_of_serve serve)
      simp only
      split
      · exact after
      · exact after
      · exact .refl
    · rename_i fetch
      exact deeds_refresh found (Entry.mayRefresh_of_fetch fetch)
    · exact .refl

theorem deeds_forceKey (g : Gate) (uri id : String) : Deeds g (g.forceKey uri id).gate := by
  unfold forceKey
  split
  · exact .refl
  · rename_i found
    split
    · rename_i may
      exact deeds_refresh found may
    · exact .refl

theorem deeds_getKey (g : Gate) (uri id : String) : Deeds g (g.getKey uri id).gate := by
  have first := g.deeds_firstLook uri id
  unfold getKey
  simp only
  split
  · exact first
  · exact first.trans (deeds_forceKey ..)

theorem deeds_getKeyBefore (g : Gate) (deadline : Instant) (uri id : String) :
    Deeds g (g.getKeyBefore deadline uri id).gate := by
  have first := g.deeds_firstLook uri id
  unfold getKeyBefore
  simp only
  split
  · exact first
  · split
    · exact first
    · exact first.trans (deeds_forceKey ..)

theorem deeds_visit (g : Gate) (count : Nat) (uris : List String) :
    Deeds g (g.visit count uris).2 := by
  induction uris generalizing g count with
  | nil => exact .refl
  | cons uri rest ih =>
    unfold visit
    split
    · exact ih ..
    · rename_i found
      split
      · rename_i due
        exact (deeds_refresh found (Entry.mayRefresh_of_isDue due)).trans (ih ..)
      · exact ih ..

theorem deeds_refreshStale (g : Gate) : Deeds g g.refreshStale.gate := deeds_visit ..

/-! ## Tokens and requests -/

variable (g) (check : SignatureCheck) (v : Validator) (token : String) (stamp : Stamp)

theorem deeds_verify : Deeds g (g.verify check v token stamp).gate := by
  unfold verify
  split
  · exact .refl
  · exact deeds_getKey ..

theorem deeds_validate : Deeds g (g.validate check v token stamp).gate :=
  (deeds_verify g check v token stamp).tail (.records ..)

theorem deeds_validateBefore (deadline : Instant) :
    Deeds g (g.validateBefore deadline check v token stamp).gate := by
  unfold validateBefore
  split
  · exact .single (.records ..)
  · rename_i header _
    have looked := g.deeds_getKeyBefore deadline v.endpoint header.keyId
    simp only
    split
    · exact looked
    · exact looked.tail (.records ..)

theorem deeds_request (app : Service.App) (r : Service.Request) :
    Deeds g (g.request check v app r).gate := by
  unfold request
  split
  · exact .refl
  · simp only
    split <;> exact deeds_validateBefore ..

end Gate

/-! ## Calls -/

namespace Scene

def performed (s : Scene) (calls : List Call) : Scene := calls.foldl (fun s c => (s.perform c).2) s

theorem gate_getResult (s : Scene) (uri : String) (answer : KeyAnswer) :
    (s.getResult uri answer).2.gate = s.gate := by
  unfold getResult
  split <;> rfl

theorem perform_cases (s : Scene) (c : Call) :
    (∃ uri floor, c = .register uri floor ∧ (s.perform c).2.gate = s.gate.register uri floor) ∨
      (∀ uri floor, c ≠ .register uri floor) ∧ s.gate.Deeds (s.perform c).2.gate := by
  cases c with
  | register uri floor => exact .inl ⟨uri, floor, rfl, rfl⟩
  | get uri =>
    refine .inr ⟨by simp, ?_⟩
    simp only [perform, gate_getResult]
    exact s.gate.deeds_get uri
  | getKey uri id => exact .inr ⟨by simp, s.gate.deeds_getKey uri id⟩
  | status => exact .inr ⟨by simp, .refl⟩
  | refreshStale => exact .inr ⟨by simp, s.gate.deeds_refreshStale⟩
  | publish url replies => exact .inr ⟨by simp, .single (.scripts url replies)⟩
  | advance d => exact .inr ⟨by simp, .single (.waits d)⟩
  | validate token stamp =>
    refine .inr ⟨by simp, ?_⟩
    unfold perform
    simp only
    split
    · exact .refl
    · exact Gate.deeds_validate ..
  | request app r =>
    refine .inr ⟨by simp, ?_⟩
    unfold perform
    simp only
    split
    · exact .refl
    · exact Gate.deeds_request ..
  | discover timeout url => exact .inr ⟨by simp, .single (.discovers timeout url)⟩

/-- A law that deeds and registrations keep holds after any calls. -/
theorem performed_induction {P : Gate → Prop} (deed : ∀ g g', Gate.Deed g g' → P g → P g')
    (register : ∀ g uri floor, P g → P (g.register uri floor)) {s : Scene} (h : P s.gate)
    (calls : List Call) : P (s.performed calls).gate := by
  induction calls generalizing s with
  | nil => exact h
  | cons c rest ih =>
    refine ih ?_
    obtain ⟨uri, floor, -, gate⟩ | ⟨-, deeds⟩ := s.perform_cases c
    · rw [gate]
      exact register _ _ _ h
    · exact deeds.keeps deed h

end Scene

end TokenGate
