import TokenGate.Proofs.Courtesy
import TokenGate.Proofs.Crowd.Record

/-!
# Gates that can be reached

Between two operations anything may have happened to a gate: calls one after the other, callers side by
side, and each of these after the other. What is always true of an entry is told here once.
-/

namespace TokenGate.Gate

/-- Calls one after the other, or turns of callers and fetches. -/
inductive Turns (g : Gate) : Gate → Prop
  | calls (s : Scene) (mine : s.gate = g) (calls : List Call) : Turns g (s.performed calls).gate
  | crowd (actions : List Crowd.Action) : Turns g ((Crowd.ofGate g).run actions).gate

abbrev Leads : Gate → Gate → Prop := Relation.ReflTransGen Turns

/-- A gate that was once without entries. -/
def Reached (g : Gate) : Prop :=
  ∃ settings epoch network, (new settings epoch network).Leads g

variable {g g' : Gate} {uri : String} {e : Entry}

theorem Reached.leads (h : g.Reached) (leads : g.Leads g') : g'.Reached := by
  obtain ⟨settings, epoch, network, before⟩ := h
  exact ⟨settings, epoch, network, before.trans leads⟩

theorem leads_call (g : Gate) (c : Call) :
    g.Leads ((Scene.new g (fun _ _ _ _ => false) none).perform c).2.gate :=
  .single (.calls (.new g _ none) rfl [c])

theorem leads_get (g : Gate) (uri : String) : g.Leads (g.get uri).gate := by
  have leads := g.leads_call (.get uri)
  rwa [show ((Scene.new g (fun _ _ _ _ => false) none).perform (.get uri)).2.gate = (g.get uri).gate from
    Scene.gate_getResult ..] at leads

theorem Leads.grown (h : g.Leads g') (uri : String) : ∃ rs, g.Grown g' uri rs := by
  induction h with
  | refl => exact ⟨[], .refl ..⟩
  | tail _ last ih =>
    obtain ⟨rs, before⟩ := ih
    cases last with
    | calls s mine calls =>
      subst mine
      obtain ⟨rs', after⟩ := s.grown_performed calls uri
      exact ⟨rs ++ rs', before.trans after⟩
    | crowd actions =>
      obtain ⟨rs', after⟩ := (Crowd.ofGate _).grown_run actions uri
      exact ⟨rs ++ rs', before.trans after⟩

/-- Refreshes keep the floor, and entries are what refreshes have made of them. -/
structure Settled (g : Gate) : Prop where
  paced : ∀ uri, g.Paced uri
  replayed : ∀ uri, g.Replayed uri

theorem settled_new (settings : FetchSettings) (epoch : Stamp) (network : Http.Network) :
    (new settings epoch network).Settled :=
  ⟨paced_new settings epoch network, fun _ _ found => by cases found⟩

theorem Turns.settled (turns : g.Turns g') (h : g.Settled) : g'.Settled := by
  cases turns with
  | calls s mine calls =>
    subst mine
    exact ⟨fun uri => Scene.paced_performed (h.paced uri) calls,
      fun uri => Scene.replayed_performed (h.paced uri) (h.replayed uri) calls⟩
  | crowd actions =>
    have orderly := Crowd.orderly_ofGate g
    have steady := Crowd.steady_ofGate h.paced
    exact ⟨fun uri => (steady.run orderly actions).paced uri,
      fun uri => Crowd.replayed_run steady orderly (h.replayed uri) actions⟩

theorem Reached.settled (h : g.Reached) : g.Settled := by
  obtain ⟨settings, epoch, network, leads⟩ := h
  induction leads with
  | refl => exact settled_new ..
  | tail _ last ih => exact last.settled ih

end TokenGate.Gate
