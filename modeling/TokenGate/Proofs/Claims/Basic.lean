import TokenGate.Claims.Basic

/-!
# Audiences and factories

A token is meant for exactly those whom it presents as its audience. Claims come from their payload alone,
whatever a constructor returns and whatever has been built before.
-/

namespace TokenGate

namespace Audience

theorem contains_iff_mem {a : Audience} {name : String} : a.contains name ↔ name ∈ a.values := by
  cases a with
  | one own => simp [contains, values, @eq_comm _ own]
  | many names => simp [contains, values]

theorem isEmpty_eq (a : Audience) : a.isEmpty = a.values.isEmpty := by
  cases a <;> rfl

end Audience

namespace Claims

theorem isFor_iff_mem (c : Claims) (audience : String) :
    c.isFor audience ↔ audience ∈ c.presentedAudience := by
  unfold isFor presentedAudience
  cases c.profile.accessClient? with
  | none => exact Audience.contains_iff_mem
  | some client? => cases client? <;> simp [@eq_comm _ audience]

end Claims

end TokenGate

/-! ## Factories and their clones -/

namespace TokenGate.Factory

/-- What may be done with a factory and its clones. They are numbered in the order of their making. -/
inductive Use
  | clone (i : Nat)
  /-- The constructor returns `returned` to this build. -/
  | build (i : Nat) (returned : Claims) (payload : Json)

/-- What is built, in order, with the payload that it is built from. -/
def builds : List Factory → List Use → List (Json × Option Claims)
  | _, [] => []
  | handles, .clone i :: rest => builds (handles ++ handles[i]?.toList) rest
  | handles, .build i returned payload :: rest =>
    match handles[i]? with
    | none => builds handles rest
    | some f =>
      let (claims, f) := { f with blank := returned }.build payload
      (payload, claims) :: builds (handles.set i f) rest

def Alike (d : Dialect) (handles : List Factory) : Prop := ∀ f ∈ handles, f.dialect = d

variable {d : Dialect} {handles : List Factory} {f : Factory} {i : Nat}

theorem Alike.clone (h : Alike d handles) (i : Nat) : Alike d (handles ++ handles[i]?.toList) := by
  intro f here
  obtain old | new := List.mem_append.1 here
  · exact h f old
  · rw [Option.mem_toList] at new
    exact h f (List.mem_of_getElem? new)

theorem Alike.set (h : Alike d handles) (i : Nat) (same : f.dialect = d) :
    Alike d (handles.set i f) := by
  intro f' here
  obtain old | rfl := List.mem_or_eq_of_mem_set here
  · exact h f' old
  · exact same

theorem build_alone (same : f.dialect = d) (payload : Json) :
    (f.build payload).1 = ((new d (.empty d)).build payload).1 := by
  unfold build fill new
  rw [same]

theorem builds_alone (h : Alike d handles) (uses : List Use) :
    ∀ b ∈ builds handles uses, b.2 = ((new d (.empty d)).build b.1).1 := by
  induction uses generalizing handles with
  | nil => exact fun b here => nomatch here
  | cons use rest ih =>
    cases use with
    | clone i => exact ih (h.clone i)
    | build i returned payload =>
      unfold builds
      split
      · exact ih h
      · rename_i f there
        have same : f.dialect = d := h f (List.mem_of_getElem? there)
        intro b here
        obtain rfl | later := List.mem_cons.1 here
        · exact build_alone (f := { f with blank := returned }) same payload
        · refine ih (h.set i ?_) b later
          exact same

end TokenGate.Factory
