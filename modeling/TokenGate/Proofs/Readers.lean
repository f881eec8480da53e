import Mathlib.Data.List.Forall2

/-! # Readers that may fail -/

namespace TokenGate

variable {α β : Type}

theorem isSome_bind_iff {x : Option α} {f : α → Option β} {P : Prop}
    (h : ∀ a, (f a).isSome ↔ P) : (x.bind f).isSome ↔ x.isSome ∧ P := by
  cases x with
  | none => simp
  | some a => simp [h a]

theorem mapM_eq_some_iff {read : α → Option β} {l : List α} {l' : List β} :
    l.mapM read = some l' ↔ List.Forall₂ (fun a b => read a = some b) l l' := by
  induction l generalizing l' with
  | nil => simp [@eq_comm _ _ l']
  | cons a l ih =>
    rw [List.mapM_cons, List.forall₂_cons_left_iff]
    simp only [Option.bind_eq_bind, Option.bind_eq_some_iff, ih]
    constructor
    · rintro ⟨b, hb, bs, hbs, h⟩
      exact ⟨b, bs, hb, hbs, (Option.some.inj h).symm⟩
    · rintro ⟨b, bs, hb, hbs, rfl⟩
      exact ⟨b, hb, bs, hbs, rfl⟩

theorem exists_mapM_eq_some {read : β → Option α} {R : α → β → Prop} {l : List α}
    (h : ∀ a ∈ l, ∃ b, read b = some a ∧ R a b) :
    ∃ l', l'.mapM read = some l ∧ List.Forall₂ R l l' := by
  induction l with
  | nil => exact ⟨[], rfl, .nil⟩
  | cons a l ih =>
    obtain ⟨b, hb, hab⟩ := h a (by simp)
    obtain ⟨l', hl', hll'⟩ := ih fun a' ha' => h a' (by simp [ha'])
    exact ⟨b :: l', by simp [List.mapM_cons, hb, hl'], .cons hab hll'⟩

theorem forall₂_eq_iff_map {γ : Type} {f : α → γ} {g : β → γ} {l : List α} {l' : List β} :
    List.Forall₂ (fun a b => f a = g b) l l' ↔ l.map f = l'.map g := by
  rw [← List.forall₂_eq_eq_eq, List.forall₂_map_left_iff, List.forall₂_map_right_iff]

end TokenGate
