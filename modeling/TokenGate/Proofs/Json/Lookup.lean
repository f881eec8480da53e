import Mathlib.Data.List.Perm.Basic
import TokenGate.Json.Basic

/-!
# Members of a record, looked up

Where no name repeats, a member is found under its name, wherever it stands. Readers of members see
nothing but what they look up.
-/

namespace TokenGate.Json

variable {name : String} {v : Json} {members : List (String × Json)}

@[simp]
theorem lookup_nil (name : String) : lookup name [] = none := rfl

theorem lookup_cons (name : String) (m : String × Json) (members : List (String × Json)) :
    lookup name (m :: members) = (lookup name members).or (if m.1 = name then some m.2 else none) := by
  rw [← List.singleton_append, lookup_append]
  rfl

theorem mem_of_lookup (h : lookup name members = some v) : (name, v) ∈ members := by
  induction members with
  | nil => simp at h
  | cons m members ih =>
    rw [lookup_cons] at h
    cases hfound : lookup name members with
    | some w =>
      rw [hfound] at h
      obtain rfl : w = v := by simpa using h
      exact List.mem_cons_of_mem _ (ih hfound)
    | none =>
      rw [hfound] at h
      by_cases hm : m.1 = name
      · obtain rfl : m.2 = v := by simpa [hm] using h
        simp [← hm]
      · simp [hm] at h

theorem lookup_eq_none_iff : lookup name members = none ↔ name ∉ members.map Prod.fst := by
  induction members with
  | nil => simp
  | cons m members ih =>
    rw [lookup_cons, Option.or_eq_none_iff, ih, List.map_cons, List.mem_cons, not_or, and_comm]
    by_cases hm : m.1 = name
    · simp [hm]
    · simp [hm, Ne.symm hm]

theorem lookup_eq_some_iff : lookup name members = some v ↔
    ∃ before after, members = before ++ (name, v) :: after ∧ name ∉ after.map Prod.fst := by
  constructor
  · intro h
    induction members with
    | nil => simp at h
    | cons m members ih =>
      rw [lookup_cons] at h
      cases hfound : lookup name members with
      | some w =>
        rw [hfound, Option.some_or] at h
        obtain ⟨before, after, rfl, hlast⟩ := ih (hfound.trans h)
        exact ⟨m :: before, after, rfl, hlast⟩
      | none =>
        rw [hfound, Option.none_or, Option.ite_none_right_eq_some] at h
        obtain ⟨rfl, h⟩ := h
        exact ⟨[], members, by rw [← Option.some.inj h]; rfl, lookup_eq_none_iff.1 hfound⟩
  · rintro ⟨before, after, rfl, hlast⟩
    rw [lookup_append, lookup_cons, lookup_eq_none_iff.2 hlast]
    simp

theorem lookup_eq_some_iff_mem (h : (members.map Prod.fst).Nodup) :
    lookup name members = some v ↔ (name, v) ∈ members := by
  refine ⟨mem_of_lookup, fun hv => ?_⟩
  induction members with
  | nil => simp at hv
  | cons m members ih =>
    rw [List.map_cons, List.nodup_cons] at h
    rw [lookup_cons]
    rcases List.mem_cons.mp hv with rfl | hlater
    · have habsent : lookup name members = none := lookup_eq_none_iff.mpr h.1
      simp [habsent]
    · simp [ih h.2 hlater]

theorem lookup_perm {members' : List (String × Json)} (h : (members.map Prod.fst).Nodup)
    (hperm : members'.Perm members) (name : String) : lookup name members' = lookup name members := by
  have h' : (members'.map Prod.fst).Nodup := ((hperm.map Prod.fst).nodup_iff).mpr h
  ext v
  rw [lookup_eq_some_iff_mem h, lookup_eq_some_iff_mem h', hperm.mem_iff]

end TokenGate.Json
