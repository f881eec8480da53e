import Mathlib.Algebra.BigOperators.Group.List.Lemmas
import Mathlib.Algebra.GroupWithZero.Nat
import Mathlib.Data.List.Dedup
import TokenGate.Metrics

/-!
# How metrics are counted and shown

Each event is counted under one label, and each label has a line with its value.
-/

namespace TokenGate

namespace Metrics

variable {α : Type} {events : List (String × α)} {label : String}

theorem count_eq (events : List (String × α)) (label : String) :
    count events label = (events.map (·.1)).count label := by
  unfold count List.count
  rw [List.countP_map, List.countP_eq_length_filter]
  congr 1

/-! ## Labels -/

theorem mem_labels_iff : label ∈ labels events ↔ label ∈ events.map (·.1) := by
  unfold labels
  rw [List.mem_eraseDups]

theorem nodup_eraseDups (names : List String) : names.eraseDups.Nodup := by
  cases names with
  | nil => exact List.nodup_nil
  | cons name rest =>
    rw [List.eraseDups_cons, List.nodup_cons]
    exact ⟨by simp [List.mem_eraseDups], nodup_eraseDups _⟩
termination_by names.length
decreasing_by exact Nat.lt_succ_of_le (List.length_filter_le ..)

theorem sum_count (events : List (String × α)) :
    ((labels events).map (count events)).sum = events.length := by
  have same : (labels events).Perm (events.map (·.1)).dedup := by
    refine (List.perm_ext_iff_of_nodup (nodup_eraseDups _) (List.nodup_dedup _)).2 fun label => ?_
    rw [List.mem_dedup]
    exact mem_labels_iff
  have counts : count events = (events.map (·.1)).count := funext fun label => count_eq events label
  rw [(same.map _).sum_eq, counts, List.sum_map_count_dedup_eq_length, List.length_map]

/-! ## Lines -/

/-- The line that shows a value under a label. -/
def HasLine (lines : List String) (name key label value : String) : Prop :=
  series name [(key, label)] ++ " " ++ value ∈ lines

theorem hasLine_counterLines (name key : String) (counted : count events label ≠ 0) :
    HasLine (counterLines name key events) name key label (toString (count events label)) := by
  have here : label ∈ labels events := by
    rw [mem_labels_iff, ← List.count_pos_iff, ← count_eq]
    exact Nat.pos_of_ne_zero counted
  unfold HasLine counterLines
  split
  · rename_i empty
    rw [List.isEmpty_iff.1 empty] at here
    cases here
  · exact List.mem_cons_of_mem _ (List.mem_map_of_mem (f := fun value => _) here)

theorem hasLine_gaugeLines {events : List (String × Nat)} (name key : String) {n : Nat}
    (set : last? events label = some n) : HasLine (gaugeLines name key events) name key label
      (((Binary64.ofNat? n).map (·.toPositional)).getD "") := by
  have here : label ∈ labels events := by
    obtain ⟨⟨_, _⟩, last, -⟩ := Option.map_eq_some_iff.1 set
    obtain ⟨mem, mine⟩ := List.mem_filter.1 (List.mem_of_getLast? last)
    rw [mem_labels_iff]
    exact List.mem_map.2 ⟨_, mem, by simpa using mine⟩
  unfold HasLine gaugeLines
  split
  · rename_i empty
    rw [List.isEmpty_iff.1 empty] at here
    cases here
  · have line := List.mem_map_of_mem (f := fun value => series name [(key, value)] ++ " " ++
      ((Binary64.ofNat? ((last? events value).getD 0)).map (·.toPositional)).getD "") here
    simp only [set, Option.getD_some] at line
    exact List.mem_cons_of_mem _ line

end Metrics

end TokenGate
