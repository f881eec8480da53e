import Mathlib.Data.List.Induction
import TokenGate.Proofs.Cache.Record

/-!
# Which keys an entry holds

They are the keys of the last refresh that brought any, and are numbered by it. So the number tells
whether two callers were given the same keys.
-/

namespace TokenGate

/-! ## Key sets -/

theorem Jwk.signingId?_eq_some_iff {k : Jwk} {id : String} :
    k.signingId? = some id ↔ k.keyId = some id ∧ id ≠ "" ∧ k.purpose ≠ some "enc" := by
  unfold signingId?
  split
  · rename_i enc
    simp [enc]
  · rename_i signs
    simp only [Option.filter_eq_some_iff, decide_eq_true_eq, signs, ne_eq, not_false_iff, and_true]

namespace KeySet

theorem get?_add (source : String) (entries : List (String × Jwk)) (k : Jwk) (id : String) :
    get? ⟨source, add entries k⟩ id =
      (get? ⟨source, entries⟩ id).or (if k.signingId? = some id then some k else none) := by
  unfold add
  split
  · rename_i anonymous
    simp [anonymous]
  · rename_i own named
    rw [named]
    split
    · rename_i taken
      by_cases mine : own = id
      · subst mine
        have there : (get? ⟨source, entries⟩ own).isSome := by
          simpa [get?, holds] using taken
        obtain ⟨k', found⟩ := Option.isSome_iff_exists.1 there
        rw [found, Option.some_or]
      · simp [mine]
    · unfold get?
      rw [List.find?_append, Option.map_or]
      by_cases mine : own = id <;> simp [mine]

theorem get?_ofKeys (source : String) (keys : List Jwk) (id : String) :
    (ofKeys source keys).get? id = keys.find? (·.signingId? = some id) := by
  have from_ (entries : List (String × Jwk)) : get? ⟨source, keys.foldl add entries⟩ id =
      (get? ⟨source, entries⟩ id).or (keys.find? (·.signingId? = some id)) := by
    induction keys generalizing entries with
    | nil => exact Option.or_none.symm
    | cons k rest ih =>
      rw [List.foldl_cons, ih, get?_add, Option.or_assoc]
      by_cases mine : k.signingId? = some id <;> simp [mine]
  exact from_ []

end KeySet

namespace Refresh

theorem isSome_fault?_iff {r : Refresh} : r.fault?.isSome ↔ r.fetched? = none := by
  unfold fault? fetched?
  split <;> simp

end Refresh

/-! ## The entry -/

namespace Entry

variable {s : FetchSettings} {e : Entry} {r : Refresh} {rs : List Refresh}

theorem held_publish (s : FetchSettings) (e : Entry) (r : Refresh) :
    (e.publish s r).entry.held =
      (r.fetched?.map fun fetched => ⟨.ofKeys e.uri fetched.keys, e.attempts + 1⟩).or e.held := by
  cases result : r.result with
  | ok fetched =>
    simp only [publish, Refresh.fetched?, result, publishKeys, Option.map_some, Option.some_or]
    split <;> rfl
  | error fault =>
    rw [publish_of_error result]
    simp [Refresh.fetched?, result]

/-- Held keys are those of a document, numbered by a refresh that has ended. -/
def Numbered (e : Entry) : Prop :=
  ∀ held, e.held = some held →
    held.refreshNumber ≤ e.attempts ∧ ∃ keys, held.keys = .ofKeys e.uri keys

theorem numbered_new (uri : String) (floor : Span) : (new uri floor).Numbered := by
  intro held there
  cases there

theorem Numbered.publish (h : e.Numbered) (s : FetchSettings) (r : Refresh) :
    (e.publish s r).entry.Numbered := by
  intro held there
  rw [held_publish, Option.or_eq_some_iff] at there
  rw [attempts_publish, uri_publish]
  obtain brought | ⟨-, kept⟩ := there
  · obtain ⟨fetched, -, rfl⟩ := Option.map_eq_some_iff.1 brought
    exact ⟨Nat.le_refl _, fetched.keys, rfl⟩
  · obtain ⟨number, keys⟩ := h held kept
    exact ⟨Nat.le_succ_of_le number, keys⟩

theorem Numbered.after (h : e.Numbered) (s : FetchSettings) (rs : List Refresh) :
    (e.after s rs).Numbered := by
  induction rs generalizing e with
  | nil => exact h
  | cons r rest ih => exact ih (h.publish s r)

theorem Numbered.signingId? {held : HeldKeys} {id : String} {k : Jwk} (h : e.Numbered)
    (there : e.held = some held) (found : held.keys.get? id = some k) : k.signingId? = some id := by
  obtain ⟨-, keys, same⟩ := h held there
  rw [same, KeySet.get?_ofKeys] at found
  simpa using List.find?_some found

theorem failed_of_bare (bare : (e.after s rs).held = none) : ∀ r ∈ rs, r.fault?.isSome := by
  induction rs generalizing e with
  | nil => simp
  | cons r rest ih =>
    have first : (e.publish s r).entry.held = none := by
      by_contra held
      have kept := isSome_held_after s rest (Option.isSome_iff_ne_none.2 held)
      rw [← after_cons, bare] at kept
      cases kept
    rw [held_publish, Option.or_eq_none_iff, Option.map_eq_none_iff] at first
    exact List.forall_mem_cons.2 ⟨Refresh.isSome_fault?_iff.2 first.1, ih bare⟩

theorem lasts_of_failed {floor : Span} (failed : r.fault?.isSome) : r.Lasts s floor := by
  unfold Refresh.Lasts
  rw [Refresh.isSome_fault?_iff.1 failed]
  rfl

theorem attempts_lt_number {held : HeldKeys} (there : (e.after s rs).held = some held)
    (came : ∃ r ∈ rs, r.fault?.isSome = false) : e.attempts < held.refreshNumber := by
  induction rs using List.reverseRecOn with
  | nil => obtain ⟨r, here, -⟩ := came; cases here
  | append_singleton rs r ih =>
    rw [after_snoc, held_publish, Option.or_eq_some_iff] at there
    obtain brought | ⟨none, kept⟩ := there
    · obtain ⟨fetched, -, rfl⟩ := Option.map_eq_some_iff.1 brought
      simp only [attempts_after]
      omega
    · refine ih kept ?_
      obtain ⟨r', here, good⟩ := came
      obtain earlier | last := List.mem_append.1 here
      · exact ⟨r', earlier, good⟩
      · obtain rfl := List.mem_singleton.1 last
        rw [Refresh.isSome_fault?_iff.2 (Option.map_eq_none_iff.1 none)] at good
        cases good

theorem held_after_eq_iff {held held' : HeldKeys} (h : e.Numbered) (before : e.held = some held)
    (now : (e.after s rs).held = some held') : held' = held ↔ ∀ r ∈ rs, r.fault?.isSome := by
  constructor
  · -- equal keys have equal numbers, and a refresh that brings keys counts on from all before
    rintro rfl
    by_contra came
    simp only [not_forall, Bool.not_eq_true, exists_prop] at came
    have later := attempts_lt_number now came
    have earlier := (h _ before).1
    omega
  · intro failed
    rw [(kept_of_failed failed).1, before] at now
    exact (Option.some.inj now).symm

end Entry

end TokenGate
