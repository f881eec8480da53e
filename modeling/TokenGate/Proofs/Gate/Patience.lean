import TokenGate.Gate.Validate
import TokenGate.Proofs.Cache.History
import TokenGate.Proofs.Cache.Requests

/-!
# Callers who wait until a deadline

A caller who is answered before its deadline is answered as if it had none, and leaves the same gate
behind. Others give up. A look-up waits for one refresh at most.
-/

namespace TokenGate.Gate

variable {g : Gate} {uri id : String} {deadline : Instant}

theorem le_now_refresh (g : Gate) (e : Entry) : g.now ≤ (g.refresh e).2.now :=
  Fetched.le_ended_run ..

theorem le_time_forceKey (g : Gate) (uri id : String) : g.now ≤ (g.forceKey uri id).time := by
  unfold forceKey
  split
  · exact Nat.le_refl _
  · split
    · exact le_now_refresh ..
    · exact Nat.le_refl _

theorem time_firstLook_of_missing (missing : (g.firstLook uri id).answer = .missing) :
    (g.firstLook uri id).time = (g.firstLook uri id).gate.now := by
  unfold firstLook at missing ⊢
  split
  · rfl
  · rename_i found
    simp only [found] at missing
    split
    · rename_i serve
      simp only [serve] at missing
      simp only
      split
      · -- A key that is there settles the look-up.
        rename_i here
        simp only [here] at missing
        cases missing
      · rfl
      · rfl
    · rfl
    · rfl

theorem time_firstLook_le (g : Gate) (uri id : String) :
    (g.firstLook uri id).time ≤ (g.getKey uri id).time := by
  unfold getKey
  simp only
  split
  · exact Nat.le_refl _
  · rename_i missing
    rw [time_firstLook_of_missing missing]
    exact le_time_forceKey ..

theorem getKeyBefore_of_time (inTime : (g.getKey uri id).time < deadline) :
    g.getKeyBefore deadline uri id =
      { g.getKey uri id with answer := some (g.getKey uri id).answer } := by
  have first : (g.firstLook uri id).time < deadline :=
    Nat.lt_of_le_of_lt (time_firstLook_le g uri id) inTime
  unfold getKeyBefore
  unfold getKey at inTime ⊢
  simp only [first, decide_true, Bool.not_true, Bool.false_eq_true, if_false] at inTime ⊢
  split
  · rfl
  · rename_i missing
    simp only [missing] at inTime
    simp only [inTime, decide_true, if_true]

theorem validateBefore_of_time {check : SignatureCheck} {v : Validator} {token : String} {stamp : Stamp}
    (inTime : (g.validate check v token stamp).time < deadline) :
    g.validateBefore deadline check v token stamp =
      { g.validate check v token stamp with
        answer := some (g.validate check v token stamp).answer } := by
  unfold validateBefore
  unfold validate verify at inTime ⊢
  cases parsed : Token.Header.ofToken token with
  | error fault => rfl
  | ok header =>
    simp only [parsed] at inTime
    simp only [getKeyBefore_of_time inTime]

theorem getKeyBefore_of_late (late : deadline ≤ (g.getKey uri id).time) :
    (g.getKeyBefore deadline uri id).answer = none := by
  have notYet {t : Instant} (h : deadline ≤ t) : ¬ t < deadline := Nat.not_lt.2 h
  unfold getKeyBefore
  unfold getKey at late
  simp only at late ⊢
  split
  · rfl
  · rename_i inTime
    split
    · rename_i settled
      simp only [settled] at late
      simp only [notYet late, decide_false, Bool.not_false, not_true_eq_false] at inTime
    · rename_i missing
      simp only [missing] at late
      simp only [notYet late, decide_false, Bool.false_eq_true, if_false]

theorem validateBefore_of_late {check : SignatureCheck} {v : Validator} {token : String} {stamp : Stamp}
    (ahead : g.now < deadline) (late : deadline ≤ (g.validate check v token stamp).time) :
    (g.validateBefore deadline check v token stamp).answer = none := by
  unfold validateBefore
  unfold validate verify at late
  cases parsed : Token.Header.ofToken token with
  | error fault =>
    -- A token that cannot be read is refused at once.
    simp only [parsed] at late
    exact absurd ahead (Nat.not_lt.2 late)
  | ok header =>
    simp only [parsed] at late
    simp only [getKeyBefore_of_late late]

/-! ## One refresh at most -/

variable {e : Entry}

/-- Right after a refresh there is no other one. -/
theorem early_publish (s : FetchSettings) (r : Refresh) (positive : 0 < e.floor.nanos) :
    (e.publish s r).entry.mayRefresh r.ended = false := by
  have nothing : (r.ended.since r.ended).nanos = 0 := by
    rw [Instant.since, Nat.sub_self]
    rfl
  unfold Entry.mayRefresh
  rw [Entry.lastAttempt_publish, Entry.floor_publish]
  exact decide_eq_false (Nat.not_le.2 (nothing ▸ positive))

theorem time_forceKey_refresh (found : g.lookup? uri = some e) (positive : 0 < e.floor.nanos) :
    ((g.refresh e).2.forceKey uri id).time = (g.refresh e).2.now := by
  obtain rfl := uri_of_lookup? found
  let run := Fetched.run g.settings g.epoch e.uri g.network g.now
  let r : Refresh := ⟨e.uri, g.now, run.ended, run.result⟩
  have there : (g.refresh e).2.lookup? e.uri = some (e.publish g.settings r).entry :=
    lookup?_publishRefresh (g := { g with now := run.ended, network := run.state }) found
  have early : (e.publish g.settings r).entry.mayRefresh (g.refresh e).2.now = false :=
    early_publish g.settings r positive
  unfold forceKey
  simp only [there, early, Bool.false_eq_true, if_false]
  rfl

theorem time_forceKey (g : Gate) (uri id : String) :
    (g.forceKey uri id).time = g.now ∨
      ∃ e, g.lookup? uri = some e ∧ (g.forceKey uri id).time = (g.refresh e).2.now := by
  unfold forceKey
  split
  · exact .inl rfl
  · rename_i e found
    split
    · exact .inr ⟨e, found, rfl⟩
    · exact .inl rfl

theorem time_getKey (positive : ∀ e, g.lookup? uri = some e → 0 < e.floor.nanos) :
    (g.getKey uri id).time = g.now ∨
      ∃ e, g.lookup? uri = some e ∧ (g.getKey uri id).time = (g.refresh e).2.now := by
  unfold getKey firstLook
  cases found : g.lookup? uri with
  | none => exact .inl rfl
  | some e =>
    simp only
    cases e.decision g.now with
    | serve held behind =>
      simp only
      cases held.keys.get? id with
      | some k => exact .inl rfl
      | none =>
        cases behind with
        | true => exact .inr ⟨e, rfl, rfl⟩
        | false =>
          have second := time_forceKey g uri id
          rwa [found] at second
    | fetch =>
      refine .inr ⟨e, rfl, ?_⟩
      simp only [reply]
      split
      · rfl
      · exact time_forceKey_refresh found (positive e found)
    | refuse => exact .inl rfl

theorem time_validate (check : SignatureCheck) {v : Validator} (token : String) (stamp : Stamp)
    (positive : ∀ e, g.lookup? v.endpoint = some e → 0 < e.floor.nanos) :
    (g.validate check v token stamp).time = g.now ∨ ∃ e, g.lookup? v.endpoint = some e ∧
      (g.validate check v token stamp).time = (g.refresh e).2.now := by
  unfold validate verify
  cases Token.Header.ofToken token with
  | error fault => exact .inl rfl
  | ok header => exact time_getKey positive

end TokenGate.Gate
