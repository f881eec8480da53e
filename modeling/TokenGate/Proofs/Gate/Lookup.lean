import TokenGate.Gate.Keys

/-!
# Why a key is not found

A look-up that brings no key says that there are no keys at all, or that this one is not among them.
-/

namespace TokenGate

namespace AuthError

def IsOutage (e : AuthError) : Prop := ∃ detail, e = keysUnavailable detail

/-- There is no key set, or the key is not in it. -/
def IsKeyless (e : AuthError) : Prop := e.IsOutage ∨ ∃ keyId, e = unknownKey keyId

end AuthError

theorem Entry.joined_error {e : Entry} {err : AuthError} (h : e.joined = .error err) :
    err.IsOutage := by
  unfold joined at h
  split at h
  · cases h
  · cases h
    exact ⟨_, rfl⟩

theorem Entry.publish_error {s : FetchSettings} {e : Entry} {r : Refresh} {err : AuthError}
    (h : (e.publish s r).answer = .error err) : err.IsOutage := by
  unfold publish at h
  split at h
  · unfold publishKeys at h
    simp only at h
    split at h
    · cases h
    · cases h
      exact ⟨_, rfl⟩
  · exact joined_error h

namespace Gate

variable {g : Gate} {uri id : String} {e : Entry} {err : AuthError} {answer : KeyAnswer}

theorem refresh_error (h : (g.refresh e).1 = .error err) : err.IsOutage := Entry.publish_error h

theorem keyIn_refused (h : keyIn id answer = .error err) :
    answer = .error err ∨
      err = .unknownKey id ∧ ∃ held, answer = .ok held ∧ held.keys.get? id = none := by
  unfold keyIn at h
  split at h
  · exact .inl (congrArg Except.error (Except.error.inj h))
  · rename_i held
    split at h
    · cases h
    · rename_i missing
      exact .inr ⟨(Except.error.inj h).symm, held, rfl, missing⟩

theorem ofAnswer_refused (h : FirstLook.ofAnswer id answer = .settled (.error err)) :
    answer = .error err := by
  unfold FirstLook.ofAnswer at h
  split at h
  · exact congrArg Except.error (Except.error.inj (FirstLook.settled.inj h))
  · split at h <;> cases h

theorem ofAnswer_missing (h : FirstLook.ofAnswer id answer = .missing) :
    ∃ held, answer = .ok held ∧ held.keys.get? id = none := by
  unfold FirstLook.ofAnswer at h
  split at h
  · cases h
  · rename_i held
    split at h
    · cases h
    · rename_i missing
      exact ⟨held, rfl, missing⟩

theorem keyIn_error (h : keyIn id answer = .error err) (outage : ∀ e, answer = .error e → e.IsOutage) :
    err.IsKeyless := by
  unfold keyIn at h
  split at h
  · cases h
    exact .inl (outage _ rfl)
  · split at h
    · cases h
    · cases h
      exact .inr ⟨_, rfl⟩

theorem ofAnswer_error (h : FirstLook.ofAnswer id answer = .settled (.error err))
    (outage : ∀ e, answer = .error e → e.IsOutage) : err.IsKeyless := by
  unfold FirstLook.ofAnswer at h
  split at h
  · cases h
    exact .inl (outage _ rfl)
  · split at h <;> cases h

theorem joined_error (h : g.joined uri = .error err) : err.IsOutage := by
  unfold joined at h
  split at h
  · cases h
    exact ⟨_, rfl⟩
  · exact Entry.joined_error h

theorem firstLook_error (h : (g.firstLook uri id).answer = .settled (.error err)) :
    err.IsKeyless := by
  unfold firstLook at h
  split at h
  · cases h
    exact .inl ⟨_, rfl⟩
  · split at h
    · simp only at h
      split at h
      · cases h
      · injection h with h
        exact keyIn_error h fun _ => joined_error
      · cases h
    · exact ofAnswer_error h fun _ => refresh_error
    · cases h
      exact .inl ⟨_, rfl⟩

theorem forceKey_error (h : (g.forceKey uri id).answer = .error err) : err.IsKeyless := by
  unfold forceKey at h
  split at h
  · cases h
    exact .inl ⟨_, rfl⟩
  · split at h
    · exact keyIn_error h fun _ => refresh_error
    · cases h
      exact .inr ⟨_, rfl⟩

theorem getKey_error (h : (g.getKey uri id).answer = .error err) : err.IsKeyless := by
  unfold getKey at h
  simp only at h
  split at h
  · rename_i r settled
    cases h
    exact firstLook_error settled
  · exact forceKey_error h

/-- A caller who does not give up gets what it would get with all the time in the world. -/
theorem getKey_of_getKeyBefore {deadline : Instant} {r : Except AuthError Jwk}
    (h : (g.getKeyBefore deadline uri id).answer = some r) : (g.getKey uri id).answer = r := by
  unfold getKeyBefore at h
  simp only at h
  unfold getKey
  simp only
  split at h
  · cases h
  · split at h
    · exact Option.some.inj h
    · simp only at h
      split at h
      · exact Option.some.inj h
      · cases h

end Gate

end TokenGate
