import TokenGate.Config
import TokenGate.Proofs.Text.Words

/-!
# How a configuration is read

Reading goes through provider, audience, endpoints and numbers, and stops at the first fault. A number
of seconds fits 64 bits.
-/

namespace TokenGate

/-! ## Readers in a row -/

namespace Reader

variable {ε α β : Type} {x : Except ε α} {f : α → Except ε β} {g : α → β} {e : ε} {b : β}

theorem bind_eq_ok_iff : x.bind f = .ok b ↔ ∃ a, x = .ok a ∧ f a = .ok b := by
  cases x <;> simp [Except.bind]

theorem bind_eq_error_iff :
    x.bind f = .error e ↔ x = .error e ∨ ∃ a, x = .ok a ∧ f a = .error e := by
  cases x <;> simp [Except.bind]

theorem map_eq_ok_iff : x.map g = .ok b ↔ ∃ a, x = .ok a ∧ g a = b := by
  cases x <;> simp [Except.map]

theorem map_eq_error_iff : x.map g = .error e ↔ x = .error e := by
  cases x <;> simp [Except.map]

end Reader

namespace Config

open Reader

variable {vars : Variables} {c : Config}

/-! ## Seconds -/

theorem secondsOr_lt {name : String} {standard n : Nat} {fault : String → Text.NumberFault → ConfigFault}
    (small : standard < Text.wordLimit) (h : secondsOr vars name standard fault = .ok n) :
    n < Text.wordLimit := by
  unfold secondsOr at h
  split at h
  · rwa [← Except.ok.inj h]
  · rename_i given _
    cases read : Text.readNatBelow Text.wordLimit given.toList with
    | error e => rw [read] at h; cases h
    | ok m =>
      rw [read] at h
      rw [← Except.ok.inj h]
      exact ((Text.readNatBelow_eq_ok_iff (by decide)).1 read).2

theorem intervalOf_bounds {name : String} {standard n : Nat} (small : standard < Text.wordLimit)
    (h : intervalOf vars name standard = .ok n) : 0 < n ∧ n < Text.wordLimit := by
  obtain ⟨m, read, h⟩ := bind_eq_ok_iff.1 h
  split at h
  · cases h
  · rename_i positive
    obtain rfl := Except.ok.inj h
    exact ⟨Nat.pos_of_ne_zero positive, secondsOr_lt small read⟩

/-! ## The whole reading -/

/-- The numbers of a configuration, in the order in which they are read. -/
structure Numbers where
  leewaySeconds : Nat
  floorSeconds : Nat
  refreshPeriodSeconds : Nat
  drainSeconds : Nat

def numbersOf (vars : Variables) : Except ConfigFault Numbers := do
  let leewaySeconds ← leewayOf vars
  let floorSeconds ← intervalOf vars "JWKS_MIN_REFRESH_SECONDS" standardFloorSeconds
  let refreshPeriodSeconds ← intervalOf vars "JWKS_BACKGROUND_REFRESH_SECONDS" 300
  let drainSeconds ← secondsOr vars "DRAIN_SECONDS" 5 .drainText
  return { leewaySeconds, floorSeconds, refreshPeriodSeconds, drainSeconds }

def assemble (vars : Variables) (provider : Provider) (audience : String) (ends : Endpoints)
    (n : Numbers) : Config where
  bindAddress := (vars.get? "BIND_ADDRESS").getD "0.0.0.0:8080"
  provider := provider
  audience := audience
  discoveryUrl := ends.discoveryUrl
  issuer := ends.issuer
  tenantId := ends.tenantId
  poolId := ends.poolId
  leewaySeconds := n.leewaySeconds
  floorSeconds := n.floorSeconds
  refreshPeriodSeconds := n.refreshPeriodSeconds
  drainSeconds := n.drainSeconds

theorem ofVariables_eq (vars : Variables) :
    ofVariables vars = (providerOf vars).bind fun provider =>
      (require vars "AUTH_AUD").bind fun audience =>
        (endpointsOf provider vars).bind fun ends =>
          (numbersOf vars).map (assemble vars provider audience ends) := by
  unfold ofVariables numbersOf
  simp only [bind, pure, Except.bind, Except.pure, Except.map]
  cases providerOf vars with
  | error e => rfl
  | ok provider =>
    simp only
    cases require vars "AUTH_AUD" with
    | error e => rfl
    | ok audience =>
      simp only
      cases endpointsOf provider vars with
      | error e => rfl
      | ok ends =>
        simp only
        split
        · rfl
        · split
          · rfl
          · split
            · rfl
            · split <;> rfl

theorem assembled_of_accepted (h : ofVariables vars = .ok c) :
    ∃ provider audience ends n, providerOf vars = .ok provider ∧
      require vars "AUTH_AUD" = .ok audience ∧ endpointsOf provider vars = .ok ends ∧
      numbersOf vars = .ok n ∧ c = assemble vars provider audience ends n := by
  rw [ofVariables_eq] at h
  obtain ⟨provider, named, h⟩ := bind_eq_ok_iff.1 h
  obtain ⟨audience, asked, h⟩ := bind_eq_ok_iff.1 h
  obtain ⟨ends, placed, h⟩ := bind_eq_ok_iff.1 h
  obtain ⟨n, counted, rfl⟩ := map_eq_ok_iff.1 h
  exact ⟨provider, audience, ends, n, named, asked, placed, counted, rfl⟩

theorem floorSeconds_bounds (h : ofVariables vars = .ok c) :
    0 < c.floorSeconds ∧ c.floorSeconds < Text.wordLimit := by
  obtain ⟨provider, audience, ends, n, -, -, -, read, rfl⟩ := assembled_of_accepted h
  obtain ⟨leeway, -, read⟩ := bind_eq_ok_iff.1 read
  obtain ⟨floor, bounded, read⟩ := bind_eq_ok_iff.1 read
  obtain ⟨period, -, read⟩ := bind_eq_ok_iff.1 read
  obtain ⟨drain, -, read⟩ := bind_eq_ok_iff.1 read
  obtain rfl := Except.ok.inj read
  exact intervalOf_bounds (by decide) bounded

theorem nanos_floor (h : ofVariables vars = .ok c) :
    c.floor.nanos = c.floorSeconds * Span.nanosPerSecond :=
  Span.nanos_ofSeconds (floorSeconds_bounds h).2

end Config

end TokenGate
