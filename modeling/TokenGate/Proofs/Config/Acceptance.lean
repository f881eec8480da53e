import Mathlib.Algebra.Group.Nat.Defs
import TokenGate.Proofs.Config.Reading
import TokenGate.Proofs.Text.Fields

/-!
# Which variables make a configuration

Variables are accepted exactly when each of them can be used for what it stands for. Every field of the
configuration is then what its variable says, and where a URL or an issuer is not given it is derived from
what else is known of the provider.
-/

namespace TokenGate

open Text (isBlank Trimmed lowerAscii wordLimit IsNumber)

/-! ## Texts without blanks around them -/

/-- There is a text, and nothing to trim. -/
def IsBare (s : String) : Prop := s ≠ "" ∧ Trimmed isBlank s.toList

namespace IsBare

variable {s t : String}

theorem of_ends {a b : Char} (first : s.toList.head? = some a) (last : s.toList.getLast? = some b)
    (solid : isBlank a = false) (solid' : isBlank b = false) : IsBare s := by
  refine ⟨?_, fun c here => ?_, fun c here => ?_⟩
  · rintro rfl
    cases first
  · obtain rfl := Option.some.inj (first.symm.trans here)
    simp [solid]
  · obtain rfl := Option.some.inj (last.symm.trans here)
    simp [solid']

theorem append (first : ∀ c ∈ s.toList.head?, ¬ isBlank c) (bare : IsBare t) : IsBare (s ++ t) := by
  have nonempty : t.toList ≠ [] := by simpa using bare.1
  refine ⟨fun empty => nonempty ?_, ?_⟩
  · have chars := congrArg String.toList empty
    rw [String.toList_append, String.toList_empty] at chars
    exact (List.append_eq_nil_iff.1 chars).2
  · rw [String.toList_append]
    exact Text.trimmed_append first nonempty bare.2

theorem head?_append (bare : IsBare s) (t : String) : ∀ c ∈ (s ++ t).toList.head?, ¬ isBlank c := by
  rw [String.toList_append]
  have nonempty : s.toList ≠ [] := by simpa using bare.1
  rw [List.head?_append_of_ne_nil _ nonempty]
  exact bare.2.1

end IsBare

/-! ## Variables -/

namespace Variables

variable {vars : Variables} {name value : String}

/-- The variable is there, and there is more to it than blanks. -/
def IsFilled (vars : Variables) (name : String) : Prop :=
  ∃ given, vars.get? name = some given ∧ ∃ c ∈ given.toList, ¬ isBlank c

theorem filled?_eq_some_iff : vars.filled? name = some value ↔
    ∃ given, vars.get? name = some given ∧ Text.stripBlanks given = value ∧ value ≠ "" := by
  unfold filled?
  rw [Option.filter_eq_some_iff, Option.map_eq_some_iff, decide_eq_true_eq, ← exists_and_right]
  simp only [and_assoc]

theorem isSome_filled?_iff : (vars.filled? name).isSome ↔ vars.IsFilled name := by
  rw [Option.isSome_iff_exists]
  simp only [filled?_eq_some_iff]
  constructor
  · rintro ⟨_, given, here, rfl, filled⟩
    exact ⟨given, here, Text.stripBlanks_ne_empty_iff.1 filled⟩
  · rintro ⟨given, here, filled⟩
    exact ⟨_, given, here, rfl, Text.stripBlanks_ne_empty_iff.2 filled⟩

theorem isBare_of_filled? (h : vars.filled? name = some value) : IsBare value := by
  obtain ⟨given, -, rfl, filled⟩ := filled?_eq_some_iff.1 h
  refine ⟨filled, ?_⟩
  rw [Text.stripBlanks, String.toList_ofList]
  exact Text.trimmed_trim isBlank given.toList

end Variables

namespace Config

open Reader

variable {vars : Variables} {c : Config} {p : Provider} {name value : String} {n standard : Nat}

theorem require_eq_ok_iff : require vars name = .ok value ↔ vars.filled? name = some value := by
  unfold require
  cases vars.filled? name <;> simp

/-! ## The provider -/

/-- The provider of these variables. Its name may be in any case, and `oidc` needs no name. -/
inductive Names (vars : Variables) : Provider → Prop
  | absent (none : vars.get? "AUTH_PROVIDER" = none) : Names vars .oidc
  | given (value : String) (p : Provider) (here : vars.get? "AUTH_PROVIDER" = some value)
    (same : lowerAscii value.toList = p.name.toList) : Names vars p

theorem name_injective {p q : Provider} (h : p.name.toList = q.name.toList) : p = q := by
  cases p <;> cases q <;> first | rfl | exact absurd h (by decide)

theorem ofName?_eq_some_iff {s : String} :
    Provider.ofName? s = some p ↔ lowerAscii s.toList = p.name.toList := by
  unfold Provider.ofName?
  constructor
  · intro found
    simpa using List.find?_some found
  · intro same
    have some : ∃ q, [Provider.entra, .cognito, .oidc].find?
        (fun q => lowerAscii s.toList = q.name.toList) = some q := by
      refine Option.isSome_iff_exists.1 (List.find?_isSome.2 ⟨p, ?_, by simpa using same⟩)
      cases p <;> decide
    obtain ⟨q, found⟩ := some
    have same' : lowerAscii s.toList = q.name.toList := by simpa using List.find?_some found
    rw [found, name_injective (same'.symm.trans same)]

theorem providerOf_eq_ok_iff : providerOf vars = .ok p ↔ Names vars p := by
  unfold providerOf
  constructor
  · intro read
    split at read
    · rename_i none
      obtain rfl := Except.ok.inj read
      exact .absent none
    · rename_i value here
      split at read
      · rename_i q named
        obtain rfl := Except.ok.inj read
        exact .given value q here (ofName?_eq_some_iff.1 named)
      · cases read
  · intro names
    cases names with
    | absent none => rw [none]
    | given value p here same => simp only [here, ofName?_eq_some_iff.2 same]

/-! ## Endpoints -/

/-- The region is what stands before the first underscore, if anything does. -/
def IsRegion (pool region : String) : Prop :=
  region ≠ "" ∧ ∃ rest, pool.toList = region.toList ++ '_' :: rest ∧ '_' ∉ region.toList

theorem regionOfPool?_eq_some_iff {pool region : String} :
    Cognito.regionOfPool? pool = some region ↔ IsRegion pool region := by
  unfold Cognito.regionOfPool? IsRegion
  constructor
  · intro read
    split at read
    · rename_i before after cut
      obtain ⟨nonempty, same⟩ := Option.ite_none_left_eq_some.1 read
      obtain rfl := Option.some.inj same
      rw [ne_eq, String.ofList_eq_empty_iff, String.toList_ofList]
      exact ⟨nonempty, after, Text.splitOnce_eq_some_iff.1 cut⟩
    · cases read
  · rintro ⟨nonempty, rest, split, apart⟩
    rw [Text.splitOnce_eq_some_iff.2 ⟨split, apart⟩]
    simpa using nonempty

/-- The region of a pool. If it is not given, the pool's name begins with it. -/
inductive RegionOf (vars : Variables) (pool : String) : String → Prop
  | given (region : String) (here : vars.filled? "AUTH_COGNITO_REGION" = some region) :
    RegionOf vars pool region
  | named (region : String) (none : vars.filled? "AUTH_COGNITO_REGION" = none)
    (first : IsRegion pool region) : RegionOf vars pool region

theorem regionOf_eq_ok_iff {pool region : String} :
    regionOf vars pool = .ok region ↔ RegionOf vars pool region := by
  unfold regionOf
  constructor
  · intro read
    split at read
    · rename_i given here
      obtain rfl := Except.ok.inj read
      exact .given given here
    · rename_i none
      split at read
      · rename_i first named
        obtain rfl := Except.ok.inj read
        exact .named first none (regionOfPool?_eq_some_iff.1 named)
      · cases read
  · intro h
    cases h with
    | given here => rw [here]
    | named none first => simp only [none, regionOfPool?_eq_some_iff.2 first]

/-- What is known of a provider without its URL and its issuer being given. -/
structure Derived where
  discoveryUrl : Option String
  issuer : Option String
  tenantId : Option String
  poolId : Option String

inductive Derives (vars : Variables) : Provider → Derived → Prop
  | entra (tenant : String) (known : vars.filled? "AUTH_TENANT_ID" = some tenant) :
    Derives vars .entra ⟨some (Entra.discoveryUrl tenant
      ((vars.filled? "AUTH_ENTRA_VERSION").getD Entra.plainVersion)), some (Entra.issuer tenant),
      some tenant, none⟩
  | cognito (pool region : String) (known : vars.filled? "AUTH_COGNITO_POOL_ID" = some pool)
    (placed : RegionOf vars pool region) :
    Derives vars .cognito ⟨some (Cognito.discoveryUrl region pool), some (Cognito.issuer region pool),
      none, some pool⟩
  | oidc : Derives vars .oidc ⟨(vars.filled? "AUTH_ISSUER").map Oidc.discoveryUrl, none, none, none⟩

/-- What is given comes before what is derived. -/
structure Endpoints.Settles (vars : Variables) (d : Derived) (ends : Endpoints) : Prop where
  discoveryUrl : some ends.discoveryUrl = (vars.filled? "AUTH_DISCOVERY_URL").or d.discoveryUrl
  issuer : ends.issuer = (vars.filled? "AUTH_ISSUER").or d.issuer
  tenantId : ends.tenantId = d.tenantId
  poolId : ends.poolId = d.poolId

theorem some_getD_eq_or {α : Type} (x : Option α) (y : α) : some (x.getD y) = x.or (some y) := by
  cases x <;> rfl

theorem Endpoints.settles_iff {d : Derived} {url issuer : String} {ends : Endpoints}
    (derived : d.discoveryUrl = some url) (derived' : d.issuer = some issuer) :
    ends.Settles vars d ↔ ends = ⟨(vars.filled? "AUTH_DISCOVERY_URL").getD url,
      some ((vars.filled? "AUTH_ISSUER").getD issuer), d.tenantId, d.poolId⟩ := by
  constructor
  · rintro ⟨first, second, third, fourth⟩
    rw [derived, ← some_getD_eq_or, Option.some.injEq] at first
    rw [derived', ← some_getD_eq_or] at second
    cases ends
    simp_all
  · rintro rfl
    exact ⟨by rw [derived, ← some_getD_eq_or], by rw [derived', ← some_getD_eq_or], rfl, rfl⟩

theorem endpointsOf_eq_ok_iff {ends : Endpoints} :
    endpointsOf p vars = .ok ends ↔ ∃ d, Derives vars p d ∧ ends.Settles vars d := by
  cases p with
  | entra =>
    change (require vars "AUTH_TENANT_ID").bind _ = .ok ends ↔ _
    rw [bind_eq_ok_iff]
    constructor
    · rintro ⟨tenant, known, read⟩
      obtain rfl := Except.ok.inj read
      exact ⟨_, .entra tenant (require_eq_ok_iff.1 known), (Endpoints.settles_iff rfl rfl).2 rfl⟩
    · rintro ⟨d, derives, settles⟩
      cases derives with
      | entra tenant known =>
        obtain rfl := (Endpoints.settles_iff rfl rfl).1 settles
        exact ⟨tenant, require_eq_ok_iff.2 known, rfl⟩
  | cognito =>
    change (require vars "AUTH_COGNITO_POOL_ID").bind _ = .ok ends ↔ _
    rw [bind_eq_ok_iff]
    constructor
    · rintro ⟨pool, known, read⟩
      obtain ⟨region, placed, read⟩ := bind_eq_ok_iff.1 read
      obtain rfl := Except.ok.inj read
      exact ⟨_, .cognito pool region (require_eq_ok_iff.1 known) (regionOf_eq_ok_iff.1 placed),
        (Endpoints.settles_iff rfl rfl).2 rfl⟩
    · rintro ⟨d, derives, settles⟩
      cases derives with
      | cognito pool region known placed =>
        obtain rfl := (Endpoints.settles_iff rfl rfl).1 settles
        exact ⟨pool, require_eq_ok_iff.2 known,
          bind_eq_ok_iff.2 ⟨region, regionOf_eq_ok_iff.2 placed, rfl⟩⟩
  | oidc =>
    simp only [endpointsOf, oidcEndpoints]
    constructor
    · intro read
      split at read
      · rename_i url placed
        obtain rfl := Except.ok.inj read
        exact ⟨_, .oidc, placed.symm, (Option.or_none ..).symm, rfl, rfl⟩
      · cases read
    · rintro ⟨d, derives, settles⟩
      cases derives
      obtain ⟨first, second, third, fourth⟩ := settles
      rw [← first]
      rw [Option.or_none] at second
      cases ends
      simp_all

/-! ## Numbers of seconds -/

/-- The number is the variable's, or the standard one where there is no variable. -/
inductive Counts (vars : Variables) (name : String) (standard : Nat) : Nat → Prop
  | absent (none : vars.get? name = none) : Counts vars name standard standard
  | given (value : String) (n : Nat) (here : vars.get? name = some value)
    (number : IsNumber n value.toList) (fits : n < wordLimit) : Counts vars name standard n

theorem Counts.lt (counts : Counts vars name standard n) (small : standard < wordLimit) : n < wordLimit := by
  cases counts with
  | absent => exact small
  | given value n here number fits => exact fits

theorem secondsOr_eq_ok_iff {fault : String → Text.NumberFault → ConfigFault} :
    secondsOr vars name standard fault = .ok n ↔ Counts vars name standard n := by
  unfold secondsOr
  constructor
  · intro read
    split at read
    · rename_i none
      obtain rfl := Except.ok.inj read
      exact .absent none
    · rename_i value here
      cases number : Text.readNatBelow wordLimit value.toList with
      | error e => rw [number] at read; cases read
      | ok m =>
        rw [number] at read
        obtain rfl := Except.ok.inj read
        obtain ⟨number, fits⟩ := (Text.readNatBelow_eq_ok_iff (by decide)).1 number
        exact .given value m here number fits
  · intro counts
    cases counts with
    | absent none => rw [none]
    | given value n here number fits =>
      rw [here]
      simp only [(Text.readNatBelow_eq_ok_iff (by decide)).2 ⟨number, fits⟩]
      rfl

theorem leewayOf_eq_ok_iff : leewayOf vars = .ok n ↔
    Counts vars "JWT_LEEWAY_SECONDS" 10 n ∧ n ≤ 600 := by
  change (secondsOr vars "JWT_LEEWAY_SECONDS" standardLeewaySeconds .leewayText).bind _ = .ok n ↔ _
  rw [bind_eq_ok_iff]
  constructor
  · rintro ⟨m, read, kept⟩
    split at kept
    · cases kept
    · rename_i short
      obtain rfl := Except.ok.inj kept
      exact ⟨secondsOr_eq_ok_iff.1 read, Nat.le_of_not_lt short⟩
  · rintro ⟨counts, short⟩
    exact ⟨n, secondsOr_eq_ok_iff.2 counts, if_neg (Nat.not_lt.2 short)⟩

theorem intervalOf_eq_ok_iff : intervalOf vars name standard = .ok n ↔
    Counts vars name standard n ∧ 1 ≤ n := by
  change (secondsOr vars name standard (.intervalText name)).bind _ = .ok n ↔ _
  rw [bind_eq_ok_iff]
  constructor
  · rintro ⟨m, read, kept⟩
    split at kept
    · cases kept
    · rename_i positive
      obtain rfl := Except.ok.inj kept
      exact ⟨secondsOr_eq_ok_iff.1 read, Nat.pos_of_ne_zero positive⟩
  · rintro ⟨counts, positive⟩
    exact ⟨n, secondsOr_eq_ok_iff.2 counts, if_neg (Nat.pos_iff_ne_zero.1 positive)⟩

/-- The numbers of a configuration, within their bounds. -/
structure Numbers.Settles (vars : Variables) (n : Numbers) : Prop where
  leeway : Counts vars "JWT_LEEWAY_SECONDS" 10 n.leewaySeconds ∧ n.leewaySeconds ≤ 600
  floor : Counts vars "JWKS_MIN_REFRESH_SECONDS" 60 n.floorSeconds ∧ 1 ≤ n.floorSeconds
  refreshPeriod :
    Counts vars "JWKS_BACKGROUND_REFRESH_SECONDS" 300 n.refreshPeriodSeconds ∧ 1 ≤ n.refreshPeriodSeconds
  drain : Counts vars "DRAIN_SECONDS" 5 n.drainSeconds

theorem numbersOf_eq_ok_iff {n : Numbers} : numbersOf vars = .ok n ↔ n.Settles vars := by
  constructor
  · intro read
    obtain ⟨leeway, first, read⟩ := bind_eq_ok_iff.1 read
    obtain ⟨floor, second, read⟩ := bind_eq_ok_iff.1 read
    obtain ⟨period, third, read⟩ := bind_eq_ok_iff.1 read
    obtain ⟨drain, fourth, read⟩ := bind_eq_ok_iff.1 read
    obtain rfl := Except.ok.inj read
    exact ⟨leewayOf_eq_ok_iff.1 first, intervalOf_eq_ok_iff.1 second, intervalOf_eq_ok_iff.1 third,
      secondsOr_eq_ok_iff.1 fourth⟩
  · rintro ⟨first, second, third, fourth⟩
    exact bind_eq_ok_iff.2 ⟨_, leewayOf_eq_ok_iff.2 first, bind_eq_ok_iff.2 ⟨_,
      intervalOf_eq_ok_iff.2 second, bind_eq_ok_iff.2 ⟨_, intervalOf_eq_ok_iff.2 third,
        bind_eq_ok_iff.2 ⟨_, secondsOr_eq_ok_iff.2 fourth, rfl⟩⟩⟩⟩

/-! ## Acceptance -/

/-- Enough is known of the provider to find it. -/
def Known (vars : Variables) : Provider → Prop
  | .entra => vars.IsFilled "AUTH_TENANT_ID"
  | .cognito => ∃ pool, vars.get? "AUTH_COGNITO_POOL_ID" = some pool ∧ (∃ c ∈ pool.toList, ¬ isBlank c) ∧
      (vars.IsFilled "AUTH_COGNITO_REGION" ∨ ∃ region rest,
        Text.trim isBlank pool.toList = region ++ '_' :: rest ∧ '_' ∉ region ∧ region ≠ [])
  | .oidc => vars.IsFilled "AUTH_DISCOVERY_URL" ∨ vars.IsFilled "AUTH_ISSUER"

/-- The variable is absent, or a number for which `P` holds. -/
def Allows (vars : Variables) (name : String) (P : Nat → Prop) : Prop :=
  ∀ value, vars.get? name = some value → ∃ n, IsNumber n value.toList ∧ P n

structure Usable (vars : Variables) : Prop where
  provider : ∃ p, Names vars p ∧ Known vars p
  audience : vars.IsFilled "AUTH_AUD"
  leeway : Allows vars "JWT_LEEWAY_SECONDS" fun n => n ≤ 600
  floor : Allows vars "JWKS_MIN_REFRESH_SECONDS" fun n => 1 ≤ n ∧ n < 2 ^ 64
  refreshPeriod : Allows vars "JWKS_BACKGROUND_REFRESH_SECONDS" fun n => 1 ≤ n ∧ n < 2 ^ 64
  drain : Allows vars "DRAIN_SECONDS" fun n => n < 2 ^ 64

/-- Every field is what the variables say. -/
structure Settles (vars : Variables) (c : Config) : Prop where
  bindAddress : c.bindAddress = (vars.get? "BIND_ADDRESS").getD "0.0.0.0:8080"
  provider : Names vars c.provider
  audience : vars.filled? "AUTH_AUD" = some c.audience
  endpoints : ∃ d, Derives vars c.provider d ∧
    Endpoints.Settles vars d ⟨c.discoveryUrl, c.issuer, c.tenantId, c.poolId⟩
  numbers : Numbers.Settles vars
    ⟨c.leewaySeconds, c.floorSeconds, c.refreshPeriodSeconds, c.drainSeconds⟩

theorem ofVariables_eq_ok_iff : ofVariables vars = .ok c ↔ Settles vars c := by
  constructor
  · intro accepted
    obtain ⟨provider, audience, ends, n, named, asked, placed, counted, rfl⟩ :=
      assembled_of_accepted accepted
    exact ⟨rfl, providerOf_eq_ok_iff.1 named, require_eq_ok_iff.1 asked, endpointsOf_eq_ok_iff.1 placed,
      numbersOf_eq_ok_iff.1 counted⟩
  · rintro ⟨address, named, asked, placed, counted⟩
    rw [ofVariables_eq]
    refine bind_eq_ok_iff.2 ⟨_, providerOf_eq_ok_iff.2 named, bind_eq_ok_iff.2 ⟨_,
      require_eq_ok_iff.2 asked, bind_eq_ok_iff.2 ⟨_, endpointsOf_eq_ok_iff.2 placed,
        map_eq_ok_iff.2 ⟨_, numbersOf_eq_ok_iff.2 counted, ?_⟩⟩⟩⟩
    rw [assemble, ← address]

theorem exists_counts_iff {P : Nat → Prop} (standard : Nat) (holds : P standard)
    (fits : ∀ n, P n → n < wordLimit) :
    (∃ n, Counts vars name standard n ∧ P n) ↔ Allows vars name P := by
  constructor
  · rintro ⟨n, counts, bounded⟩ value here
    cases counts with
    | absent none => rw [none] at here; cases here
    | given value' n here' number _ =>
      obtain rfl := Option.some.inj (here'.symm.trans here)
      exact ⟨n, number, bounded⟩
  · intro allows
    cases here : vars.get? name with
    | none => exact ⟨standard, .absent here, holds⟩
    | some value =>
      obtain ⟨n, number, bounded⟩ := allows value here
      exact ⟨n, .given value n here number (fits n bounded), bounded⟩

theorem exists_numbers_iff : (∃ n : Numbers, n.Settles vars) ↔
    Allows vars "JWT_LEEWAY_SECONDS" (fun n => n ≤ 600) ∧
    Allows vars "JWKS_MIN_REFRESH_SECONDS" (fun n => 1 ≤ n ∧ n < 2 ^ 64) ∧
    Allows vars "JWKS_BACKGROUND_REFRESH_SECONDS" (fun n => 1 ≤ n ∧ n < 2 ^ 64) ∧
    Allows vars "DRAIN_SECONDS" (fun n => n < 2 ^ 64) := by
  have limit : wordLimit = 2 ^ 64 := by decide
  rw [← exists_counts_iff 10 (by omega) (by omega),
    ← exists_counts_iff 60 (by omega) (by omega),
    ← exists_counts_iff 300 (by omega) (by omega),
    ← exists_counts_iff 5 (by omega) (by omega)]
  constructor
  · rintro ⟨n, leeway, floor, refreshPeriod, drain⟩
    exact ⟨⟨_, leeway⟩, ⟨_, floor.1, floor.2, limit ▸ floor.1.lt (by decide)⟩,
      ⟨_, refreshPeriod.1, refreshPeriod.2, limit ▸ refreshPeriod.1.lt (by decide)⟩,
      ⟨_, drain, limit ▸ drain.lt (by decide)⟩⟩
  · rintro ⟨⟨leeway, first⟩, ⟨floor, second, positive, -⟩, ⟨period, third, positive', -⟩, ⟨drain, fourth, -⟩⟩
    exact ⟨⟨leeway, floor, period, drain⟩, first, ⟨second, positive⟩, ⟨third, positive'⟩, fourth⟩

theorem exists_region_iff {pool : String} : (∃ region, RegionOf vars pool region) ↔
    vars.IsFilled "AUTH_COGNITO_REGION" ∨
      ∃ region rest, pool.toList = region ++ '_' :: rest ∧ '_' ∉ region ∧ region ≠ [] := by
  rw [← Variables.isSome_filled?_iff]
  constructor
  · rintro ⟨region, placed⟩
    cases placed with
    | given here => exact .inl (by rw [here]; rfl)
    | named none first =>
      obtain ⟨nonempty, rest, split, apart⟩ := first
      exact .inr ⟨_, rest, split, apart, by simpa using nonempty⟩
  · intro placed
    cases given : vars.filled? "AUTH_COGNITO_REGION" with
    | some region => exact ⟨region, .given region given⟩
    | none =>
      obtain ⟨region, rest, split, apart, nonempty⟩ := placed.resolve_left (by simp [given])
      refine ⟨String.ofList region, .named _ given ⟨by simpa using nonempty, rest, ?_⟩⟩
      rw [String.toList_ofList]
      exact ⟨split, apart⟩

theorem exists_endpoints_iff :
    (∃ d, Derives vars p d ∧ ∃ ends : Endpoints, ends.Settles vars d) ↔ Known vars p := by
  cases p with
  | entra =>
    rw [Known, ← Variables.isSome_filled?_iff, Option.isSome_iff_exists]
    constructor
    · rintro ⟨d, derives, -⟩
      cases derives with
      | entra tenant known => exact ⟨tenant, known⟩
    · rintro ⟨tenant, known⟩
      exact ⟨_, .entra tenant known, _, (Endpoints.settles_iff rfl rfl).2 rfl⟩
  | cognito =>
    constructor
    · rintro ⟨d, derives, -⟩
      cases derives with
      | cognito pool region known placed =>
        obtain ⟨given, here, rfl, filled⟩ := Variables.filled?_eq_some_iff.1 known
        have placed := exists_region_iff.1 ⟨region, placed⟩
        rw [Text.stripBlanks, String.toList_ofList] at placed
        exact ⟨given, here, Text.stripBlanks_ne_empty_iff.1 filled, placed⟩
    · rintro ⟨given, here, filled, placed⟩
      have known : vars.filled? "AUTH_COGNITO_POOL_ID" = some (Text.stripBlanks given) :=
        Variables.filled?_eq_some_iff.2 ⟨given, here, rfl, Text.stripBlanks_ne_empty_iff.2 filled⟩
      rw [← String.toList_ofList (l := Text.trim isBlank given.toList)] at placed
      obtain ⟨region, placed⟩ := exists_region_iff.2 placed
      exact ⟨_, .cognito _ region known placed, _, (Endpoints.settles_iff rfl rfl).2 rfl⟩
  | oidc =>
    rw [Known, ← Variables.isSome_filled?_iff, ← Variables.isSome_filled?_iff]
    constructor
    · rintro ⟨d, derives, ends, settles⟩
      cases derives
      have found := congrArg Option.isSome settles.discoveryUrl
      simpa using found.symm
    · intro known
      have found : ((vars.filled? "AUTH_DISCOVERY_URL").or
          ((vars.filled? "AUTH_ISSUER").map Oidc.discoveryUrl)).isSome := by simpa using known
      obtain ⟨url, placed⟩ := Option.isSome_iff_exists.1 found
      exact ⟨_, .oidc, ⟨url, vars.filled? "AUTH_ISSUER", none, none⟩, placed.symm,
        (Option.or_none ..).symm, rfl, rfl⟩

theorem accepted_iff : (∃ c, ofVariables vars = .ok c) ↔ Usable vars := by
  simp only [ofVariables_eq_ok_iff]
  constructor
  · rintro ⟨c, -, named, asked, ⟨d, derives, settles⟩, counted⟩
    obtain ⟨leeway, floor, refreshPeriod, drain⟩ := exists_numbers_iff.1 ⟨_, counted⟩
    have asked : vars.IsFilled "AUTH_AUD" := Variables.isSome_filled?_iff.1 (by rw [asked]; rfl)
    exact ⟨⟨_, named, exists_endpoints_iff.1 ⟨d, derives, _, settles⟩⟩, asked, leeway, floor,
      refreshPeriod, drain⟩
  · rintro ⟨⟨p, named, known⟩, asked, leeway, floor, refreshPeriod, drain⟩
    obtain ⟨d, derives, ends, settles⟩ := exists_endpoints_iff.2 known
    obtain ⟨n, counted⟩ := exists_numbers_iff.2 ⟨leeway, floor, refreshPeriod, drain⟩
    obtain ⟨audience, asked⟩ := Option.isSome_iff_exists.1 (Variables.isSome_filled?_iff.2 asked)
    exact ⟨assemble vars p audience ends n, rfl, named, asked, ⟨d, derives, settles⟩, counted⟩

/-! ## What is accepted -/

theorem isBare_wellKnown (first : ∀ c ∈ value.toList.head?, ¬ isBlank c) : IsBare (value ++ wellKnownPath) :=
  .append first (.of_ends (a := '.') (b := 'n') (by decide) (by decide) (by decide) (by decide))

theorem isBare_slash : IsBare "/" :=
  .of_ends (a := '/') (b := '/') (by decide) (by decide) (by decide) (by decide)

theorem isBare_entraDiscoveryUrl (tenant version : String) : IsBare (Entra.discoveryUrl tenant version) := by
  have host : IsBare "https://login.microsoftonline.com/" :=
    .of_ends (a := 'h') (b := '/') (by decide) (by decide) (by decide) (by decide)
  unfold Entra.discoveryUrl
  refine isBare_wellKnown ?_
  simp only [String.append_assoc]
  exact host.head?_append _

theorem isBare_entraIssuer (tenant : String) : IsBare (Entra.issuer tenant) := by
  have host : IsBare "https://sts.windows.net/" :=
    .of_ends (a := 'h') (b := '/') (by decide) (by decide) (by decide) (by decide)
  exact .append (host.head?_append tenant) isBare_slash

theorem isBare_cognitoIssuer {pool : String} (region : String) (bare : IsBare pool) :
    IsBare (Cognito.issuer region pool) := by
  have host : IsBare "https://cognito-idp." :=
    .of_ends (a := 'h') (b := '.') (by decide) (by decide) (by decide) (by decide)
  unfold Cognito.issuer
  refine .append ?_ bare
  rw [String.append_assoc]
  exact host.head?_append _

theorem isBare_cognitoDiscoveryUrl {pool : String} (region : String) (bare : IsBare pool) :
    IsBare (Cognito.discoveryUrl region pool) := by
  unfold Cognito.discoveryUrl
  refine isBare_wellKnown ?_
  exact (isBare_cognitoIssuer region bare).head?_append "/"

theorem isBare_oidcDiscoveryUrl {issuer : String} (bare : IsBare issuer) :
    IsBare (Oidc.discoveryUrl issuer) := by
  unfold Oidc.discoveryUrl
  refine isBare_wellKnown (IsBare.append ?_ isBare_slash).2.1
  rw [String.toList_ofList]
  -- Slashes go from the end only, so that the first character that is left is the issuer's first.
  intro c first
  obtain ⟨slashes, same⟩ := List.rdropWhile_prefix (· == '/') issuer.toList
  refine bare.2.1 c ?_
  rw [← same, List.head?_append, ← Text.trimEnd_eq_rdropWhile, Option.mem_def.1 first, Option.some_or]
  rfl

theorem Derives.isBare {d : Derived} (derives : Derives vars p d) :
    (∀ url ∈ d.discoveryUrl, IsBare url) ∧ ∀ issuer ∈ d.issuer, IsBare issuer := by
  cases derives with
  | entra tenant known =>
    simp only [Option.mem_some_iff, forall_eq']
    exact ⟨isBare_entraDiscoveryUrl _ _, isBare_entraIssuer _⟩
  | cognito pool region known placed =>
    have bare := Variables.isBare_of_filled? known
    simp only [Option.mem_some_iff, forall_eq']
    exact ⟨isBare_cognitoDiscoveryUrl _ bare, isBare_cognitoIssuer _ bare⟩
  | oidc =>
    refine ⟨fun url derived => ?_, by simp⟩
    obtain ⟨issuer, given, rfl⟩ := Option.map_eq_some_iff.1 derived
    exact isBare_oidcDiscoveryUrl (Variables.isBare_of_filled? given)

theorem Derives.isSome_iff {d : Derived} (derives : Derives vars p d) :
    (d.issuer.isSome ↔ p ≠ .oidc) ∧ (d.tenantId.isSome ↔ p = .entra) ∧
      (d.poolId.isSome ↔ p = .cognito) := by
  cases derives <;> simp

theorem Derives.filled {d : Derived} (derives : Derives vars p d) :
    (∀ tenant ∈ d.tenantId, vars.filled? "AUTH_TENANT_ID" = some tenant) ∧
      ∀ pool ∈ d.poolId, vars.filled? "AUTH_COGNITO_POOL_ID" = some pool := by
  cases derives <;> simp_all

theorem isBare_or {derived : Option String} (bare : ∀ s ∈ derived, IsBare s)
    (found : (vars.filled? name).or derived = some value) : IsBare value := by
  rcases Option.or_eq_some_iff.1 found with given | ⟨-, derived⟩
  · exact Variables.isBare_of_filled? given
  · exact bare value derived

/-- What holds of every configuration that is made from variables. -/
structure Sound (vars : Variables) (c : Config) : Prop where
  audience : IsBare c.audience
  discoveryUrl : IsBare c.discoveryUrl
  issuer : ∀ issuer, c.issuer = some issuer → IsBare issuer
  hasIssuer : c.issuer.isSome ↔ c.provider ≠ .oidc ∨ vars.IsFilled "AUTH_ISSUER"
  givenUrl : ∀ url, vars.filled? "AUTH_DISCOVERY_URL" = some url → c.discoveryUrl = url
  givenIssuer : ∀ issuer, vars.filled? "AUTH_ISSUER" = some issuer → c.issuer = some issuer
  hasTenant : c.tenantId.isSome ↔ c.provider = .entra
  hasPool : c.poolId.isSome ↔ c.provider = .cognito
  tenant : ∀ tenant, c.tenantId = some tenant → vars.filled? "AUTH_TENANT_ID" = some tenant
  pool : ∀ pool, c.poolId = some pool → vars.filled? "AUTH_COGNITO_POOL_ID" = some pool
  leeway : c.leewaySeconds ≤ 600
  floor : 1 ≤ c.floorSeconds
  refreshPeriod : 1 ≤ c.refreshPeriodSeconds

theorem Settles.sound (h : Settles vars c) : Sound vars c := by
  obtain ⟨-, -, asked, ⟨d, derives, ⟨url, issuer, tenant, pool⟩⟩, ⟨leeway, floor, period, -⟩⟩ := h
  dsimp only at url issuer tenant pool leeway floor period
  obtain ⟨hasIssuer, hasTenant, hasPool⟩ := derives.isSome_iff
  exact {
    audience := Variables.isBare_of_filled? asked
    discoveryUrl := isBare_or derives.isBare.1 url.symm
    issuer := fun i here => isBare_or derives.isBare.2 (issuer.symm.trans here)
    hasIssuer := by
      rw [issuer, Option.isSome_or, Bool.or_eq_true, Variables.isSome_filled?_iff, hasIssuer]
      exact or_comm
    givenUrl := fun u given => Option.some.inj (by rw [url, given, Option.some_or])
    givenIssuer := fun i given => by rw [issuer, given, Option.some_or]
    hasTenant := by rw [tenant, hasTenant]
    hasPool := by rw [pool, hasPool]
    tenant := fun t here => derives.filled.1 t (tenant.symm.trans here)
    pool := fun t here => derives.filled.2 t (pool.symm.trans here)
    leeway := leeway.2
    floor := floor.2
    refreshPeriod := period.2 }

/-- Variables make a configuration exactly when they are usable, and which one it is. -/
structure Accepts (vars : Variables) : Prop where
  accepted_iff : (∃ c, ofVariables vars = .ok c) ↔ Usable vars
  settled_iff : ∀ c, ofVariables vars = .ok c ↔ Settles vars c
  sound : ∀ c, ofVariables vars = .ok c → Sound vars c

theorem accepts (vars : Variables) : Accepts vars where
  accepted_iff := accepted_iff
  settled_iff _ := ofVariables_eq_ok_iff
  sound _ accepted := (ofVariables_eq_ok_iff.1 accepted).sound

end Config

end TokenGate
