import TokenGate.Proofs.Config.Acceptance
import TokenGate.Proofs.Text.Diagnostic

/-!
# What a configuration shows of tenant and pool

Two sets of variables that differ in tenant or pool only are read in the same way, as long as both
identifiers are there and have their shape. The fields of the identifiers are not shown, but URLs that are
derived from them are: so two configurations look the same if both URLs are given, and otherwise only if
the identifiers are the same.
-/

namespace TokenGate

/-- The variables that hold tenant and pool. -/
def Config.identifierNames : List String := ["AUTH_TENANT_ID", "AUTH_COGNITO_POOL_ID"]

namespace Config

/-- Which tenant or pool a provider is asked about. -/
inductive Identifier
  | tenant (tenant : String)
  | pool (region pool : String)
  | unneeded

def Identifier.provider : Identifier → Provider
  | tenant _ => .entra
  | pool _ _ => .cognito
  | unneeded => .oidc

def identifierOf (p : Provider) (vars : Variables) : Except ConfigFault Identifier :=
  match p with
  | .entra => (require vars "AUTH_TENANT_ID").map .tenant
  | .cognito =>
    (require vars "AUTH_COGNITO_POOL_ID").bind fun pool =>
      (regionOf vars pool).map (.pool · pool)
  | .oidc => .ok .unneeded

end Config

/-! ## Readers of other variables -/

namespace Variables

open Config

/-- The same variables, but for tenant and pool. -/
def AgreeBeside (a b : Variables) : Prop :=
  ∀ name, name ∉ identifierNames → a.get? name = b.get? name

namespace AgreeBeside

variable {a b : Variables}

theorem filled? (agree : a.AgreeBeside b) (name : String) (other : name ∉ identifierNames) :
    a.filled? name = b.filled? name := by
  unfold Variables.filled?
  rw [agree name other]

theorem require (agree : a.AgreeBeside b) (name : String) (other : name ∉ identifierNames) :
    require a name = require b name := by
  unfold Config.require
  rw [agree.filled? name other]

theorem secondsOr (agree : a.AgreeBeside b) (name : String) (other : name ∉ identifierNames)
    (standard : Nat) (fault : String → Text.NumberFault → ConfigFault) :
    secondsOr a name standard fault = secondsOr b name standard fault := by
  unfold Config.secondsOr
  rw [agree name other]

theorem providerOf (agree : a.AgreeBeside b) : providerOf a = providerOf b := by
  unfold Config.providerOf
  rw [agree _ (by decide)]

theorem regionOf (agree : a.AgreeBeside b) (pool : String) : regionOf a pool = regionOf b pool := by
  unfold Config.regionOf
  rw [agree.filled? _ (by decide)]

theorem numbersOf (agree : a.AgreeBeside b) : numbersOf a = numbersOf b := by
  unfold Config.numbersOf leewayOf intervalOf
  rw [agree.secondsOr _ (by decide), agree.secondsOr _ (by decide), agree.secondsOr _ (by decide),
    agree.secondsOr _ (by decide)]

end AgreeBeside

end Variables

namespace Config

open Reader

variable {a b vars : Variables} {p : Provider} {f : ConfigFault} {i j : Identifier}
  {ends ends' : Endpoints} {c c' : Config}

/-! ## Identifiers -/

/-- What may be wrong with an identifier. The texts of these faults are fixed. -/
def identifierFaults : List ConfigFault :=
  [.missing "AUTH_TENANT_ID", .missing "AUTH_COGNITO_POOL_ID", .poolId]

theorem require_error {name : String} (h : require vars name = .error f) : f = .missing name := by
  unfold require at h
  split at h
  · cases h
  · exact (Except.error.inj h).symm

theorem regionOf_error {pool : String} (h : regionOf vars pool = .error f) : f = .poolId := by
  unfold regionOf at h
  split at h
  · cases h
  · split at h
    · cases h
    · exact (Except.error.inj h).symm

theorem identifierOf_error (h : identifierOf p vars = .error f) : f ∈ identifierFaults := by
  cases p with
  | entra =>
    rw [require_error (map_eq_error_iff.1 h)]
    decide
  | cognito =>
    obtain missing | ⟨pool, -, shapeless⟩ := bind_eq_error_iff.1 h
    · rw [require_error missing]
      decide
    · rw [regionOf_error (map_eq_error_iff.1 shapeless)]
      decide
  | oidc => cases h

theorem provider_of_identifierOf (h : identifierOf p vars = .ok i) : i.provider = p := by
  cases p with
  | entra =>
    obtain ⟨tenant, -, rfl⟩ := map_eq_ok_iff.1 h
    rfl
  | cognito =>
    obtain ⟨pool, -, h⟩ := bind_eq_ok_iff.1 h
    obtain ⟨region, -, rfl⟩ := map_eq_ok_iff.1 h
    rfl
  | oidc =>
    cases h
    rfl

theorem regionOf_of_identifierOf {region pool : String} (h : identifierOf p vars = .ok (.pool region pool)) :
    RegionOf vars pool region := by
  cases p with
  | entra =>
    obtain ⟨tenant, -, other⟩ := map_eq_ok_iff.1 h
    cases other
  | cognito =>
    obtain ⟨pool', -, h⟩ := bind_eq_ok_iff.1 h
    obtain ⟨region', read, same⟩ := map_eq_ok_iff.1 h
    cases same
    exact regionOf_eq_ok_iff.1 read
  | oidc => cases h

/-! ## Identifiers in URLs -/

theorem tenant_of_discoveryUrl {tenant tenant' version : String}
    (same : Entra.discoveryUrl tenant version = Entra.discoveryUrl tenant' version) : tenant = tenant' := by
  unfold Entra.discoveryUrl at same
  have front := (String.append_left_inj _).1 ((String.append_left_inj _).1 ((String.append_left_inj _).1 same))
  exact (String.append_right_inj _).1 front

theorem tenant_of_issuer {tenant tenant' : String} (same : Entra.issuer tenant = Entra.issuer tenant') :
    tenant = tenant' := by
  unfold Entra.issuer at same
  exact (String.append_right_inj _).1 ((String.append_left_inj _).1 same)

theorem issuer_of_discoveryUrl {region region' pool pool' : String}
    (same : Cognito.discoveryUrl region pool = Cognito.discoveryUrl region' pool') :
    Cognito.issuer region pool = Cognito.issuer region' pool' := by
  unfold Cognito.discoveryUrl at same
  exact (String.append_left_inj _).1 ((String.append_left_inj _).1 same)

theorem eq_of_regions {host : List Char} (hostless : '_' ∉ host) {region region' pool pool' : List Char}
    {rest rest' : List Char} (split : pool = region ++ '_' :: rest) (apart : '_' ∉ region)
    (split' : pool' = region' ++ '_' :: rest') (apart' : '_' ∉ region')
    (same : region ++ (host ++ pool) = region' ++ (host ++ pool')) : pool = pool' := by
  have cut {region : List Char} (apart : '_' ∉ region) (rest : List Char) :
      Text.splitOnce '_' (region ++ (host ++ (region ++ '_' :: rest))) =
        some (region ++ (host ++ region), rest) := by
    rw [← List.append_assoc host, ← List.append_assoc region]
    exact Text.splitOnce_append_sep rest (by simp [apart, hostless])
  subst split split'
  have pieces := (cut apart rest).symm.trans ((congrArg _ same).trans (cut apart' rest'))
  obtain ⟨fronts, rfl⟩ := Prod.mk.inj (Option.some.inj pieces)
  have length : region.length = region'.length := by
    have := congrArg List.length fronts
    simp only [List.length_append] at this
    omega
  rw [List.append_inj_left fronts length]

theorem pool_of_issuer {region region' pool pool' : String}
    (given : a.filled? "AUTH_COGNITO_REGION" = b.filled? "AUTH_COGNITO_REGION")
    (here : RegionOf a pool region) (there : RegionOf b pool' region')
    (same : Cognito.issuer region pool = Cognito.issuer region' pool') : pool = pool' := by
  unfold Cognito.issuer at same
  rw [String.append_assoc, String.append_assoc, String.append_assoc, String.append_assoc,
    String.append_right_inj] at same
  cases here with
  | given known =>
    cases there with
    | given known' =>
      obtain rfl := Option.some.inj (known.symm.trans (given.trans known'))
      exact (String.append_right_inj _).1 ((String.append_right_inj _).1 same)
    | named unknown _ =>
      rw [given, unknown] at known
      cases known
  | named unknown first =>
    cases there with
    | given known' =>
      rw [given, known'] at unknown
      cases unknown
    | named _ first' =>
      obtain ⟨-, rest, split, apart⟩ := first
      obtain ⟨-, rest', split', apart'⟩ := first'
      have chars := congrArg String.toList same
      rw [String.toList_append, String.toList_append, String.toList_append, String.toList_append] at chars
      exact String.toList_inj.1 (eq_of_regions (by decide) split apart split' apart' chars)

/-! ## Endpoints -/

/-- The endpoints, once the identifier is known. -/
def endpointsAt (vars : Variables) : Identifier → Except ConfigFault Endpoints
  | .tenant tenant =>
    let version := (vars.filled? "AUTH_ENTRA_VERSION").getD Entra.plainVersion
    .ok {
      discoveryUrl := (vars.filled? "AUTH_DISCOVERY_URL").getD (Entra.discoveryUrl tenant version)
      issuer := some ((vars.filled? "AUTH_ISSUER").getD (Entra.issuer tenant))
      tenantId := some tenant
      poolId := none }
  | .pool region pool =>
    .ok {
      discoveryUrl := (vars.filled? "AUTH_DISCOVERY_URL").getD (Cognito.discoveryUrl region pool)
      issuer := some ((vars.filled? "AUTH_ISSUER").getD (Cognito.issuer region pool))
      tenantId := none
      poolId := some pool }
  | .unneeded => oidcEndpoints vars

theorem endpointsOf_eq (p : Provider) (vars : Variables) :
    endpointsOf p vars = (identifierOf p vars).bind (endpointsAt vars) := by
  cases p with
  | entra =>
    simp only [endpointsOf, entraEndpoints, identifierOf]
    cases require vars "AUTH_TENANT_ID" <;> rfl
  | cognito =>
    simp only [endpointsOf, cognitoEndpoints, identifierOf]
    cases require vars "AUTH_COGNITO_POOL_ID" with
    | error e => rfl
    | ok pool =>
      simp only [bind, Except.bind]
      cases regionOf vars pool <;> rfl
  | oidc => rfl

/-- Are both URLs given, so that none is derived from an identifier? -/
def GivesUrls (vars : Variables) : Prop :=
  (vars.filled? "AUTH_DISCOVERY_URL").isSome ∧ (vars.filled? "AUTH_ISSUER").isSome
  deriving Decidable

/-- The same identifiers are there, and nothing differs that is given in full. -/
structure Endpoints.Alike (vars : Variables) (ends ends' : Endpoints) : Prop where
  tenantId : ends.tenantId.isSome = ends'.tenantId.isSome
  poolId : ends.poolId.isSome = ends'.poolId.isSome
  urls : GivesUrls vars → ends.discoveryUrl = ends'.discoveryUrl ∧ ends.issuer = ends'.issuer
  /-- A URL that is derived tells the identifier. -/
  identifiers : ¬ GivesUrls vars → ends.discoveryUrl = ends'.discoveryUrl → ends.issuer = ends'.issuer →
    ends.tenantId = ends'.tenantId ∧ ends.poolId = ends'.poolId
  derived : ends.tenantId = ends'.tenantId → ends.poolId = ends'.poolId →
    ends.discoveryUrl = ends'.discoveryUrl ∧ ends.issuer = ends'.issuer

theorem Endpoints.Alike.refl (vars : Variables) (ends : Endpoints) : ends.Alike vars ends :=
  ⟨rfl, rfl, fun _ => ⟨rfl, rfl⟩, fun _ _ _ => ⟨rfl, rfl⟩, fun _ _ => ⟨rfl, rfl⟩⟩

theorem getD_eq_getD {given given' : Option String} (same : given = given') {s t : String} :
    given.getD s = given'.getD t ↔ given.isSome ∨ s = t := by
  subst same
  cases given <;> simp

theorem not_givesUrls_iff : ¬ GivesUrls vars ↔
    vars.filled? "AUTH_DISCOVERY_URL" = none ∨ vars.filled? "AUTH_ISSUER" = none := by
  unfold GivesUrls
  rw [Classical.not_and_iff_not_or_not, Option.not_isSome_iff_eq_none, Option.not_isSome_iff_eq_none]

theorem alike_of_derived (agree : a.AgreeBeside b) {url url' issuer issuer' : String} {ends ends' : Endpoints}
    (url_eq : ends.discoveryUrl = (a.filled? "AUTH_DISCOVERY_URL").getD url)
    (url_eq' : ends'.discoveryUrl = (b.filled? "AUTH_DISCOVERY_URL").getD url')
    (issuer_eq : ends.issuer = some ((a.filled? "AUTH_ISSUER").getD issuer))
    (issuer_eq' : ends'.issuer = some ((b.filled? "AUTH_ISSUER").getD issuer'))
    (tenantId : ends.tenantId.isSome = ends'.tenantId.isSome) (poolId : ends.poolId.isSome = ends'.poolId.isSome)
    (derived : ends.tenantId = ends'.tenantId → ends.poolId = ends'.poolId → url = url' ∧ issuer = issuer')
    (identifiers : url = url' ∨ issuer = issuer' →
      ends.tenantId = ends'.tenantId ∧ ends.poolId = ends'.poolId) : ends.Alike a ends' := by
  have url_iff : ends.discoveryUrl = ends'.discoveryUrl ↔
      (a.filled? "AUTH_DISCOVERY_URL").isSome ∨ url = url' := by
    rw [url_eq, url_eq', getD_eq_getD (agree.filled? _ (by decide))]
  have issuer_iff : ends.issuer = ends'.issuer ↔ (a.filled? "AUTH_ISSUER").isSome ∨ issuer = issuer' := by
    rw [issuer_eq, issuer_eq', Option.some_inj, getD_eq_getD (agree.filled? _ (by decide))]
  refine ⟨tenantId, poolId, fun given => ⟨url_iff.2 (.inl given.1), issuer_iff.2 (.inl given.2)⟩,
    fun derives urls issuers => identifiers ?_, fun tenants pools => ?_⟩
  · obtain none | none := not_givesUrls_iff.1 derives
    · exact .inl ((url_iff.1 urls).resolve_left (by simp [none]))
    · exact .inr ((issuer_iff.1 issuers).resolve_left (by simp [none]))
  · obtain ⟨urls, issuers⟩ := derived tenants pools
    exact ⟨url_iff.2 (.inr urls), issuer_iff.2 (.inr issuers)⟩

theorem endpointsAt_alike (agree : a.AgreeBeside b) (here : identifierOf p a = .ok i)
    (there : identifierOf p b = .ok j) :
    (∃ f, endpointsAt a i = .error f ∧ endpointsAt b j = .error f) ∨
      ∃ ends ends', endpointsAt a i = .ok ends ∧ endpointsAt b j = .ok ends' ∧
        ends.Alike a ends' := by
  have akin := (provider_of_identifierOf here).trans (provider_of_identifierOf there).symm
  match i, j, akin with
  | .tenant tenant, .tenant tenant', _ =>
    have version := agree.filled? "AUTH_ENTRA_VERSION" (by decide)
    refine .inr ⟨_, _, rfl, rfl, alike_of_derived agree rfl rfl rfl rfl rfl rfl (fun tenants _ => ?_)
      fun derived => ?_⟩
    · rw [Option.some.inj tenants, version]
      exact ⟨rfl, rfl⟩
    · rw [version] at derived
      rw [derived.elim tenant_of_discoveryUrl tenant_of_issuer]
      exact ⟨rfl, rfl⟩
  | .pool region pool, .pool region' pool', _ =>
    have given := agree.filled? "AUTH_COGNITO_REGION" (by decide)
    have region_of := regionOf_of_identifierOf here
    have region_of' := regionOf_of_identifierOf there
    refine .inr ⟨_, _, rfl, rfl, alike_of_derived agree rfl rfl rfl rfl rfl rfl (fun _ pools => ?_)
      fun derived => ?_⟩
    · obtain rfl := Option.some.inj pools
      have regions := (regionOf_eq_ok_iff.2 region_of).symm.trans
        ((agree.regionOf pool).trans (regionOf_eq_ok_iff.2 region_of'))
      rw [Except.ok.inj regions]
      exact ⟨rfl, rfl⟩
    · have issuers := derived.elim issuer_of_discoveryUrl id
      rw [pool_of_issuer given region_of region_of' issuers]
      exact ⟨rfl, rfl⟩
  | .unneeded, .unneeded, _ =>
    have same : endpointsAt b .unneeded = endpointsAt a .unneeded := by
      simp only [endpointsAt, oidcEndpoints, agree.filled? "AUTH_DISCOVERY_URL" (by decide),
        agree.filled? "AUTH_ISSUER" (by decide)]
    rw [same]
    cases endpointsAt a .unneeded with
    | error f => exact .inl ⟨f, rfl, rfl⟩
    | ok ends => exact .inr ⟨ends, ends, rfl, rfl, .refl a ends⟩

/-! ## Configurations -/

/-- Nothing differs but the identifiers and what is derived from them. -/
structure Alike (vars : Variables) (c c' : Config) : Prop where
  rest : c' = { c with
    discoveryUrl := c'.discoveryUrl
    issuer := c'.issuer
    tenantId := c'.tenantId
    poolId := c'.poolId }
  ends : (⟨c.discoveryUrl, c.issuer, c.tenantId, c.poolId⟩ : Endpoints).Alike vars
    ⟨c'.discoveryUrl, c'.issuer, c'.tenantId, c'.poolId⟩

theorem alike_assemble (agree : a.AgreeBeside b) (alike : ends.Alike a ends') (p : Provider)
    (audience : String) (n : Numbers) :
    (assemble a p audience ends n).Alike a (assemble b p audience ends' n) where
  rest := by simp only [assemble, agree "BIND_ADDRESS" (by decide)]
  ends := alike

theorem diagnosticOption_hidden {s t : Option String} (h : s.isSome = t.isSome) :
    Text.diagnosticOption (fun _ => Text.redacted) s =
      Text.diagnosticOption (fun _ => Text.redacted) t := by
  cases s <;> cases t <;> first | rfl | cases h

theorem Alike.diagnostic_with (alike : c.Alike vars c') (url : String) (issuer : Option String) :
    { c with discoveryUrl := url, issuer := issuer }.diagnostic =
      { c' with discoveryUrl := url, issuer := issuer }.diagnostic := by
  rw [alike.rest]
  simp only [diagnostic]
  rw [diagnosticOption_hidden alike.ends.tenantId, diagnosticOption_hidden alike.ends.poolId]

/-! ## What a rendering tells -/

/-- The fields of a rendering. -/
def shownFields : List (Text.Shown Config) :=
  let hidden := Text.diagnosticOption fun _ : String => Text.redacted
  [("bind_address", fun c => Text.diagnostic c.bindAddress), ("provider", fun c => providerLabel c.provider),
    ("audience", fun c => Text.diagnostic c.audience),
    ("discovery_url", fun c => Text.diagnostic c.discoveryUrl),
    ("issuer", fun c => Text.diagnosticOption Text.diagnostic c.issuer),
    ("tenant_id", fun c => hidden c.tenantId), ("cognito_pool_id", fun c => hidden c.poolId),
    ("leeway_seconds", fun c => toString c.leewaySeconds),
    ("jwks_min_refresh_seconds", fun c => toString c.floorSeconds),
    ("jwks_background_refresh_seconds", fun c => toString c.refreshPeriodSeconds),
    ("drain_seconds", fun c => toString c.drainSeconds)]

theorem diagnostic_eq : diagnostic = Text.recordOf "Config" shownFields := rfl

theorem delimited_providerLabel : Text.Delimited providerLabel := by
  rintro (_ | _ | _) (_ | _ | _) <;> first | exact .refl _ | exact .of_first (by decide)

theorem delimited_shownFields : ∀ f ∈ shownFields, Text.Delimited f.2 := by
  have hidden : Text.Delimited (Text.diagnosticOption fun _ : String => Text.redacted) :=
    Text.delimited_diagnosticOption (Text.delimited_const _)
  have number : Text.Delimited fun n : Nat => toString n := Text.delimited_int.of_part Int.ofNat
  simp only [shownFields, List.forall_mem_cons]
  exact ⟨Text.delimited_diagnostic.of_part _, delimited_providerLabel.of_part _,
    Text.delimited_diagnostic.of_part _, Text.delimited_diagnostic.of_part _,
    (Text.delimited_diagnosticOption Text.delimited_diagnostic).of_part _, hidden.of_part _,
    hidden.of_part _, number.of_part _, number.of_part _, number.of_part _, number.of_part _,
    List.forall_mem_nil _⟩

theorem urls_of_diagnostic (same : c.diagnostic = c'.diagnostic) :
    c.discoveryUrl = c'.discoveryUrl ∧ c.issuer = c'.issuer := by
  rw [diagnostic_eq, Text.recordOf_inj delimited_shownFields] at same
  have url := same ("discovery_url", fun c => Text.diagnostic c.discoveryUrl) (by simp [shownFields])
  have issuer := same ("issuer", fun c => Text.diagnosticOption Text.diagnostic c.issuer)
    (by simp [shownFields])
  exact ⟨Text.diagnostic_inj.1 url, (Text.diagnosticOption_inj Text.diagnostic_inj).1 issuer⟩

theorem Alike.diagnostic_eq_iff (alike : c.Alike vars c') : c.diagnostic = c'.diagnostic ↔
    GivesUrls vars ∨ c.tenantId = c'.tenantId ∧ c.poolId = c'.poolId := by
  constructor
  · intro same
    obtain ⟨url, issuer⟩ := urls_of_diagnostic same
    by_cases given : GivesUrls vars
    · exact .inl given
    · exact .inr (alike.ends.identifiers given url issuer)
  · intro hidden
    have urls : c.discoveryUrl = c'.discoveryUrl ∧ c.issuer = c'.issuer :=
      hidden.elim alike.ends.urls fun ⟨tenants, pools⟩ => alike.ends.derived tenants pools
    have same : { c' with discoveryUrl := c.discoveryUrl, issuer := c.issuer } = c' := by
      rw [urls.1, urls.2]
    have shown := alike.diagnostic_with c.discoveryUrl c.issuer
    rw [same] at shown
    exact shown

/-- What two sets of variables come to that differ in the identifiers only. -/
theorem outcomes_of_agree (agree : a.AgreeBeside b) :
    (∃ f, ofVariables a = .error f ∧ ofVariables b = .error f) ∨
      (∃ c c', ofVariables a = .ok c ∧ ofVariables b = .ok c' ∧ c.Alike a c') ∨
      ∃ p, providerOf a = .ok p ∧ (∀ f, identifierOf p a = .error f → ofVariables a = .error f) ∧
        (∀ f, identifierOf p b = .error f → ofVariables b = .error f) ∧
        ∃ f, identifierOf p a = .error f ∨ identifierOf p b = .error f := by
  -- Both readings go through the same steps until they come to the identifier.
  simp only [ofVariables_eq, ← agree.providerOf, ← agree.require "AUTH_AUD" (by decide),
    ← agree.numbersOf, endpointsOf_eq]
  cases providerOf a with
  | error f => exact .inl ⟨f, rfl, rfl⟩
  | ok p =>
    cases require a "AUTH_AUD" with
    | error f => exact .inl ⟨f, rfl, rfl⟩
    | ok audience =>
      simp only [Except.bind]
      cases here : identifierOf p a with
      | error f =>
        refine .inr (.inr ⟨p, rfl, fun e he => ?_, fun e he => ?_, f, .inl here⟩)
        · rw [here] at he
          rw [Except.error.inj he]
        · rw [he]
      | ok i =>
        cases there : identifierOf p b with
        | error f =>
          refine .inr (.inr ⟨p, rfl, fun e he => ?_, fun e he => ?_, f, .inr there⟩)
          · rw [here] at he
            cases he
          · rw [there] at he
            rw [Except.error.inj he]
        | ok j =>
          obtain ⟨f, first, second⟩ | ⟨ends, ends', first, second, alike⟩ :=
            endpointsAt_alike agree here there
          · simp only [first, second]
            exact .inl ⟨f, rfl, rfl⟩
          · simp only [first, second]
            cases numbersOf a with
            | error f => exact .inl ⟨f, rfl, rfl⟩
            | ok n => exact .inr (.inl ⟨_, _, rfl, rfl, alike_assemble agree alike p audience n⟩)

/-! ## What is shown and what is told -/

def shown? (vars : Variables) : Option String := (ofVariables vars).toOption.map diagnostic

def told? (vars : Variables) : Option String :=
  match ofVariables vars with
  | .ok _ => none
  | .error f => some f.message

/-- What is shown and told of variables and of others that differ from them in tenant or pool. -/
structure Hides (a b : Variables) : Prop where
  /-- Where a URL is derived, renderings give away that the identifiers differ. -/
  shown_iff : ∀ c c', ofVariables a = .ok c → ofVariables b = .ok c' →
    (c.diagnostic = c'.diagnostic ↔ GivesUrls a ∨ c.tenantId = c'.tenantId ∧ c.poolId = c'.poolId)
  /-- Apart from the URLs, nothing differs. -/
  shown_with : ∀ c c', ofVariables a = .ok c → ofVariables b = .ok c' → ∀ url issuer,
    { c with discoveryUrl := url, issuer := issuer }.diagnostic =
      { c' with discoveryUrl := url, issuer := issuer }.diagnostic
  /-- Both identifiers are sound, or both have the same fault. -/
  told : (∀ p f, providerOf a = .ok p → (identifierOf p a = .error f ↔ identifierOf p b = .error f)) →
    ∀ m m', told? a = some m → told? b = some m' → m = m'
  /-- Otherwise the message may be one of those that name the variable of an identifier. -/
  told_apart : ∀ m m', told? a = some m → told? b = some m' →
    m = m' ∨ m ∈ identifierFaults.map ConfigFault.message ∨
      m' ∈ identifierFaults.map ConfigFault.message

theorem told?_eq_some {m : String} (h : told? vars = some m) :
    ∃ f, ofVariables vars = .error f ∧ f.message = m := by
  unfold told? at h
  split at h
  · cases h
  · rename_i f read
    exact ⟨f, read, Option.some.inj h⟩

theorem alike_of_accepted (agree : a.AgreeBeside b) (here : ofVariables a = .ok c)
    (there : ofVariables b = .ok c') : c.Alike a c' := by
  obtain ⟨f, first, -⟩ | ⟨c₁, c₂, first, second, alike⟩ | ⟨p, -, first, second, f, fault | fault⟩ :=
    outcomes_of_agree agree
  · rw [here] at first; cases first
  · rw [here] at first
    rw [there] at second
    rwa [Except.ok.inj first, Except.ok.inj second]
  · rw [first f fault] at here; cases here
  · rw [second f fault] at there; cases there

/-- Two faults are the same, unless one of them is that of an identifier. -/
theorem faults_of_agree {f' : ConfigFault} (agree : a.AgreeBeside b) (here : ofVariables a = .error f)
    (there : ofVariables b = .error f') : f = f' ∨ ∃ p, providerOf a = .ok p ∧
      (∀ e, identifierOf p a = .error e → e = f) ∧ (∀ e, identifierOf p b = .error e → e = f') ∧
      ∃ e, identifierOf p a = .error e ∨ identifierOf p b = .error e := by
  obtain ⟨e, first, second⟩ | ⟨c, c', first, -, -⟩ | ⟨p, named, first, second, fault⟩ :=
    outcomes_of_agree agree
  · exact .inl ((Except.error.inj (here.symm.trans first)).trans
      (Except.error.inj (second.symm.trans there)))
  · rw [here] at first; cases first
  · exact .inr ⟨p, named, fun e faulty => Except.error.inj ((first e faulty).symm.trans here),
      fun e faulty => Except.error.inj ((second e faulty).symm.trans there), fault⟩

theorem hides_of_agree (agree : a.AgreeBeside b) : Hides a b where
  shown_iff c c' here there := (alike_of_accepted agree here there).diagnostic_eq_iff
  shown_with c c' here there := (alike_of_accepted agree here there).diagnostic_with
  told same m m' hm hm' := by
    obtain ⟨f, here, rfl⟩ := told?_eq_some hm
    obtain ⟨f', there, rfl⟩ := told?_eq_some hm'
    obtain rfl | ⟨p, named, first, second, e, fault⟩ := faults_of_agree agree here there
    · rfl
    · have iff := same p e named
      rw [← first e (fault.elim id iff.2), ← second e (fault.elim iff.1 id)]
  told_apart m m' hm hm' := by
    obtain ⟨f, here, rfl⟩ := told?_eq_some hm
    obtain ⟨f', there, rfl⟩ := told?_eq_some hm'
    obtain rfl | ⟨p, named, first, second, e, fault | fault⟩ := faults_of_agree agree here there
    · exact .inl rfl
    · rw [← first e fault]
      exact .inr (.inl (List.mem_map_of_mem (identifierOf_error fault)))
    · rw [← second e fault]
      exact .inr (.inr (List.mem_map_of_mem (identifierOf_error fault)))

/-! ## Two tenants -/

/-- The last value counts, so this sets a variable. -/
theorem agreeBeside_set (vars : Variables) {name : String} (identifier : name ∈ identifierNames)
    (value value' : String) :
    (vars ++ [(name, value)] : Variables).AgreeBeside (vars ++ [(name, value')]) := by
  intro other besides
  have ne : name ≠ other := fun same => besides (same ▸ identifier)
  simp [Variables.get?, ne]

def entraVariables : Variables := [("AUTH_PROVIDER", "entra"), ("AUTH_AUD", "u")]

def cognitoVariables : Variables := [("AUTH_PROVIDER", "cognito"), ("AUTH_AUD", "u")]

def ofTenant (vars : Variables) (tenant : String) : Variables := vars ++ [("AUTH_TENANT_ID", tenant)]

def ofPool (vars : Variables) (pool : String) : Variables := vars ++ [("AUTH_COGNITO_POOL_ID", pool)]

/-- With both URLs given. -/
def givenVariables : Variables :=
  entraVariables ++ [("AUTH_DISCOVERY_URL", "http://d"), ("AUTH_ISSUER", "http://i")]

/-- With the discovery URL alone. -/
def halfGivenVariables : Variables := entraVariables ++ [("AUTH_DISCOVERY_URL", "http://d")]

/-- Given both URLs, a configuration looks the same for any tenant. If one is derived, it does not. -/
theorem tenants_look_alike :
    (∃ c c', ofVariables (ofTenant givenVariables "contoso") = .ok c ∧
      ofVariables (ofTenant givenVariables "fabrikam") = .ok c' ∧ c.diagnostic = c'.diagnostic) ∧
    ∃ c c', ofVariables (ofTenant halfGivenVariables "contoso") = .ok c ∧
      ofVariables (ofTenant halfGivenVariables "fabrikam") = .ok c' ∧ c.diagnostic ≠ c'.diagnostic := by
  have accepted (vars : Variables) (mem : vars ∈ [givenVariables, halfGivenVariables]) (tenant : String)
      (known : tenant ∈ ["contoso", "fabrikam"]) :
      ∃ c, ofVariables (ofTenant vars tenant) = .ok c ∧ c.tenantId = some tenant := by
    have read : ∀ vars ∈ [givenVariables, halfGivenVariables], ∀ tenant ∈ ["contoso", "fabrikam"],
        ((ofVariables (ofTenant vars tenant)).toOption.map (·.tenantId)) = some (some tenant) := by
      decide +kernel
    obtain ⟨c, here, same⟩ := Option.map_eq_some_iff.1 (read vars mem tenant known)
    refine ⟨c, ?_, same⟩
    cases result : ofVariables (ofTenant vars tenant) with
    | error f => rw [result] at here; cases here
    | ok c' => rw [result] at here; rw [Option.some.inj here]
  have hides (vars : Variables) : Hides (ofTenant vars "contoso") (ofTenant vars "fabrikam") :=
    hides_of_agree (agreeBeside_set vars (by decide) "contoso" "fabrikam")
  constructor
  · obtain ⟨c, here, -⟩ := accepted givenVariables (by simp) "contoso" (by simp)
    obtain ⟨c', there, -⟩ := accepted givenVariables (by simp) "fabrikam" (by simp)
    exact ⟨c, c', here, there, ((hides givenVariables).shown_iff c c' here there).2 (.inl (by decide +kernel))⟩
  · obtain ⟨c, here, tenant⟩ := accepted halfGivenVariables (by simp) "contoso" (by simp)
    obtain ⟨c', there, tenant'⟩ := accepted halfGivenVariables (by simp) "fabrikam" (by simp)
    refine ⟨c, c', here, there, fun same => ?_⟩
    obtain given | ⟨tenants, -⟩ := ((hides halfGivenVariables).shown_iff c c' here there).1 same
    · exact absurd given (by decide +kernel)
    · rw [tenant, tenant'] at tenants
      exact absurd tenants (by decide)

/-- URLs that are derived show the identifier, and a blank identifier is reported before later faults. -/
theorem identifiers_show_through :
    ((shown? (ofTenant entraVariables "contoso")).isSome ∧
      (shown? (ofTenant entraVariables "fabrikam")).isSome ∧
      shown? (ofTenant entraVariables "contoso") ≠ shown? (ofTenant entraVariables "fabrikam")) ∧
    ((shown? (ofPool cognitoVariables "eu_a")).isSome ∧
      (shown? (ofPool cognitoVariables "eu_b")).isSome ∧
      shown? (ofPool cognitoVariables "eu_a") ≠ shown? (ofPool cognitoVariables "eu_b")) ∧
    let lenient := entraVariables ++ [("JWT_LEEWAY_SECONDS", "x")]
    ((told? (ofTenant lenient " ")).isSome ∧ (told? (ofTenant lenient "contoso")).isSome ∧
      told? (ofTenant lenient " ") ≠ told? (ofTenant lenient "contoso")) := by
  refine ⟨?_, ?_, ?_⟩ <;> decide +kernel

end Config

end TokenGate
