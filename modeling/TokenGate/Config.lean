import TokenGate.Provider
import TokenGate.Text.Basic
import TokenGate.Text.Quoted
import TokenGate.Time.Span

/-!
# Service configuration

The service is configured by named texts. Values are read in a fixed order, and the first fault is
reported.
-/

namespace TokenGate

/-- Named texts. The last value of a name counts. -/
abbrev Variables := List (String × String)

namespace Variables

def get? (vars : Variables) (name : String) : Option String :=
  vars.foldl (fun found v => if v.1 = name then some v.2 else found) none

/-- A value without the blanks around it. One of blanks only counts as absent. -/
def filled? (vars : Variables) (name : String) : Option String :=
  ((vars.get? name).map Text.stripBlanks).filter (· ≠ "")

end Variables

/-- The first fault of a configuration, with what was given and the number that was expected. -/
inductive ConfigFault
  | missing (name : String)
  | provider (given : String)
  | leewayText (given : String) (fault : Text.NumberFault)
  | leewayTooLong (seconds : Nat)
  | intervalText (name given : String) (fault : Text.NumberFault)
  | intervalZero (name : String)
  | poolId
  | drainText (given : String) (fault : Text.NumberFault)
  deriving DecidableEq, Repr

def standardLeewaySeconds : Nat := 10

def maxLeewaySeconds : Nat := 600

def standardFloorSeconds : Nat := 60

namespace ConfigFault

/-- The text names the variable and what it was set to, except for a pool, whose id is confidential. -/
def message : ConfigFault → String
  | missing name => "Missing required environment variable: " ++ name
  | provider given =>
    "Invalid provider configuration: AUTH_PROVIDER must be one of entra, cognito, oidc, got '"
      ++ given ++ "'"
  | leewayText given fault =>
    "Invalid JWT leeway configuration: JWT_LEEWAY_SECONDS must be a valid non-negative integer, got '"
      ++ given ++ "': " ++ fault.message
  | leewayTooLong seconds =>
    "Invalid JWT leeway configuration: JWT_LEEWAY_SECONDS must not exceed "
      ++ toString maxLeewaySeconds ++ " seconds, got " ++ toString seconds
  | intervalText name given fault =>
    "Invalid JWKS refresh configuration: " ++ name ++ " must be a valid positive integer, got '"
      ++ given ++ "': " ++ fault.message
  | intervalZero name => "Invalid JWKS refresh configuration: " ++ name ++ " must be greater than 0"
  | poolId =>
    "Invalid Cognito pool configuration: AUTH_COGNITO_POOL_ID must look like '<region>_<id>'"
  | drainText given fault =>
    "Invalid drain period configuration: DRAIN_SECONDS must be a valid non-negative integer, got '"
      ++ given ++ "': " ++ fault.message

end ConfigFault

/-- What the service is started with. Only the audience and one way to find the issuer are required. -/
structure Config where
  bindAddress : String
  provider : Provider
  audience : String
  discoveryUrl : String
  /-- The issuer to expect. When absent, the discovery document names it. -/
  issuer : Option String
  tenantId : Option String
  poolId : Option String
  leewaySeconds : Nat
  floorSeconds : Nat
  refreshPeriodSeconds : Nat
  drainSeconds : Nat
  deriving DecidableEq, Repr

namespace Config

/-- What the provider's own variables say. -/
structure Endpoints where
  discoveryUrl : String
  issuer : Option String
  tenantId : Option String
  poolId : Option String

/-- A variable that must be there and must not be blank. -/
def require (vars : Variables) (name : String) : Except ConfigFault String :=
  match vars.filled? name with
  | some value => .ok value
  | none => .error (.missing name)

/-- Without a word on the provider, any issuer with a discovery document will do. -/
def providerOf (vars : Variables) : Except ConfigFault Provider :=
  match vars.get? "AUTH_PROVIDER" with
  | none => .ok .oidc
  | some given =>
    match Provider.ofName? given with
    | some p => .ok p
    | none => .error (.provider given)

/-- A tenant is required even where both URLs are given. -/
def entraEndpoints (vars : Variables) : Except ConfigFault Endpoints := do
  let tenant ← require vars "AUTH_TENANT_ID"
  let version := (vars.filled? "AUTH_ENTRA_VERSION").getD Entra.plainVersion
  return {
    discoveryUrl := (vars.filled? "AUTH_DISCOVERY_URL").getD (Entra.discoveryUrl tenant version)
    issuer := some ((vars.filled? "AUTH_ISSUER").getD (Entra.issuer tenant))
    tenantId := some tenant
    poolId := none }

/-- The region may be left out, since pool ids start with it. -/
def regionOf (vars : Variables) (pool : String) : Except ConfigFault String :=
  match vars.filled? "AUTH_COGNITO_REGION" with
  | some region => .ok region
  | none =>
    match Cognito.regionOfPool? pool with
    | some region => .ok region
    | none => .error .poolId

/-- A pool is required even where both URLs are given, and so is its region. -/
def cognitoEndpoints (vars : Variables) : Except ConfigFault Endpoints := do
  let pool ← require vars "AUTH_COGNITO_POOL_ID"
  let region ← regionOf vars pool
  return {
    discoveryUrl := (vars.filled? "AUTH_DISCOVERY_URL").getD (Cognito.discoveryUrl region pool)
    issuer := some ((vars.filled? "AUTH_ISSUER").getD (Cognito.issuer region pool))
    tenantId := none
    poolId := some pool }

/-- An issuer is enough, since its discovery document has a well-known place. -/
def oidcEndpoints (vars : Variables) : Except ConfigFault Endpoints :=
  let issuer := vars.filled? "AUTH_ISSUER"
  match (vars.filled? "AUTH_DISCOVERY_URL").or (issuer.map Oidc.discoveryUrl) with
  | some discoveryUrl => .ok { discoveryUrl, issuer, tenantId := none, poolId := none }
  | none => .error (.missing "AUTH_DISCOVERY_URL")

def endpointsOf (p : Provider) (vars : Variables) : Except ConfigFault Endpoints :=
  match p with
  | .entra => entraEndpoints vars
  | .cognito => cognitoEndpoints vars
  | .oidc => oidcEndpoints vars

/-- A number of seconds, of 64 bits. Blanks around it are a fault. -/
def secondsOr (vars : Variables) (name : String) (standard : Nat)
    (fault : String → Text.NumberFault → ConfigFault) : Except ConfigFault Nat :=
  match vars.get? name with
  | none => .ok standard
  | some given => (Text.readNatBelow Text.wordLimit given.toList).mapError (fault given)

/-- A leeway may be zero, and has an upper bound. -/
def leewayOf (vars : Variables) : Except ConfigFault Nat := do
  let n ← secondsOr vars "JWT_LEEWAY_SECONDS" standardLeewaySeconds .leewayText
  if maxLeewaySeconds < n then throw (.leewayTooLong n) else return n

/-- An interval may not be zero, and has no upper bound. -/
def intervalOf (vars : Variables) (name : String) (standard : Nat) : Except ConfigFault Nat := do
  let n ← secondsOr vars name standard (.intervalText name)
  if n = 0 then throw (.intervalZero name) else return n

/-- Reads all variables in order. The order settles which of several faults is reported. -/
def ofVariables (vars : Variables) : Except ConfigFault Config := do
  let provider ← providerOf vars
  let audience ← require vars "AUTH_AUD"
  let endpoints ← endpointsOf provider vars
  let leewaySeconds ← leewayOf vars
  let floorSeconds ← intervalOf vars "JWKS_MIN_REFRESH_SECONDS" standardFloorSeconds
  let refreshPeriodSeconds ← intervalOf vars "JWKS_BACKGROUND_REFRESH_SECONDS" 300
  let drainSeconds ← secondsOr vars "DRAIN_SECONDS" 5 .drainText
  return {
    bindAddress := (vars.get? "BIND_ADDRESS").getD "0.0.0.0:8080"
    provider
    audience
    discoveryUrl := endpoints.discoveryUrl
    issuer := endpoints.issuer
    tenantId := endpoints.tenantId
    poolId := endpoints.poolId
    leewaySeconds
    floorSeconds
    refreshPeriodSeconds
    drainSeconds }

def leeway (c : Config) : Span := .ofSeconds c.leewaySeconds

def floor (c : Config) : Span := .ofSeconds c.floorSeconds

def refreshPeriod (c : Config) : Span := .ofSeconds c.refreshPeriodSeconds

def drainPeriod (c : Config) : Span := .ofSeconds c.drainSeconds

def providerLabel : Provider → String
  | .entra => "Entra"
  | .cognito => "Cognito"
  | .oidc => "Oidc"

/-- The fields that hold tenant and pool are not shown. -/
def diagnostic (c : Config) : String :=
  let hidden (s? : Option String) := Text.diagnosticOption (fun _ => Text.redacted) s?
  Text.diagnosticRecord "Config"
    [("bind_address", Text.diagnostic c.bindAddress), ("provider", providerLabel c.provider),
      ("audience", Text.diagnostic c.audience), ("discovery_url", Text.diagnostic c.discoveryUrl),
      ("issuer", Text.diagnosticOption Text.diagnostic c.issuer), ("tenant_id", hidden c.tenantId),
      ("cognito_pool_id", hidden c.poolId), ("leeway_seconds", toString c.leewaySeconds),
      ("jwks_min_refresh_seconds", toString c.floorSeconds),
      ("jwks_background_refresh_seconds", toString c.refreshPeriodSeconds),
      ("drain_seconds", toString c.drainSeconds)]

end Config

end TokenGate
