import TokenGate.Claims.Profile
import TokenGate.Text.Basic

/-!
# Identity providers

Where each provider keeps its discovery document, and which issuer its tokens name.
-/

namespace TokenGate

inductive Provider
  | entra
  | cognito
  | oidc
  deriving DecidableEq, Repr

namespace Provider

def name : Provider → String
  | entra => "entra"
  | cognito => "cognito"
  | oidc => "oidc"

def dialect : Provider → Dialect
  | entra => .entra
  | cognito => .cognito
  | oidc => .oidc

/-- The name may be in any case. -/
def ofName? (s : String) : Option Provider :=
  [entra, cognito, oidc].find? fun p => Text.lowerAscii s.toList = p.name.toList

end Provider

def wellKnownPath : String := ".well-known/openid-configuration"

namespace Oidc

/-- Slashes at the end of the issuer do not count. -/
def discoveryUrl (issuer : String) : String :=
  String.ofList (Text.trimEnd (· == '/') issuer.toList) ++ "/" ++ wellKnownPath

end Oidc

namespace Entra

/-- The version whose URLs do not name it. -/
def plainVersion : String := "v1.0"

/-- The tenant is part of the path, and so is the version, unless it is the plain one. -/
def discoveryUrl (tenant version : String) : String :=
  "https://login.microsoftonline.com/" ++ tenant ++ "/"
    ++ (if version = "" ∨ version = plainVersion then "" else version ++ "/") ++ wellKnownPath

/-- The issuer of tokens of the plain version. It names the tenant. -/
def issuer (tenant : String) : String := "https://sts.windows.net/" ++ tenant ++ "/"

end Entra

namespace Cognito

def issuer (region pool : String) : String :=
  "https://cognito-idp." ++ region ++ ".amazonaws.com/" ++ pool

def discoveryUrl (region pool : String) : String := issuer region pool ++ "/" ++ wellKnownPath

/-- Whatever stands before the first underscore of a pool id, unless nothing does. -/
def regionOfPool? (pool : String) : Option String :=
  match Text.splitOnce '_' pool.toList with
  | some (region, _) => if region = [] then none else some (String.ofList region)
  | none => none

end Cognito

end TokenGate
