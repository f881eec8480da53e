import TokenGate.Proofs.Text.Diagnostic
import TokenGate.Validator

/-!
# What claims show of the caller

Of whom a token speaks of, a rendering of its claims gives away which of the optional members are there,
and no more. Everything else in the claims can be told from it.
-/

namespace TokenGate

open Text

/-! ## Claims that differ in the caller only -/

@[mk_iff]
structure Registered.SameBesideCaller (c c' : Registered) : Prop where
  rest : { c with subject := c'.subject } = c'

@[mk_iff]
structure OidcProfile.SameBesideCaller (p p' : OidcProfile) : Prop where
  email : p.email.isSome = p'.email.isSome
  name : p.name.isSome = p'.name.isSome
  rest : { p with email := p'.email, name := p'.name } = p'

@[mk_iff]
structure EntraProfile.SameBesideCaller (p p' : EntraProfile) : Prop where
  email : p.email.isSome = p'.email.isSome
  signInName : p.signInName.isSome = p'.signInName.isSome
  name : p.name.isSome = p'.name.isSome
  objectId : p.objectId.isSome = p'.objectId.isSome
  rest : { p with
    email := p'.email
    signInName := p'.signInName
    name := p'.name
    objectId := p'.objectId } = p'

@[mk_iff]
structure CognitoProfile.SameBesideCaller (p p' : CognitoProfile) : Prop where
  email : p.email.isSome = p'.email.isSome
  name : p.name.isSome = p'.name.isSome
  username : p.username.isSome = p'.username.isSome
  rest : { p with email := p'.email, name := p'.name, username := p'.username } = p'

inductive Profile.SameBesideCaller : Profile → Profile → Prop
  | oidc {p p' : OidcProfile} (same : p.SameBesideCaller p') : SameBesideCaller (.oidc p) (.oidc p')
  | entra {p p' : EntraProfile} (same : p.SameBesideCaller p') : SameBesideCaller (.entra p) (.entra p')
  | cognito {p p' : CognitoProfile} (same : p.SameBesideCaller p') :
      SameBesideCaller (.cognito p) (.cognito p')
  | minimal : SameBesideCaller .minimal .minimal

/-- All members are the same, but for the contents of those that say who the caller is. -/
structure Claims.SameBesideCaller (c c' : Claims) : Prop where
  profile : c.profile.SameBesideCaller c'.profile
  registered : c.registered.SameBesideCaller c'.registered

/-! ## Registered claims -/

theorem Audience.delimited_diagnostic : Delimited Audience.diagnostic := by
  have one (name : String) : (Audience.one name).diagnostic.toList =
      ['S', 'i', 'n', 'g', 'l', 'e', '('] ++ ((Text.diagnostic name).toList ++ [')']) := by
    simp [Audience.diagnostic]
  have many (names : List String) : (Audience.many names).diagnostic.toList =
      ['M', 'u', 'l', 't', 'i', 'p', 'l', 'e', '('] ++
        ((diagnosticList Text.diagnostic names).toList ++ [')']) := by
    simp [Audience.diagnostic]
  intro a b
  cases a with
  | one name =>
    cases b with
    | one name' =>
      rw [one, one]
      exact ((Text.delimited_diagnostic name name').closed rfl []).behind _
    | many names' =>
      rw [one, many]
      exact .of_first (by decide)
  | many names =>
    cases b with
    | one name' =>
      rw [many, one]
      exact .of_first (by decide)
    | many names' =>
      rw [many, many]
      exact ((delimited_diagnosticList names names').closed rfl []).behind _

theorem Audience.diagnostic_inj {a b : Audience} : a.diagnostic = b.diagnostic ↔ a = b := by
  refine ⟨fun same => ?_, fun same => same ▸ rfl⟩
  have chars := congrArg String.toList same
  cases a <;> cases b <;>
    simp [Audience.diagnostic, String.toList_inj, Text.diagnostic_inj, diagnosticList_inj] at chars ⊢ <;>
    exact chars

namespace Registered

def date (s : Stamp) : String := toString s.seconds

theorem delimited_date : Delimited date := delimited_int.of_part Stamp.seconds

theorem date_inj {s t : Stamp} : date s = date t ↔ s = t :=
  toString_int_inj.trans ⟨Stamp.ext, congrArg Stamp.seconds⟩

def fields : List (Shown Registered) :=
  [("iss", fun c => Text.diagnostic c.issuer), ("sub", fun _ => redacted),
    ("aud", fun c => c.audience.diagnostic), ("exp", fun c => date c.times.expiry),
    ("nbf", fun c => diagnosticOption date c.times.notBefore),
    ("iat", fun c => diagnosticOption date c.times.issuedAt),
    ("jti", fun c => diagnosticOption Text.diagnostic c.tokenId)]

theorem diagnostic_eq : diagnostic = recordOf "RegisteredClaims" fields := rfl

theorem delimited_fields : ∀ f ∈ fields, Delimited f.2 := by
  have date? := delimited_diagnosticOption delimited_date
  have text? := delimited_diagnosticOption Text.delimited_diagnostic
  simp only [fields, List.forall_mem_cons]
  exact ⟨Text.delimited_diagnostic.of_part _, delimited_const _, Audience.delimited_diagnostic.of_part _,
    delimited_date.of_part _, date?.of_part _, date?.of_part _, text?.of_part _, List.forall_mem_nil _⟩

theorem delimited_diagnostic : Delimited diagnostic := by
  rw [diagnostic_eq]
  exact delimited_recordOf delimited_fields

theorem diagnostic_eq_iff {c c' : Registered} : c.diagnostic = c'.diagnostic ↔ c.SameBesideCaller c' := by
  rw [diagnostic_eq, recordOf_inj delimited_fields, sameBesideCaller_iff]
  obtain ⟨_, _, _, ⟨_, _, _⟩, _⟩ := c
  obtain ⟨_, _, _, ⟨_, _, _⟩, _⟩ := c'
  simp [fields, Text.diagnostic_inj, Audience.diagnostic_inj, date_inj, diagnosticOption_inj date_inj,
    diagnosticOption_inj Text.diagnostic_inj, and_assoc]

end Registered

/-! ## Profiles -/

namespace Profile

theorem delimited_hidden : Delimited hidden := delimited_diagnosticOption (delimited_const redacted)

theorem delimited_shown : Delimited shown := delimited_diagnosticOption Text.delimited_diagnostic

theorem hidden_eq_iff {s t : Option String} : hidden s = hidden t ↔ s.isSome = t.isSome := by
  cases s <;> cases t <;> simp [hidden, diagnosticOption] <;> decide

theorem shown_inj {s t : Option String} : shown s = shown t ↔ s = t :=
  diagnosticOption_inj Text.diagnostic_inj

end Profile

def OidcProfile.fields : List (Shown OidcProfile) :=
  [("email", fun p => Profile.hidden p.email), ("name", fun p => Profile.hidden p.name),
    ("roles", fun p => diagnosticList Text.diagnostic p.roles)]

def EntraProfile.fields : List (Shown EntraProfile) :=
  [("email", fun p => Profile.hidden p.email), ("upn", fun p => Profile.hidden p.signInName),
    ("name", fun p => Profile.hidden p.name), ("oid", fun p => Profile.hidden p.objectId),
    ("tid", fun p => Profile.shown p.tenantId), ("roles", fun p => diagnosticList Text.diagnostic p.roles)]

def CognitoProfile.fields : List (Shown CognitoProfile) :=
  [("email", fun p => Profile.hidden p.email), ("name", fun p => Profile.hidden p.name),
    ("username", fun p => Profile.hidden p.username),
    ("groups", fun p => diagnosticList Text.diagnostic p.groups),
    ("token_use", fun p => Profile.shown p.tokenUse), ("client_id", fun p => Profile.shown p.clientId)]

theorem OidcProfile.delimited_fields : ∀ f ∈ OidcProfile.fields, Delimited f.2 := by
  simp only [fields, List.forall_mem_cons]
  exact ⟨Profile.delimited_hidden.of_part _, Profile.delimited_hidden.of_part _,
    delimited_diagnosticList.of_part _, List.forall_mem_nil _⟩

theorem EntraProfile.delimited_fields : ∀ f ∈ EntraProfile.fields, Delimited f.2 := by
  simp only [fields, List.forall_mem_cons]
  exact ⟨Profile.delimited_hidden.of_part _, Profile.delimited_hidden.of_part _,
    Profile.delimited_hidden.of_part _, Profile.delimited_hidden.of_part _,
    Profile.delimited_shown.of_part _, delimited_diagnosticList.of_part _, List.forall_mem_nil _⟩

theorem CognitoProfile.delimited_fields : ∀ f ∈ CognitoProfile.fields, Delimited f.2 := by
  simp only [fields, List.forall_mem_cons]
  exact ⟨Profile.delimited_hidden.of_part _, Profile.delimited_hidden.of_part _,
    Profile.delimited_hidden.of_part _, delimited_diagnosticList.of_part _,
    Profile.delimited_shown.of_part _, Profile.delimited_shown.of_part _, List.forall_mem_nil _⟩

theorem OidcProfile.fields_eq_iff {p p' : OidcProfile} :
    (∀ f ∈ fields, f.2 p = f.2 p') ↔ p.SameBesideCaller p' := by
  rw [sameBesideCaller_iff]
  cases p
  cases p'
  simp [fields, Profile.hidden_eq_iff, diagnosticList_inj]

theorem EntraProfile.fields_eq_iff {p p' : EntraProfile} :
    (∀ f ∈ fields, f.2 p = f.2 p') ↔ p.SameBesideCaller p' := by
  rw [sameBesideCaller_iff]
  cases p
  cases p'
  simp [fields, Profile.hidden_eq_iff, Profile.shown_inj, diagnosticList_inj]

theorem CognitoProfile.fields_eq_iff {p p' : CognitoProfile} :
    (∀ f ∈ fields, f.2 p = f.2 p') ↔ p.SameBesideCaller p' := by
  rw [sameBesideCaller_iff]
  cases p
  cases p'
  simp [fields, Profile.hidden_eq_iff, Profile.shown_inj, diagnosticList_inj]

/-- Fields of a profile, with the registered claims after them. -/
def Claims.fields {α : Type} (fields : List (Shown α)) : List (Shown (α × Registered)) :=
  fields.map (fun f => (f.1, fun c => f.2 c.1)) ++ [("registered", fun c => c.2.diagnostic)]

/-! ## Claims -/

namespace Claims

section Fields

variable {α : Type} {shown : List (Shown α)} {name : String}

theorem delimited_fields (delimited : ∀ f ∈ shown, Delimited f.2) : ∀ f ∈ fields shown, Delimited f.2 := by
  simp only [fields, List.forall_mem_append, List.forall_mem_map, List.forall_mem_singleton]
  exact ⟨fun f mem => (delimited f mem).of_part _, Registered.delimited_diagnostic.of_part _⟩

theorem recordOf_fields_inj (delimited : ∀ f ∈ shown, Delimited f.2) {a a' : α} {r r' : Registered} :
    recordOf name (fields shown) (a, r) = recordOf name (fields shown) (a', r') ↔
      (∀ f ∈ shown, f.2 a = f.2 a') ∧ r.SameBesideCaller r' := by
  rw [recordOf_inj (delimited_fields delimited)]
  simp only [fields, List.forall_mem_append, List.forall_mem_map, List.forall_mem_singleton,
    Registered.diagnostic_eq_iff]

end Fields

theorem diagnostic_oidc (r : Registered) (p : OidcProfile) : diagnostic ⟨r, .oidc p⟩ =
    recordOf "OidcClaims" (fields OidcProfile.fields) (p, r) := rfl

theorem diagnostic_entra (r : Registered) (p : EntraProfile) : diagnostic ⟨r, .entra p⟩ =
    recordOf "EntraClaims" (fields EntraProfile.fields) (p, r) := rfl

theorem diagnostic_cognito (r : Registered) (p : CognitoProfile) : diagnostic ⟨r, .cognito p⟩ =
    recordOf "CognitoClaims" (fields CognitoProfile.fields) (p, r) := rfl

theorem diagnostic_minimal (r : Registered) : diagnostic ⟨r, .minimal⟩ =
    recordOf "MinimalClaims" (fields ([] : List (Shown Unit))) ((), r) := rfl

/-- The first letter of a rendering. -/
def initial : Dialect → Char
  | .oidc => 'O'
  | .entra => 'E'
  | .cognito => 'C'
  | .minimal => 'M'

theorem initial_inj {d d' : Dialect} (same : initial d = initial d') : d = d' := by
  cases d <;> cases d' <;> first | rfl | exact absurd same (by decide)

theorem exists_toList_diagnostic (c : Claims) : ∃ r, c.diagnostic.toList = initial c.dialect :: r := by
  obtain ⟨r, p⟩ := c
  cases p <;> simp [diagnostic, Profile.diagnosticParts, diagnosticRecord, dialect, Profile.dialect, initial]

theorem dialect_eq {c c' : Claims} {r r' : List Char}
    (same : c.diagnostic.toList ++ r = c'.diagnostic.toList ++ r') : c.dialect = c'.dialect := by
  obtain ⟨s, hs⟩ := exists_toList_diagnostic c
  obtain ⟨s', hs'⟩ := exists_toList_diagnostic c'
  rw [hs, hs'] at same
  exact initial_inj (List.cons.inj same).1

theorem SameBesideCaller.dialect_eq {c c' : Claims} (same : c.SameBesideCaller c') :
    c.dialect = c'.dialect := by
  obtain ⟨r, p⟩ := c
  obtain ⟨r', p'⟩ := c'
  cases same.profile <;> rfl

variable {c c' : Claims}

theorem apart_diagnostic (akin : c.dialect = c'.dialect) :
    Apart c.diagnostic.toList c'.diagnostic.toList := by
  obtain ⟨r, p⟩ := c
  obtain ⟨r', p'⟩ := c'
  match p, p', akin with
  | .oidc p, .oidc p', _ =>
    rw [diagnostic_oidc, diagnostic_oidc]
    exact delimited_recordOf (delimited_fields OidcProfile.delimited_fields) _ _
  | .entra p, .entra p', _ =>
    rw [diagnostic_entra, diagnostic_entra]
    exact delimited_recordOf (delimited_fields EntraProfile.delimited_fields) _ _
  | .cognito p, .cognito p', _ =>
    rw [diagnostic_cognito, diagnostic_cognito]
    exact delimited_recordOf (delimited_fields CognitoProfile.delimited_fields) _ _
  | .minimal, .minimal, _ =>
    rw [diagnostic_minimal, diagnostic_minimal]
    exact delimited_recordOf (delimited_fields (List.forall_mem_nil _)) _ _

theorem delimited_diagnostic : Delimited diagnostic :=
  fun _ _ _ _ stops stops' same => apart_diagnostic (dialect_eq same) stops stops' same

theorem diagnostic_eq_iff_of_dialect (akin : c.dialect = c'.dialect) :
    c.diagnostic = c'.diagnostic ↔ c.SameBesideCaller c' := by
  obtain ⟨r, p⟩ := c
  obtain ⟨r', p'⟩ := c'
  match p, p', akin with
  | .oidc p, .oidc p', _ =>
    rw [diagnostic_oidc, diagnostic_oidc, recordOf_fields_inj OidcProfile.delimited_fields,
      OidcProfile.fields_eq_iff]
    exact ⟨fun h => ⟨.oidc h.1, h.2⟩, fun ⟨.oidc profile, registered⟩ => ⟨profile, registered⟩⟩
  | .entra p, .entra p', _ =>
    rw [diagnostic_entra, diagnostic_entra, recordOf_fields_inj EntraProfile.delimited_fields,
      EntraProfile.fields_eq_iff]
    exact ⟨fun h => ⟨.entra h.1, h.2⟩, fun ⟨.entra profile, registered⟩ => ⟨profile, registered⟩⟩
  | .cognito p, .cognito p', _ =>
    rw [diagnostic_cognito, diagnostic_cognito, recordOf_fields_inj CognitoProfile.delimited_fields,
      CognitoProfile.fields_eq_iff]
    exact ⟨fun h => ⟨.cognito h.1, h.2⟩, fun ⟨.cognito profile, registered⟩ => ⟨profile, registered⟩⟩
  | .minimal, .minimal, _ =>
    rw [diagnostic_minimal, diagnostic_minimal, recordOf_fields_inj (List.forall_mem_nil _)]
    exact ⟨fun h => ⟨.minimal, h.2⟩, fun h => ⟨List.forall_mem_nil _, h.registered⟩⟩

theorem diagnostic_eq_iff : c.diagnostic = c'.diagnostic ↔ c.SameBesideCaller c' := by
  constructor
  · intro same
    have whole : c.diagnostic.toList ++ [] = c'.diagnostic.toList ++ [] := by rw [same]
    exact (diagnostic_eq_iff_of_dialect (dialect_eq whole)).1 same
  · intro same
    exact (diagnostic_eq_iff_of_dialect same.dialect_eq).2 same

end Claims

/-! ## Validated tokens -/

theorem Algorithm.length_name (a : Algorithm) : a.name.toList.length = 5 := by
  rcases a with d | d | d | _ | _ | _ <;> first | cases d <;> rfl | rfl

namespace ValidatedToken

def fields : List (Shown ValidatedToken) :=
  [("claims", fun t => t.claims.diagnostic), ("key_id", fun t => Text.diagnostic t.keyId),
    ("algorithm", fun t => t.algorithm.name),
    ("signature_verified", fun t => if t.isVerified then "true" else "false")]

theorem diagnostic_eq : diagnostic = recordOf "ValidatedToken" fields := rfl

theorem delimited_name : Delimited Algorithm.name := fun a b _ _ _ _ same =>
  List.append_inj_left same (a.length_name.trans b.length_name.symm)

theorem delimited_fields : ∀ f ∈ fields, Delimited f.2 := by
  simp only [fields, List.forall_mem_cons]
  exact ⟨Claims.delimited_diagnostic.of_part _, Text.delimited_diagnostic.of_part _,
    delimited_name.of_part _, delimited_const _, List.forall_mem_nil _⟩

theorem diagnostic_eq_iff {t t' : ValidatedToken} : t.diagnostic = t'.diagnostic ↔
    t.claims.SameBesideCaller t'.claims ∧ t.keyId = t'.keyId ∧ t.algorithm = t'.algorithm := by
  have name : t.algorithm.name = t'.algorithm.name ↔ t.algorithm = t'.algorithm :=
    ⟨Algorithm.name_injective, congrArg Algorithm.name⟩
  rw [diagnostic_eq, recordOf_inj delimited_fields]
  simp [fields, Claims.diagnostic_eq_iff, Text.diagnostic_inj, name, isVerified]

end ValidatedToken

/-- The rendering of claims, or of a token, is the same for another caller. All else can be told from it. -/
theorem Claims.diagnostics_hide_caller :
    (∀ c c' : Claims, c.diagnostic = c'.diagnostic ↔ c.SameBesideCaller c') ∧
    ∀ t t' : ValidatedToken, t.diagnostic = t'.diagnostic ↔
      t.claims.SameBesideCaller t'.claims ∧ t.keyId = t'.keyId ∧ t.algorithm = t'.algorithm :=
  ⟨fun _ _ => diagnostic_eq_iff, fun _ _ => ValidatedToken.diagnostic_eq_iff⟩

namespace Claims

/-! ## Two callers of one tenant -/

def callerOf (subject objectId email : String) : Claims where
  registered := { (default : Registered) with issuer := "i", subject }
  profile := .entra ⟨some email, none, none, some objectId, some "t", ["r"]⟩

theorem callers_look_alike :
    callerOf "s" "o" "a@b" ≠ callerOf "u" "p" "c@d" ∧
    (callerOf "s" "o" "a@b").diagnostic = (callerOf "u" "p" "c@d").diagnostic ∧
    (⟨callerOf "s" "o" "a@b", "k", .rsaPkcs1 .sha256⟩ : ValidatedToken).diagnostic =
      (⟨callerOf "u" "p" "c@d", "k", .rsaPkcs1 .sha256⟩ : ValidatedToken).diagnostic := by
  obtain ⟨claims, tokens⟩ := diagnostics_hide_caller
  have same : (callerOf "s" "o" "a@b").SameBesideCaller (callerOf "u" "p" "c@d") :=
    ⟨.entra ⟨rfl, rfl, rfl, rfl, rfl⟩, ⟨rfl⟩⟩
  exact ⟨by decide, (claims _ _).2 same, (tokens _ _).2 ⟨same, rfl, rfl⟩⟩

end Claims

end TokenGate
