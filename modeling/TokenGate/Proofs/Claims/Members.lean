import Mathlib.Data.Rat.Floor
import TokenGate.Claims.Basic
import TokenGate.Claims.Registered
import TokenGate.Proofs.Json.Lookup
import TokenGate.Proofs.Readers
import TokenGate.Proofs.Token.Reading

/-!
# The members that claims are read from

Each claim is read from one member, by a reader that knows what an absent member and a null stand for.
What a record holds beside these members is never looked at.
-/

/-!
## The date that a number stands for

A number is read as the whole second at or before it, and only where a stamp can hold that second.
-/

namespace TokenGate

def Binary64.value (x : Binary64) : ℚ := x.scaled / unitsPerOne

/-- What a number is worth, exactly. -/
def Number.value : Number → ℚ
  | .int n => n
  | .real x => x.value

theorem Binary64.floor_eq (x : Binary64) : x.floor = ⌊x.value⌋ :=
  (Rat.floor_intCast_div_natCast x.scaled unitsPerOne).symm

theorem Stamp.isSome_ofInt? {n : Int} :
    (ofInt? n).isSome ↔ -9223372036854775808 ≤ n ∧ n < 9223372036854775808 := by
  unfold ofInt?
  split <;> simp_all

namespace NumericDate

theorem ofNumber?_eq_ofInt? (n : Number) : ofNumber? n = Stamp.ofInt? ⌊n.value⌋ := by
  cases n with
  | int n => rw [ofNumber?, Number.value, Int.floor_intCast]
  | real x => rw [ofNumber?, Binary64.floor_eq, Number.value]

theorem isSome_ofNumber? {n : Number} :
    (ofNumber? n).isSome ↔ -9223372036854775808 ≤ n.value ∧ n.value < 9223372036854775808 := by
  rw [ofNumber?_eq_ofInt?, Stamp.isSome_ofInt?, Int.le_floor, Int.floor_lt]
  norm_cast

end NumericDate

/-! ## Readers of one member -/

namespace Json

def IsText (v : Json) : Prop := ∃ s, v = .text s

def AreTexts (v : Json) : Prop := ∃ ss, v = .ofTexts ss

/-- A number of seconds in the range of stamps. -/
def IsDate (v : Json) : Prop :=
  ∃ n, v = .number n ∧ -9223372036854775808 ≤ n.value ∧ n.value < 9223372036854775808

theorem texts?_eq_some_iff {v : Json} {ss : List String} : v.texts? = some ss ↔ v = .ofTexts ss := by
  refine ⟨fun h => ?_, fun h => h ▸ texts?_ofTexts ss⟩
  obtain ⟨items, hitems, hread⟩ := Option.bind_eq_some_iff.mp h
  obtain rfl : v = .list items := by
    cases v with
    | list items' =>
      obtain rfl : items' = items := Option.some.inj hitems
      rfl
    | _ => simp [list?] at hitems
  simp only [mapM_eq_some_iff, text?_eq_some_iff] at hread
  have hsame : items.map id = ss.map text := forall₂_eq_iff_map.mp hread
  rw [List.map_id] at hsame
  rw [hsame, ofTexts]

theorem isSome_text? {v : Json} : v.text?.isSome ↔ v.IsText := by
  simp [Option.isSome_iff_exists, text?_eq_some_iff, IsText]

theorem isSome_texts? {v : Json} : v.texts?.isSome ↔ v.AreTexts := by
  simp [Option.isSome_iff_exists, texts?_eq_some_iff, AreTexts]

theorem isSome_optional {α : Type} {read : Json → Option α} {v? : Option Json} :
    (optional read v?).isSome ↔ ∀ v ∈ v?, v = .null ∨ (read v).isSome := by
  cases v? with
  | none => simp [optional]
  | some v => cases v <;> simp [optional]

theorem optional_text?_eq_some_iff {v? : Option Json} {s : String} :
    optional text? v? = some (some s) ↔ v? = some (.text s) := by
  cases v? with
  | none => simp [optional]
  | some v => cases v <;> simp [optional, text?]

end Json

open Json

theorem NumericDate.isSome_ofJson? {v : Json} : (NumericDate.ofJson? v).isSome ↔ v.IsDate := by
  cases v with
  | number n => simp [NumericDate.ofJson?, NumericDate.isSome_ofNumber?, IsDate]
  | _ => simp [NumericDate.ofJson?, IsDate]

theorem Audience.ofJson?_eq_some_iff {v : Json} {a : Audience} : Audience.ofJson? v = some a ↔
    (∃ s, v = .text s ∧ a = .one s) ∨ ∃ ss, v = .ofTexts ss ∧ a = .many ss := by
  cases v with
  | text s => simp [Audience.ofJson?, ofTexts, @eq_comm _ a]
  | _ => simp [Audience.ofJson?, texts?_eq_some_iff, @eq_comm _ a]

theorem Audience.isSome_ofJson? {v : Json} :
    (Audience.ofJson? v).isSome ↔ v.IsText ∨ v.AreTexts := by
  simp [Option.isSome_iff_exists, Audience.ofJson?_eq_some_iff, IsText, AreTexts, exists_or]

/-! ## Registered claims -/

namespace Registered

/-- The names of the registered claims. -/
def names : List String := ["iss", "sub", "aud", "exp", "nbf", "iat", "jti"]

def audienceOrEmpty (v? : Option Json) : Option Audience :=
  match v? with
  | none => some default
  | some v => Audience.ofJson? v

/-- Each claim is what its member says. -/
structure ReadFrom (members : List (String × Json)) (c : Registered) : Prop where
  issuer : textOrEmpty (lookup "iss" members) = some c.issuer
  subject : textOrEmpty (lookup "sub" members) = some c.subject
  audience : audienceOrEmpty (lookup "aud" members) = some c.audience
  expiry : (lookup "exp" members).bind NumericDate.ofJson? = some c.times.expiry
  notBefore : optional NumericDate.ofJson? (lookup "nbf" members) = some c.times.notBefore
  issuedAt : optional NumericDate.ofJson? (lookup "iat" members) = some c.times.issuedAt
  tokenId : optional text? (lookup "jti" members) = some c.tokenId

theorem ofMembers?_eq (members : List (String × Json)) : ofMembers? members = (do
    let issuer ← textOrEmpty (lookup "iss" members)
    let subject ← textOrEmpty (lookup "sub" members)
    let audience ← audienceOrEmpty (lookup "aud" members)
    let expiry ← (lookup "exp" members).bind NumericDate.ofJson?
    let notBefore ← optional NumericDate.ofJson? (lookup "nbf" members)
    let issuedAt ← optional NumericDate.ofJson? (lookup "iat" members)
    let tokenId ← optional text? (lookup "jti" members)
    some { issuer, subject, audience, times := { expiry, notBefore, issuedAt }, tokenId }) := by
  simp only [ofMembers?, audienceOrEmpty, Option.bind_eq_bind, Option.bind_assoc]
  cases lookup "aud" members <;> rfl

theorem ofMembers?_eq_some_iff {members : List (String × Json)} {c : Registered} :
    ofMembers? members = some c ↔ c.ReadFrom members := by
  rw [ofMembers?_eq]
  constructor
  · intro h
    -- one member after the other, in the order of the fields
    obtain ⟨_, hissuer, h⟩ := Option.bind_eq_some_iff.mp h
    obtain ⟨_, hsubject, h⟩ := Option.bind_eq_some_iff.mp h
    obtain ⟨_, haudience, h⟩ := Option.bind_eq_some_iff.mp h
    obtain ⟨_, hexpiry, h⟩ := Option.bind_eq_some_iff.mp h
    obtain ⟨_, hnotBefore, h⟩ := Option.bind_eq_some_iff.mp h
    obtain ⟨_, hissuedAt, h⟩ := Option.bind_eq_some_iff.mp h
    obtain ⟨_, htokenId, h⟩ := Option.bind_eq_some_iff.mp h
    obtain rfl := Option.some.inj h
    exact ⟨hissuer, hsubject, haudience, hexpiry, hnotBefore, hissuedAt, htokenId⟩
  · intro h
    simp [h.issuer, h.subject, h.audience, h.expiry, h.notBefore, h.issuedAt, h.tokenId]

section

variable {a b : List (String × Json)} {c : Registered}

theorem ReadFrom.withAudience {x : Audience} (h : c.ReadFrom a)
    (beside : ∀ name ∈ names, name ≠ "aud" → lookup name b = lookup name a)
    (haud : audienceOrEmpty (lookup "aud" b) = some x) : { c with audience := x }.ReadFrom b := by
  simp only [names, List.forall_mem_cons] at beside
  obtain ⟨hiss, hsub, -, hexp, hnbf, hiat, hjti, -⟩ := beside
  constructor
  · rw [hiss (by decide), h.issuer]
  · rw [hsub (by decide), h.subject]
  · exact haud
  · rw [hexp (by decide), h.expiry]
  · rw [hnbf (by decide), h.notBefore]
  · rw [hiat (by decide), h.issuedAt]
  · rw [hjti (by decide), h.tokenId]

theorem ReadFrom.congr (h : c.ReadFrom a) (same : ∀ name ∈ names, lookup name b = lookup name a) :
    c.ReadFrom b := by
  refine h.withAudience (fun name hname _ => same name hname) ?_
  rw [same "aud" (by decide), h.audience]

end

end Registered

/-! ## Profiles -/

namespace Dialect

/-- The names of the texts that may stand beside the registered claims. -/
def textNames : Dialect → List String
  | .oidc => ["email", "name"]
  | .entra => ["email", "upn", "name", "oid", "tid"]
  | .cognito => ["email", "name", "cognito:username", "token_use", "client_id"]
  | .minimal => []

def rolesName? : Dialect → Option String
  | .oidc | .entra => some "roles"
  | .cognito => some "cognito:groups"
  | .minimal => none

/-- All names that claims of this dialect are read from. -/
def names (d : Dialect) : List String := Registered.names ++ d.textNames ++ d.rolesName?.toList

theorem mem_names {d : Dialect} {name : String} : name ∈ d.names ↔
    name ∈ Registered.names ∨ name ∈ d.textNames ++ d.rolesName?.toList := by
  rw [names, List.append_assoc, List.mem_append]

theorem audience_not_mem (d : Dialect) : "aud" ∉ d.textNames ++ d.rolesName?.toList := by
  cases d <;> decide

end Dialect

namespace Profile

/-- The texts of a profile, each under its name. -/
def texts : Profile → List (String × Option String)
  | oidc p => [("email", p.email), ("name", p.name)]
  | entra p =>
    [("email", p.email), ("upn", p.signInName), ("name", p.name), ("oid", p.objectId),
      ("tid", p.tenantId)]
  | cognito p =>
    [("email", p.email), ("name", p.name), ("cognito:username", p.username),
      ("token_use", p.tokenUse), ("client_id", p.clientId)]
  | minimal => []

theorem map_fst_texts (p : Profile) : p.texts.map Prod.fst = p.dialect.textNames := by
  cases p <;> rfl

structure ReadFrom (members : List (String × Json)) (p : Profile) : Prop where
  texts : ∀ t ∈ p.texts, optional text? (lookup t.1 members) = some t.2
  roles : ∀ name ∈ p.dialect.rolesName?, textsOrEmpty (lookup name members) = some p.roles

variable {d : Dialect} {members : List (String × Json)} {p : Profile}

theorem ReadFrom.congr {a b : List (String × Json)} (h : p.ReadFrom a)
    (same : ∀ name ∈ p.dialect.textNames ++ p.dialect.rolesName?.toList,
      lookup name b = lookup name a) : p.ReadFrom b := by
  constructor
  · intro t ht
    have hname : t.1 ∈ p.dialect.textNames := p.map_fst_texts ▸ List.mem_map_of_mem ht
    rw [same t.1 (List.mem_append_left _ hname), h.texts t ht]
  · intro name hname
    rw [same name (List.mem_append_right _ (Option.mem_toList.mpr hname)), h.roles name hname]

theorem readFrom_of_ofMembers? (h : ofMembers? d members = some p) :
    p.dialect = d ∧ p.ReadFrom members := by
  cases d with
  | oidc =>
    obtain ⟨_, hemail, h⟩ := Option.bind_eq_some_iff.mp h
    obtain ⟨_, hname, h⟩ := Option.bind_eq_some_iff.mp h
    obtain ⟨_, hroles, h⟩ := Option.bind_eq_some_iff.mp h
    obtain rfl := Option.some.inj h
    exact ⟨rfl, by simp [texts, hemail, hname], by simp [dialect, Dialect.rolesName?, roles, hroles]⟩
  | entra =>
    obtain ⟨_, hemail, h⟩ := Option.bind_eq_some_iff.mp h
    obtain ⟨_, hupn, h⟩ := Option.bind_eq_some_iff.mp h
    obtain ⟨_, hname, h⟩ := Option.bind_eq_some_iff.mp h
    obtain ⟨_, hoid, h⟩ := Option.bind_eq_some_iff.mp h
    obtain ⟨_, htid, h⟩ := Option.bind_eq_some_iff.mp h
    obtain ⟨_, hroles, h⟩ := Option.bind_eq_some_iff.mp h
    obtain rfl := Option.some.inj h
    exact ⟨rfl, by simp [texts, hemail, hupn, hname, hoid, htid],
      by simp [dialect, Dialect.rolesName?, roles, hroles]⟩
  | cognito =>
    obtain ⟨_, hemail, h⟩ := Option.bind_eq_some_iff.mp h
    obtain ⟨_, hname, h⟩ := Option.bind_eq_some_iff.mp h
    obtain ⟨_, husername, h⟩ := Option.bind_eq_some_iff.mp h
    obtain ⟨_, hgroups, h⟩ := Option.bind_eq_some_iff.mp h
    obtain ⟨_, huse, h⟩ := Option.bind_eq_some_iff.mp h
    obtain ⟨_, hclient, h⟩ := Option.bind_eq_some_iff.mp h
    obtain rfl := Option.some.inj h
    exact ⟨rfl, by simp [texts, hemail, hname, husername, huse, hclient],
      by simp [dialect, Dialect.rolesName?, roles, hgroups]⟩
  | minimal =>
    obtain rfl := Option.some.inj h
    exact ⟨rfl, by simp [texts], by simp [dialect, Dialect.rolesName?]⟩

theorem ReadFrom.ofMembers? (h : p.ReadFrom members) : ofMembers? p.dialect members = some p := by
  have htexts := h.texts
  have hroles := h.roles
  cases p with
  | minimal => rfl
  | _ =>
    simp only [Profile.texts, List.forall_mem_cons] at htexts
    simp only [dialect, Dialect.rolesName?, Option.mem_def, Option.some.injEq, forall_eq'] at hroles
    simp [Profile.ofMembers?, dialect, htexts, hroles, Profile.roles]

theorem ofMembers?_eq_some_iff :
    Profile.ofMembers? d members = some p ↔ p.dialect = d ∧ p.ReadFrom members := by
  refine ⟨readFrom_of_ofMembers?, ?_⟩
  rintro ⟨rfl, h⟩
  exact h.ofMembers?

end Profile

/-! ## Claims -/

namespace Claims

variable {d : Dialect} {payload : Json} {c : Claims}

theorem ofJson?_eq_some_iff : ofJson? d payload = some c ↔ c.dialect = d ∧
    ∃ members, payload = .record members ∧ c.profile.ReadFrom members ∧ c.registered.ReadFrom members := by
  unfold ofJson?
  constructor
  · intro h
    obtain ⟨members, hrecord, h⟩ := Option.bind_eq_some_iff.mp h
    obtain ⟨profile, hprofile, h⟩ := Option.bind_eq_some_iff.mp h
    obtain ⟨registered, hregistered, h⟩ := Option.bind_eq_some_iff.mp h
    obtain rfl := Option.some.inj h
    obtain ⟨hd, hprofile⟩ := Profile.ofMembers?_eq_some_iff.mp hprofile
    have hpayload : payload = .record members := by
      cases payload <;> simp_all [record?]
    exact ⟨hd, members, hpayload, hprofile, Registered.ofMembers?_eq_some_iff.mp hregistered⟩
  · rintro ⟨rfl, members, rfl, hprofile, hregistered⟩
    simp [record?, dialect, hprofile.ofMembers?, Registered.ofMembers?_eq_some_iff.mpr hregistered]

theorem ofJson?_record_eq_some_iff {members : List (String × Json)} :
    ofJson? d (.record members) = some c ↔
      c.dialect = d ∧ c.profile.ReadFrom members ∧ c.registered.ReadFrom members := by
  simp [ofJson?_eq_some_iff]

def withAudience (c : Claims) (x : Audience) : Claims :=
  { c with registered := { c.registered with audience := x } }

theorem ofJson?_withAudience {a b : List (String × Json)} {x : Audience}
    (h : ofJson? d (.record a) = some c)
    (beside : ∀ name ∈ d.names, name ≠ "aud" → lookup name b = lookup name a)
    (haud : Registered.audienceOrEmpty (lookup "aud" b) = some x) :
    ofJson? d (.record b) = some (c.withAudience x) := by
  obtain ⟨rfl, hprofile, hregistered⟩ := ofJson?_record_eq_some_iff.mp h
  refine ofJson?_record_eq_some_iff.mpr ⟨rfl, hprofile.congr fun name hname => ?_,
    hregistered.withAudience (fun name hname => ?_) haud⟩
  · refine beside name (Dialect.mem_names.mpr (.inr hname)) ?_
    rintro rfl
    exact c.dialect.audience_not_mem hname
  · exact beside name (Dialect.mem_names.mpr (.inl hname))

end Claims

end TokenGate
