import TokenGate.Claims.Basic
import TokenGate.Proofs.Claims.Basic
import TokenGate.Proofs.Claims.RoundTrip
import TokenGate.Validator

/-!
# Whom a payload is for

One member of the payload says whom a token is for. What is decided and what is reported are both read
off this member, so that no report contradicts its decision. Whether the member is a name or a list of
that one name makes no difference.
-/

namespace TokenGate

open Json

/-! ## In the payload -/

/-- The value is this name, or a list with this name in it. -/
def Json.Offers (v : Json) (name : String) : Prop :=
  v = .text name ∨ ∃ items, v = .list items ∧ .text name ∈ items

namespace Dialect

def IsAccess (d : Dialect) (payload : Json) : Prop :=
  d = .cognito ∧ payload.member? "token_use" = some (.text "access")

/-- An access token is for its client, whatever it says of its audience. Any other token is for each
name that its audience offers. -/
def Addresses (d : Dialect) (payload : Json) (audience : String) : Prop :=
  (d.IsAccess payload ∧ payload.member? "client_id" = some (.text audience)) ∨
  (¬ d.IsAccess payload ∧ ∃ v, payload.member? "aud" = some v ∧ v.Offers audience)

/-- The records say the same to this dialect, except that one names its audience where the other one
lists that name alone. -/
structure Respelled (d : Dialect) (a b : List (String × Json)) : Prop where
  beside : ∀ name ∈ d.names, name ≠ "aud" → lookup name b = lookup name a
  audience : ∃ name, lookup "aud" a = some (.text name) ∧ lookup "aud" b = some (.ofTexts [name])

end Dialect

namespace Audience

variable {v : Json} {a : Audience} {name : String}

theorem offers_iff_mem (h : ofJson? v = some a) : v.Offers name ↔ name ∈ a.values := by
  rcases ofJson?_eq_some_iff.mp h with ⟨own, rfl, rfl⟩ | ⟨names, rfl, rfl⟩
  · simp [Json.Offers, values, @eq_comm _ own]
  · simp [Json.Offers, ofTexts, values]

theorem ofText?_write_json (a : Audience) : Json.ofText? (write a.json) = some a.json :=
  ofText?_write (Claims.plain_audience 126 a)

end Audience

/-! ## In the claims -/

namespace Claims

variable {d : Dialect} {payload : Json} {c : Claims} {audience : String}

theorem isAccess_cases (h : ofJson? d payload = some c) :
    (d.IsAccess payload ∧ ∃ client?, c.profile.accessClient? = some client? ∧
      optional text? (payload.member? "client_id") = some client?) ∨
    (¬ d.IsAccess payload ∧ c.profile.accessClient? = none) := by
  obtain ⟨rfl, members, rfl, hprofile, -⟩ := ofJson?_eq_some_iff.mp h
  have htexts := hprofile.texts
  unfold Dialect.IsAccess dialect
  cases hc : c.profile with
  | cognito p =>
    rw [hc] at htexts
    simp only [Profile.texts, List.forall_mem_cons] at htexts
    obtain ⟨-, -, -, huse, hclient, -⟩ := htexts
    have haccess : (Json.record members).member? "token_use" = some (.text "access") ↔
        p.tokenUse = some "access" := by
      rw [← optional_text?_eq_some_iff, Json.member?, huse, Option.some.injEq]
    by_cases hp : p.tokenUse = some "access"
    · exact .inl ⟨⟨rfl, haccess.mpr hp⟩, p.clientId, if_pos hp, hclient⟩
    · exact .inr ⟨fun h => hp (haccess.mp h.2), if_neg hp⟩
  | _ => exact .inr ⟨by simp [Profile.dialect], rfl⟩

theorem offered_iff_mem {members : List (String × Json)} (h : c.registered.ReadFrom members) :
    (∃ v, lookup "aud" members = some v ∧ v.Offers audience) ↔
      audience ∈ c.registered.audience.values := by
  have haud := h.audience
  cases hfound : lookup "aud" members with
  | none =>
    rw [hfound] at haud
    have hempty : c.registered.audience = .many [] := (Option.some.inj haud).symm
    simp [hempty, Audience.values]
  | some v =>
    rw [hfound] at haud
    simp [Audience.offers_iff_mem haud]

theorem addresses_iff_mem (h : ofJson? d payload = some c) :
    d.Addresses payload audience ↔ audience ∈ c.presentedAudience := by
  obtain ⟨-, members, rfl, -, hregistered⟩ := ofJson?_eq_some_iff.mp h
  unfold Dialect.Addresses presentedAudience
  rcases isAccess_cases h with ⟨haccess, client?, hclient, hread⟩ | ⟨hother, hclient⟩
  · simp [haccess, hclient, ← optional_text?_eq_some_iff, hread]
  · simp only [hother, hclient, false_and, false_or, not_false_iff, true_and]
    exact offered_iff_mem hregistered

/-! ## In the report -/

theorem accept_eq_wrongAudience_iff (v : Validator) (c : Claims) (now : Stamp) (report : String) :
    v.accept c now = .error (.wrongAudience report) ↔
      c.isFrom v.issuer ∧ v.audience ∉ c.presentedAudience ∧
        report = ",".intercalate c.presentedAudience := by
  have hfault : ∀ fault, AuthError.ofFault fault ≠ .wrongAudience report := by
    intro fault
    cases fault <;> simp [AuthError.ofFault]
  rw [← isFor_iff_mem]
  unfold Validator.accept
  by_cases hfrom : c.isFrom v.issuer
  swap
  · simp [hfrom]
  by_cases hfor : c.isFor v.audience
  swap
  · simp [hfrom, hfor, @eq_comm _ report]
  -- the right audience: all that is left to fail is the time
  cases htime : c.registered.times.check v.leeway now <;> simp [hfrom, hfor, Except.mapError, hfault]

/-! ## One name, or a list of one name -/

/-- No question about the audience, and no answer to the caller, tells these claims apart. -/
structure Alike (c c' : Claims) : Prop where
  presented : c.presentedAudience = c'.presentedAudience
  isFor : c.isFor = c'.isFor
  isEmpty : c.registered.audience.isEmpty = c'.registered.audience.isEmpty
  accept : ∀ v : Validator, v.accept c = v.accept c'
  me : c.me = c'.me

theorem alike_withAudience (c : Claims) {x : Audience} (h : c.registered.audience.values = x.values) :
    c.Alike (c.withAudience x) := by
  have hpresented : c.presentedAudience = (c.withAudience x).presentedAudience := by
    unfold presentedAudience withAudience
    simp only [h]
  have hfor : c.isFor = (c.withAudience x).isFor := by
    funext audience
    rw [Bool.eq_iff_iff, isFor_iff_mem, isFor_iff_mem, hpresented]
  constructor
  · exact hpresented
  · exact hfor
  · simp [withAudience, Audience.isEmpty_eq, h]
  · intro v
    funext now
    unfold Validator.accept
    rw [hfor, hpresented]
    rfl
  · rfl

theorem alike_of_respelled {a b : List (String × Json)} (h : d.Respelled a b) :
    Option.Rel Alike (ofJson? d (.record a)) (ofJson? d (.record b)) := by
  obtain ⟨name, hone, hmany⟩ := h.audience
  cases ha : ofJson? d (.record a) with
  | none =>
    cases hb : ofJson? d (.record b) with
    | none => exact .none
    | some c =>
      have hback := ofJson?_withAudience (x := .one name) hb
        (fun n hn haud => (h.beside n hn haud).symm) (by rw [hone]; rfl)
      rw [ha] at hback
      contradiction
  | some c =>
    have hread : Registered.audienceOrEmpty (lookup "aud" b) = some (.many [name]) := by
      rw [hmany]
      exact Audience.ofJson?_json (.many [name])
    have hown : c.registered.audience = .one name := by
      obtain ⟨-, -, hregistered⟩ := ofJson?_record_eq_some_iff.mp ha
      have haud := hregistered.audience
      rw [hone] at haud
      exact (Option.some.inj haud).symm
    rw [ofJson?_withAudience ha h.beside hread]
    refine .some (c.alike_withAudience ?_)
    rw [hown]
    rfl

/-- Decision and report both follow the payload. -/
theorem build_addresses (f : Factory) :
    (∀ payload c, (f.build payload).1 = some c → ∀ audience,
      (c.isFor audience ↔ audience ∈ c.presentedAudience) ∧
      (c.isFor audience ↔ f.dialect.Addresses payload audience)) ∧
    (∀ (v : Validator) (c : Claims) now report, v.accept c now = .error (.wrongAudience report) ↔
      c.isFrom v.issuer ∧ v.audience ∉ c.presentedAudience ∧
        report = ",".intercalate c.presentedAudience) ∧
    (∀ v, (Audience.ofJson? v).isSome ↔ v.IsText ∨ v.AreTexts) ∧
    (∀ a : Audience, Audience.ofJson? a.json = some a ∧
      (Json.ofText? (write a.json)).bind Audience.ofJson? = some a) ∧
    (∀ (a : Audience) name, a.contains name ↔ name ∈ a.values) ∧
    (∀ name, (Audience.one name).contains = (Audience.many [name]).contains ∧
      (Audience.one name).isEmpty = (Audience.many [name]).isEmpty) ∧
    (∀ a b, f.dialect.Respelled a b →
      Option.Rel Alike (f.build (.record a)).1 (f.build (.record b)).1) := by
  refine ⟨?_, accept_eq_wrongAudience_iff, fun v => Audience.isSome_ofJson?, ?_,
    fun a name => Audience.contains_iff_mem, ?_, fun a b h => alike_of_respelled h⟩
  · intro payload c h audience
    exact ⟨c.isFor_iff_mem audience, (c.isFor_iff_mem audience).trans (addresses_iff_mem h).symm⟩
  · intro a
    refine ⟨a.ofJson?_json, ?_⟩
    rw [a.ofText?_write_json, Option.bind_some, a.ofJson?_json]
  · intro name
    refine ⟨?_, rfl⟩
    funext expected
    rw [Bool.eq_iff_iff, Audience.contains_iff_mem, Audience.contains_iff_mem]
    rfl

/-! ## An access token that borrows an audience -/

def borrowing : List (String × Json) :=
  [("iss", .text "i"), ("exp", .ofInt 0), ("token_use", .text "access"), ("client_id", .text "spa")]

def borrower : Claims :=
  ⟨⟨"i", "", .one "api", ⟨.zero, none, none⟩, none⟩,
    .cognito ⟨none, none, none, [], some "access", some "spa"⟩⟩

def apiFactory : Factory := .new .cognito (.empty .cognito)

def apiValidator : Validator := ⟨"i", "api", Validator.standardLeeway, "", apiFactory⟩

theorem borrower_refused :
    (apiFactory.build (.record (borrowing ++ [("aud", .text "api")]))).1 = some borrower ∧
    borrower.isFor "spa" ∧ ¬ borrower.isFor "api" ∧
    apiValidator.accept borrower .zero = .error (.wrongAudience "spa") ∧
    Option.Rel Alike (apiFactory.build (.record (borrowing ++ [("aud", .text "api")]))).1
      (apiFactory.build (.record (borrowing ++ [("aud", .ofTexts ["api"])]))).1 := by
  obtain ⟨hdecided, hreported, -, -, -, -, hrespelled⟩ := build_addresses apiFactory
  have hbuilt : (apiFactory.build (.record (borrowing ++ [("aud", .text "api")]))).1 =
      some borrower := rfl
  have haccess : Dialect.cognito.IsAccess (.record (borrowing ++ [("aud", .text "api")])) :=
    ⟨rfl, rfl⟩
  refine ⟨hbuilt, ?_, ?_, ?_, hrespelled _ _ ⟨?_, "api", rfl, rfl⟩⟩
  · exact (hdecided _ _ hbuilt "spa").2.mpr (.inl ⟨haccess, rfl⟩)
  · rw [(hdecided _ _ hbuilt "api").2]
    rintro (⟨-, hclient⟩ | ⟨hother, -⟩)
    · exact absurd (text.inj (Option.some.inj hclient)) (by decide)
    · exact hother haccess
  · exact (hreported apiValidator borrower .zero "spa").mpr ⟨rfl, by decide, by decide⟩
  · intro name _ hname
    simp [lookup_append, lookup_cons, hname.symm]

end Claims

end TokenGate
