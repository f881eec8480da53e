import TokenGate.Proofs.Claims.Members

/-!
# Which payloads hold claims

A payload holds claims exactly if it is a record in which each known member is what it has to be. Roles
come from the one member that the dialect keeps them in, and no other member changes anything.
-/

namespace TokenGate

open Json

/-! ## One member after the other -/

namespace Registered

variable {v? : Option Json} {members : List (String × Json)}

theorem isSome_textOrEmpty : (textOrEmpty v?).isSome ↔ ∀ v ∈ v?, v.IsText := by
  cases v? <;> simp [textOrEmpty, isSome_text?]

theorem isSome_audienceOrEmpty : (audienceOrEmpty v?).isSome ↔ ∀ v ∈ v?, v.IsText ∨ v.AreTexts := by
  cases v? <;> simp [audienceOrEmpty, Audience.isSome_ofJson?]

theorem isSome_expiry : (v?.bind NumericDate.ofJson?).isSome ↔ ∃ v, v? = some v ∧ v.IsDate := by
  cases v? <;> simp [NumericDate.isSome_ofJson?]

theorem isSome_ofMembers? : (ofMembers? members).isSome ↔
    (textOrEmpty (lookup "iss" members)).isSome ∧ (textOrEmpty (lookup "sub" members)).isSome ∧
    (audienceOrEmpty (lookup "aud" members)).isSome ∧
    ((lookup "exp" members).bind NumericDate.ofJson?).isSome ∧
    (optional NumericDate.ofJson? (lookup "nbf" members)).isSome ∧
    (optional NumericDate.ofJson? (lookup "iat" members)).isSome ∧
    (optional text? (lookup "jti" members)).isSome := by
  rw [ofMembers?_eq]
  refine isSome_bind_iff fun _ => isSome_bind_iff fun _ => isSome_bind_iff fun _ =>
    isSome_bind_iff fun _ => isSome_bind_iff fun _ => isSome_bind_iff fun _ => ?_
  rw [Option.bind_eq_bind, isSome_bind_iff fun _ => iff_true_intro rfl, and_true]

end Registered

namespace Profile

variable {d : Dialect} {v? : Option Json} {members : List (String × Json)}

theorem isSome_textsOrEmpty : (textsOrEmpty v?).isSome ↔ ∀ v ∈ v?, v.AreTexts := by
  cases v? <;> simp [textsOrEmpty, isSome_texts?]

theorem isSome_ofMembers? : (Profile.ofMembers? d members).isSome ↔
    (∀ name ∈ d.textNames, (optional text? (lookup name members)).isSome) ∧
    ∀ name ∈ d.rolesName?, (textsOrEmpty (lookup name members)).isSome := by
  cases d with
  | oidc =>
    refine (isSome_bind_iff fun _ => isSome_bind_iff fun _ => isSome_bind_iff fun _ =>
      iff_true_intro rfl).trans ?_
    simp [Dialect.textNames, Dialect.rolesName?, and_assoc]
  | entra =>
    refine (isSome_bind_iff fun _ => isSome_bind_iff fun _ => isSome_bind_iff fun _ =>
      isSome_bind_iff fun _ => isSome_bind_iff fun _ => isSome_bind_iff fun _ =>
      iff_true_intro rfl).trans ?_
    simp [Dialect.textNames, Dialect.rolesName?, and_assoc]
  | cognito =>
    refine (isSome_bind_iff fun _ => isSome_bind_iff fun _ => isSome_bind_iff fun _ =>
      isSome_bind_iff fun _ => isSome_bind_iff fun _ => isSome_bind_iff fun _ =>
      iff_true_intro rfl).trans ?_
    simp only [Dialect.textNames, Dialect.rolesName?, List.forall_mem_cons, Option.mem_def,
      Option.some.injEq, forall_eq']
    tauto
  | minimal => simp [Profile.ofMembers?, Dialect.textNames, Dialect.rolesName?]

end Profile

/-! ## The whole payload -/

/-- Every member that claims of this dialect are read from is what it has to be. Null will do for what
may be left out, but not for issuer, subject, audience, expiry and roles. -/
structure Dialect.WellTyped (d : Dialect) (members : List (String × Json)) : Prop where
  expiry : ∃ v, lookup "exp" members = some v ∧ v.IsDate
  names : ∀ name ∈ ["iss", "sub"], ∀ v ∈ lookup name members, v.IsText
  audience : ∀ v ∈ lookup "aud" members, v.IsText ∨ v.AreTexts
  times : ∀ name ∈ ["nbf", "iat"], ∀ v ∈ lookup name members, v = .null ∨ v.IsDate
  texts : ∀ name ∈ "jti" :: d.textNames, ∀ v ∈ lookup name members, v = .null ∨ v.IsText
  roles : ∀ name ∈ d.rolesName?, ∀ v ∈ lookup name members, v.AreTexts

/-- The roles are the texts of the member that this dialect keeps them in, in order, and none if there
is no such member. -/
def Dialect.RolesIn (d : Dialect) (payload : Json) (roles : List String) : Prop :=
  match d.rolesName? with
  | none => roles = []
  | some name =>
    payload.member? name = some (.ofTexts roles) ∨ (payload.member? name = none ∧ roles = [])

namespace Claims

variable {d : Dialect} {payload : Json} {c : Claims}

theorem wellTyped_iff {members : List (String × Json)} : d.WellTyped members ↔
    (Profile.ofMembers? d members).isSome ∧ (Registered.ofMembers? members).isSome := by
  rw [Profile.isSome_ofMembers?, Registered.isSome_ofMembers?]
  simp only [Profile.isSome_textsOrEmpty, Registered.isSome_textOrEmpty,
    Registered.isSome_audienceOrEmpty, Registered.isSome_expiry, isSome_optional,
    NumericDate.isSome_ofJson?, isSome_text?]
  constructor
  · intro h
    have hnames := h.names
    have htimes := h.times
    have htexts := h.texts
    simp only [List.forall_mem_cons] at hnames htimes htexts
    exact ⟨⟨htexts.2, h.roles⟩, hnames.1, hnames.2.1, h.audience, h.expiry, htimes.1, htimes.2.1,
      htexts.1⟩
  · rintro ⟨⟨htexts, hroles⟩, hiss, hsub, haud, hexp, hnbf, hiat, hjti⟩
    constructor
    · exact hexp
    · simp only [List.forall_mem_cons]
      exact ⟨hiss, hsub, by simp⟩
    · exact haud
    · simp only [List.forall_mem_cons]
      exact ⟨hnbf, hiat, by simp⟩
    · exact List.forall_mem_cons.mpr ⟨hjti, htexts⟩
    · exact hroles

theorem isSome_ofJson?_iff : (ofJson? d payload).isSome ↔
    ∃ members, payload = .record members ∧ d.WellTyped members := by
  cases payload with
  | record members =>
    have hread : ofJson? d (.record members) = (do
        let profile ← Profile.ofMembers? d members
        let registered ← Registered.ofMembers? members
        some ⟨registered, profile⟩) := rfl
    have hboth : (ofJson? d (.record members)).isSome ↔
        (Profile.ofMembers? d members).isSome ∧ (Registered.ofMembers? members).isSome := by
      rw [hread]
      refine isSome_bind_iff fun _ => ?_
      rw [Option.bind_eq_bind, isSome_bind_iff fun _ => iff_true_intro rfl, and_true]
    rw [hboth, ← wellTyped_iff]
    simp
  | _ => simp [ofJson?, record?]

theorem rolesIn_of_ofJson? (h : ofJson? d payload = some c) : d.RolesIn payload c.roles := by
  obtain ⟨rfl, members, rfl, hprofile, -⟩ := ofJson?_eq_some_iff.mp h
  unfold Dialect.RolesIn
  cases hname : c.dialect.rolesName? with
  | none =>
    unfold roles
    cases hc : c.profile <;> simp_all [dialect, Profile.dialect, Dialect.rolesName?, Profile.roles]
  | some name =>
    have hroles := hprofile.roles name hname
    show lookup name members = _ ∨ (lookup name members = none ∧ _)
    cases hfound : lookup name members with
    | none =>
      rw [hfound] at hroles
      exact .inr ⟨rfl, (Option.some.inj hroles).symm⟩
    | some v =>
      rw [hfound] at hroles
      exact .inl (congrArg some (texts?_eq_some_iff.mp hroles))

theorem ofJson?_congr {a b : List (String × Json)}
    (same : ∀ name ∈ d.names, lookup name a = lookup name b) :
    ofJson? d (.record a) = ofJson? d (.record b) := by
  -- what is read from either record is read from the other one
  have hread : ∀ {a b : List (String × Json)} (c : Claims),
      (∀ name ∈ d.names, lookup name b = lookup name a) →
      ofJson? d (.record a) = some c → ofJson? d (.record b) = some c := by
    intro a b c same h
    obtain ⟨-, -, hregistered⟩ := ofJson?_record_eq_some_iff.mp h
    refine ofJson?_withAudience h (fun name hname _ => same name hname) ?_
    rw [same "aud" (Dialect.mem_names.mpr (.inl (by decide))), hregistered.audience]
  ext c
  constructor
  · exact hread c fun name hname => (same name hname).symm
  · exact hread c same

theorem not_wellTyped_of_null {members : List (String × Json)} {name : String}
    (hname : name ∈ ["iss", "sub", "aud", "exp"] ++ d.rolesName?.toList)
    (hnull : lookup name members = some .null) : ¬ d.WellTyped members := by
  have htext : ¬ null.IsText := by simp [IsText]
  have htexts : ¬ null.AreTexts := by simp [AreTexts, ofTexts]
  intro h
  rcases List.mem_append.mp hname with hname | hname
  · simp only [List.mem_cons, List.not_mem_nil, or_false] at hname
    rcases hname with rfl | rfl | rfl | rfl
    · exact htext (h.names "iss" (by simp) _ hnull)
    · exact htext (h.names "sub" (by simp) _ hnull)
    · exact (h.audience _ hnull).elim htext htexts
    · obtain ⟨v, hv, n, rfl, -⟩ := h.expiry
      simp [hnull] at hv
  · exact htexts (h.roles name (Option.mem_toList.mp hname) _ hnull)

/-- A factory is strict about the members that it knows, and blind to all others. -/
theorem build_strict (f : Factory) :
    (∀ payload, (f.build payload).1.isSome ↔
      ∃ members, payload = .record members ∧ f.dialect.WellTyped members) ∧
    (∀ payload c, (f.build payload).1 = some c → f.dialect.RolesIn payload c.roles) ∧
    (∀ payload, ∀ name ∈ ["iss", "sub", "aud", "exp"] ++ f.dialect.rolesName?.toList,
      payload.member? name = some .null → (f.build payload).1 = none) ∧
    (∀ a b, (∀ name ∈ f.dialect.names, lookup name a = lookup name b) →
      (f.build (.record a)).1 = (f.build (.record b)).1) := by
  refine ⟨fun payload => isSome_ofJson?_iff, fun payload c h => rolesIn_of_ofJson? h, ?_,
    fun a b same => ofJson?_congr same⟩
  intro payload name hname hnull
  rw [← Option.not_isSome_iff_eq_none]
  intro hsome
  obtain ⟨members, rfl, hwell⟩ := isSome_ofJson?_iff.mp hsome
  exact not_wellTyped_of_null hname hnull hwell

/-! ## Roles under a name of another provider -/

/-- Readers of one dialect take `roles` for roles, and readers of another one `cognito:groups`. -/
def promoted : List (String × Json) :=
  [("exp", .ofInt 9), ("roles", .ofTexts ["reader"]), ("cognito:groups", .ofTexts ["admin"]),
    ("iss", .text "i")]

theorem promoted_reads_own_roles :
    (∃ c, ((Factory.new .entra (.empty .entra)).build (.record promoted)).1 = some c ∧
      Dialect.entra.RolesIn (.record promoted) c.roles) ∧
    ((Factory.new .entra (.empty .entra)).build (.record (promoted ++ [("roles", .null)]))).1 = none ∧
    ((Factory.new .entra (.empty .entra)).build (.record promoted)).1 =
      ((Factory.new .entra (.empty .entra)).build
        (.record (promoted ++ [("cognito:groups", .null), ("email_verified", .bool true)]))).1 := by
  obtain ⟨_, hroles, hnull, hsame⟩ := build_strict (.new .entra (.empty .entra))
  obtain ⟨c, hbuilt⟩ : ∃ c, ((Factory.new .entra (.empty .entra)).build (.record promoted)).1 = some c :=
    Option.isSome_iff_exists.mp (by decide)
  refine ⟨⟨c, hbuilt, hroles _ c hbuilt⟩, hnull _ "roles" (by decide) rfl,
    hsame _ _ fun name hname => ?_⟩
  have hother : ∀ name ∈ Dialect.entra.names, name ≠ "cognito:groups" ∧ name ≠ "email_verified" := by
    decide
  obtain ⟨hgroups, hverified⟩ := hother name hname
  simp [lookup_append, lookup_cons, hgroups.symm, hverified.symm]

end Claims

end TokenGate
