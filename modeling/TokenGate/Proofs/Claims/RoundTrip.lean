import Mathlib.Data.List.Nodup
import TokenGate.Proofs.Claims.Members
import TokenGate.Proofs.Json.RoundTrip

/-!
# Claims that are written and built again

Claims are written with a null for some absent members and without a trace of others. Whichever are
absent, a factory of the same dialect builds the same claims again.
-/

namespace TokenGate

open Json

/-! ## The registered claims -/

namespace Registered

theorem lookup_member? (name n : String) (v? : Option Json) :
    lookup name (member? n v?) = if n = name then v? else none := by
  cases v? <;> simp [member?, lookup_cons]

theorem optional_text?_map (s? : Option String) : optional text? (s?.map .text) = some s? := by
  cases s? <;> rfl

theorem optional_date_map (d? : Option Stamp) :
    optional NumericDate.ofJson? (d?.map NumericDate.json) = some d? := by
  cases d? with
  | none => rfl
  | some d => exact congrArg (Option.map some) (NumericDate.ofJson?_json d)

theorem readFrom_members (c : Registered) : c.ReadFrom c.members := by
  constructor <;> simp only [members, lookup_append, lookup_cons, lookup_member?, lookup_nil]
  · simp [textOrEmpty, text?]
  · simp [textOrEmpty, text?]
  · simp [audienceOrEmpty, Audience.ofJson?_json]
  · simp [NumericDate.ofJson?_json]
  · simp [optional_date_map]
  · simp [optional_date_map]
  · simp [optional_text?_map]

theorem map_fst_member? (name : String) (v? : Option Json) :
    (member? name v?).map Prod.fst = if v?.isSome then [name] else [] := by
  cases v? <;> rfl

theorem sublist_names (c : Registered) : (c.members.map Prod.fst).Sublist names := by
  simp only [members, List.map_append, map_fst_member?]
  repeat' split
  all_goals simp [names]

end Registered

/-! ## The profile -/

namespace Profile

theorem optional_text?_ofOption (s? : Option String) : optional text? (some (.ofOption s?)) = some s? := by
  cases s? <;> rfl

theorem textsOrEmpty_ofTexts (ss : List String) : textsOrEmpty (some (.ofTexts ss)) = some ss :=
  texts?_ofTexts ss

theorem readFrom_members (p : Profile) : p.ReadFrom p.members := by
  constructor
  · cases p <;> simp [texts, members, lookup_cons, optional_text?_ofOption]
  · cases p <;> simp [dialect, Dialect.rolesName?, members, roles, lookup_cons, textsOrEmpty_ofTexts]

theorem nodup_names (p : Profile) : (p.members.map Prod.fst ++ Registered.names).Nodup := by
  cases p <;> simp [members, Registered.names]

theorem names_mem_members (p : Profile) : ∀ name ∈ p.dialect.textNames ++ p.dialect.rolesName?.toList,
    name ∈ p.members.map Prod.fst := by
  cases p <;> simp [dialect, Dialect.textNames, Dialect.rolesName?, members]

end Profile

/-! ## Both together -/

namespace Claims

def members (c : Claims) : List (String × Json) := c.profile.members ++ c.registered.members

theorem nodup_members (c : Claims) : (c.members.map Prod.fst).Nodup := by
  rw [members, List.map_append]
  exact c.profile.nodup_names.sublist ((List.Sublist.refl _).append c.registered.sublist_names)

variable {c : Claims} {members : List (String × Json)}

theorem lookup_of_registered (order : members.Perm c.members) {name : String}
    (h : name ∈ Registered.names) : lookup name members = lookup name c.registered.members := by
  have hforeign : lookup name c.profile.members = none := by
    rw [lookup_eq_none_iff]
    intro hname
    exact List.disjoint_of_nodup_append c.profile.nodup_names hname h
  rw [lookup_perm c.nodup_members order, Claims.members, lookup_append, hforeign, Option.or_none]

theorem lookup_of_profile (order : members.Perm c.members) {name : String}
    (h : name ∈ c.dialect.textNames ++ c.dialect.rolesName?.toList) :
    lookup name members = lookup name c.profile.members := by
  have hforeign : lookup name c.registered.members = none := by
    rw [lookup_eq_none_iff]
    intro hname
    exact List.disjoint_of_nodup_append c.profile.nodup_names (c.profile.names_mem_members name h)
      (c.registered.sublist_names.subset hname)
  rw [lookup_perm c.nodup_members order, Claims.members, lookup_append, hforeign, Option.none_or]

theorem ofJson?_of_perm (order : members.Perm c.members) :
    ofJson? c.dialect (.record members) = some c := by
  refine ofJson?_record_eq_some_iff.mpr ⟨rfl, ?_, ?_⟩
  · exact c.profile.readFrom_members.congr fun name hname => lookup_of_profile order hname
  · exact c.registered.readFrom_members.congr fun name hname => lookup_of_registered order hname

/-! ## As text -/

section

variable (depth : Nat)

theorem plain_ofTexts (ss : List String) : Plain (depth + 1) (.ofTexts ss) := by
  simp [Json.ofTexts, Plain]

theorem plain_ofOption (s? : Option String) : Plain depth (.ofOption s?) := by
  cases s? <;> simp [Json.ofOption, Plain]

theorem plain_audience (a : Audience) : Plain (depth + 1) a.json := by
  cases a with
  | one name => simp [Audience.json, Plain]
  | many names => exact plain_ofTexts depth names

theorem plain_date (s : Stamp) : Plain depth (NumericDate.json s) := by
  have hlow := s.least_le
  have hhigh := s.lt_end
  simp only [NumericDate.json, Json.ofInt, Plain, IsWord]
  omega

theorem plain_member? {name : String} {v? : Option Json} (h : ∀ v ∈ v?, Plain depth v) :
    ∀ m ∈ Registered.member? name v?, Plain depth m.2 := by
  cases v? <;> simp_all [Registered.member?]

theorem plain_members (c : Claims) : ∀ m ∈ c.members, Plain (depth + 1) m.2 := by
  have hprofile : ∀ m ∈ c.profile.members, Plain (depth + 1) m.2 := by
    cases c.profile <;> simp [Profile.members, plain_ofOption, plain_ofTexts]
  have hregistered : ∀ m ∈ c.registered.members, Plain (depth + 1) m.2 := by
    simp only [Registered.members, List.forall_mem_append]
    refine ⟨⟨⟨?_, plain_member? _ ?_⟩, plain_member? _ ?_⟩, plain_member? _ ?_⟩
    · simp [Plain, plain_audience, plain_date]
    · simp [plain_date]
    · simp [plain_date]
    · simp [Plain]
  intro m hm
  rcases List.mem_append.mp hm with hm | hm
  · exact hprofile m hm
  · exact hregistered m hm

end

/-- Whatever the constructor returns, a factory builds claims again from what was written of them, be it
kept as a value, in any order of its members, or as text. -/
theorem build_of_written (c : Claims) (f : Factory) (same : f.dialect = c.dialect) :
    ∃ members, c.json = .record members ∧ (members.map Prod.fst).Nodup ∧
      ∀ members', members'.Perm members → (f.build (.record members')).1 = some c ∧
        ∃ payload, Json.ofText? (write (.record members')) = some payload ∧
          (f.build payload).1 = some c := by
  refine ⟨c.members, rfl, c.nodup_members, fun members order => ?_⟩
  have hbuilt : (f.build (.record members)).1 = some c := by
    unfold Factory.build Factory.fill
    rw [same]
    exact ofJson?_of_perm order
  have hplain : Plain maxDepth (.record members) := by
    intro m hm
    exact plain_members 125 c m (order.mem_iff.mp hm)
  exact ⟨hbuilt, _, ofText?_write hplain, hbuilt⟩

/-! ## An access token, written and built by a constructor that returns somebody's claims -/

/-- Of what may be absent, some is there and some is not. -/
def guest : Claims :=
  ⟨⟨"i", "", .many [], ⟨.least, some .zero, none⟩, none⟩,
    .cognito ⟨none, some "\t\"\x1f é", none, ["", "a"], some "access", none⟩⟩

def stainedFactory : Factory :=
  .new .cognito ⟨⟨"j", "eve", .one "w", ⟨.greatest, none, some .zero⟩, some "1"⟩,
    .cognito ⟨some "e@x", none, some "eve", ["admin"], none, some "w"⟩⟩

theorem guest_built_again :
    stainedFactory.dialect = guest.dialect ∧ (stainedFactory.build guest.json).1 = some guest ∧
    ∃ payload, Json.ofText? (write guest.json) = some payload ∧
      (stainedFactory.build payload).1 = some guest := by
  obtain ⟨members, written, -, built⟩ := build_of_written guest stainedFactory rfl
  rw [written]
  exact ⟨rfl, built members (.refl members)⟩

end Claims

end TokenGate
