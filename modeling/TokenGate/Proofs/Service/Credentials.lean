import TokenGate.Proofs.Http.Fields
import TokenGate.Proofs.Text.Fields
import TokenGate.Service.Routes

/-!
# The form of credentials

Credentials are a scheme, a space, and a token, with blanks around each of the two. They are read from the
first `Authorization` field, and whatever else a request says makes no difference. Where a space follows the
scheme, a token follows the space.
-/

namespace TokenGate

namespace Text

theorem isSpaceOrTab_iff {c : Char} : isSpaceOrTab c ↔ Http.Fields.isVisible c ∧ isBlank c := by
  have ofNat {n : Nat} (h : c.toNat = n) : c = Char.ofNat n := by rw [← h, Char.ofNat_toNat]
  constructor
  · intro h
    simp only [isSpaceOrTab, Bool.or_eq_true, beq_iff_eq] at h
    obtain rfl | rfl := h <;> decide
  · rintro ⟨visible, blank⟩
    simp only [Http.Fields.isVisible, isBlank, Bool.or_eq_true, Bool.and_eq_true, decide_eq_true_eq,
      beq_iff_eq] at visible blank
    obtain ⟨least, most⟩ | rfl := visible
    · obtain rfl := ofNat (show c.toNat = 32 by omega)
      decide
    · decide

end Text

namespace Service

open Http.Fields (isNamed isVisible)
open Text (trim isBlank isSpaceOrTab lowerAscii Trimmed)

/-! ## Schemes and tokens -/

/-- A scheme up to the first space, and what follows that space. -/
structure Splits (s scheme rest : List Char) : Prop where
  joined : s = scheme ++ ' ' :: rest
  first : ' ' ∉ scheme

/-- Without the blanks around it, the text is the bearer scheme, a space, and this token with blanks around
it. -/
def Presents (s token : List Char) : Prop :=
  ∃ scheme rest, Splits (trim isBlank s) scheme rest ∧ lowerAscii scheme = "bearer".toList ∧
    token = trim isBlank rest

/-- How a token is written down: the scheme in any case, one space, and more spaces and tabs in all places
but between the two. -/
inductive Spells : List Char → List Char → Prop
  | of (lead scheme gap token tail : List Char) (named : lowerAscii scheme = "bearer".toList)
    (blank : ∀ c ∈ lead ++ gap ++ tail, isSpaceOrTab c) (nonempty : token ≠ [])
    (visible : ∀ c ∈ token, isVisible c) (bare : Trimmed isBlank token) :
    Spells (lead ++ (scheme ++ ' ' :: (gap ++ token)) ++ tail) token

variable {s token scheme rest : List Char}

theorem splitOnce_iff_splits : Text.splitOnce ' ' s = some (scheme, rest) ↔ Splits s scheme rest := by
  rw [Text.splitOnce_eq_some_iff]
  exact ⟨fun ⟨joined, first⟩ => ⟨joined, first⟩, fun ⟨joined, first⟩ => ⟨joined, first⟩⟩

/-- After trimming, a space is never the last character. -/
theorem Splits.trim_ne_nil (h : Splits (trim isBlank s) scheme rest) : trim isBlank rest ≠ [] := by
  intro empty
  have blank : ∀ c ∈ ' ' :: rest, isBlank c :=
    List.forall_mem_cons.2 ⟨by decide, Text.trim_eq_nil_iff.1 empty⟩
  have last := List.getLast?_eq_some_getLast (List.cons_ne_nil ' ' rest)
  refine (Text.trimmed_trim isBlank s).2 _ ?_ (blank _ (List.mem_of_getLast? last))
  rw [h.joined, Option.mem_def, List.getLast?_append, last, Option.some_or]

theorem isAlpha_of_named (named : lowerAscii scheme = "bearer".toList) {c : Char} (mem : c ∈ scheme) :
    c.isAlpha := by
  have letters : ∀ c ∈ "bearer".toList, c.isAlpha := List.all_eq_true.1 (by decide)
  rw [← Text.isAlpha_toLower]
  exact letters c.toLower (named ▸ List.mem_map_of_mem mem)

theorem isVisible_of_isAlpha {c : Char} (h : c.isAlpha) : isVisible c := by
  obtain ⟨least, most⟩ := Text.toNat_of_isAlpha h
  simp only [isVisible, Bool.or_eq_true, Bool.and_eq_true, decide_eq_true_eq]
  omega

theorem not_isBlank_of_isAlpha {c : Char} (h : c.isAlpha) : ¬ isBlank c := by
  obtain ⟨least, most⟩ := Text.toNat_of_isAlpha h
  simp only [isBlank, Bool.or_eq_true, Bool.and_eq_true, decide_eq_true_eq, beq_iff_eq]
  omega

theorem presents_of_spells (h : Spells s token) : Presents s token := by
  obtain ⟨lead, scheme, gap, token, tail, named, blank, nonempty, visible, bare⟩ := h
  have blank (c : Char) (mem : c ∈ lead ++ gap ++ tail) : isBlank c :=
    (Text.isSpaceOrTab_iff.1 (blank c mem)).2
  have inner : trim isBlank (gap ++ token) = token :=
    Text.trim_eq_iff.2 ⟨bare, gap, [], by simp, fun c mem => blank c (by simp [mem]), by simp⟩
  have outer : trim isBlank (lead ++ (scheme ++ ' ' :: (gap ++ token)) ++ tail) =
      scheme ++ ' ' :: (gap ++ token) := by
    refine Text.trim_eq_iff.2 ⟨⟨fun c first => ?_, fun c last => ?_⟩, lead, tail, rfl,
      fun c mem => blank c (by simp [mem]), fun c mem => blank c (by simp [mem])⟩
    · cases scheme with
      | nil => cases named
      | cons b scheme =>
        obtain rfl : b = c := Option.some.inj first
        exact not_isBlank_of_isAlpha (isAlpha_of_named named (List.mem_cons_self ..))
    · refine bare.2 c ?_
      rwa [List.append_cons, ← List.append_assoc, List.getLast?_append_of_ne_nil _ nonempty] at last
  refine ⟨scheme, gap ++ token, ⟨outer, fun space => ?_⟩, named, inner.symm⟩
  cases isAlpha_of_named named space

theorem isVisible_of_spells (h : Spells s token) : ∀ c ∈ s, isVisible c := by
  obtain ⟨lead, scheme, gap, token, tail, named, blank, nonempty, visible, bare⟩ := h
  have seen (c : Char) (mem : c ∈ lead ++ gap ++ tail) : isVisible c :=
    (Text.isSpaceOrTab_iff.1 (blank c mem)).1
  intro c mem
  simp only [List.mem_append, List.mem_cons] at mem
  obtain (mem | mem | rfl | mem | mem) | mem := mem
  · exact seen c (by simp [mem])
  · exact isVisible_of_isAlpha (isAlpha_of_named named mem)
  · decide
  · exact seen c (by simp [mem])
  · exact visible c mem
  · exact seen c (by simp [mem])

theorem spells_of_presents (visible : ∀ c ∈ s, isVisible c) (h : Presents s token) : Spells s token := by
  obtain ⟨scheme, rest, splits, named, rfl⟩ := h
  obtain ⟨-, lead, tail, whole, blank, blank'⟩ := Text.trim_eq_iff.1 (rfl : trim isBlank s = _)
  obtain ⟨bare, gap, tail', inner, blank₂, blank₂'⟩ := Text.trim_eq_iff.1 (rfl : trim isBlank rest = _)
  rw [splits.joined, inner] at whole
  have seen (c : Char) (mem : c ∈ lead ++ gap ++ (tail' ++ tail)) : isSpaceOrTab c := by
    refine Text.isSpaceOrTab_iff.2 ⟨visible c ?_, ?_⟩
    · rw [whole]
      simp only [List.mem_append] at mem
      simp only [List.mem_append, List.mem_cons]
      tauto
    · simp only [List.mem_append] at mem
      obtain (mem | mem) | mem | mem := mem
      · exact blank c mem
      · exact blank₂ c mem
      · exact blank₂' c mem
      · exact blank' c mem
  have spelled := Spells.of lead scheme gap (trim isBlank rest) (tail' ++ tail) named seen
    splits.trim_ne_nil (fun c mem => visible c ?_) bare
  · have same : lead ++ (scheme ++ ' ' :: (gap ++ trim isBlank rest)) ++ (tail' ++ tail) = s := by
      rw [whole]
      simp
    rwa [same] at spelled
  · rw [whole]
    simp only [List.mem_append, List.mem_cons]
    tauto

/-! ## The fields of a request -/

variable {fields : Http.Fields}

theorem bearerToken?_eq_some_iff {token : String} : bearerToken? fields = some token ↔
    ∃ value, fields.Begins "authorization" value ∧ (∀ c ∈ value.toList, isVisible c) ∧
      Presents value.toList token.toList := by
  unfold bearerToken?
  simp only [Option.bind_eq_bind, Option.bind_eq_some_iff, Http.Fields.first?_eq_some_iff,
    Http.Fields.visible?_eq_some_iff, Prod.exists, splitOnce_iff_splits]
  constructor
  · rintro ⟨_, ⟨value, begins, visible, rfl⟩, scheme, rest, splits, read⟩
    obtain ⟨⟨named, -⟩, read⟩ := Option.ite_none_right_eq_some.1 read
    refine ⟨value, begins, visible, scheme, rest, splits, beq_iff_eq.1 named, ?_⟩
    rw [← Option.some.inj read, String.toList_ofList]
  · rintro ⟨value, begins, visible, scheme, rest, splits, named, read⟩
    refine ⟨_, ⟨value, begins, visible, rfl⟩, scheme, rest, splits, ?_⟩
    rw [if_pos ⟨beq_iff_eq.2 named, splits.trim_ne_nil⟩, ← read, String.ofList_toList]

/-- How a token is read from the fields of a request. -/
structure Reads (fields : Http.Fields) : Prop where
  token_iff : ∀ token, bearerToken? fields = some token ↔
    ∃ value, fields.Begins "authorization" value ∧ (∀ c ∈ value.toList, isVisible c) ∧
      Presents value.toList token.toList
  token : ∀ token, bearerToken? fields = some token → token ≠ "" ∧ Trimmed isBlank token.toList ∧
    ∃ value, fields.Begins "authorization" value ∧ token.toList <:+: value.toList
  /-- Something other than blanks follows the first space, so that no token is refused for being empty. -/
  never_empty : ∀ s scheme rest, Splits (trim isBlank s) scheme rest → trim isBlank rest ≠ []
  spelled_iff : ∀ token, bearerToken? fields = some token ↔
    ∃ value, fields.Begins "authorization" value ∧ Spells value.toList token.toList
  spelled : ∀ value token, fields.Begins "authorization" value → Spells value.toList token →
    bearerToken? fields = some (String.ofList token)
  alone : ∀ value, fields.Begins "authorization" value →
    bearerToken? fields = bearerToken? [("authorization", value)]
  absent : (∀ f ∈ fields, ¬ isNamed "authorization" f) → bearerToken? fields = none

theorem reads_fields (fields : Http.Fields) : Reads fields where
  token_iff _ := bearerToken?_eq_some_iff
  token token read := by
    obtain ⟨value, begins, -, scheme, rest, splits, -, same⟩ := bearerToken?_eq_some_iff.1 read
    refine ⟨fun empty => splits.trim_ne_nil ?_, same ▸ Text.trimmed_trim isBlank rest, value, begins, ?_⟩
    · rw [← same, empty, String.toList_empty]
    · have outer := Text.trim_infix isBlank value.toList
      rw [splits.joined, List.append_cons] at outer
      exact same ▸ (Text.trim_infix isBlank rest).trans ((List.suffix_append ..).isInfix.trans outer)
  never_empty _ _ _ splits := splits.trim_ne_nil
  spelled_iff token := by
    rw [bearerToken?_eq_some_iff]
    refine exists_congr fun value => and_congr_right fun _ => ⟨fun ⟨visible, presents⟩ => ?_, fun h => ?_⟩
    · exact spells_of_presents visible presents
    · exact ⟨isVisible_of_spells h, presents_of_spells h⟩
  spelled value token begins spells := by
    rw [bearerToken?_eq_some_iff]
    refine ⟨value, begins, isVisible_of_spells spells, ?_⟩
    rw [String.toList_ofList]
    exact presents_of_spells spells
  alone value begins := by
    have first := Http.Fields.first?_eq_some_iff.2 begins
    have only : Http.Fields.first? [("authorization", value)] "authorization" = some value :=
      Http.Fields.first?_eq_some_iff.2 ⟨[], _, [], rfl, by simp [isNamed, Text.sameIgnoringCase], by simp⟩
    unfold bearerToken?
    rw [first, only]
  absent others := by
    unfold bearerToken?
    rw [Http.Fields.first?_eq_none_iff.2 others]
    rfl

example : bearerToken? [("host", "h"), ("AUTHORIZATION", "\t BeaReR  \ta b "), ("authorization", "Bearer c")]
    = some "a b" := by decide

end Service

end TokenGate
