import TokenGate.Claims.Basic
import TokenGate.Proofs.Claims.RoundTrip
import TokenGate.Proofs.Identity.Spelling

/-!
# Subjects are kept apart

A subject is shown as a text that is read as this subject again. So two subjects are never shown alike,
and whoever stores what was shown finds the same caller under it.
-/

namespace TokenGate

open Json

namespace Subject

variable {s : String} {u : Uuid} {x y : Subject}

theorem ofText_eq_uuid_iff : ofText s = .uuid u ↔ u.Spells s.toList := by
  rw [← Uuid.ofText?_eq_some_iff]
  unfold ofText
  cases Uuid.ofText? s <;> simp

theorem ofText_eq_named_iff : ofText s = .named s ↔ ∀ u : Uuid, ¬ u.Spells s.toList := by
  simp only [← Uuid.ofText?_eq_some_iff, ← Option.eq_none_iff_forall_ne_some]
  unfold ofText
  cases Uuid.ofText? s <;> simp

theorem ofText_uuid_text (u : Uuid) : ofText u.text = .uuid u := by
  rw [ofText, u.ofText?_text]
  rfl

/-- A subject that is read from some text. Names that spell a UUID are no such subjects. -/
def IsRead (x : Subject) : Prop := ∃ s, ofText s = x

theorem isRead_uuid (u : Uuid) : (uuid u).IsRead := ⟨u.text, ofText_uuid_text u⟩

theorem IsRead.ofText_text (h : x.IsRead) : ofText x.text = x := by
  obtain ⟨s, rfl⟩ := h
  cases hs : Uuid.ofText? s with
  | some u =>
    have hread : ofText s = .uuid u := by simp [ofText, hs]
    rw [hread]
    exact ofText_uuid_text u
  | none =>
    have hread : ofText s = .named s := by simp [ofText, hs]
    rw [hread]
    exact hread

theorem IsRead.text_inj (hx : x.IsRead) (hy : y.IsRead) : x.text = y.text ↔ x = y := by
  refine ⟨fun h => ?_, congrArg text⟩
  rw [← hx.ofText_text, h, hy.ofText_text]

end Subject

/-! ## The subject of claims -/

/-- The text that stands for the object id spells this UUID. -/
def EntraProfile.ObjectId (p : EntraProfile) (u : Uuid) : Prop :=
  ∃ oid, p.objectId = some oid ∧ u.Spells oid.toList

theorem Profile.objectUuid?_eq_some_iff {p : Profile} {u : Uuid} :
    p.objectUuid? = some u ↔ ∃ e, p = .entra e ∧ e.ObjectId u := by
  unfold EntraProfile.ObjectId
  cases p <;> simp [objectUuid?, Option.bind_eq_some_iff, Uuid.ofText?_eq_some_iff]

namespace Claims

open Subject

theorem subject_cases (c : Claims) :
    (∃ p u, c.profile = .entra p ∧ p.ObjectId u ∧ c.subject = .uuid u) ∨
    ((∀ p u, c.profile = .entra p → ¬ p.ObjectId u) ∧ c.subject = ofText c.registered.subject) := by
  unfold subject
  cases h : c.profile.objectUuid? with
  | some u =>
    obtain ⟨p, hp, hu⟩ := Profile.objectUuid?_eq_some_iff.mp h
    exact .inl ⟨p, u, hp, hu, rfl⟩
  | none =>
    refine .inr ⟨fun p u hp hu => ?_, rfl⟩
    have hsome := Profile.objectUuid?_eq_some_iff.mpr ⟨p, hp, hu⟩
    rw [h] at hsome
    contradiction

theorem isRead_subject (c : Claims) : c.subject.IsRead := by
  rcases c.subject_cases with ⟨-, u, -, -, h⟩ | ⟨-, h⟩
  · rw [h]
    exact isRead_uuid u
  · exact ⟨_, h.symm⟩

/-- The subject that a caller reads out of the answer. -/
def readSubject? (answer : Json) : Option Subject :=
  ((answer.member? "subject_id").bind text?).map ofText

theorem member?_me (c : Claims) : c.me.member? "subject_id" = some c.subject.json := by
  simp [me, Json.member?, lookup_append, lookup_cons, Registered.lookup_member?]

theorem readSubject?_me (c : Claims) : readSubject? c.me = some c.subject := by
  rw [readSubject?, member?_me]
  exact congrArg some c.isRead_subject.ofText_text

theorem plain_me (c : Claims) : Plain maxDepth c.me := by
  have hmember : ∀ name (s? : Option String),
      ∀ m ∈ Registered.member? name (s?.map .text), Plain 126 m.2 :=
    fun name s? => plain_member? 126 (by simp [Plain])
  show ∀ m : String × Json, m ∈ _ ++ _ ++ _ ++ _ → Plain 126 m.2
  simp only [List.forall_mem_append]
  refine ⟨⟨⟨?_, hmember "email" c.email⟩, hmember "name" c.name⟩, ?_⟩
  · simp [Subject.json, Plain]
  · simp [Plain, plain_ofTexts 125, plain_date]

theorem member?_me_inj (c c' : Claims) :
    c.me.member? "subject_id" = c'.me.member? "subject_id" ↔ c.subject = c'.subject := by
  rw [member?_me, member?_me, ← c.isRead_subject.text_inj c'.isRead_subject]
  simp [Subject.json]

/-- Subjects go out as text and come back as they were. -/
theorem subject_shown_and_read :
    (∀ s, ofText (ofText s).text = ofText s ∧ (ofText s).json = .text (ofText s).text) ∧
    (∀ s t, (ofText s).text = (ofText t).text ↔ ofText s = ofText t) ∧
    (∀ s u, (ofText s).text = u.text ↔ ofText s = .uuid u) ∧
    (∀ s u, ofText s = .uuid u ↔ u.Spells s.toList) ∧
    (∀ s, ofText s = .named s ↔ ∀ u : Uuid, ¬ u.Spells s.toList) ∧
    (∀ s t (u w : Uuid), u.Spells s.toList → w.Spells t.toList →
      (ofText s = ofText t ↔ u.bits = w.bits)) ∧
    (∀ c : Claims, readSubject? c.me = some c.subject ∧
      (Json.ofText? (write c.me)).bind readSubject? = some c.subject) ∧
    (∀ c c' : Claims, c.me.member? "subject_id" = c'.me.member? "subject_id" ↔
      c.subject = c'.subject) ∧
    (∀ c : Claims, (∃ p u, c.profile = .entra p ∧ p.ObjectId u ∧ c.subject = .uuid u) ∨
      ((∀ p u, c.profile = .entra p → ¬ p.ObjectId u) ∧
        c.subject = ofText c.registered.subject)) := by
  refine ⟨fun s => ⟨IsRead.ofText_text ⟨s, rfl⟩, rfl⟩, fun s t => IsRead.text_inj ⟨s, rfl⟩ ⟨t, rfl⟩,
    fun s u => IsRead.text_inj ⟨s, rfl⟩ (isRead_uuid u), fun s u => ofText_eq_uuid_iff,
    fun s => ofText_eq_named_iff, ?_, ?_, member?_me_inj, subject_cases⟩
  · intro s t u w hs ht
    rw [ofText_eq_uuid_iff.mpr hs, ofText_eq_uuid_iff.mpr ht, Subject.uuid.injEq, Uuid.bits_inj]
  · intro c
    refine ⟨c.readSubject?_me, ?_⟩
    rw [ofText?_write c.plain_me]
    exact c.readSubject?_me

/-! ## A UUID in capitals, and braces around digits without hyphens -/

def allOnes : Uuid := ⟨List.replicate 32 (Fin.last 15), rfl⟩

theorem allOnes_shown_alike :
    ofText "urn:uuid:FFFFFFFF-FFFF-FFFF-FFFF-FFFFFFFFFFFF" = ofText "ffffffffffffffffffffffffffffffff" ∧
    ∀ u : Uuid, ¬ u.Spells "\x7bffffffffffffffffffffffffffffffff\x7d".toList := by
  obtain ⟨-, -, -, -, hkept, hspelled, -⟩ := subject_shown_and_read
  refine ⟨(hspelled _ _ allOnes allOnes (.urn ?_) (.plain ?_)).mpr rfl, (hkept _).mp ?_⟩
  · decide
  · decide
  · decide

end Claims

end TokenGate
