import TokenGate.Json.Reading
import TokenGate.Proofs.Readers

/-!
# Members by name

A reader that takes a whole document and one that picks the names it knows look at the same members. A
name is the same however its characters are spelled.
-/

namespace TokenGate.Json

namespace Form

/-- The values of the members with a name. -/
def named (name : String) (members : List (List Piece × Form)) : List Form :=
  (members.filter (string? ·.1 = some name)).map (·.2)

def member? (depth : Nat) (m : List Piece × Form) : Option (String × Json) := do
  some (← string? m.1, ← value? depth m.2)

variable {depth : Nat} {name s : String} {f : Form} {v : Json}
  {members : List (List Piece × Form)} {values : List (String × Json)}

theorem member?_eq_some_iff {m : List Piece × Form} {m' : String × Json} :
    member? depth m = some m' ↔ string? m.1 = some m'.1 ∧ value? depth m.2 = some m'.2 := by
  unfold member?
  cases string? m.1 <;> cases value? depth m.2 <;> simp [Prod.ext_iff]

theorem value?_record (depth : Nat) (members : List (List Piece × Form)) :
    value? (depth + 1) (.record members) = (members.mapM (member? depth)).map .record := by
  rw [value?]
  rfl

theorem value?_eq_text_iff : value? depth f = some (.text s) ↔
    ∃ pieces, f = .text pieces ∧ string? pieces = some s := by
  constructor
  · intro h
    cases f with
    | text pieces =>
      rw [value?, Option.map_eq_some_iff] at h
      obtain ⟨s', read, same⟩ := h
      obtain rfl := Json.text.inj same
      exact ⟨pieces, rfl, read⟩
    | list | record => cases depth <;> simp [value?] at h
    | _ => simp [value?] at h
  · rintro ⟨pieces, rfl, read⟩
    rw [value?, read]
    rfl

theorem value?_eq_null_iff : value? depth f = some .null ↔ f = .null := by
  constructor
  · intro h
    cases f with
    | null => rfl
    | list | record => cases depth <;> simp [value?] at h
    | _ => simp [value?] at h
  · rintro rfl
    rw [value?]

/-- Reading keeps the members of each name. -/
theorem forall₂_named (read : members.mapM (member? depth) = some values) (name : String) :
    List.Forall₂ (fun f v => value? depth f = some v) (named name members)
      ((values.filter (·.1 = name)).map (·.2)) := by
  induction members generalizing values with
  | nil =>
    obtain rfl : [] = values := by simpa using read
    exact .nil
  | cons m rest ih =>
    rw [List.mapM_cons] at read
    obtain ⟨m', first, read⟩ := Option.bind_eq_some_iff.1 read
    obtain ⟨rest', others, read⟩ := Option.bind_eq_some_iff.1 read
    obtain rfl := Option.some.inj read
    obtain ⟨spelled, value⟩ := member?_eq_some_iff.1 first
    unfold named at ih ⊢
    by_cases mine : m'.1 = name
    · simp only [List.filter_cons, spelled, mine, decide_true, if_true, List.map_cons]
      exact .cons value (ih others)
    · simp only [List.filter_cons, spelled, mine, Option.some.injEq, decide_false, if_false,
        Bool.false_eq_true]
      exact ih others

theorem once?_of_named (read : members.mapM (member? depth) = some values)
    (once : named name members = [f]) :
    ∃ v, value? depth f = some v ∧ once? name values = some (some v) := by
  have same := forall₂_named read name
  rw [once] at same
  generalize there : (values.filter (·.1 = name)).map (·.2) = vs at same
  cases same with
  | cons value none =>
    cases none
    obtain ⟨m, one, rfl⟩ := List.map_eq_singleton_iff.1 there
    refine ⟨m.2, value, ?_⟩
    unfold once?
    rw [one]

theorem once?_of_unnamed (read : members.mapM (member? depth) = some values)
    (absent : named name members = []) : once? name values = some none := by
  have same := forall₂_named read name
  rw [absent] at same
  generalize there : (values.filter (·.1 = name)).map (·.2) = vs at same
  cases same
  unfold once?
  rw [List.map_eq_nil_iff.1 there]

theorem named_of_once? {v? : Option Json} (read : members.mapM (member? depth) = some values)
    (once : once? name values = some v?) :
    List.Forall₂ (fun f v => value? depth f = some v) (named name members) v?.toList := by
  have same := forall₂_named read name
  unfold once? at once
  split at once
  · rename_i absent
    obtain rfl := Option.some.inj once
    rwa [absent] at same
  · rename_i m one
    obtain rfl := Option.some.inj once
    rwa [one] at same
  · cases once

/-! ## Documents that are read for some names -/

variable {names : List String} {found : List (String × Form)} {fs : List (Option Form)}

theorem isSome_known?_iff (names : List String) (members : List (List Piece × Form)) :
    (known? names members).isSome ↔ ∀ m ∈ members, (string? m.1).isSome := by
  induction members with
  | nil => simp [known?]
  | cons m rest ih =>
    rw [List.forall_mem_cons, ← ih]
    unfold known?
    rw [List.foldr_cons]
    cases rest.foldr _ _ <;> cases string? m.1 <;> simp

theorem filter_of_known? (read : known? names members = some found) {name : String} (known : name ∈ names) :
    (found.filter (·.1 = name)).map (·.2) = named name members := by
  induction members generalizing found with
  | nil =>
    obtain rfl := Option.some.inj read
    rfl
  | cons m rest ih =>
    unfold known? at read
    rw [List.foldr_cons] at read
    obtain ⟨found', others, read⟩ := Option.bind_eq_some_iff.1 read
    obtain ⟨name', spelled, read⟩ := Option.bind_eq_some_iff.1 read
    obtain rfl := Option.some.inj read
    have rest := ih others
    unfold named at rest ⊢
    by_cases mine : name' = name
    · subst mine
      simp [known, spelled, rest]
    · rw [List.filter_cons_of_neg (by simp [spelled, mine]), ← rest]
      split
      · rw [List.filter_cons_of_neg (by simp [mine])]
      · rfl

/-- The members of a record that is read for some names: all names are spelled out, and none that is
looked for is there twice. -/
theorem fields?_record_eq_some_iff : fields? names (.record members) = some fs ↔
    (∀ m ∈ members, (string? m.1).isSome) ∧
      List.Forall₂ (fun name f? => named name members = f?.toList) names fs := by
  unfold fields?
  simp only [Option.bind_eq_bind, Option.bind_eq_some_iff, mapM_eq_some_iff]
  rw [← isSome_known?_iff names, Option.isSome_iff_exists]
  constructor
  · rintro ⟨found, read, picked⟩
    refine ⟨⟨found, read⟩, ((List.forall₂_and_left names fs).2 ⟨fun _ => id, picked⟩).imp ?_⟩
    rintro name f? ⟨known, picked⟩
    rw [← filter_of_known? read known]
    split at picked
    · rename_i absent
      obtain rfl := Option.some.inj picked
      rw [absent]
      rfl
    · rename_i one
      obtain rfl := Option.some.inj picked
      rw [one]
      rfl
    · cases picked
  · rintro ⟨⟨found, read⟩, given⟩
    refine ⟨found, read, ((List.forall₂_and_left names fs).2 ⟨fun _ => id, given⟩).imp ?_⟩
    rintro name f? ⟨known, given⟩
    rw [← filter_of_known? read known] at given
    cases f? with
    | none => rw [List.map_eq_nil_iff.1 given]
    | some f =>
      obtain ⟨m, one, rfl⟩ := List.map_eq_singleton_iff.1 given
      rw [one]

end Form

end TokenGate.Json
