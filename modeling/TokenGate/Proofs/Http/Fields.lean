import TokenGate.Http.Message
import TokenGate.Proofs.Text.Words

/-!
# Fields of one name

A name stands for itself in whatever case. Where a name has several lines, the first of them is the one
that is read.
-/

namespace TokenGate.Http.Fields

def isNamed (name : String) (f : String × String) : Bool :=
  Text.sameIgnoringCase f.1.toList name.toList

/-- The values of all lines of a name, in order. -/
def lines (fields : Fields) (name : String) : List String := (fields.filter (isNamed name)).map (·.2)

def others (fields : Fields) (name : String) : Fields := fields.filter fun f => !isNamed name f

/-- `value` is what the first line of the name says. -/
def Begins (fields : Fields) (name value : String) : Prop :=
  ∃ before own after, fields = before ++ (own, value) :: after ∧ isNamed name (own, value) ∧
    ∀ f ∈ before, ¬ isNamed name f

variable {fields : Fields} {name other value : String}

theorem first?_eq_head? (fields : Fields) (name : String) :
    fields.first? name = (fields.lines name).head? := by
  unfold first? lines isNamed
  rw [List.head?_map, List.head?_filter]

theorem first?_others (fields : Fields)
    (apart : ¬ Text.sameIgnoringCase name.toList other.toList) :
    (fields.others name).first? other = fields.first? other := by
  have kept (f : String × String) (named : isNamed other f) : ¬ isNamed name f := by
    intro named'
    unfold isNamed Text.sameIgnoringCase at *
    simp only [beq_iff_eq] at *
    exact apart (named'.symm.trans named)
  have both : (fun f => decide (!isNamed name f ∧ isNamed other f)) = isNamed other := by
    funext f
    by_cases named : isNamed other f
    · simp [named, kept f named]
    · simp [named]
  change ((fields.others name).find? (isNamed other)).map (·.2) = (fields.find? (isNamed other)).map (·.2)
  rw [others, List.find?_filter, both]

theorem first?_eq_some_iff : fields.first? name = some value ↔ fields.Begins name value := by
  change (fields.find? (isNamed name)).map (·.2) = some value ↔ _
  rw [Option.map_eq_some_iff]
  constructor
  · rintro ⟨⟨own, _⟩, found, rfl⟩
    obtain ⟨named, before, after, split, others⟩ := List.find?_eq_some_iff_append.1 found
    exact ⟨before, own, after, split, named, by simpa using others⟩
  · rintro ⟨before, own, after, rfl, named, others⟩
    refine ⟨(own, value), List.find?_eq_some_iff_append.2 ⟨named, before, after, rfl, ?_⟩, rfl⟩
    simpa using others

theorem first?_eq_none_iff : fields.first? name = none ↔ ∀ f ∈ fields, ¬ isNamed name f := by
  change (fields.find? (isNamed name)).map (·.2) = none ↔ _
  rw [Option.map_eq_none_iff, List.find?_eq_none]

/-! ## Values that can be read -/

theorem visible?_eq_some_iff {text : List Char} :
    visible? value = some text ↔ (∀ c ∈ value.toList, isVisible c) ∧ value.toList = text := by
  unfold visible?
  rw [Option.ite_none_right_eq_some, List.all_eq_true, Option.some_inj]

theorem isVisible_toLower (c : Char) : isVisible c.toLower = isVisible c := by
  refine Text.apply_toLower (b := true) (fun c alpha => ?_) c
  obtain ⟨least, most⟩ := Text.toNat_of_isAlpha alpha
  simp only [isVisible, Bool.or_eq_true, Bool.and_eq_true, decide_eq_true_eq]
  omega

end TokenGate.Http.Fields
