import TokenGate.Number.Decimal

/-!
# JSON values

A record keeps its members in the order of the document, repeated names included. Where a name may
repeat, the last member counts. A reader that refuses repeats asks for the name with `once?`.
-/

namespace TokenGate

/-- Numbers have been read, and escapes resolved. -/
inductive Json
  | null
  | bool (b : Bool)
  | number (n : Number)
  | text (s : String)
  | list (items : List Json)
  | record (members : List (String × Json))

namespace Json

/-- The value of a name. The last one counts. -/
def lookup (name : String) (members : List (String × Json)) : Option Json :=
  members.foldl (fun found m => if m.1 = name then some m.2 else found) none

/-- The value of a name that may appear at most once. Outer none: it appears twice. -/
def once? (name : String) (members : List (String × Json)) : Option (Option Json) :=
  match members.filter (·.1 = name) with
  | [] => some none
  | [m] => some (some m.2)
  | _ => none

/-- The last member of a record with this name. None for other values. -/
def member? (name : String) : Json → Option Json
  | record members => lookup name members
  | _ => none

def text? : Json → Option String
  | text s => some s
  | _ => none

def list? : Json → Option (List Json)
  | list items => some items
  | _ => none

def record? : Json → Option (List (String × Json))
  | record members => some members
  | _ => none

def isNull : Json → Bool
  | null => true
  | _ => false

/-- A list of texts, and of nothing else. -/
def texts? (v : Json) : Option (List String) := v.list?.bind (·.mapM text?)

/-- Reads a member that may be absent or null. Outer none: it is there and cannot be read. -/
def optional {α : Type} (read : Json → Option α) : Option Json → Option (Option α)
  | none | some null => some none
  | some v => (read v).map some

def ofInt (n : Int) : Json := number (.int n)

def ofNat (n : Nat) : Json := number (.int n)

/-- Null for nothing. -/
def ofOption (s? : Option String) : Json := s?.elim null text

def ofTexts (ss : List String) : Json := list (ss.map text)

theorem lookup_append (name : String) (a b : List (String × Json)) :
    lookup name (a ++ b) = (lookup name b).or (lookup name a) := by
  have later (found : Option Json) (ms : List (String × Json)) :
      ms.foldl (fun found m => if m.1 = name then some m.2 else found) found
        = (lookup name ms).or found := by
    induction ms generalizing found with
    | nil => simp [lookup]
    | cons m ms ih =>
      simp only [lookup, List.foldl_cons]
      rw [ih, ih (if m.1 = name then some m.2 else none)]
      split <;> simp
  rw [lookup, List.foldl_append, later]
  rfl

theorem texts?_ofTexts (ss : List String) : (ofTexts ss).texts? = some ss := by
  simp only [texts?, ofTexts, list?, Option.bind_some]
  induction ss with
  | nil => rfl
  | cons s ss ih => simp [List.mapM_cons, ih, text?]

end Json

end TokenGate
