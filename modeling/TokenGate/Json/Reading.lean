import TokenGate.Json.Form

/-!
# Meaning of JSON forms

A form has a value when its escapes name characters, its numbers are in range, and its lists and
records are not nested too deep.
-/

namespace TokenGate.Json

/-- The characters of a text. Two surrogate units name one character, a lone one names none. -/
def characters? : List Piece → Option (List Char)
  | [] => some []
  | .char c :: rest => (characters? rest).map (c :: ·)
  | .unit hi :: .unit lo :: rest =>
    if 0xD800 ≤ hi ∧ hi < 0xDC00 then
      if 0xDC00 ≤ lo ∧ lo < 0xE000 then
        (characters? rest).map (Char.ofNat (0x10000 + (hi - 0xD800) * 0x400 + (lo - 0xDC00)) :: ·)
      else none
    else if 0xDC00 ≤ hi ∧ hi < 0xE000 then none
    else (characters? (.unit lo :: rest)).map (Char.ofNat hi :: ·)
  | .unit n :: rest =>
    if 0xD800 ≤ n ∧ n < 0xE000 then none else (characters? rest).map (Char.ofNat n :: ·)

def string? (pieces : List Piece) : Option String := (characters? pieces).map String.ofList

/-- A deeper document is not read. -/
def maxDepth : Nat := 127

/-- The value of a form, at `depth` levels above the deepest that is allowed. -/
def Form.value? : (depth : Nat) → Form → Option Json
  | _, .null => some .null
  | _, .bool b => some (.bool b)
  | _, .number d => d.number?.map .number
  | _, .text pieces => (string? pieces).map .text
  | 0, .list _ | 0, .record _ => none
  | depth + 1, .list items => (items.mapM (value? depth)).map .list
  | depth + 1, .record members =>
    (members.mapM fun (m : List Piece × Form) => do
      some (← string? m.1, ← value? depth m.2)).map .record

/-- The whole text is read and checked. -/
def ofText? (s : String) : Option Json := (Form.ofText? s).bind (Form.value? maxDepth)

/-- The members of a document that is read for the names `known` only. The others are skipped. -/
def Form.known? (known : List String) (members : List (List Piece × Form)) :
    Option (List (String × Form)) :=
  members.foldr (fun m rest? => do
    let rest ← rest?
    let name ← string? m.1
    some (if name ∈ known then (name, m.2) :: rest else rest)) (some [])

/-- A document with the fields `names`, in this order: a record, of which unknown members are
skipped and no known one repeats, or a list of the first fields. -/
def Form.fields? (names : List String) (f : Form) : Option (List (Option Form)) :=
  match f with
  | .record members => do
    let found ← known? names members
    names.mapM fun name =>
      match found.filter (·.1 = name) with
      | [] => some none
      | [m] => some (some m.2)
      | _ => none
  | .list items =>
    if items.length ≤ names.length then
      some (items.map some ++ List.replicate (names.length - items.length) none)
    else none
  | _ => none

end TokenGate.Json
