import TokenGate.Text.PrintableTable

/-!
# Quoted text for diagnostics

Text between quotes, with everything escaped that a reader could not see: control characters,
marks that would join the character before them, and unassigned code points.
-/

namespace TokenGate.Text

def within (ranges : Array (Nat × Nat)) (c : Char) : Bool :=
  ranges.any fun (first, last) => first ≤ c.toNat && c.toNat ≤ last

/-- A character that is shown as it is. -/
def isPlain (c : Char) : Bool :=
  if c.toNat < 127 then 32 ≤ c.toNat
  else !within extenderRanges c && !within unprintableRanges c

def diagnosticChar (c : Char) : List Char :=
  match c with
  | '\x00' => ['\\', '0']
  | '\t' => ['\\', 't']
  | '\r' => ['\\', 'r']
  | '\n' => ['\\', 'n']
  | '"' => ['\\', '"']
  | '\\' => ['\\', '\\']
  | c =>
    if isPlain c then [c]
    else ['\\', 'u', '\x7b'] ++ Nat.toDigits 16 c.toNat ++ ['\x7d']

def diagnostic (s : String) : String :=
  String.ofList ('"' :: s.toList.flatMap diagnosticChar ++ ['"'])

/-! ## Diagnostics of larger values -/

def diagnosticOption {α : Type} (show1 : α → String) : Option α → String
  | none => "None"
  | some a => "Some(" ++ show1 a ++ ")"

def diagnosticList {α : Type} (show1 : α → String) (items : List α) : String :=
  "[" ++ ", ".intercalate (items.map show1) ++ "]"

def diagnosticRecord (name : String) (parts : List (String × String)) : String :=
  name ++ " \x7b " ++ ", ".intercalate (parts.map fun (field, text) => field ++ ": " ++ text) ++ " \x7d"

/-- Stands in for a text that must not be shown. -/
def redacted : String := diagnostic "[REDACTED]"

end TokenGate.Text
