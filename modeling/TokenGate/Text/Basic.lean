/-!
# Reading text

Text is read as a list of characters, so that what stands left and right of a place is plain data.
-/

namespace TokenGate.Text

/-! ## Cutting text -/

def cut (sep : Char) : List Char → List Char × List (List Char)
  | [] => ([], [])
  | c :: rest =>
    let (first, others) := cut sep rest
    if c = sep then ([], first :: others) else (c :: first, others)

/-- The pieces between separators: always one piece more than there are separators. -/
def fields (sep : Char) (s : List Char) : List (List Char) :=
  (cut sep s).1 :: (cut sep s).2

def splitOnce (sep : Char) : List Char → Option (List Char × List Char)
  | [] => none
  | c :: rest =>
    if c = sep then some ([], rest)
    else (splitOnce sep rest).map fun (before, after) => (c :: before, after)

def trimEnd (p : Char → Bool) (s : List Char) : List Char :=
  (s.reverse.dropWhile p).reverse

def trim (p : Char → Bool) (s : List Char) : List Char :=
  trimEnd p (s.dropWhile p)

/-- What follows `lead`. None for a text that starts otherwise. -/
def after? : (lead s : List Char) → Option (List Char)
  | [], s => some s
  | _ :: _, [] => none
  | l :: lead, c :: s => if l = c then after? lead s else none

/-- Only the letters of ASCII have case here. -/
def lowerAscii (s : List Char) : List Char := s.map Char.toLower

def sameIgnoringCase (a b : List Char) : Bool := lowerAscii a == lowerAscii b

/-- Space and tab: the only blanks that a visible header value can hold. -/
def isSpaceOrTab (c : Char) : Bool := c == ' ' || c == '\t'

theorem fields_ne_nil (sep : Char) (s : List Char) : fields sep s ≠ [] := by
  simp [fields]

/-!
## Blank characters

The characters with the White_Space property of Unicode.
-/

def isBlank (c : Char) : Bool :=
  let n := c.toNat
  (9 ≤ n && n ≤ 13) || n == 0x20 || n == 0x85 || n == 0xA0 || n == 0x1680
    || (0x2000 ≤ n && n ≤ 0x200A) || n == 0x2028 || n == 0x2029 || n == 0x202F
    || n == 0x205F || n == 0x3000

/-- Blanks within the text stay. -/
def stripBlanks (s : String) : String := String.ofList (trim isBlank s.toList)

/-!
## Digits

Reading a natural number below a limit. Reading goes from left to right, and the first character
that is no digit, or that carries the number over the limit, decides the fault. Hexadecimal digits are
read in either case.
-/

/-- The first thing that is wrong with a written number. -/
inductive NumberFault
  | empty
  | digit
  | tooLarge
  deriving DecidableEq, Repr

def NumberFault.message : NumberFault → String
  | .empty => "cannot parse integer from empty string"
  | .digit => "invalid digit found in string"
  | .tooLarge => "number too large to fit in target type"

def digit? (c : Char) : Option Nat :=
  if c.isDigit then some (c.toNat - '0'.toNat) else none

/-- Reads on from `n`. -/
def readDigits (limit : Nat) : (n : Nat) → List Char → Except NumberFault Nat
  | n, [] => .ok n
  | n, c :: rest =>
    match digit? c with
    | none => .error .digit
    | some d => if n * 10 + d < limit then readDigits limit (n * 10 + d) rest else .error .tooLarge

/-- A natural number below `limit`. One plus sign may stand in front. -/
def readNatBelow (limit : Nat) : List Char → Except NumberFault Nat
  | [] => .error .empty
  | ['+'] => .error .digit
  | '+' :: digits => readDigits limit 0 digits
  | digits => readDigits limit 0 digits

/-- The first number that 64 bits cannot hold. -/
def wordLimit : Nat := Nat.pow 2 64

def hexDigit? (c : Char) : Option Nat :=
  if c.isDigit then some (c.toNat - '0'.toNat)
  else if 'a' ≤ c ∧ c ≤ 'f' then some (c.toNat - 'a'.toNat + 10)
  else if 'A' ≤ c ∧ c ≤ 'F' then some (c.toNat - 'A'.toNat + 10)
  else none

/-!
## UTF-8

Text as bytes, and bytes as text where they are well formed.
-/

def toBytes (s : String) : List UInt8 := s.toUTF8.data.toList

/-- None for bytes that are not UTF-8. -/
def ofBytes? (bytes : List UInt8) : Option String := String.fromUTF8? ⟨bytes.toArray⟩

end TokenGate.Text
