import TokenGate.Text.Basic

/-!
# Hosts

The host of a URL is a name or an address. All its spellings are kept in one form: a name in lower-case
ASCII, an address of four bytes as four decimal numbers, and an address of eight groups in brackets, with
the longest run of zeros left out.
-/

namespace TokenGate.Http

/-- How names that are not plain ASCII are written in ASCII. A name that is not listed cannot be. -/
abbrev HostNames := List (String × String)

namespace Host

/-- The number that these digits write in a base. Without digits that is zero. -/
def number? (base : Nat) (digits : List Char) : Option Nat :=
  digits.foldlM (fun n c => ((Text.hexDigit? c).filter (· < base)).map (n * base + ·)) 0

/-! ## Names -/

/-- The bytes of a text in which a percent sign and two digits stand for a byte. -/
def unescape : List Char → List UInt8
  | [] => []
  | '%' :: high :: low :: rest =>
    match Text.hexDigit? high, Text.hexDigit? low with
    | some high, some low => .ofNat (high * 16 + low) :: unescape rest
    | _, _ => Text.toBytes "%" ++ unescape (high :: low :: rest)
  | c :: rest => Text.toBytes (String.singleton c) ++ unescape rest

def isNameChar (c : Char) : Bool :=
  0x20 < c.toNat && c.toNat < 0x7f && c ∉ "#%/:<>?@[\\]^|".toList

/-- A plain name is its own name in ASCII. Labels that start with `xn--` write other characters. -/
def isPlainName (s : List Char) : Bool :=
  s.all (·.toNat < 0x80) && !(Text.fields '.' (Text.lowerAscii s)).any (·.take 4 == "xn--".toList)

/-- None for a name that has no ASCII form, and for one with a forbidden character. -/
def asciiName? (names : HostNames) (s : List Char) : Option (List Char) :=
  let name := if isPlainName s then some (Text.lowerAscii s)
    else (names.lookup (String.ofList s)).map String.toList
  name.filter fun name => name ≠ [] && name.all isNameChar

/-! ## Addresses of four bytes -/

/-- A part of an address: in octal after a zero, in hexadecimal after `0x`, else in decimal. -/
def part? : List Char → Option Nat
  | [] => none
  | '0' :: 'x' :: digits => number? 16 digits
  | '0' :: digit :: digits => number? 8 (digit :: digits)
  | digits => number? 10 digits

/-- The pieces between dots. One dot at the end does not count. -/
def parts (name : List Char) : List (List Char) :=
  let pieces := Text.fields '.' name
  if pieces.getLast? = some [] then pieces.dropLast else pieces

/-- A name that ends in a number can only be an address. -/
def endsInNumber (name : List Char) : Bool :=
  (parts name).getLast?.any fun last => (last ≠ [] && last.all Char.isDigit) || (part? last).isSome

/-- The bytes of a number, the highest first. -/
def bytes : (count n : Nat) → List Nat
  | 0, _ => []
  | count + 1, n => n / Nat.pow 256 count % 256 :: bytes count n

/-- Each part is a byte, but for the last one, which tells all the bytes that are left. -/
def fourBytes? (name : List Char) : Option (List Nat) := do
  let numbers ← (parts name).mapM part?
  let last ← numbers.getLast?
  let first := numbers.dropLast
  let left := 4 - first.length
  if first.length < 4 ∧ (∀ b ∈ first, b < 256) ∧ last < Nat.pow 256 left then
    some (first ++ bytes left last)
  else none

def dotted (address : List Nat) : List Char :=
  List.intercalate ['.'] (address.map fun b => (toString b).toList)

/-! ## Addresses of eight groups -/

def group? (s : List Char) : Option Nat :=
  if s ≠ [] ∧ s.length ≤ 4 then number? 16 s else none

def byte? (s : List Char) : Option Nat :=
  if s ≠ [] ∧ (s.head? = some '0' → s = ['0']) then (number? 10 s).filter (· < 256) else none

/-- Two groups, written as four bytes in decimal. -/
def dottedGroups? (s : List Char) : Option (List Nat) := do
  match ← (Text.fields '.' s).mapM byte? with
  | [a, b, c, d] => some [a * 256 + b, c * 256 + d]
  | _ => none

/-- Groups between colons, none if nothing is written. The last two may be written as bytes. -/
def groups? (s : List Char) : Option (List Nat) :=
  if s = [] then some [] else ofPieces (Text.fields ':' s)
where
  ofPieces : List (List Char) → Option (List Nat)
    | [] => some []
    | [last] => ((group? last).map fun g => [g]) <|> dottedGroups? last
    | piece :: rest => do return (← group? piece) :: (← ofPieces rest)

/-- What stands before and after the first two colons in a row. -/
def splitGap : List Char → Option (List Char × List Char)
  | [] => none
  | ':' :: ':' :: rest => some ([], rest)
  | c :: rest => (splitGap rest).map fun (before, after) => (c :: before, after)

/-- Two colons stand for as many groups of zero as are missing, one at least. -/
def eightGroups? (s : List Char) : Option (List Nat) :=
  match splitGap s with
  | none => (groups? s).filter (·.length == 8)
  | some (before, after) => do
    let before ← if '.' ∈ before then none else groups? before
    let after ← groups? after
    if before.length + after.length < 8 then
      some (before ++ List.replicate (8 - before.length - after.length) 0 ++ after)
    else none

/-- Where the longest run of zeros starts, and its length. Of two equal runs it is the first. -/
def longestGap (address : List Nat) : Nat × Nat :=
  (List.range address.length).foldl (fun longest start =>
    let length := ((address.drop start).takeWhile (· == 0)).length
    if longest.2 < length then (start, length) else longest) (0, 0)

/-- An address of eight groups, as it is kept. A single zero is not left out. -/
def bracketed (address : List Nat) : List Char :=
  let hex (groups : List Nat) := List.intercalate [':'] (groups.map (Nat.toDigits 16))
  let (start, length) := longestGap address
  '[' :: (if length < 2 then hex address
    else hex (address.take start) ++ "::".toList ++ hex (address.drop (start + length))) ++ [']']

/-! ## Reading -/

/-- What stands in brackets can only be an address of eight groups. -/
def bracketed? (s : List Char) : Option (List Char) :=
  if s.getLast? = some ']' then (eightGroups? (s.drop 1).dropLast).map bracketed else none

/-- The host of a URL that has to have one. -/
def ofText? (names : HostNames) (s : List Char) : Option (List Char) :=
  if s.head? = some '[' then bracketed? s
  else do
    let name ← asciiName? names (← Text.ofBytes? (unescape s)).toList
    if endsInNumber name then (fourBytes? name).map dotted else some name

end Host

end TokenGate.Http
