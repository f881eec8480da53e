import TokenGate.Json.Basic
import TokenGate.Text.Basic

/-!
# Subjects

A subject is the stable name of a caller. Providers that name callers by UUID may spell it in any
case, so a UUID is kept as such. Every other name is kept as it is.
-/

/-!
## UUIDs

Thirty-two hexadecimal digits. They are read in four spellings and written in one.
-/

namespace TokenGate

/-- The digits alone. Hyphens, braces and letter case are a matter of spelling. -/
structure Uuid where
  digits : List (Fin 16)
  length_eq : digits.length = 32
  deriving DecidableEq

namespace Uuid

def hexDigit? (c : Char) : Option (Fin 16) :=
  if '0' ≤ c ∧ c ≤ '9' then some (Fin.ofNat 16 (c.toNat - 48))
  else if 'a' ≤ c ∧ c ≤ 'f' then some (Fin.ofNat 16 (c.toNat - 87))
  else if 'A' ≤ c ∧ c ≤ 'F' then some (Fin.ofNat 16 (c.toNat - 55))
  else none

def hexChar (d : Fin 16) : Char :=
  if d < 10 then Char.ofNat (d + 48) else Char.ofNat (d + 87)

def ofPlain? (s : List Char) : Option Uuid := do
  let digits ← s.mapM hexDigit?
  if h : digits.length = 32 then some ⟨digits, h⟩ else none

def ofHyphenated? (s : List Char) : Option Uuid :=
  let groups := Text.fields '-' s
  if groups.map List.length = [8, 4, 4, 4, 12] then ofPlain? groups.flatten else none

def braced? : List Char → Option (List Char)
  | '{' :: rest => if rest.getLast? = some '}' then some rest.dropLast else none
  | _ => none

def urnPrefix : List Char := "urn:uuid:".toList

/-- The text after `urn:uuid:`, in any case. -/
def urn? (s : List Char) : Option (List Char) :=
  if Text.sameIgnoringCase (s.take urnPrefix.length) urnPrefix then some (s.drop urnPrefix.length)
  else none

/-- A text of just 32 characters can only be a plain spelling. -/
def ofText? (text : String) : Option Uuid :=
  let s := text.toList
  if s.length = 32 then ofPlain? s
  else ofHyphenated? ((braced? s).getD ((urn? s).getD s))

/-- The one spelling in which they are written: small letters with hyphens. -/
def text (u : Uuid) : String :=
  let s := u.digits.map hexChar
  String.ofList (s.take 8 ++ '-' :: (s.drop 8).take 4 ++ '-' :: (s.drop 12).take 4
    ++ '-' :: (s.drop 16).take 4 ++ '-' :: s.drop 20)

end Uuid

/-! ## Names of callers -/

/-- Two spellings of a UUID are one subject. -/
inductive Subject
  | uuid (id : Uuid)
  | named (name : String)
  deriving DecidableEq

namespace Subject

def ofText (s : String) : Subject := (Uuid.ofText? s).elim (named s) uuid

def uuid? : Subject → Option Uuid
  | uuid id => some id
  | named _ => none

def text : Subject → String
  | uuid id => id.text
  | named name => name

def json (s : Subject) : Json := .text s.text

end Subject

end TokenGate
