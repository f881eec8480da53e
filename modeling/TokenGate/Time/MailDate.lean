import TokenGate.Text.Basic

/-!
# Dates in header fields

A date is read in the syntax of mail, and counted in days of the Gregorian calendar from the first of
January 1970.
-/

namespace TokenGate.Calendar

def isLeap (year : Int) : Bool := year % 4 == 0 && (year % 100 != 0 || year % 400 == 0)

def daysInMonth (year : Int) (month : Nat) : Nat :=
  match month with
  | 2 => if isLeap year then 29 else 28
  | 4 | 6 | 9 | 11 => 30
  | _ => 31

/-- The day number of a date. Years begin in March here, so that a leap day is the last of its year. -/
def dayNumber (year : Int) (month day : Nat) : Int :=
  let y := if month ≤ 2 then year - 1 else year
  let m := (month + 9) % 12
  let era := y / 400
  let yearOfEra := y % 400
  let dayOfYear : Int := (153 * m + 2) / 5 + day - 1
  era * 146097 + yearOfEra * 365 + yearOfEra / 4 - yearOfEra / 100 + dayOfYear - 719468

/-- Sunday is zero. -/
def weekday (dayNumber : Int) : Int := (dayNumber + 4) % 7

example : dayNumber 1970 1 1 = 0 := by decide
example : dayNumber 2000 3 1 = 11017 := by decide
example : weekday (dayNumber 2015 10 21) = 3 := by decide

end TokenGate.Calendar

/-!
## Dates as mail and HTTP write them

`Wed, 21 Oct 2015 07:28:00 GMT`, in the wider syntax of mail: the weekday may be missing but not
wrong, the year may be short, zones may be names or offsets, and a comment may follow.
-/

namespace TokenGate.MailDate

open Text (isBlank digit?)

def skipBlanks (s : List Char) : List Char := s.dropWhile isBlank

def blanks? (s : List Char) : Option (List Char) :=
  match s with
  | c :: rest => if isBlank c then some (skipBlanks rest) else none
  | [] => none

/-- A number of so many digits, the count of its digits, and what follows. Further digits are left. -/
def number? (least most : Nat) (s : List Char) : Option (Nat × Nat × List Char) :=
  let digits := (s.take most).takeWhile Char.isDigit
  if digits.length < least then none
  else
    some (digits.foldl (fun n c => n * 10 + (c.toNat - 48)) 0, digits.length, s.drop digits.length)

def char? (c : Char) : List Char → Option (List Char)
  | d :: rest => if d = c then some rest else none
  | [] => none

/-- Names are of three letters, in any case. -/
def name? (names : List String) (s : List Char) : Option (Nat × List Char) :=
  match s with
  | a :: b :: c :: rest =>
    (names.findIdx? (·.toList == Text.lowerAscii [a, b, c])).map fun i => (i, rest)
  | _ => none

def dayNames : List String := ["sun", "mon", "tue", "wed", "thu", "fri", "sat"]

def monthNames : List String :=
  ["jan", "feb", "mar", "apr", "may", "jun", "jul", "aug", "sep", "oct", "nov", "dec"]

/-- Short years: two digits below 50 are of this century, other short ones count from 1900. -/
def fullYear (digits year : Nat) : Nat :=
  if digits = 2 ∧ year < 50 then year + 2000
  else if digits = 2 ∨ digits = 3 then year + 1900
  else year

/-- Military zones, of one letter, count as Greenwich. There is no zone J. -/
def zoneHours? (name : List Char) : Option Int :=
  match String.ofList (Text.lowerAscii name) with
  | "gmt" | "ut" | "z" => some 0
  | "edt" => some (-4)
  | "est" | "cdt" => some (-5)
  | "cst" | "mdt" => some (-6)
  | "mst" | "pdt" => some (-7)
  | "pst" => some (-8)
  | _ =>
    match name with
    | [c] => if c.toLower ≠ 'j' then some 0 else none
    | _ => none

/-- The offset in seconds. -/
def zone? (s : List Char) : Option (Int × List Char) :=
  let name := s.takeWhile Char.isAlpha
  if name ≠ [] then (zoneHours? name).map fun h => (h * 3600, s.drop name.length)
  else
    match s with
    | sign :: h1 :: h2 :: m1 :: m2 :: rest => do
      let h1 ← digit? h1
      let h2 ← digit? h2
      let m1 ← digit? m1
      let m2 ← digit? m2
      let seconds : Int := (h1 * 10 + h2) * 3600 + (m1 * 10 + m2) * 60
      if 6 ≤ m1 ∨ 86400 ≤ seconds then none
      else if sign = '+' then some (seconds, rest)
      else if sign = '-' then some (-seconds, rest)
      else none
    | _ => none

/-- What follows a comment of so many open brackets. A backslash takes the next character with it. -/
def afterComment? : (depth : Nat) → (escaped : Bool) → List Char → Option (List Char)
  | _, _, [] => none
  | depth, true, _ :: rest => afterComment? depth false rest
  | depth, false, c :: rest =>
    if c = '\\' then afterComment? depth true rest
    else if c = '(' then afterComment? (depth + 1) false rest
    else if c = ')' then if depth ≤ 1 then some rest else afterComment? (depth - 1) false rest
    else afterComment? depth false rest

/-- Is there nothing else? -/
def onlyComments : (fuel : Nat) → List Char → Bool
  | _, [] => true
  | 0, _ => false
  | fuel + 1, s =>
    match skipBlanks s with
    | '(' :: rest => (afterComment? 1 false rest).any (onlyComments fuel)
    | _ => false

def weekday? (s : List Char) : Option (Option Nat × List Char) :=
  match name? dayNames s with
  | none => some (none, s)
  | some (day, rest) => (char? ',' rest).map fun rest => (some day, rest)

/-- Seconds may be left out, with their colon. -/
def secondsOfMinute? (s : List Char) : Option (Nat × List Char) :=
  match char? ':' (skipBlanks s) with
  | none => some (0, s)
  | some s => do
    let (second, _, s) ← number? 2 2 s
    some (second, s)

/-- The calendar ends with this year. -/
def lastYear : Nat := 262142

/-- The Unix second of a date. A second numbered 60 is the first one of the next minute. -/
def read? (text : List Char) : Option Int := do
  let (weekday, s) ← weekday? (skipBlanks text)
  let (day, _, s) ← number? 1 2 (skipBlanks s)
  let s ← blanks? s
  let (month, s) ← name? monthNames s
  let s ← blanks? s
  let (year, digits, s) ← number? 2 s.length s
  let year := fullYear digits year
  let s ← blanks? s
  let (hour, _, s) ← number? 2 2 s
  let s ← char? ':' (skipBlanks s)
  let (minute, _, s) ← number? 2 2 (skipBlanks s)
  let (second, s) ← secondsOfMinute? s
  let s ← blanks? s
  let (offset, s) ← zone? s
  let number := Calendar.dayNumber year (month + 1) day
  if onlyComments s.length s ∧ 1 ≤ day ∧ day ≤ Calendar.daysInMonth year (month + 1)
      ∧ year ≤ lastYear ∧ hour < 24 ∧ minute < 60 ∧ second ≤ 60
      ∧ weekday.all (fun d => (d : Int) = Calendar.weekday number) then
    some (number * 86400 + hour * 3600 + minute * 60 + second - offset)
  else none

end TokenGate.MailDate
