import TokenGate.Json.Basic
import TokenGate.Text.Basic

/-!
# The grammar of JSON text

A `Form` is the shape of a JSON text: numbers are still digits, and escapes are still escapes. The
text is read one character at a time, by a machine with a stack of open lists and records. What a
form means is settled later, and only where the meaning is asked for: a reader that skips a member
checks no more than its grammar.
-/

namespace TokenGate.Json

/-- A character of a text, or an escape that names one UTF-16 unit. -/
inductive Piece
  | char (c : Char)
  | unit (n : Nat)
  deriving DecidableEq, Repr

/-- Lists and records may nest as deep as they like here. -/
inductive Form
  | null
  | bool (b : Bool)
  | number (d : Decimal)
  | text (pieces : List Piece)
  | list (items : List Form)
  | record (members : List (List Piece × Form))

/-- An open list or record around the reading place. What is done stands last first. -/
inductive Frame
  | list (done : List Form)
  | record (done : List (List Piece × Form))
  | member (done : List (List Piece × Form)) (name : List Piece)

/-- How far a number has been read. Its digits stand last first. -/
inductive NumberMode
  | sign
  | whole
  | point
  | fraction
  | mark
  | markSign
  | power
  deriving DecidableEq, Repr

/-- A number may end after a digit only. -/
def NumberMode.mayEnd : NumberMode → Bool
  | .whole | .fraction | .power => true
  | _ => false

/-- What the next character belongs to. In a text, `isName` says that it is the name of a member. -/
inductive Mode
  | value
  | firstItem
  | firstName
  | name
  | colon
  | after (v : Form)
  | word (rest : List Char) (v : Form)
  | text (isName : Bool) (done : List Piece)
  | escape (isName : Bool) (done : List Piece)
  | hex (isName : Bool) (done : List Piece) (missing : Nat) (unit : Nat)
  | number (mode : NumberMode) (draft : Decimal)

/-- What is open around the reading place stands in the stack, the innermost first. -/
structure Reader where
  mode : Mode
  stack : List Frame

namespace Reader

def initial : Reader := ⟨.value, []⟩

def isSpace (c : Char) : Bool := c == ' ' || c == '\t' || c == '\n' || c == '\r'

def escape? : Char → Option Char
  | '"' => some '"'
  | '\\' => some '\\'
  | '/' => some '/'
  | 'b' => some '\x08'
  | 'f' => some '\x0c'
  | 'n' => some '\n'
  | 'r' => some '\r'
  | 't' => some '\t'
  | _ => none

/-- The first character of a value says what kind of value it is. -/
def startValue (stack : List Frame) (c : Char) : Option Reader :=
  match c with
  | '{' => some ⟨.firstName, .record [] :: stack⟩
  | '[' => some ⟨.firstItem, .list [] :: stack⟩
  | '"' => some ⟨.text false [], stack⟩
  | '-' => some ⟨.number .sign ⟨true, [], [], none⟩, stack⟩
  | 't' => some ⟨.word ['r', 'u', 'e'] (.bool true), stack⟩
  | 'f' => some ⟨.word ['a', 'l', 's', 'e'] (.bool false), stack⟩
  | 'n' => some ⟨.word ['u', 'l', 'l'] .null, stack⟩
  | c => (Text.digit? c).map fun d => ⟨.number .whole ⟨false, [d], [], none⟩, stack⟩

/-- A value is followed by a comma, or by the end of what it stands in. -/
def afterValue (stack : List Frame) (v : Form) (c : Char) : Option Reader :=
  if isSpace c then some ⟨.after v, stack⟩
  else match stack, c with
    | .list done :: outer, ',' => some ⟨.value, .list (v :: done) :: outer⟩
    | .list done :: outer, ']' => some ⟨.after (.list (v :: done).reverse), outer⟩
    | .member done n :: outer, ',' => some ⟨.name, .record ((n, v) :: done) :: outer⟩
    | .member done n :: outer, '}' => some ⟨.after (.record ((n, v) :: done).reverse), outer⟩
    | _, _ => none

/-- What follows a text depends on whether it was a value or a name. -/
def endText (stack : List Frame) (isName : Bool) (done : List Piece) : Option Reader :=
  match isName, stack with
  | false, stack => some ⟨.after (.text done.reverse), stack⟩
  | true, .record members :: outer => some ⟨.colon, .member members done.reverse :: outer⟩
  | true, _ => none

def finished (draft : Decimal) : Form :=
  .number { draft with
    whole := draft.whole.reverse
    fraction := draft.fraction.reverse
    exponent := draft.exponent.map fun (negative, digits) => (negative, digits.reverse) }

/-- The next place in a number, if `c` carries it on. A leading zero has no digit after it. -/
def goOnNumber (mode : NumberMode) (draft : Decimal) (c : Char) : Option (NumberMode × Decimal) :=
  match mode, Text.digit? c with
  | .sign, some d => some (.whole, { draft with whole := [d] })
  | .whole, some d =>
    if draft.whole = [0] then none else some (.whole, { draft with whole := d :: draft.whole })
  | .point, some d | .fraction, some d =>
    some (.fraction, { draft with fraction := d :: draft.fraction })
  | .mark, some d => some (.power, { draft with exponent := some (false, [d]) })
  | .markSign, some d | .power, some d =>
    some (.power, { draft with exponent := draft.exponent.map fun (s, ds) => (s, d :: ds) })
  | .whole, none =>
    if c = '.' then some (.point, draft)
    else if c = 'e' ∨ c = 'E' then some (.mark, draft)
    else none
  | .fraction, none => if c = 'e' ∨ c = 'E' then some (.mark, draft) else none
  | .mark, none =>
    if c = '+' then some (.markSign, { draft with exponent := some (false, []) })
    else if c = '-' then some (.markSign, { draft with exponent := some (true, []) })
    else none
  | _, none => none

/-- One character. None if it cannot stand here. -/
def step (r : Reader) (c : Char) : Option Reader :=
  match r.mode with
  | .value => if isSpace c then some r else startValue r.stack c
  | .firstItem =>
    if isSpace c then some r
    else match r.stack, c with
      | .list _ :: outer, ']' => some ⟨.after (.list []), outer⟩
      | stack, c => startValue stack c
  | .firstName =>
    if isSpace c then some r
    else match r.stack, c with
      | .record _ :: outer, '}' => some ⟨.after (.record []), outer⟩
      | stack, '"' => some ⟨.text true [], stack⟩
      | _, _ => none
  | .name =>
    if isSpace c then some r else if c = '"' then some ⟨.text true [], r.stack⟩ else none
  | .colon => if isSpace c then some r else if c = ':' then some ⟨.value, r.stack⟩ else none
  | .after v => afterValue r.stack v c
  | .word [] v => afterValue r.stack v c
  | .word [last] v => if c = last then some ⟨.after v, r.stack⟩ else none
  | .word (next :: rest) v => if c = next then some ⟨.word rest v, r.stack⟩ else none
  | .text isName done =>
    if c = '"' then endText r.stack isName done
    else if c = '\\' then some ⟨.escape isName done, r.stack⟩
    else if c.toNat < 0x20 then none
    else some ⟨.text isName (.char c :: done), r.stack⟩
  | .escape isName done =>
    if c = 'u' then some ⟨.hex isName done 4 0, r.stack⟩
    else (escape? c).map fun c => ⟨.text isName (.char c :: done), r.stack⟩
  | .hex isName done missing unit => do
    let d ← Text.hexDigit? c
    let unit := unit * 16 + d
    some (if missing ≤ 1 then ⟨.text isName (.unit unit :: done), r.stack⟩
      else ⟨.hex isName done (missing - 1) unit, r.stack⟩)
  | .number mode draft =>
    match goOnNumber mode draft c with
    | some (mode, draft) => some ⟨.number mode draft, r.stack⟩
    | none =>
      if mode.mayEnd ∧ (Text.digit? c).isNone then afterValue r.stack (finished draft) c else none

/-- The form that has been read, if the text may end here. -/
def result? (r : Reader) : Option Form :=
  match r.mode, r.stack with
  | .after v, [] => some v
  | .number mode draft, [] => if mode.mayEnd then some (finished draft) else none
  | _, _ => none

end Reader

/-- There is one value in a text, with blanks around it at most. -/
def Form.ofText? (s : String) : Option Form :=
  (s.toList.foldlM Reader.step Reader.initial).bind Reader.result?

end TokenGate.Json
