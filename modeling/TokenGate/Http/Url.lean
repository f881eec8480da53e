import TokenGate.Http.Host

/-!
# URLs

The URLs that a client can ask for. They are kept in a normal form: scheme and host in one spelling, no
socket number that goes without saying, no dot segments, and nothing unescaped that must not stand in
a URL. User names and passwords are not kept.
-/

namespace TokenGate.Http

/-- A URL without an authority names nothing that can be asked. -/
structure Url where
  scheme : List Char
  authority : Option (List Char)
  path : List Char
  query : Option (List Char)
  fragment : Option (List Char)
  deriving DecidableEq

namespace Url

/-- Schemes whose URLs always have a host, with the socket number that goes without saying. -/
def hostSchemes : List (String × Option Nat) :=
  [("http", some 80), ("https", some 443), ("ftp", some 21), ("ws", some 80), ("wss", some 443)]

/-- Is a URL of this scheme nothing without a host? -/
def needsHost (scheme : List Char) : Bool := hostSchemes.any (·.1.toList == scheme)

def standardSocket? (scheme : List Char) : Option Nat :=
  (hostSchemes.find? (·.1.toList == scheme)).bind (·.2)

/-! ## Escapes -/

def hexDigit (n : Nat) : Char := Char.ofNat (if n < 10 then n + 48 else n + 55)

def escapeByte (b : UInt8) : List Char := ['%', hexDigit (b.toNat / 16), hexDigit (b.toNat % 16)]

/-- Blanks, control characters, all that is not ASCII, and the given characters. -/
def escape (unsafeChars : List Char) (s : List Char) : List Char :=
  s.flatMap fun c =>
    if c.toNat ≤ 0x20 ∨ 0x7f ≤ c.toNat ∨ c ∈ unsafeChars then
      (Text.toBytes (String.singleton c)).flatMap escapeByte
    else [c]

/-- Blanks stay. -/
def escapeControls (s : List Char) : List Char :=
  s.flatMap fun c => if c.toNat = 0x20 then [c] else escape [] [c]

def escapePath (s : List Char) : List Char := escape ['"', '#', '<', '>', '?', '`', '{', '}'] s

def escapeQuery (s : List Char) : List Char := escape ['"', '#', '<', '>', '\''] s

def escapeFragment (s : List Char) : List Char := escape ['"', '<', '>', '`'] s

/-! ## Paths -/

def isDot (segment : List Char) : Bool :=
  segment == ['.'] || Text.lowerAscii segment == "%2e".toList

def isTwoDots (segment : List Char) : Bool :=
  ["..", ".%2e", "%2e.", "%2e%2e"].any (·.toList == Text.lowerAscii segment)

/-- Walks the segments. `done` holds the last one first. -/
def walk : (done : List (List Char)) → List (List Char) → List (List Char)
  | done, [] => done.reverse
  | done, [s] =>
    if isTwoDots s then ([] :: done.tail).reverse
    else if isDot s then ([] :: done).reverse
    else (s :: done).reverse
  | done, s :: rest =>
    if isTwoDots s then walk done.tail rest
    else if isDot s then walk done rest
    else walk (s :: done) rest

def pathOf (segments : List (List Char)) : List Char :=
  (walk [] segments).flatMap fun s => '/' :: escapePath s

/-! ## Reading -/

/-- In the path of such a URL a backslash does as well as a slash. -/
def straighten (s : List Char) : List Char :=
  (s.takeWhile (· ≠ '?')).map (fun c => if c = '\\' then '/' else c) ++ s.dropWhile (· ≠ '?')

def cutFragment (s : List Char) : List Char × Option (List Char) :=
  match Text.splitOnce '#' s with
  | some (before, fragment) => (before, some (escapeFragment fragment))
  | none => (s, none)

def cutQuery (s : List Char) : List Char × Option (List Char) :=
  match Text.splitOnce '?' s with
  | some (path, query) => (path, some (escapeQuery query))
  | none => (s, none)

/-- The socket number after the host, if one must be written. Outer none: it cannot be read. -/
def socket? (scheme : List Char) (s : List Char) : Option (Option Nat) :=
  if s = [] then some none
  else if s.all Char.isDigit then
    match Text.readNatBelow 65536 s with
    | .ok n => some (if standardSocket? scheme = some n then none else some n)
    | .error _ => none
  else none

/-- The host, and what stands after the colon. A colon in brackets belongs to the host. -/
def cutSocket : (isInside : Bool) → List Char → List Char × List Char
  | _, [] => ([], [])
  | isInside, c :: rest =>
    if c = ':' && !isInside then ([], rest)
    else
      let (host, socket) := cutSocket (c == '[' || isInside && c != ']') rest
      (c :: host, socket)

/-- The host of a URL of some other scheme: what is written, or an address in brackets. -/
def otherHost? (s : List Char) : Option (List Char) :=
  if s.head? = some '[' then Host.bracketed? s
  else if s.any (· ∈ "\x00\t\n\r #/:<>?@[\\]^|".toList) then none
  else some (escapeControls s)

/-- Host and socket number. Who asks is not kept. -/
def authority? (names : HostNames) (scheme : List Char) (s : List Char) : Option (List Char) := do
  let s := ((Text.fields '@' s).getLast?).getD []
  let (host, socket) := cutSocket false s
  let host ← if needsHost scheme then Host.ofText? names host else otherHost? host
  let socket ← socket? scheme socket
  some (host ++ (socket.elim [] fun n => ':' :: (toString n).toList))

def ofHost? (names : HostNames) (scheme : List Char) (s : List Char) (fragment : Option (List Char)) :
    Option Url := do
  let authority ← authority? names scheme (s.takeWhile fun c => c ≠ '/' && c ≠ '?')
  let (path, query) := cutQuery (s.dropWhile fun c => c ≠ '/' && c ≠ '?')
  let isBare := path.isEmpty && !needsHost scheme
  some ⟨scheme, some authority, if isBare then [] else pathOf (Text.fields '/' (path.drop 1)), query,
    fragment⟩

/-- The scheme and what follows its colon. -/
def scheme? (s : List Char) : Option (List Char × List Char) := do
  let (scheme, rest) ← Text.splitOnce ':' s
  if scheme.head?.any Char.isAlpha
      && scheme.all fun c => c.isAlphanum || c == '+' || c == '-' || c == '.' then
    some (Text.lowerAscii scheme, rest)
  else none

/-- Blanks and control characters around a URL, and line breaks in it, do not count. -/
def clean (s : String) : List Char :=
  (Text.trim (fun c => c.toNat ≤ 0x20) s.toList).filter fun c => c ≠ '\t' && c ≠ '\n' && c ≠ '\r'

/-- An absolute URL. None for a relative reference, and for whatever cannot be read. -/
def ofText? (names : HostNames) (s : String) : Option Url := do
  let (scheme, rest) ← scheme? (clean s)
  let (rest, fragment) := cutFragment rest
  if needsHost scheme then ofHost? names scheme ((straighten rest).dropWhile (· == '/')) fragment
  else
    match rest with
    | '/' :: '/' :: rest => ofHost? names scheme rest fragment
    | '/' :: rest =>
      let (path, query) := cutQuery rest
      some ⟨scheme, none, pathOf (Text.fields '/' path), query, fragment⟩
    | _ =>
      let (path, query) := cutQuery rest
      some ⟨scheme, none, escapeControls path, query, fragment⟩

/-- The place that a reference without a scheme names, seen from a URL. -/
def relative? (names : HostNames) (base : Url) (reference : List Char) : Option Url :=
  let (s, fragment) := cutFragment reference
  match straighten s with
  | '/' :: '/' :: rest =>
    -- Further slashes count for nothing, but only where a backslash stands among the first two.
    let host := if s.take 2 = "//".toList then rest else rest.dropWhile (· == '/')
    ofHost? names base.scheme host fragment
  | '/' :: rest =>
    let (path, query) := cutQuery rest
    some { base with path := pathOf (Text.fields '/' path), query, fragment }
  | [] => some { base with fragment }
  | '?' :: query => some { base with query := some (escapeQuery query), fragment }
  | rest =>
    let (path, query) := cutQuery rest
    let folder := (Text.fields '/' (base.path.drop 1)).dropLast
    some { base with path := pathOf (folder ++ Text.fields '/' path), query, fragment }

/-- A reference that names the scheme of the URL, but no host, is one without a scheme. -/
def resolve? (names : HostNames) (base : Url) (reference : String) : Option Url :=
  match scheme? (clean reference) with
  | none => relative? names base (clean reference)
  | some (scheme, rest) =>
    let namesHost := (straighten rest).take 2 == "//".toList
    if scheme = base.scheme && needsHost scheme && !namesHost then relative? names base rest
    else ofText? names reference

/-! ## Writing -/

/-- What is asked for. The fragment stays with the client. -/
def target (u : Url) : String :=
  String.ofList (u.scheme ++ ':' :: (u.authority.elim [] fun a => '/' :: '/' :: a) ++ u.path
    ++ u.query.elim [] ('?' :: ·))

/-- The whole URL, for error messages. -/
def text (u : Url) : String := u.target ++ String.ofList (u.fragment.elim [] ('#' :: ·))

end Url

end TokenGate.Http
