import TokenGate.Json.Reading
import TokenGate.Key.Jwk

/-!
# Key sets

What a key endpoint answers is a list of keys. An entry that is no key is passed over, so that one bad
entry does not take the others with it. The signing keys among them make up a set.
-/

namespace TokenGate.KeyDocument

/-- How deep the list of keys may nest, inside the document. -/
def keysDepth : Nat := Json.maxDepth - 1

/-- The document may be a record or a list. Its member must not repeat. -/
def entries? (body : String) : Option (List Json) := do
  let document ← Json.Form.ofText? body
  match ← document.fields? ["keys"] with
  | [some keys] => (← keys.value? keysDepth).list?
  | _ => none

/-- None if there is no list of keys. An entry that is no key is left out. -/
def keys? (body : String) : Option (List Jwk) := (entries? body).map (·.filterMap Jwk.ofJson?)

end TokenGate.KeyDocument

/-!
## Keys under their ids

Of two keys with one id the first is kept.
-/

namespace TokenGate

/-- The keys in the order of the document, and where it came from. -/
structure KeySet where
  source : String
  entries : List (String × Jwk)
  deriving DecidableEq

namespace KeySet

def holds (entries : List (String × Jwk)) (id : String) : Bool := entries.any (·.1 = id)

/-- Adds a key, unless it has no id or its id is taken. -/
def add (entries : List (String × Jwk)) (k : Jwk) : List (String × Jwk) :=
  match k.signingId? with
  | none => entries
  | some id => if holds entries id then entries else entries ++ [(id, k)]

/-- Keys without an id, and keys for encryption, are not in the set. -/
def ofKeys (source : String) (keys : List Jwk) : KeySet := ⟨source, keys.foldl add []⟩

def get? (s : KeySet) (id : String) : Option Jwk := (s.entries.find? (·.1 = id)).map (·.2)

def size (s : KeySet) : Nat := s.entries.length

def isEmpty (s : KeySet) : Bool := s.entries.isEmpty

def ids (s : KeySet) : List String := (s.entries.map (·.1)).mergeSort fun a b => decide (a ≤ b)

end KeySet

end TokenGate
