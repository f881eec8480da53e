/-!
# Signature algorithms
-/

namespace TokenGate

/-- The hash function of an algorithm. Elsewhere it goes with the curve. -/
inductive Digest
  | sha256
  | sha384
  | sha512
  deriving DecidableEq, Repr

/-- All algorithms that a token can declare and be read. Not all of them are ever allowed. -/
inductive Algorithm
  | hmac (digest : Digest)
  | rsaPkcs1 (digest : Digest)
  | rsaPss (digest : Digest)
  | ecdsa256
  | ecdsa384
  | eddsa
  deriving DecidableEq, Repr

namespace Algorithm

def name : Algorithm → String
  | hmac .sha256 => "HS256"
  | hmac .sha384 => "HS384"
  | hmac .sha512 => "HS512"
  | rsaPkcs1 .sha256 => "RS256"
  | rsaPkcs1 .sha384 => "RS384"
  | rsaPkcs1 .sha512 => "RS512"
  | rsaPss .sha256 => "PS256"
  | rsaPss .sha384 => "PS384"
  | rsaPss .sha512 => "PS512"
  | ecdsa256 => "ES256"
  | ecdsa384 => "ES384"
  | eddsa => "EdDSA"

def all : List Algorithm :=
  [hmac .sha256, hmac .sha384, hmac .sha512, rsaPkcs1 .sha256, rsaPkcs1 .sha384, rsaPkcs1 .sha512,
    rsaPss .sha256, rsaPss .sha384, rsaPss .sha512, ecdsa256, ecdsa384, eddsa]

def ofName? (s : String) : Option Algorithm := all.find? (·.name = s)

theorem mem_all (a : Algorithm) : a ∈ all := by
  rcases a with d | d | d | _ | _ | _ <;> first | cases d <;> decide | decide

theorem name_injective {a b : Algorithm} (h : a.name = b.name) : a = b := by
  rcases a with d | d | d | _ | _ | _ <;> rcases b with e | e | e | _ | _ | _ <;>
    (try cases d) <;> (try cases e) <;> first | rfl | (exact absurd h (by decide))

theorem ofName?_eq_some_iff {s : String} {a : Algorithm} : ofName? s = some a ↔ s = a.name := by
  constructor
  · intro h
    have := List.find?_some h
    simp only [decide_eq_true_eq] at this
    exact this.symm
  · rintro rfl
    have hsome : (ofName? a.name).isSome := by
      simp only [ofName?, List.find?_isSome, decide_eq_true_eq]
      exact ⟨a, mem_all a, rfl⟩
    obtain ⟨b, hb⟩ := Option.isSome_iff_exists.1 hsome
    have := List.find?_some hb
    simp only [decide_eq_true_eq] at this
    rw [hb, name_injective this]

end Algorithm

end TokenGate
