import TokenGate.Key.Usage

/-! # Which algorithms a key may be used with -/

namespace TokenGate

/-- A key of this type and curve may check signatures of this algorithm. -/
inductive Jwk.Suits (k : Jwk) : Algorithm → Prop
  | rsaPkcs1 (digest : Digest) (type : k.keyType = "RSA") : Suits k (.rsaPkcs1 digest)
  | rsaPss (digest : Digest) (type : k.keyType = "RSA") : Suits k (.rsaPss digest)
  | ecdsa256 (type : k.keyType = "EC") (curve : k.curve = some "P-256") : Suits k .ecdsa256
  | ecdsa384 (type : k.keyType = "EC") (curve : k.curve = some "P-384") : Suits k .ecdsa384
  | eddsa (type : k.keyType = "OKP") (curve : k.curve = some "Ed25519") : Suits k .eddsa

namespace Jwk

theorem mem_family_iff {k : Jwk} {a : Algorithm} : a ∈ k.family ↔ k.Suits a := by
  constructor
  · intro h
    unfold family at h
    split at h
    · rename_i htype
      simp only [List.mem_cons, List.not_mem_nil, or_false] at h
      rcases h with rfl | rfl | rfl | rfl | rfl | rfl
      · exact .rsaPkcs1 _ htype
      · exact .rsaPkcs1 _ htype
      · exact .rsaPkcs1 _ htype
      · exact .rsaPss _ htype
      · exact .rsaPss _ htype
      · exact .rsaPss _ htype
    · rename_i htype hcurve
      obtain rfl := List.mem_singleton.mp h
      exact .ecdsa256 htype hcurve
    · rename_i htype hcurve
      obtain rfl := List.mem_singleton.mp h
      exact .ecdsa384 htype hcurve
    · rename_i htype hcurve
      obtain rfl := List.mem_singleton.mp h
      exact .eddsa htype hcurve
    · simp at h
  · intro h
    cases h with
    | rsaPkcs1 d htype => cases d <;> simp [family, htype]
    | rsaPss d htype => cases d <;> simp [family, htype]
    | ecdsa256 htype hcurve | ecdsa384 htype hcurve | eddsa htype hcurve =>
      simp [family, htype, hcurve]

theorem pin_eq_ok_iff {k : Jwk} {declared : String} {a : Algorithm} :
    k.pin declared = .ok a ↔
      declared = a.name ∧ k.Suits a ∧ ∀ own, k.algorithm = some own → own = declared := by
  have hown : k.algorithm.any (· ≠ declared) = false ↔
      ∀ own, k.algorithm = some own → own = declared := by
    cases k.algorithm <;> simp
  unfold pin
  split
  · rename_i h
    simp only [reduceCtorEq, false_iff]
    rintro ⟨-, -, howns⟩
    rw [hown.mpr howns] at h
    exact Bool.false_ne_true h
  · rename_i h
    have hown := hown.mp (Bool.eq_false_iff.mpr h)
    cases ha : Algorithm.ofName? declared with
    | none =>
      simp only [reduceCtorEq, false_iff]
      rintro ⟨hname, -⟩
      rw [Algorithm.ofName?_eq_some_iff.mpr hname] at ha
      simp at ha
    | some b =>
      rw [Algorithm.ofName?_eq_some_iff] at ha
      simp only
      split
      · rename_i hb
        rw [mem_family_iff] at hb
        constructor
        · intro heq
          obtain rfl := Except.ok.inj heq
          exact ⟨ha, hb, hown⟩
        · rintro ⟨hname, -⟩
          rw [Algorithm.name_injective (ha.symm.trans hname)]
      · rename_i hb
        simp only [reduceCtorEq, false_iff]
        rintro ⟨hname, hsuits, -⟩
        obtain rfl := Algorithm.name_injective (ha.symm.trans hname)
        exact hb (mem_family_iff.mpr hsuits)

theorem pin_error {k : Jwk} {declared : String} {e : AuthError} (h : k.pin declared = .error e) :
    e = .algorithmMismatch declared k.allowedText := by
  unfold pin at h
  simp only at h
  repeat' split at h
  all_goals cases h
  all_goals rfl

theorem Suits.fits {k : Jwk} {a : Algorithm} (h : k.Suits a) {key : PublicKey}
    (hkey : PublicKey.ofJwk? k = some key) : key.fits a := by
  unfold PublicKey.ofJwk? at hkey
  cases h with
  | rsaPkcs1 d htype | rsaPss d htype =>
    simp only [htype, Option.bind_eq_bind, Option.bind_eq_some_iff, Option.some.injEq] at hkey
    obtain ⟨n, -, e, -, rfl⟩ := hkey
    rfl
  | ecdsa256 htype hcurve | ecdsa384 htype hcurve =>
    simp only [htype, Option.bind_eq_bind, Option.bind_eq_some_iff, Option.some.injEq] at hkey
    obtain ⟨x, -, y, -, rfl⟩ := hkey
    rfl
  | eddsa htype hcurve =>
    simp only [htype, Option.map_eq_some_iff] at hkey
    obtain ⟨x, -, rfl⟩ := hkey
    rfl

end Jwk

end TokenGate
