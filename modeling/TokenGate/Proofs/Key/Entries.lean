import Mathlib.Data.Set.Card
import TokenGate.Key.KeySet
import TokenGate.Proofs.Cache.Keys
import TokenGate.Proofs.Text.Bytes

/-!
# The key set of a document

Of the entries of a document those count that are signing keys with an id, and of these the first one with
each id. All others may come and go, and stand anywhere, without any effect on the key set.
-/

namespace TokenGate

/-! ## Ids -/

namespace KeySet

/-- Each key stands under its own id, and no id is there twice. -/
structure Tidy (entries : List (String × Jwk)) : Prop where
  nodup : (entries.map (·.1)).Nodup
  own : ∀ id k, (id, k) ∈ entries → k.signingId? = some id

theorem Tidy.add {entries : List (String × Jwk)} (h : Tidy entries) (k : Jwk) : Tidy (add entries k) := by
  unfold KeySet.add
  split
  · exact h
  · rename_i id named
    split
    · exact h
    · rename_i free
      have fresh : id ∉ entries.map (·.1) := by simpa [holds] using free
      constructor
      · rw [List.map_append, List.nodup_append]
        refine ⟨h.nodup, by simp, ?_⟩
        intro other there id' new same
        obtain rfl : id' = id := by simpa using new
        exact fresh (same ▸ there)
      · intro id' k' there
        rcases List.mem_append.1 there with old | new
        · exact h.own id' k' old
        · obtain ⟨rfl, rfl⟩ : id' = id ∧ k' = k := by simpa using new
          exact named

theorem tidy_ofKeys (source : String) (keys : List Jwk) : Tidy (ofKeys source keys).entries := by
  have grown (entries : List (String × Jwk)) (h : Tidy entries) : Tidy (keys.foldl add entries) := by
    induction keys generalizing entries with
    | nil => exact h
    | cons k rest ih => exact ih _ (h.add k)
  exact grown [] ⟨List.nodup_nil, by simp⟩

variable {s s' : KeySet} {id : String} {k : Jwk}

theorem mem_ids_iff : id ∈ s.ids ↔ (s.get? id).isSome := by
  simp [ids, get?]

theorem length_ids (s : KeySet) : s.ids.length = s.size := by
  simp [ids, size]

theorem pairwise_ids (nodup : (s.entries.map (·.1)).Nodup) :
    s.ids.Pairwise fun a b => Text.toBytes a < Text.toBytes b :=
  Text.pairwise_mergeSort_toBytes nodup

/-- The same keys under the same ids. -/
structure Same (s s' : KeySet) : Prop where
  source : s.source = s'.source
  get : ∀ id, s.get? id = s'.get? id
  size : s.size = s'.size
  ids : s.ids = s'.ids

theorem Same.of_get? (source : s.source = s'.source) (nodup : (s.entries.map (·.1)).Nodup)
    (nodup' : (s'.entries.map (·.1)).Nodup) (get : ∀ id, s.get? id = s'.get? id) : s.Same s' := by
  have sorted := pairwise_ids nodup
  have sorted' := pairwise_ids nodup'
  have perm : s.ids.Perm s'.ids := by
    have distinct : s.ids.Nodup := (List.mergeSort_perm ..).nodup_iff.2 nodup
    have distinct' : s'.ids.Nodup := (List.mergeSort_perm ..).nodup_iff.2 nodup'
    rw [List.perm_ext_iff_of_nodup distinct distinct']
    intro id
    rw [mem_ids_iff, mem_ids_iff, get id]
  have ids : s.ids = s'.ids := by
    refine perm.eq_of_pairwise ?_ sorted sorted'
    intro a b _ _ less greater
    exact absurd greater (List.lt_asymm less)
  refine ⟨source, get, ?_, ids⟩
  rw [← length_ids, ← length_ids, ids]

end KeySet

/-! ## Entries -/

namespace KeyDocument

/-- The entry is a signing key with this id. -/
structure Offers (j : Json) (id : String) (k : Jwk) : Prop where
  decodes : Jwk.ofJson? j = some k
  signs : k.purpose ≠ some "enc"
  own : k.keyId = some id
  named : id ≠ ""

/-- The entry is no key, or an encryption key, or has no id. -/
inductive Useless (j : Json) : Prop
  | undecodable (h : Jwk.ofJson? j = none)
  | encrypts (k : Jwk) (decodes : Jwk.ofJson? j = some k) (h : k.purpose = some "enc")
  | anonymous (k : Jwk) (decodes : Jwk.ofJson? j = some k) (h : k.keyId = none)
  | unnamed (k : Jwk) (decodes : Jwk.ofJson? j = some k) (h : k.keyId = some "")

def offer? (id : String) (j : Json) : Option Jwk := (Jwk.ofJson? j).filter (·.signingId? = some id)

def offers (id : String) (j : Json) : Bool := (offer? id j).isSome

/-- The same usable entries, and those with the same id in the same order. -/
inductive Reworked : List Json → List Json → Prop
  | insert (before after : List Json) (j : Json) (useless : Useless j) :
    Reworked (before ++ after) (before ++ j :: after)
  | reorder (entries entries' : List Json) (perm : entries.Perm entries')
    (order : ∀ id, entries.filter (offers id) = entries'.filter (offers id)) : Reworked entries entries'
  | trans {entries entries' entries'' : List Json} (first : Reworked entries entries')
    (second : Reworked entries' entries'') : Reworked entries entries''

def keySet (source : String) (entries : List Json) : KeySet :=
  .ofKeys source (entries.filterMap Jwk.ofJson?)

variable {j : Json} {id : String} {k : Jwk} {entries entries' : List Json}

theorem offer?_eq_some_iff : offer? id j = some k ↔ Offers j id k := by
  unfold offer?
  rw [Option.filter_eq_some_iff, decide_eq_true_eq, Jwk.signingId?_eq_some_iff]
  constructor
  · rintro ⟨decodes, own, named, signs⟩
    exact ⟨decodes, signs, own, named⟩
  · rintro ⟨decodes, signs, own, named⟩
    exact ⟨decodes, own, named, signs⟩

theorem offer?_eq_none_iff : offer? id j = none ↔ ∀ k, ¬ Offers j id k := by
  rw [Option.eq_none_iff_forall_ne_some]
  exact forall_congr' fun k => not_congr offer?_eq_some_iff

theorem Useless.offer? (h : Useless j) (id : String) : offer? id j = none := by
  rw [offer?_eq_none_iff]
  rintro k ⟨decodes, signs, own, named⟩
  cases h with
  | undecodable h => rw [h] at decodes; cases decodes
  | encrypts k' decodes' h =>
    obtain rfl := Option.some.inj (decodes.symm.trans decodes')
    exact signs h
  | anonymous k' decodes' h =>
    obtain rfl := Option.some.inj (decodes.symm.trans decodes')
    rw [h] at own
    cases own
  | unnamed k' decodes' h =>
    obtain rfl := Option.some.inj (decodes.symm.trans decodes')
    rw [h] at own
    exact named (Option.some.inj own).symm

/-! ## Looking up -/

theorem get?_keySet (source : String) (entries : List Json) (id : String) :
    (keySet source entries).get? id = entries.findSome? (offer? id) := by
  rw [keySet, KeySet.get?_ofKeys]
  induction entries with
  | nil => rfl
  | cons j rest ih =>
    rw [List.filterMap_cons, List.findSome?_cons, ← ih]
    unfold offer?
    cases decodes : Jwk.ofJson? j with
    | none => rfl
    | some k => by_cases mine : k.signingId? = some id <;> simp [Option.filter_some, mine]

theorem get?_keySet_eq_some_iff (source : String) (entries : List Json) :
    (keySet source entries).get? id = some k ↔ ∃ before j after, entries = before ++ j :: after ∧
      Offers j id k ∧ ∀ j' ∈ before, ∀ k', ¬ Offers j' id k' := by
  rw [get?_keySet, List.findSome?_eq_some_iff]
  simp only [offer?_eq_some_iff, offer?_eq_none_iff]

theorem get?_keySet_eq_none_iff (source : String) (entries : List Json) :
    (keySet source entries).get? id = none ↔ ∀ j ∈ entries, ∀ k, ¬ Offers j id k := by
  rw [get?_keySet, List.findSome?_eq_none_iff]
  simp only [offer?_eq_none_iff]

theorem mem_ids_keySet_iff (source : String) (entries : List Json) :
    id ∈ (keySet source entries).ids ↔ ∃ j ∈ entries, ∃ k, Offers j id k := by
  rw [KeySet.mem_ids_iff, Option.isSome_iff_ne_none, Ne, get?_keySet_eq_none_iff]
  simp

theorem nodup_keySet (source : String) (entries : List Json) :
    ((keySet source entries).entries.map (·.1)).Nodup :=
  (KeySet.tidy_ofKeys source _).nodup

theorem size_keySet (source : String) (entries : List Json) :
    (keySet source entries).size = {id | ∃ j ∈ entries, ∃ k, Offers j id k}.ncard := by
  have nodup : (keySet source entries).ids.Nodup :=
    (List.mergeSort_perm ..).nodup_iff.2 (nodup_keySet source entries)
  have same : {id | ∃ j ∈ entries, ∃ k, Offers j id k} =
      ((keySet source entries).ids.toFinset : Set String) := by
    ext id
    rw [List.coe_toFinset]
    exact (mem_ids_keySet_iff source entries).symm
  rw [same, Set.ncard_coe_finset, List.toFinset_card_of_nodup nodup, KeySet.length_ids]

/-! ## Reworking -/

theorem findSome?_filter_offers (entries : List Json) (id : String) :
    (entries.filter (offers id)).findSome? (offer? id) = entries.findSome? (offer? id) := by
  induction entries with
  | nil => rfl
  | cons j rest ih =>
    rw [List.filter_cons, List.findSome?_cons]
    unfold offers at ih ⊢
    cases found : offer? id j with
    | none => simpa [found] using ih
    | some k => simp [found]

theorem findSome?_of_reworked (h : Reworked entries entries') (id : String) :
    entries.findSome? (offer? id) = entries'.findSome? (offer? id) := by
  induction h with
  | insert before after j useless =>
    rw [List.findSome?_append, List.findSome?_append, List.findSome?_cons, useless.offer? id]
  | reorder entries entries' _ order =>
    rw [← findSome?_filter_offers entries, order id, findSome?_filter_offers]
  | trans _ _ ih ih' => exact ih.trans ih'

theorem same_of_reworked (source : String) (h : Reworked entries entries') :
    (keySet source entries).Same (keySet source entries') := by
  refine .of_get? rfl (nodup_keySet source entries) (nodup_keySet source entries') ?_
  intro id
  rw [get?_keySet, get?_keySet, findSome?_of_reworked h]

/-! ## The whole key set -/

/-- What is in the key set of these entries. -/
structure Lists (s : KeySet) (entries : List Json) : Prop where
  /-- Under an id stands the first signing key that has it. -/
  found : ∀ id k, s.get? id = some k ↔ ∃ before j after, entries = before ++ j :: after ∧
    Offers j id k ∧ ∀ j' ∈ before, ∀ k', ¬ Offers j' id k'
  missing : ∀ id, s.get? id = none ↔ ∀ j ∈ entries, ∀ k, ¬ Offers j id k
  unnamed : s.get? "" = none
  size : s.size = {id | ∃ j ∈ entries, ∃ k, Offers j id k}.ncard
  ids : ∀ id, id ∈ s.ids ↔ ∃ j ∈ entries, ∃ k, Offers j id k
  sorted : s.ids.Pairwise fun a b => Text.toBytes a < Text.toBytes b
  own : ∀ id k, (id, k) ∈ s.entries → k.keyId = some id

theorem lists_keySet (source : String) (entries : List Json) : Lists (keySet source entries) entries where
  found _ _ := get?_keySet_eq_some_iff source entries
  missing _ := get?_keySet_eq_none_iff source entries
  unnamed := by
    rw [get?_keySet_eq_none_iff]
    intro j _ k offers
    exact offers.named rfl
  size := size_keySet source entries
  ids _ := mem_ids_keySet_iff source entries
  sorted := KeySet.pairwise_ids (nodup_keySet source entries)
  own id k there := by
    have signing := (KeySet.tidy_ofKeys source _).own id k there
    exact (Jwk.signingId?_eq_some_iff.1 signing).1

/-- The keys of a document are those of its usable entries, whatever else is in it. -/
theorem useless_entries_harmless (source : String) (entries : List Json) :
    (∀ body, KeyDocument.entries? body = some entries →
      (keys? body).map (KeySet.ofKeys source) = some (keySet source entries)) ∧
    Lists (keySet source entries) entries ∧
    ∀ entries', Reworked entries entries' →
      (keySet source entries).Same (keySet source entries') := by
  refine ⟨?_, lists_keySet source entries, fun _ => same_of_reworked source⟩
  intro body read
  rw [keys?, read]
  rfl

/-! ## A crowded document -/

def signingKey (id modulus : String) : Json :=
  .record [("kty", .text "RSA"), ("kid", .text id), ("n", .text modulus)]

def encryptionKey (id : String) : Json :=
  .record [("kty", .text "EC"), ("kid", .text id), ("use", .text "enc")]

def plain : List Json := [signingKey "a" "1", signingKey "b" "3", signingKey "a" "2"]

def crowded : List Json :=
  [.text "junk", encryptionKey "a", signingKey "b" "3", signingKey "a" "1", signingKey "a" "2"]

theorem offers_signingKey (own modulus id : String) (named : own ≠ "") :
    offers id (signingKey own modulus) = decide (own = id) := by
  have decoded : Jwk.ofJson? (signingKey own modulus) =
      some ⟨"RSA", some own, none, none, some modulus, none, none, none, none⟩ := by
    rfl
  unfold offers offer?
  rw [decoded]
  by_cases mine : own = id
  · subst mine
    simp [Option.filter_some, Jwk.signingId?, named]
  · simp [Option.filter_some, Jwk.signingId?, mine]

theorem reworked_crowded : Reworked plain crowded := by
  have swapped : Reworked plain [signingKey "b" "3", signingKey "a" "1", signingKey "a" "2"] := by
    refine .reorder _ _ (.swap ..) ?_
    intro id
    by_cases mine : "a" = id
    · subst mine
      simp [plain, offers_signingKey]
    · simp [plain, List.filter_cons, offers_signingKey, mine]
  refine (swapped.trans (.insert [] _ (encryptionKey "a") ?_)).trans (.insert [] _ (.text "junk") ?_)
  · exact .encrypts _ rfl rfl
  · exact .undecodable rfl

/-- Neither junk nor an encryption key stands before the first signing key with the id. -/
theorem encryption_key_shadows_none :
    (keySet "k" plain).Same (keySet "k" crowded) ∧
    ((keySet "k" crowded).get? "a").bind (·.modulus) = some "1" ∧
    (keySet "k" crowded).size = 2 := by
  have same := (useless_entries_harmless "k" plain).2.2 crowded reworked_crowded
  have first : ((keySet "k" plain).get? "a").bind (·.modulus) = some "1" := by decide +kernel
  have size : (keySet "k" plain).size = 2 := by decide +kernel
  exact ⟨same, by rwa [← same.get], by rwa [← same.size]⟩

end KeyDocument

end TokenGate
