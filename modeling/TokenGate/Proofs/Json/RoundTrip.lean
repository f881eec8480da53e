import Mathlib.Data.List.Forall2
import TokenGate.Json.Reading
import TokenGate.Json.Writing
import TokenGate.Proofs.Json.Named
import TokenGate.Proofs.Readers

/-!
# Written and read again

The writer and the reader of JSON text agree: a value of whole numbers and of bounded depth is read back
from its own text, whatever its texts and its member names hold.
-/

namespace TokenGate

/-! ## Digits -/

namespace Decimal

theorem absorb_append {n m d : Nat} {ds : List Nat} (h : absorb n ds = (m, []))
    (hd : m * 10 + d ≤ wordMax) : absorb n (ds ++ [d]) = (m * 10 + d, []) := by
  induction ds generalizing n with
  | nil =>
    obtain rfl : n = m := by simpa [absorb] using h
    simp [absorb, hd]
  | cons e ds ih =>
    simp only [absorb] at h
    split at h
    · rename_i he
      simp only [List.cons_append, absorb, if_pos he]
      exact ih h
    · simp at h

theorem number?_of_absorb {n : Nat} {ds : List Nat} (h : absorb 0 ds = (n, [])) :
    number? ⟨false, ds, [], none⟩ = some (.int n) := by
  simp [number?, h]

theorem number?_of_absorb_negative {n : Nat} {ds : List Nat} (h : absorb 0 ds = (n, []))
    (hpos : 0 < n) (hle : n ≤ 9223372036854775808) :
    number? ⟨true, ds, [], none⟩ = some (.int (-n)) := by
  have hn : ¬ (n = 0 ∨ Nat.pow 2 63 < n) := by
    have : Nat.pow 2 63 = 9223372036854775808 := rfl
    omega
  simp [number?, h, hn]

end Decimal

namespace Json

open Reader

theorem digit?_digitChar : ∀ d < 10, Text.digit? (Nat.digitChar d) = some d := by decide

/-- What opens a value: the reader starts one at any character but a blank and the end of a list. -/
def Opens (start : Reader) (stack : List Frame) : Prop :=
  ∀ c, isSpace c = false → c ≠ ']' → step start c = startValue stack c

theorem opens_value (stack : List Frame) : Opens ⟨.value, stack⟩ stack := by
  intro c hspace _
  simp [step, hspace]

theorem opens_firstItem (done : List Form) (stack : List Frame) :
    Opens ⟨.firstItem, .list done :: stack⟩ (.list done :: stack) := by
  intro c hspace hc
  simp [step, hspace, hc]

/-- A value has been read to its end. A number may have ended or not: what follows will tell. -/
def Holds (r : Reader) (f : Form) (stack : List Frame) : Prop :=
  r = ⟨.after f, stack⟩ ∨
    ∃ mode draft, r = ⟨.number mode draft, stack⟩ ∧ mode.mayEnd ∧ finished draft = f

/-- The characters that may follow a value in compact text. -/
def Ends (c : Char) : Prop := c = ',' ∨ c = ']' ∨ c = '}'

theorem goOnNumber_of_ends {c : Char} (h : Ends c) {mode : NumberMode} (hmode : mode.mayEnd)
    (draft : Decimal) : goOnNumber mode draft c = none ∧ Text.digit? c = none := by
  rcases h with rfl | rfl | rfl <;> cases mode <;> simp_all [goOnNumber, NumberMode.mayEnd, Text.digit?]

theorem Holds.step {r : Reader} {f : Form} {stack : List Frame} {c : Char} (h : Holds r f stack)
    (hc : Ends c) : Reader.step r c = afterValue stack f c := by
  rcases h with rfl | ⟨mode, draft, rfl, hmode, rfl⟩
  · rfl
  · obtain ⟨hgo, hdigit⟩ := goOnNumber_of_ends hc hmode draft
    simp [Reader.step, hgo, hdigit, hmode]

theorem Holds.result? {r : Reader} {f : Form} (h : Holds r f []) : r.result? = some f := by
  rcases h with rfl | ⟨mode, draft, rfl, hmode, rfl⟩
  · rfl
  · simp [Reader.result?, hmode]

/-- The text is read as a value of this form, wherever a value may stand. -/
def Reads (text : List Char) (f : Form) : Prop :=
  ∀ start stack, Opens start stack → ∃ r, text.foldlM Reader.step start = some r ∧ Holds r f stack

/-! ## Numbers -/

/-- The form of a whole number with these digits. -/
def whole (negative : Bool) (ds : List Nat) : Form := .number ⟨negative, ds, [], none⟩

theorem holds_whole (negative : Bool) (ds : List Nat) (stack : List Frame) :
    Holds ⟨.number .whole ⟨negative, ds.reverse, [], none⟩, stack⟩ (whole negative ds) stack := by
  refine .inr ⟨.whole, _, rfl, rfl, ?_⟩
  simp [finished, whole]

/-- A digit at this place is the first one of a number. -/
def OpensDigits (start : Reader) (stack : List Frame) (negative : Bool) : Prop :=
  ∀ c d, Text.digit? c = some d →
    step start c = some ⟨.number .whole ⟨negative, [d], [], none⟩, stack⟩

theorem opensDigits_sign (stack : List Frame) :
    OpensDigits ⟨.number .sign ⟨true, [], [], none⟩, stack⟩ stack true := by
  intro c d hd
  simp [step, goOnNumber, hd]

theorem isDigit_of_digit? {c : Char} {d : Nat} (h : Text.digit? c = some d) : c.isDigit := by
  unfold Text.digit? at h
  by_contra hc
  simp [hc] at h

theorem Opens.digits {start : Reader} {stack : List Frame} (h : Opens start stack) :
    OpensDigits start stack false := by
  intro c d hd
  have hc := isDigit_of_digit? hd
  rw [h c]
  · unfold startValue
    split <;> first | simp at hc | simp [hd]
  · by_contra hspace
    simp only [isSpace, Bool.not_eq_false, Bool.or_eq_true, beq_iff_eq] at hspace
    rcases hspace with ((rfl | rfl) | rfl) | rfl <;> simp at hc
  · rintro rfl
    simp at hc

theorem foldlM_toDigits (n : Nat) (hn : n ≤ Decimal.wordMax) :
    ∃ ds, Decimal.absorb 0 ds = (n, []) ∧
      ∀ start stack negative, OpensDigits start stack negative →
        (Nat.toDigits 10 n).foldlM step start =
          some ⟨.number .whole ⟨negative, ds.reverse, [], none⟩, stack⟩ := by
  induction n using Nat.strongRecOn with
  | ind n ih =>
    rcases Nat.lt_or_ge n 10 with hlt | hge
    · refine ⟨[n], by simp [Decimal.absorb, hn], fun start stack negative hstart => ?_⟩
      simp [Nat.toDigits_of_lt_base hlt, hstart _ _ (digit?_digitChar n hlt)]
    · -- the last digit comes after those of `n / 10`, which are not a lone zero
      obtain ⟨ds, hds, hread⟩ := ih (n / 10) (by omega) (by omega)
      have hzero : ds ≠ [0] := by
        rintro rfl
        have := congrArg Prod.fst hds
        simp only [Decimal.absorb] at this
        split at this <;> simp only at this <;> omega
      have hsum : n / 10 * 10 + n % 10 = n := by omega
      refine ⟨ds ++ [n % 10], ?_, fun start stack negative hstart => ?_⟩
      · have := Decimal.absorb_append hds (d := n % 10) (by omega)
        rwa [hsum] at this
      · have hdigit := digit?_digitChar (n % 10) (by omega)
        have hrev : ds.reverse ≠ [0] := by simpa using hzero
        rw [Nat.toDigits_of_base_le (by omega) hge, List.foldlM_append, hread _ _ _ hstart]
        simp [step, goOnNumber, hdigit, hrev]

/-- Whole numbers of 64 bits, with a sign or without one. -/
def IsWord : Number → Prop
  | .int n => -9223372036854775808 ≤ n ∧ n < 18446744073709551616
  | .real _ => False

theorem reads_number {n : Number} (h : IsWord n) :
    ∃ d : Decimal, Reads (numberText n).toList (.number d) ∧ d.number? = some n := by
  have hmax : Decimal.wordMax = 18446744073709551615 := rfl
  rcases n with (n | n) | x
  · -- no sign
    have hhigh : (n : Int) < 18446744073709551616 := h.2
    obtain ⟨ds, hds, hread⟩ := foldlM_toDigits n (by rw [hmax]; omega)
    refine ⟨_, fun start stack hopens => ?_, Decimal.number?_of_absorb hds⟩
    refine ⟨_, ?_, holds_whole false ds stack⟩
    simpa [numberText, Int.toString_eq_repr, Int.repr] using hread _ _ _ hopens.digits
  · have hlow := h.1
    obtain ⟨ds, hds, hread⟩ := foldlM_toDigits (n + 1) (by rw [hmax]; omega)
    refine ⟨_, fun start stack hopens => ?_, Decimal.number?_of_absorb_negative hds ?_ ?_⟩
    · refine ⟨_, ?_, holds_whole true ds stack⟩
      have hsign : step start '-' = some ⟨.number .sign ⟨true, [], [], none⟩, stack⟩ := by
        rw [hopens '-' rfl (by decide)]
        rfl
      simpa [numberText, Int.toString_eq_repr, Int.repr, hsign] using hread _ _ _ (opensDigits_sign stack)
    · omega
    · omega
  · exact h.elim

/-! ## Texts -/

/-- A character stands for itself, or a control character is named by its number. -/
def Spells (p : Piece) (c : Char) : Prop := p = .char c ∨ (p = .unit c.toNat ∧ c.toNat < 0x20)

theorem characters?_unit {n : Nat} (h : n < 0x20) (rest : List Piece) :
    characters? (.unit n :: rest) = (characters? rest).map (Char.ofNat n :: ·) := by
  have hhi : ¬ (0xD800 ≤ n ∧ n < 0xDC00) := by omega
  have hlo : ¬ (0xDC00 ≤ n ∧ n < 0xE000) := by omega
  have hlone : ¬ (0xD800 ≤ n ∧ n < 0xE000) := by omega
  match rest with
  | .unit lo :: rest => rw [characters?, if_neg hhi, if_neg hlo]
  | [] => simp [characters?, hlone]
  | .char c :: rest => simp [characters?, hlone]

theorem characters?_of_spells {pieces : List Piece} {s : List Char}
    (h : List.Forall₂ Spells pieces s) : characters? pieces = some s := by
  induction h with
  | nil => rfl
  | cons hp _ ih =>
    rcases hp with rfl | ⟨rfl, hc⟩
    · simp [characters?, ih]
    · simp [characters?_unit hc, ih, Char.ofNat_toNat]

theorem hexDigit?_hexChar : ∀ n < 16, Text.hexDigit? (hexChar n) = some n := by decide

theorem foldlM_escaped (c : Char) : ∃ p, Spells p c ∧ ∀ isName done stack,
    (escaped c).foldlM step ⟨.text isName done, stack⟩ = some ⟨.text isName (p :: done), stack⟩ := by
  unfold escaped
  split
  iterate 7 exact ⟨_, .inl rfl, fun _ _ _ => rfl⟩
  rename_i hquote hslash _ _ _ _ _
  split
  · rename_i hlow
    have hhigh := hexDigit?_hexChar (c.toNat / 16) (by omega)
    have hrest := hexDigit?_hexChar (c.toNat % 16) (by omega)
    have hsum : c.toNat / 16 * 16 + c.toNat % 16 = c.toNat := by omega
    have hnil : Text.hexDigit? '0' = some 0 := rfl
    refine ⟨_, .inr ⟨rfl, hlow⟩, fun _ _ _ => ?_⟩
    simp [step, hnil, hhigh, hrest, hsum]
  · rename_i hlow
    refine ⟨_, .inl rfl, fun _ _ _ => ?_⟩
    have : c ≠ '"' := fun h => hquote h
    have : c ≠ '\\' := fun h => hslash h
    simp_all [step]

theorem foldlM_flatMap_escaped (s : List Char) : ∃ pieces, List.Forall₂ Spells pieces s ∧
    ∀ isName done stack, (s.flatMap escaped).foldlM step ⟨.text isName done, stack⟩ =
      some ⟨.text isName (pieces.reverse ++ done), stack⟩ := by
  induction s with
  | nil => exact ⟨[], .nil, fun _ _ _ => rfl⟩
  | cons c s ih =>
    obtain ⟨p, hp, hc⟩ := foldlM_escaped c
    obtain ⟨pieces, hpieces, hs⟩ := ih
    refine ⟨p :: pieces, .cons hp hpieces, fun isName done stack => ?_⟩
    rw [List.flatMap_cons, List.foldlM_append, hc]
    simp [hs]

theorem foldlM_quoted (s : String) : ∃ pieces, string? pieces = some s ∧
    ∀ isName stack, (s.toList.flatMap escaped ++ ['"']).foldlM step ⟨.text isName [], stack⟩ =
      endText stack isName pieces.reverse := by
  obtain ⟨pieces, hpieces, hread⟩ := foldlM_flatMap_escaped s.toList
  refine ⟨pieces, by simp [string?, characters?_of_spells hpieces], fun isName stack => ?_⟩
  rw [List.foldlM_append, hread]
  simp [step]

theorem reads_text (s : String) :
    ∃ pieces, Reads (quoted s).toList (.text pieces) ∧ string? pieces = some s := by
  obtain ⟨pieces, hpieces, hread⟩ := foldlM_quoted s
  refine ⟨pieces, fun start stack hopens => ⟨⟨.after (.text pieces), stack⟩, ?_, .inl rfl⟩, hpieces⟩
  have hquote : step start '"' = some ⟨.text false [], stack⟩ := by
    rw [hopens '"' rfl (by decide)]
    rfl
  calc (quoted s).toList.foldlM step start
      = (s.toList.flatMap escaped ++ ['"']).foldlM step ⟨.text false [], stack⟩ := by
        rw [quoted, String.toList_ofList, List.cons_append, List.foldlM_cons, hquote]
        rfl
    _ = endText stack false pieces.reverse := hread false stack
    _ = some ⟨.after (.text pieces), stack⟩ := by rw [endText, List.reverse_reverse]

/-! ## Lists and records -/

/-- The items of a list, from the first one to the bracket that closes it. -/
theorem foldlM_items {t : List Char} {ts : List (List Char)} {f : Form} {fs : List Form}
    (h : Reads t f) (hs : List.Forall₂ Reads ts fs) (done : List Form) (stack : List Frame)
    {start : Reader} (hstart : Opens start (.list done :: stack)) :
    ([','].intercalate (t :: ts) ++ [']']).foldlM step start =
      some ⟨.after (.list (done.reverse ++ f :: fs)), stack⟩ := by
  induction hs generalizing t f done start with
  | nil =>
    obtain ⟨r, hread, hholds⟩ := h start _ hstart
    rw [List.intercalate_singleton, List.foldlM_append, hread]
    simp [hholds.step (.inr (.inl rfl)), afterValue, isSpace]
  | @cons t' f' ts fs h' _ ih =>
    obtain ⟨r, hread, hholds⟩ := h start _ hstart
    have hcomma : step r ',' = some ⟨.value, .list (f :: done) :: stack⟩ := by
      rw [hholds.step (.inl rfl)]
      rfl
    rw [List.intercalate_cons_cons, List.append_assoc, List.append_assoc, List.foldlM_append, hread]
    have hrest := ih h' (f :: done) (opens_value _)
    simp only [List.reverse_cons, List.append_assoc, List.singleton_append] at hrest
    simpa [hcomma] using hrest

theorem reads_list {ts : List (List Char)} {fs : List Form} (h : List.Forall₂ Reads ts fs) :
    Reads ('[' :: [','].intercalate ts ++ [']']) (.list fs) := by
  intro start stack hopens
  have hopen : step start '[' = some ⟨.firstItem, .list [] :: stack⟩ := by
    rw [hopens '[' rfl (by decide)]
    rfl
  refine ⟨⟨.after (.list fs), stack⟩, ?_, .inl rfl⟩
  rw [List.cons_append, List.foldlM_cons, hopen]
  cases h with
  | nil => rfl
  | cons h hs => exact foldlM_items h hs [] stack (opens_firstItem [] stack)

/-- A quote opens the name of a member. -/
def OpensName (start : Reader) (done : List (List Piece × Form)) (stack : List Frame) : Prop :=
  step start '"' = some ⟨.text true [], .record done :: stack⟩

/-- The text is read as this member, wherever a member may stand. -/
def ReadsMember (text : List Char) (m : List Piece × Form) : Prop :=
  ∀ start done stack, OpensName start done stack →
    ∃ r, text.foldlM step start = some r ∧ Holds r m.2 (.member done m.1 :: stack)

theorem readsMember_of_reads {text : List Char} {f : Form} (h : Reads text f) (name : String) :
    ∃ pieces, string? pieces = some name ∧
      ReadsMember ((quoted name).toList ++ ':' :: text) (pieces, f) := by
  obtain ⟨pieces, hpieces, hname⟩ := foldlM_quoted name
  refine ⟨pieces, hpieces, fun start done stack hopens => ?_⟩
  obtain ⟨r, hread, hholds⟩ := h _ _ (opens_value (.member done pieces :: stack))
  refine ⟨r, ?_, hholds⟩
  have hquoted : (quoted name).toList.foldlM step start =
      some ⟨.colon, .member done pieces :: stack⟩ := by
    rw [quoted, String.toList_ofList, List.cons_append, List.foldlM_cons, hopens]
    exact (hname true _).trans (by rw [endText, List.reverse_reverse])
  rw [List.foldlM_append, hquoted]
  simpa [step, isSpace] using hread

theorem foldlM_members {t : List Char} {ts : List (List Char)} {m : List Piece × Form}
    {ms : List (List Piece × Form)} (h : ReadsMember t m) (hs : List.Forall₂ ReadsMember ts ms)
    (done : List (List Piece × Form)) (stack : List Frame) {start : Reader}
    (hstart : OpensName start done stack) :
    ([','].intercalate (t :: ts) ++ ['\x7d']).foldlM step start =
      some ⟨.after (.record (done.reverse ++ m :: ms)), stack⟩ := by
  induction hs generalizing t m done start with
  | nil =>
    obtain ⟨r, hread, hholds⟩ := h start _ _ hstart
    rw [List.intercalate_singleton, List.foldlM_append, hread]
    simp [hholds.step (.inr (.inr rfl)), afterValue, isSpace]
  | @cons t' m' ts ms h' _ ih =>
    obtain ⟨r, hread, hholds⟩ := h start _ _ hstart
    have hcomma : step r ',' = some ⟨.name, .record (m :: done) :: stack⟩ := by
      rw [hholds.step (.inl rfl)]
      rfl
    rw [List.intercalate_cons_cons, List.append_assoc, List.append_assoc, List.foldlM_append, hread]
    have hname : OpensName ⟨.name, .record (m :: done) :: stack⟩ (m :: done) stack := rfl
    have hrest := ih h' (m :: done) hname
    simp only [List.reverse_cons, List.append_assoc, List.singleton_append] at hrest
    simpa [hcomma] using hrest

theorem reads_record {ts : List (List Char)} {ms : List (List Piece × Form)}
    (h : List.Forall₂ ReadsMember ts ms) :
    Reads ('\x7b' :: [','].intercalate ts ++ ['\x7d']) (.record ms) := by
  intro start stack hopens
  have hopen : step start '\x7b' = some ⟨.firstName, .record [] :: stack⟩ := by
    rw [hopens '\x7b' rfl (by decide)]
    rfl
  refine ⟨⟨.after (.record ms), stack⟩, ?_, .inl rfl⟩
  rw [List.cons_append, List.foldlM_cons, hopen]
  cases h with
  | nil => rfl
  | cons h hs => exact foldlM_members h hs [] stack rfl

/-! ## Values -/

/-- Whole numbers of 64 bits only, and at most `depth` lists and records inside one another. -/
def Plain : (depth : Nat) → Json → Prop
  | _, .null | _, .bool _ | _, .text _ => True
  | _, .number n => IsWord n
  | 0, .list _ | 0, .record _ => False
  | depth + 1, .list items => ∀ v ∈ items, Plain depth v
  | depth + 1, .record members => ∀ m ∈ members, Plain depth m.2

theorem writeItems_eq (items : List Json) : writeItems items = items.map write := by
  induction items with
  | nil => rfl
  | cons v items ih => rw [writeItems, ih, List.map_cons]

theorem writeMembers_eq (members : List (String × Json)) :
    writeMembers members = members.map fun m => quoted m.1 ++ ":" ++ write m.2 := by
  induction members with
  | nil => rfl
  | cons m members ih => rw [writeMembers, ih, List.map_cons]

theorem toList_write_list (items : List Json) : (write (.list items)).toList =
    '[' :: [','].intercalate (items.map fun v => (write v).toList) ++ [']'] := by
  simp [write, writeItems_eq, String.toList_intercalate, Function.comp_def]

theorem toList_write_record (members : List (String × Json)) : (write (.record members)).toList =
    '\x7b' :: [','].intercalate (members.map fun m => (quoted m.1).toList ++ ':' :: (write m.2).toList)
      ++ ['\x7d'] := by
  simp [write, writeMembers_eq, String.toList_intercalate, Function.comp_def]

theorem reads_word {c : Char} {rest : List Char} {f : Form} (hspace : isSpace c = false) (hc : c ≠ ']')
    (hstart : ∀ stack, startValue stack c = some ⟨.word rest f, stack⟩)
    (hrest : ∀ stack, rest.foldlM step ⟨.word rest f, stack⟩ = some ⟨.after f, stack⟩) :
    Reads (c :: rest) f := by
  intro start stack hopens
  refine ⟨⟨.after f, stack⟩, ?_, .inl rfl⟩
  rw [List.foldlM_cons, hopens c hspace hc, hstart]
  exact hrest stack

theorem reads_null : Reads ['n', 'u', 'l', 'l'] .null :=
  reads_word rfl (by decide) (fun _ => rfl) (fun _ => rfl)

theorem reads_true : Reads ['t', 'r', 'u', 'e'] (.bool true) :=
  reads_word rfl (by decide) (fun _ => rfl) (fun _ => rfl)

theorem reads_false : Reads ['f', 'a', 'l', 's', 'e'] (.bool false) :=
  reads_word rfl (by decide) (fun _ => rfl) (fun _ => rfl)

theorem reads_write : ∀ {depth : Nat} {v : Json}, Plain depth v →
    ∃ f, Form.value? depth f = some v ∧ Reads (write v).toList f
  | _, .null, _ => ⟨.null, by rw [Form.value?], by simpa [write] using reads_null⟩
  | _, .bool true, _ => ⟨.bool true, by rw [Form.value?], by simpa [write] using reads_true⟩
  | _, .bool false, _ => ⟨.bool false, by rw [Form.value?], by simpa [write] using reads_false⟩
  | _, .number n, h => by
    obtain ⟨d, hread, hd⟩ := reads_number (n := n) (by rwa [Plain] at h)
    exact ⟨.number d, by rw [Form.value?, hd]; rfl, hread⟩
  | _, .text s, _ => by
    obtain ⟨pieces, hread, hpieces⟩ := reads_text s
    exact ⟨.text pieces, by rw [Form.value?, hpieces]; rfl, hread⟩
  | 0, .list _, h => h.elim
  | 0, .record _, h => h.elim
  | depth + 1, .list items, h => by
    obtain ⟨fs, hvalues, hreads⟩ := exists_mapM_eq_some
      (R := fun v f => Reads (write v).toList f) fun v hv => reads_write (h v hv)
    refine ⟨.list fs, by rw [Form.value?, hvalues]; rfl, ?_⟩
    rw [toList_write_list]
    exact reads_list (List.forall₂_map_left_iff.mpr hreads)
  | depth + 1, .record members, h => by
    have hmember : ∀ m ∈ members, ∃ m', Form.member? depth m' = some m ∧
        ReadsMember ((quoted m.1).toList ++ ':' :: (write m.2).toList) m' := by
      intro m hm
      obtain ⟨f, hvalue, hread⟩ := reads_write (h m hm)
      obtain ⟨pieces, hname, hread⟩ := readsMember_of_reads hread m.1
      exact ⟨(pieces, f), Form.member?_eq_some_iff.mpr ⟨hname, hvalue⟩, hread⟩
    obtain ⟨ms, hvalues, hreads⟩ := exists_mapM_eq_some hmember
    refine ⟨.record ms, by rw [Form.value?_record, hvalues]; rfl, ?_⟩
    rw [toList_write_record]
    exact reads_record (List.forall₂_map_left_iff.mpr hreads)

theorem ofText?_write {v : Json} (h : Plain maxDepth v) : ofText? (write v) = some v := by
  obtain ⟨f, hvalue, hread⟩ := reads_write h
  obtain ⟨r, hfold, hholds⟩ := hread initial [] (opens_value [])
  unfold ofText? Form.ofText?
  rw [hfold, Option.bind_some, hholds.result?, Option.bind_some]
  exact hvalue

end Json

end TokenGate
