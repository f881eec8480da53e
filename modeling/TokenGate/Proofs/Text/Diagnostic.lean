import Mathlib.Data.List.Basic
import Mathlib.Data.Nat.Init
import TokenGate.Text.Quoted

/-!
# What a diagnostic tells

From the rendering of a larger value the renderings of its parts can be told: each ends where it ends,
for what comes after it cannot be taken for more of it.
-/

namespace TokenGate.Text

/-! ## Where a rendering ends -/

/-- What follows does not go on with a number. -/
def Stops (r : List Char) : Prop := ∀ c ∈ r.head?, (c.isDigit || c == '-') = false

/-- Neither text can be taken for the beginning of the other. -/
def Apart (x y : List Char) : Prop :=
  ∀ ⦃r r' : List Char⦄, Stops r → Stops r' → x ++ r = y ++ r' → x = y

/-- All values are shown so that one can tell where it ends. -/
def Delimited {α : Type} (show1 : α → String) : Prop :=
  ∀ a b, Apart (show1 a).toList (show1 b).toList

theorem stops_cons {c : Char} (other : (c.isDigit || c == '-') = false) (r : List Char) :
    Stops (c :: r) := by
  intro d first
  obtain rfl := Option.some.inj first
  exact other

namespace Apart

variable {x y r r' : List Char}

theorem refl (x : List Char) : Apart x x := fun _ _ _ _ _ => rfl

theorem of_first {c d : Char} (ne : c ≠ d) : Apart (c :: x) (d :: y) :=
  fun _ _ _ _ same => absurd (List.cons.inj same).1 ne

theorem behind (apart : Apart x y) (before : List Char) : Apart (before ++ x) (before ++ y) := by
  intro r r' stops stops' same
  rw [List.append_assoc, List.append_assoc] at same
  rw [apart stops stops' (List.append_cancel_left same)]

theorem closed (apart : Apart x y) {c : Char} (stop : (c.isDigit || c == '-') = false)
    (rest : List Char) : Apart (x ++ c :: rest) (y ++ c :: rest) := by
  intro r r' stops stops' same
  rw [List.append_assoc, List.append_assoc] at same
  rw [apart (stops_cons stop _) (stops_cons stop _) same]

theorem rest_eq (apart : Apart x y) (stops : Stops r) (stops' : Stops r')
    (same : x ++ r = y ++ r') : r = r' := by
  rw [apart stops stops' same] at same
  exact List.append_cancel_left same

end Apart

theorem Delimited.of_part {α β : Type} {show1 : α → String} (delimited : Delimited show1)
    (part : β → α) : Delimited fun b => show1 (part b) := fun a b => delimited (part a) (part b)

theorem delimited_const {α : Type} (s : String) : Delimited fun _ : α => s := fun _ _ => .refl _

theorem eq_of_append_eq {p : Char → Bool} {x y r r' : List Char} (all : ∀ c ∈ x, p c)
    (all' : ∀ c ∈ y, p c) (stop : ∀ c ∈ r.head?, p c = false) (stop' : ∀ c ∈ r'.head?, p c = false)
    (same : x ++ r = y ++ r') : x = y := by
  have nothing {r : List Char} (stop : ∀ c ∈ r.head?, p c = false) : r.takeWhile p = [] := by
    cases r with
    | nil => rfl
    | cons c r => simp [stop c rfl]
  have taken := congrArg (List.takeWhile p) same
  rwa [List.takeWhile_append_of_pos all, List.takeWhile_append_of_pos all', nothing stop,
    nothing stop', List.append_nil, List.append_nil] at taken

/-! ## Numbers -/

theorem isDigit_of_mem_repr {n : Nat} {c : Char} (mem : c ∈ n.repr.toList) : c.isDigit := by
  rw [Nat.toList_repr] at mem
  exact Nat.isDigit_of_mem_toDigits (by decide) (by decide) mem

theorem repr_inj {m n : Nat} (same : m.repr = n.repr) : m = n := by
  rw [Nat.repr_eq_ofList_toDigits, Nat.repr_eq_ofList_toDigits, String.ofList_inj] at same
  simpa [Nat.ofDigitChars_toDigits] using congrArg (Nat.ofDigitChars 10 · 0) same

theorem toList_toString_negSucc (n : Nat) :
    (toString (Int.negSucc n)).toList = '-' :: (n + 1).repr.toList := by
  rw [Int.toString_eq_repr, Int.repr, String.toList_append]
  rfl

theorem delimited_int : Delimited fun n : Int => toString n := by
  have signed (n : Int) : ∀ c ∈ (toString n).toList, c.isDigit || c == '-' := by
    intro c mem
    cases n with
    | ofNat n => rw [isDigit_of_mem_repr mem, Bool.true_or]
    | negSucc n =>
      rw [toList_toString_negSucc] at mem
      obtain rfl | mem := List.mem_cons.1 mem
      · rfl
      · rw [isDigit_of_mem_repr mem, Bool.true_or]
  exact fun a b r r' stops stops' => eq_of_append_eq (signed a) (signed b) stops stops'

theorem toString_int_inj {m n : Int} : toString m = toString n ↔ m = n := by
  refine ⟨fun same => ?_, congrArg toString⟩
  -- Only a negative number has a sign.
  have apart (m n : Nat) : m.repr.toList ≠ (toString (Int.negSucc n)).toList := by
    intro same
    have sign : '-' ∈ m.repr.toList := by
      rw [same, toList_toString_negSucc]
      exact List.mem_cons_self
    exact absurd (isDigit_of_mem_repr sign) (by decide)
  have lists := congrArg String.toList same
  cases m with
  | ofNat m =>
    cases n with
    | ofNat n => exact congrArg Int.ofNat (repr_inj same)
    | negSucc n => exact absurd lists (apart m n)
  | negSucc m =>
    cases n with
    | ofNat n => exact absurd lists.symm (apart n m)
    | negSucc n =>
      rw [toList_toString_negSucc, toList_toString_negSucc] at lists
      have digits := repr_inj (String.toList_inj.1 (List.cons.inj lists).2)
      rw [Nat.succ.inj digits]

/-! ## Quoted text -/

theorem digitChar_inj {m n : Nat} (hm : m < 16) (hn : n < 16) (same : m.digitChar = n.digitChar) :
    m = n := by
  have distinct : ∀ m < 16, ∀ n < 16, m.digitChar = n.digitChar → m = n := by decide
  exact distinct m hm n hn same

theorem toDigits_inj {m n : Nat} (same : Nat.toDigits 16 m = Nat.toDigits 16 n) : m = n := by
  induction m using Nat.strong_induction_on generalizing n with
  | _ m ih =>
    rw [Nat.toDigits_eq_if (n := m) (by decide), Nat.toDigits_eq_if (n := n) (by decide)] at same
    split at same <;> split at same
    · rename_i hm hn
      exact digitChar_inj hm hn (List.cons.inj same).1
    · exact absurd (List.append_eq_singleton_iff.1 same.symm) (by simp)
    · exact absurd (List.append_eq_singleton_iff.1 same) (by simp)
    · rename_i hm hn
      obtain ⟨front, last⟩ := List.append_inj' same rfl
      have quotients := ih (m / 16) (by omega) front
      have remainders := digitChar_inj (Nat.mod_lt m (by decide)) (Nat.mod_lt n (by decide))
        (List.cons.inj last).1
      omega

theorem not_mem_toDigits (n : Nat) : '\x7d' ∉ Nat.toDigits 16 n := by
  induction n using Nat.strong_induction_on with
  | _ n ih =>
    rw [Nat.toDigits_eq_if (by decide)]
    have digit (n : Nat) : '\x7d' ≠ n.digitChar := (Nat.digitChar_ne _ rfl).symm
    split
    · simp [digit]
    · simp [digit, ih (n / 16) (by omega)]

/-- The characters that have a letter of their own behind the escape. -/
def escapes : List (Char × Char) :=
  [('\x00', '0'), ('\t', 't'), ('\r', 'r'), ('\n', 'n'), ('"', '"'), ('\\', '\\')]

theorem diagnosticChar_cases (c : Char) :
    (diagnosticChar c = [c] ∧ c ≠ '"' ∧ c ≠ '\\') ∨
      (∃ e, (c, e) ∈ escapes ∧ diagnosticChar c = ['\\', e]) ∨
      diagnosticChar c = '\\' :: 'u' :: '\x7b' :: (Nat.toDigits 16 c.toNat ++ ['\x7d']) := by
  unfold diagnosticChar
  split
  · exact .inr (.inl ⟨'0', by decide, rfl⟩)
  · exact .inr (.inl ⟨'t', by decide, rfl⟩)
  · exact .inr (.inl ⟨'r', by decide, rfl⟩)
  · exact .inr (.inl ⟨'n', by decide, rfl⟩)
  · exact .inr (.inl ⟨'"', by decide, rfl⟩)
  · exact .inr (.inl ⟨'\\', by decide, rfl⟩)
  · rename_i quote backslash
    split
    · exact .inl ⟨rfl, quote, backslash⟩
    · exact .inr (.inr rfl)

theorem diagnosticChar_inj {c d : Char} {r r' : List Char}
    (same : diagnosticChar c ++ r = diagnosticChar d ++ r') : c = d ∧ r = r' := by
  have letters : ∀ p ∈ escapes, p.2 ≠ 'u' ∧ ∀ q ∈ escapes, p.2 = q.2 → p.1 = q.1 := by decide
  obtain ⟨hc, -, slash⟩ | ⟨e, he, hc⟩ | hc := diagnosticChar_cases c <;>
    obtain ⟨hd, -, slash'⟩ | ⟨e', he', hd⟩ | hd := diagnosticChar_cases d <;> rw [hc, hd] at same <;>
    simp only [List.cons_append, List.nil_append, List.cons.injEq, true_and, List.append_assoc] at same
  · exact same
  · exact absurd same.1 slash
  · exact absurd same.1 slash
  · exact absurd same.1.symm slash'
  · exact ⟨(letters _ he).2 _ he' same.1, same.2⟩
  · exact absurd same.1 (letters _ he).1
  · exact absurd same.1.symm slash'
  · exact absurd same.1.symm (letters _ he').1
  · have brace (n : Nat) : ∀ c ∈ Nat.toDigits 16 n, c != '\x7d' := by
      intro c mem
      exact bne_iff_ne.2 fun h => not_mem_toDigits n (h ▸ mem)
    have digits := eq_of_append_eq (brace _) (brace _) (by simp) (by simp) same
    rw [digits] at same
    exact ⟨Char.toNat_inj.1 (toDigits_inj digits), (List.cons.inj (List.append_cancel_left same)).2⟩

theorem diagnosticChar_ne (c : Char) (r r' : List Char) : diagnosticChar c ++ r ≠ '"' :: r' := by
  intro same
  obtain ⟨hc, quote, -⟩ | ⟨e, -, hc⟩ | hc := diagnosticChar_cases c <;> rw [hc] at same
  · exact quote (List.cons.inj same).1
  · exact absurd (List.cons.inj same).1 (by decide)
  · exact absurd (List.cons.inj same).1 (by decide)

theorem flatMap_diagnosticChar_inj {s t r r' : List Char}
    (same : s.flatMap diagnosticChar ++ '"' :: r = t.flatMap diagnosticChar ++ '"' :: r') :
    s = t ∧ r = r' := by
  induction s generalizing t with
  | nil =>
    cases t with
    | nil => exact ⟨rfl, (List.cons.inj same).2⟩
    | cons d t =>
      rw [List.flatMap_cons, List.append_assoc] at same
      exact absurd same.symm (diagnosticChar_ne d _ _)
  | cons c s ih =>
    cases t with
    | nil =>
      rw [List.flatMap_cons, List.append_assoc] at same
      exact absurd same (diagnosticChar_ne c _ _)
    | cons d t =>
      rw [List.flatMap_cons, List.flatMap_cons, List.append_assoc, List.append_assoc] at same
      obtain ⟨rfl, tails⟩ := diagnosticChar_inj same
      obtain ⟨rfl, rest⟩ := ih tails
      exact ⟨rfl, rest⟩

theorem toList_diagnostic (s : String) :
    (diagnostic s).toList = '"' :: (s.toList.flatMap diagnosticChar ++ ['"']) := by
  simp [diagnostic]

/-- A quoted text ends with its closing quote, whatever comes after it. -/
theorem diagnostic_append_inj {s t : String} {r r' : List Char}
    (same : (diagnostic s).toList ++ r = (diagnostic t).toList ++ r') : s = t ∧ r = r' := by
  simp only [toList_diagnostic, List.cons_append, List.append_assoc, List.nil_append] at same
  obtain ⟨texts, rest⟩ := flatMap_diagnosticChar_inj (List.cons.inj same).2
  exact ⟨String.toList_inj.1 texts, rest⟩

theorem delimited_diagnostic : Delimited diagnostic := by
  intro s t r r' _ _ same
  rw [(diagnostic_append_inj same).1]

theorem diagnostic_inj {s t : String} : diagnostic s = diagnostic t ↔ s = t := by
  refine ⟨fun same => ?_, fun same => same ▸ rfl⟩
  have whole : (diagnostic s).toList ++ [] = (diagnostic t).toList ++ [] := by rw [same]
  exact (diagnostic_append_inj whole).1

/-! ## Options, lists and records -/

section Larger

variable {α : Type} {show1 : α → String}

theorem delimited_diagnosticOption (delimited : Delimited show1) :
    Delimited (diagnosticOption show1) := by
  have nothing : (diagnosticOption show1 none).toList = ['N', 'o', 'n', 'e'] := by
    simp [diagnosticOption]
  have something (a : α) : (diagnosticOption show1 (some a)).toList =
      ['S', 'o', 'm', 'e', '('] ++ ((show1 a).toList ++ [')']) := by
    simp [diagnosticOption]
  intro a b
  cases a with
  | none =>
    cases b with
    | none => exact .refl _
    | some b =>
      rw [nothing, something]
      exact .of_first (by decide)
  | some a =>
    cases b with
    | none =>
      rw [nothing, something]
      exact .of_first (by decide)
    | some b =>
      rw [something, something]
      exact ((delimited a b).closed rfl []).behind _

theorem diagnosticOption_inj (inj : ∀ {a b}, show1 a = show1 b ↔ a = b) {a b : Option α} :
    diagnosticOption show1 a = diagnosticOption show1 b ↔ a = b := by
  refine ⟨fun same => ?_, fun same => same ▸ rfl⟩
  have chars := congrArg String.toList same
  cases a <;> cases b <;> simp [diagnosticOption, String.toList_inj, inj] at chars ⊢
  exact chars

/-- The items of a list after its first. -/
def later (items : List (List Char)) : List Char := items.flatMap ([',', ' '] ++ ·)

theorem intercalate_cons (x : List Char) (xs : List (List Char)) :
    [',', ' '].intercalate (x :: xs) = x ++ later xs := by
  induction xs generalizing x with
  | nil => simp [later]
  | cons y xs ih =>
    rw [List.intercalate_cons_cons, ih, later, later, List.flatMap_cons, List.append_assoc,
      List.append_assoc]

theorem stops_later {c : Char} (stop : (c.isDigit || c == '-') = false) (items : List (List Char))
    (r : List Char) : Stops (later items ++ c :: r) := by
  cases items with
  | nil => exact stops_cons stop r
  | cons x items => exact stops_cons rfl _

theorem later_inj {xs ys : List (List Char)} {c : Char} {r r' : List Char}
    (apart : ∀ p ∈ xs.zip ys, Apart p.1 p.2) (stop : (c.isDigit || c == '-') = false)
    (other : c ≠ ',') (same : later xs ++ c :: r = later ys ++ c :: r') : xs = ys ∧ r = r' := by
  induction xs generalizing ys with
  | nil =>
    cases ys with
    | nil => exact ⟨rfl, (List.cons.inj same).2⟩
    | cons y ys => exact absurd (List.cons.inj same).1 other
  | cons x xs ih =>
    cases ys with
    | nil => exact absurd (List.cons.inj same).1.symm other
    | cons y ys =>
      rw [List.zip_cons_cons, List.forall_mem_cons] at apart
      have items : x ++ (later xs ++ c :: r) = y ++ (later ys ++ c :: r') := by
        simpa [later] using same
      have first : x = y := apart.1 (stops_later stop xs r) (stops_later stop ys r') items
      have tails := apart.1.rest_eq (stops_later stop xs r) (stops_later stop ys r') items
      obtain ⟨rest, after⟩ := ih apart.2 tails
      exact ⟨by rw [first, rest], after⟩

theorem intercalate_inj {xs ys : List (List Char)} {c : Char} {r r' : List Char}
    (apart : ∀ p ∈ xs.zip ys, Apart p.1 p.2) (empty : xs = [] ↔ ys = [])
    (stop : (c.isDigit || c == '-') = false) (other : c ≠ ',')
    (same : [',', ' '].intercalate xs ++ c :: r = [',', ' '].intercalate ys ++ c :: r') :
    xs = ys ∧ r = r' := by
  cases xs with
  | nil =>
    obtain rfl := empty.1 rfl
    exact ⟨rfl, (List.cons.inj same).2⟩
  | cons x xs =>
    cases ys with
    | nil => cases empty.2 rfl
    | cons y ys =>
      -- A separator before the first items leaves only items that have one.
      refine later_inj apart stop other ?_
      rw [intercalate_cons, intercalate_cons] at same
      simpa [later] using same

theorem diagnosticList_append_inj {xs ys : List String} {r r' : List Char}
    (same : (diagnosticList diagnostic xs).toList ++ r = (diagnosticList diagnostic ys).toList ++ r') :
    xs = ys ∧ r = r' := by
  have text (xs : List String) (r : List Char) : (diagnosticList diagnostic xs).toList ++ r =
      '[' :: ([',', ' '].intercalate (xs.map (diagnostic ·|>.toList)) ++ ']' :: r) := by
    simp [diagnosticList, String.toList_intercalate, Function.comp_def]
  rw [text, text] at same
  have items := (List.cons.inj same).2
  have apart : ∀ p ∈ (xs.map (diagnostic ·|>.toList)).zip (ys.map (diagnostic ·|>.toList)),
      Apart p.1 p.2 := by
    rw [List.zip_map, List.forall_mem_map]
    intro p _
    simp only [Prod.map_fst, Prod.map_snd]
    exact delimited_diagnostic p.1 p.2
  have quoted (x : String) (xs : List String) (r r' : List Char) :
      [',', ' '].intercalate ((x :: xs).map (diagnostic ·|>.toList)) ++ r ≠ ']' :: r' := by
    rw [List.map_cons, intercalate_cons, toList_diagnostic]
    exact fun h => absurd (List.cons.inj h).1 (by decide)
  have empty : xs.map (diagnostic ·|>.toList) = [] ↔ ys.map (diagnostic ·|>.toList) = [] := by
    cases xs with
    | nil =>
      cases ys with
      | nil => rfl
      | cons y ys => exact absurd items.symm (quoted y ys _ _)
    | cons x xs =>
      cases ys with
      | nil => exact absurd items (quoted x xs _ _)
      | cons y ys => simp
  obtain ⟨texts, rest⟩ := intercalate_inj apart empty rfl (by decide) items
  have inj : Function.Injective (diagnostic ·|>.toList) :=
    fun s t h => diagnostic_inj.1 (String.toList_inj.1 h)
  exact ⟨inj.list_map texts, rest⟩

theorem delimited_diagnosticList : Delimited (diagnosticList diagnostic) := by
  intro xs ys r r' _ _ same
  rw [(diagnosticList_append_inj same).1]

theorem diagnosticList_inj {xs ys : List String} :
    diagnosticList diagnostic xs = diagnosticList diagnostic ys ↔ xs = ys := by
  refine ⟨fun same => ?_, fun same => same ▸ rfl⟩
  have whole : (diagnosticList diagnostic xs).toList ++ [] =
      (diagnosticList diagnostic ys).toList ++ [] := by rw [same]
  exact (diagnosticList_append_inj whole).1

/-- A name and what is shown under it. -/
abbrev Shown (α : Type) : Type := String × (α → String)

namespace Shown

def chars (f : Shown α) (a : α) : List Char := f.1.toList ++ ([':', ' '] ++ (f.2 a).toList)

theorem apart_chars {f : Shown α} (delimited : Delimited f.2) (a b : α) :
    Apart (f.chars a) (f.chars b) := ((delimited a b).behind _).behind _

theorem chars_inj {f : Shown α} {a b : α} (same : f.chars a = f.chars b) : f.2 a = f.2 b :=
  String.toList_inj.1 (List.append_cancel_left (List.append_cancel_left same))

end Shown

/-- A record of these fields. -/
def recordOf (name : String) (fields : List (Shown α)) (a : α) : String :=
  diagnosticRecord name (fields.map fun f => (f.1, f.2 a))

variable {name : String} {fields : List (Shown α)} {a b : α}

theorem recordOf_append_inj (delimited : ∀ f ∈ fields, Delimited f.2) {r r' : List Char}
    (same : (recordOf name fields a).toList ++ r = (recordOf name fields b).toList ++ r') :
    ∀ f ∈ fields, f.2 a = f.2 b := by
  have text (a : α) (r : List Char) : (recordOf name fields a).toList ++ r =
      name.toList ++ ([' ', '\x7b', ' '] ++
        ([',', ' '].intercalate (fields.map (·.chars a)) ++ ' ' :: '\x7d' :: r)) := by
    simp [recordOf, diagnosticRecord, String.toList_intercalate, Function.comp_def, Shown.chars]
  rw [text, text] at same
  have items := List.append_cancel_left (List.append_cancel_left same)
  have apart : ∀ p ∈ (fields.map (·.chars a)).zip (fields.map (·.chars b)), Apart p.1 p.2 := by
    rw [List.zip_map', List.forall_mem_map]
    exact fun f mem => Shown.apart_chars (delimited f mem) a b
  have chars := (intercalate_inj apart (by simp) rfl (by decide) items).1
  exact fun f mem => Shown.chars_inj (List.map_inj_left.1 chars f mem)

theorem recordOf_inj (delimited : ∀ f ∈ fields, Delimited f.2) :
    recordOf name fields a = recordOf name fields b ↔ ∀ f ∈ fields, f.2 a = f.2 b := by
  constructor
  · intro same
    have whole : (recordOf name fields a).toList ++ [] = (recordOf name fields b).toList ++ [] := by
      rw [same]
    exact recordOf_append_inj delimited whole
  · intro same
    have parts : fields.map (fun f => (f.1, f.2 a)) = fields.map fun f => (f.1, f.2 b) :=
      List.map_inj_left.2 fun f mem => by rw [same f mem]
    rw [recordOf, recordOf, parts]

theorem delimited_recordOf (delimited : ∀ f ∈ fields, Delimited f.2) :
    Delimited (recordOf name fields) := by
  intro a b r r' _ _ same
  rw [(recordOf_inj delimited).2 (recordOf_append_inj delimited same)]

end Larger

end TokenGate.Text
