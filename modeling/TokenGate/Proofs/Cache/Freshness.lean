import TokenGate.Proofs.Http.Fields
import TokenGate.Proofs.Storing
import TokenGate.Proofs.Text.Fields
import TokenGate.Proofs.Text.Words
import TokenGate.Proofs.Time.MailDate

/-!
# What a server says about freshness

The first `Cache-Control` field is a list of directives. A ban in it counts most, then the last age that can
be read, and `Expires` counts only where neither is there. A field that cannot be read as text says nothing,
whatever is in it: one directive with a foreign character silences all others.
-/

namespace TokenGate

namespace Freshness

open Text (ReadsAs IsNumber lowerAscii trim isBlank)

/-! ## Directives -/

/-- The directive forbids keeping the answer. -/
def Bans (d : List Char) : Prop := ReadsAs d "no-cache".toList ∨ ReadsAs d "no-store".toList

/-- What stands for an age of so many seconds, in small letters and without blanks. Quotes may stand around
the number. -/
def IsAge (n : Nat) (w : List Char) : Prop :=
  ∃ left number right, w = "max-age=".toList ++ (left ++ number ++ right) ∧
    (∀ c ∈ left, c = '"') ∧ (∀ c ∈ right, c = '"') ∧ IsNumber n number ∧ n < Nat.pow 2 64

/-- The directive gives an age of so many seconds. -/
def Ages (d : List Char) (n : Nat) : Prop := ∃ w, IsAge n w ∧ ReadsAs d w

theorem Ages.lt {d : List Char} {n : Nat} (h : Ages d n) : n < Nat.pow 2 64 := by
  obtain ⟨w, ⟨left, number, right, -, -, -, -, below⟩, -⟩ := h
  exact below

/-- What a directive is compared as. -/
def word (d : List Char) : List Char := lowerAscii (trim isBlank d)

theorem word_lowerAscii (d : List Char) : word (lowerAscii d) = word d :=
  Text.lowerAscii_trim_lowerAscii d

theorem forbidsKeeping_word_iff {d : List Char} : forbidsKeeping (word d) ↔ Bans d := by
  unfold forbidsKeeping Bans word
  rw [Bool.or_eq_true, beq_iff_eq, beq_iff_eq,
    Text.lowerAscii_trim_eq_iff (Text.trimmed_of_forall (by simp [isBlank])),
    Text.lowerAscii_trim_eq_iff (Text.trimmed_of_forall (by simp [isBlank]))]

theorem maxAge?_eq_some_iff {w : List Char} {s : Span} :
    maxAge? w = some s ↔ ∃ n, IsAge n w ∧ s = .ofSeconds n := by
  have pos : 0 < Text.wordLimit := by decide
  unfold maxAge?
  constructor
  · intro read
    split at read
    · cases read
    · rename_i value lead
      split at read
      · rename_i n number
        obtain ⟨isNumber, below⟩ := (Text.readNatBelow_eq_ok_iff pos).1 number
        obtain ⟨-, left, right, split, quotes, quotes'⟩ :=
          Text.trim_eq_iff.1 (rfl : trim (· == '"') value = _)
        refine ⟨n, ⟨left, _, right, ?_, by simpa using quotes, by simpa using quotes', isNumber, below⟩,
          (Option.some.inj read).symm⟩
        rw [Text.after?_eq_some_iff.1 lead, ← split]
      · cases read
  · rintro ⟨n, ⟨left, number, right, rfl, quotes, quotes', isNumber, below⟩, rfl⟩
    have bare : Text.Trimmed (· == '"') number := by
      refine Text.trimmed_of_forall fun c mem => ?_
      rcases isNumber.digit_or_plus mem with digit | rfl
      · intro quote
        obtain rfl := eq_of_beq quote
        cases digit
      · decide
    have trimmed : trim (· == '"') (left ++ number ++ right) = number :=
      Text.trim_eq_iff.2 ⟨bare, left, right, rfl, by simpa using quotes, by simpa using quotes'⟩
    simp only [Text.after?_eq_some_iff.2 rfl, trimmed,
      (Text.readNatBelow_eq_ok_iff pos).2 ⟨isNumber, below⟩]

theorem IsAge.trimmed {n : Nat} {w : List Char} (h : IsAge n w) : Text.Trimmed isBlank w := by
  obtain ⟨left, number, right, rfl, quotes, quotes', isNumber, -⟩ := h
  refine Text.trimmed_of_forall fun c mem => ?_
  simp only [List.mem_append] at mem
  rcases mem with lead | (quote | digit) | quote
  · revert c
    simp [isBlank]
  · rw [quotes c quote]
    decide
  · rcases isNumber.digit_or_plus digit with digit | rfl
    · exact Text.not_isBlank_of_isDigit digit
    · decide
  · rw [quotes' c quote]
    decide

theorem maxAge?_word_iff {d : List Char} {s : Span} :
    maxAge? (word d) = some s ↔ ∃ n, Ages d n ∧ s = .ofSeconds n := by
  rw [maxAge?_eq_some_iff]
  constructor
  · rintro ⟨n, age, rfl⟩
    exact ⟨n, ⟨_, age, (Text.lowerAscii_trim_eq_iff age.trimmed).1 rfl⟩, rfl⟩
  · rintro ⟨n, ⟨w, age, reads⟩, rfl⟩
    exact ⟨n, by rwa [word, (Text.lowerAscii_trim_eq_iff age.trimmed).2 reads], rfl⟩

theorem maxAge?_word_eq_none_iff {d : List Char} : maxAge? (word d) = none ↔ ∀ n, ¬ Ages d n := by
  constructor
  · intro unread n ages
    have read := maxAge?_word_iff.2 ⟨n, ages, rfl⟩
    rw [unread] at read
    cases read
  · intro ageless
    cases read : maxAge? (word d) with
    | none => rfl
    | some age =>
      obtain ⟨n, ages, -⟩ := maxAge?_word_iff.1 read
      exact absurd ages (ageless n)

instance (d : List Char) : Decidable (Bans d) := decidable_of_iff _ forbidsKeeping_word_iff

instance (d : List Char) : Decidable (∀ n, ¬ Ages d n) := decidable_of_iff _ maxAge?_word_eq_none_iff

/-! ## A list of directives -/

/-- The directives can be read as text. -/
def Legible (ds : List (List Char)) : Prop := ∀ d ∈ ds, ∀ c ∈ d, Http.Fields.isVisible c

/-- The directives say nothing about freshness. -/
def Mute (ds : List (List Char)) : Prop := Legible ds → ∀ d ∈ ds, ¬ Bans d ∧ ∀ n, ¬ Ages d n

/-- The directives of the first `Cache-Control` field. There are none without such a field. -/
inductive Carries (fields : Http.Fields) : List (List Char) → Prop
  | absent (h : fields.first? "cache-control" = none) : Carries fields []
  | present (value : String) (ds : List (List Char)) (h : fields.first? "cache-control" = some value)
    (nonempty : ds ≠ []) (joined : value.toList = [','].intercalate ds) (whole : ∀ d ∈ ds, ',' ∉ d) :
    Carries fields ds

/-- What directives say, if they can be read. -/
def said? (ds : List (List Char)) : Option Span :=
  if ds.all (·.all Http.Fields.isVisible) then
    if ds.any fun d => forbidsKeeping (word d) then some .zero
    else (ds.filterMap fun d => maxAge? (word d)).getLast?
  else none

variable {ds ds' before after : List (List Char)} {d : List Char}

theorem all_isVisible_iff : ds.all (·.all Http.Fields.isVisible) ↔ Legible ds := by
  simp [Legible, List.all_eq_true]

theorem said?_of_bans (legible : Legible ds) (mem : d ∈ ds) (bans : Bans d) : said? ds = some .zero := by
  unfold said?
  rw [if_pos (all_isVisible_iff.2 legible), if_pos]
  exact List.any_eq_true.2 ⟨d, mem, forbidsKeeping_word_iff.2 bans⟩

theorem said?_eq_getLast? (legible : Legible ds) (unbanned : ∀ d ∈ ds, ¬ Bans d) :
    said? ds = (ds.filterMap fun d => maxAge? (word d)).getLast? := by
  unfold said?
  rw [if_pos (all_isVisible_iff.2 legible), if_neg]
  intro bans
  obtain ⟨d, mem, bans⟩ := List.any_eq_true.1 bans
  exact unbanned d mem (forbidsKeeping_word_iff.1 bans)

theorem filterMap_eq_nil (h : ∀ d ∈ ds, ∀ n, ¬ Ages d n) :
    ds.filterMap (fun d => maxAge? (word d)) = [] :=
  List.filterMap_eq_nil_iff.2 fun d mem => maxAge?_word_eq_none_iff.2 (h d mem)

theorem said?_of_ages {n : Nat} (legible : Legible (before ++ d :: after))
    (unbanned : ∀ d' ∈ before ++ d :: after, ¬ Bans d') (ages : Ages d n)
    (last : ∀ d' ∈ after, ∀ m, ¬ Ages d' m) : said? (before ++ d :: after) = some (.ofSeconds n) := by
  have read := maxAge?_word_iff.2 ⟨n, ages, rfl⟩
  rw [said?_eq_getLast? legible unbanned]
  simp [read, filterMap_eq_nil last]

theorem said?_of_mute (mute : Mute ds) : said? ds = none := by
  by_cases legible : Legible ds
  · rw [said?_eq_getLast? legible fun d mem => (mute legible d mem).1,
      filterMap_eq_nil fun d mem => (mute legible d mem).2, List.getLast?_nil]
  · unfold said?
    rw [if_neg (mt all_isVisible_iff.1 legible)]

/-! ## The field -/

theorem all_intercalate (ds : List (List Char)) :
    ([','].intercalate ds).all Http.Fields.isVisible = ds.all (·.all Http.Fields.isVisible) := by
  induction ds with
  | nil => rfl
  | cons d ds ih =>
    cases ds with
    | nil => simp
    | cons d' ds =>
      have comma : Http.Fields.isVisible ',' := by decide
      rw [List.intercalate_cons_cons, List.all_append, List.all_append, ih, List.all_cons, List.all_cons]
      simp [comma]

theorem exists_carries (fields : Http.Fields) : ∃ ds, Carries fields ds := by
  cases given : fields.first? "cache-control" with
  | none => exact ⟨[], .absent given⟩
  | some value =>
    obtain ⟨nonempty, joined, whole⟩ := Text.fields_eq_iff.1 (rfl : Text.fields ',' value.toList = _)
    exact ⟨_, .present value _ given nonempty joined whole⟩

theorem ofCacheControl?_of_carries {fields : Http.Fields} (h : Carries fields ds) :
    ((fields.first? "cache-control").bind Http.Fields.visible?).bind ofCacheControl? = said? ds := by
  cases h with
  | absent none => simp [none, said?]
  | present value ds given nonempty joined whole =>
    have split := Text.fields_eq_iff.2 ⟨nonempty, joined, whole⟩
    rw [given, Option.bind_some, Http.Fields.visible?, joined, all_intercalate, ← joined]
    unfold said?
    by_cases legible : ds.all (·.all Http.Fields.isVisible)
    · simp only [legible, if_true, Option.bind_some, ofCacheControl?, directives, split, List.any_map,
        List.filterMap_map]
      rfl
    · simp [legible]

theorem hint?_of_carries {fields : Http.Fields} (h : Carries fields ds) (now : Int) :
    hint? fields now = (said? ds).or ((fields.first? "expires").map (ofExpires now)) := by
  unfold hint?
  rw [ofCacheControl?_of_carries h]
  cases said? ds <;> rfl

/-! ## What the server says -/

/-- What the directives say about freshness at a time of the Unix clock, in nanoseconds, and what `Expires`
says where they say nothing. -/
inductive Tells (ds : List (List Char)) (expires : Option String) (now : Int) : Option Span → Prop
  | banned (legible : Legible ds) (d : List Char) (mem : d ∈ ds) (bans : Bans d) :
    Tells ds expires now (some .zero)
  | aged (legible : Legible ds) (unbanned : ∀ d ∈ ds, ¬ Bans d) (before after : List (List Char))
    (d : List Char) (split : ds = before ++ d :: after) (n : Nat) (ages : Ages d n)
    (last : ∀ d' ∈ after, ∀ m, ¬ Ages d' m) (age : Span) (exact : age.nanos = n * Span.nanosPerSecond) :
    Tells ds expires now (some age)
  | dated (mute : Mute ds) (value : String) (given : expires = some value) (date : Int)
    (read : (Http.Fields.visible? value).bind MailDate.read? = some date) (left : Span)
    (exact : (left.nanos : Int) = max 0 (date * Span.nanosPerSecond - now)) :
    Tells ds expires now (some left)
  | undated (mute : Mute ds) (value : String) (given : expires = some value)
    (unread : (Http.Fields.visible? value).bind MailDate.read? = none) : Tells ds expires now (some .zero)
  | silent (mute : Mute ds) (missing : expires = none) : Tells ds expires now none

variable {fields fields' : Http.Fields} {epoch : Stamp} {clock : Instant}

theorem ofExpires_eq {value : String} {date : Int}
    (read : (Http.Fields.visible? value).bind MailDate.read? = some date) :
    ((ofExpires (Clock.wallNanos epoch clock) value).nanos : Int) =
      max 0 (date * Span.nanosPerSecond - Clock.wallNanos epoch clock) := by
  obtain ⟨text, -, dated⟩ := Option.bind_eq_some_iff.1 read
  have early := MailDate.lt_of_read? dated
  have least := epoch.least_le
  simp only [ofExpires, read, Span.nanos_ofNanos, Clock.wallNanos, Span.longest, Span.nanosPerSecond]
  omega

theorem ofExpires_of_unread {value : String} (now : Int)
    (unread : (Http.Fields.visible? value).bind MailDate.read? = none) : ofExpires now value = .zero := by
  rw [ofExpires, unread]

theorem heard_of_tells {expires : Option String} {hint : Option Span}
    (tells : Tells ds expires (Clock.wallNanos epoch clock) hint) :
    (said? ds).or (expires.map (ofExpires (Clock.wallNanos epoch clock))) = hint := by
  cases tells with
  | banned legible d mem bans => rw [said?_of_bans legible mem bans, Option.some_or]
  | aged legible unbanned before after d split n ages last age exact =>
    subst split
    have same : age = .ofSeconds n := Span.ext (exact.trans (Span.nanos_ofSeconds ages.lt).symm)
    rw [said?_of_ages legible unbanned ages last, Option.some_or, same]
  | dated mute value given date read left exact =>
    have same : ofExpires (Clock.wallNanos epoch clock) value = left :=
      Span.ext (Int.ofNat.inj ((ofExpires_eq read).trans exact.symm))
    rw [said?_of_mute mute, given, Option.none_or, Option.map_some, same]
  | undated mute value given unread =>
    rw [said?_of_mute mute, given, Option.none_or, Option.map_some, ofExpires_of_unread _ unread]
  | silent mute missing => rw [said?_of_mute mute, missing]; rfl

theorem exists_last {P : List Char → Prop} (h : ∃ d ∈ ds, P d) :
    ∃ before d after, ds = before ++ d :: after ∧ P d ∧ ∀ d' ∈ after, ¬ P d' := by
  induction ds with
  | nil => simp at h
  | cons d ds ih =>
    by_cases later : ∃ d ∈ ds, P d
    · obtain ⟨before, d', after, rfl, holds, last⟩ := ih later
      exact ⟨d :: before, d', after, rfl, holds, last⟩
    · have holds : P d := by simpa [later] using h
      exact ⟨[], d, ds, rfl, holds, by simpa using later⟩

theorem exists_tells (epoch : Stamp) (clock : Instant) (ds : List (List Char)) (expires : Option String) :
    ∃ hint, Tells ds expires (Clock.wallNanos epoch clock) hint := by
  by_cases mute : Mute ds
  -- `Expires` is asked only here.
  · cases given : expires with
    | none => exact ⟨none, .silent mute rfl⟩
    | some value =>
      cases read : (Http.Fields.visible? value).bind MailDate.read? with
      | none => exact ⟨_, .undated mute value rfl read⟩
      | some date => exact ⟨_, .dated mute value rfl date read _ (ofExpires_eq read)⟩
  · obtain ⟨legible, speaks⟩ := Classical.not_imp.1 mute
    by_cases bans : ∃ d ∈ ds, Bans d
    · obtain ⟨d, mem, bans⟩ := bans
      exact ⟨_, .banned legible d mem bans⟩
    · have unbanned : ∀ d ∈ ds, ¬ Bans d := fun d mem bans' => bans ⟨d, mem, bans'⟩
      have aged : ∃ d ∈ ds, ∃ n, Ages d n := by
        by_contra never
        exact speaks fun d mem => ⟨unbanned d mem, fun n ages => never ⟨d, mem, n, ages⟩⟩
      obtain ⟨before, d, after, split, ⟨n, ages⟩, last⟩ := exists_last aged
      exact ⟨_, .aged legible unbanned before after d split n ages
        (fun d' mem m ages' => last d' mem ⟨m, ages'⟩) _ (Span.nanos_ofSeconds ages.lt)⟩

theorem heard_eq_iff {expires : Option String} {hint : Option Span} :
    (said? ds).or (expires.map (ofExpires (Clock.wallNanos epoch clock))) = hint ↔
      Tells ds expires (Clock.wallNanos epoch clock) hint := by
  constructor
  · rintro rfl
    obtain ⟨hint, tells⟩ := exists_tells epoch clock ds expires
    rwa [heard_of_tells tells]
  · exact heard_of_tells

theorem hint?_eq_iff {hint : Option Span} (carries : Carries fields ds) :
    hint? fields (Clock.wallNanos epoch clock) = hint ↔
      Tells ds (fields.first? "expires") (Clock.wallNanos epoch clock) hint := by
  rw [hint?_of_carries carries]
  exact heard_eq_iff

/-! ## Directives in another order, and other directives -/

/-- A readable directive that says nothing about freshness. -/
structure Idle (d : List Char) : Prop where
  visible : ∀ c ∈ d, Http.Fields.isVisible c
  unbanned : ¬ Bans d
  ageless : ∀ n, ¬ Ages d n

/-- The same directives for freshness. -/
inductive Rearranged : List (List Char) → List (List Char) → Prop
  | insert (before after : List (List Char)) (d : List Char) (idle : Idle d) :
    Rearranged (before ++ after) (before ++ d :: after)
  | remove (before after : List (List Char)) (d : List Char) (idle : Idle d) :
    Rearranged (before ++ d :: after) (before ++ after)
  | recase (ds ds' : List (List Char)) (same : ds.map lowerAscii = ds'.map lowerAscii) : Rearranged ds ds'
  | permute (ds ds' : List (List Char)) (perm : ds.Perm ds')
    (one : ds.Pairwise fun d d' => ∀ n n', Ages d n → ¬ Ages d' n') : Rearranged ds ds'
  | trans {ds ds' ds'' : List (List Char)} (first : Rearranged ds ds') (second : Rearranged ds' ds'') :
    Rearranged ds ds''

theorem said?_insert (before after : List (List Char)) (idle : Idle d) :
    said? (before ++ d :: after) = said? (before ++ after) := by
  have visible : d.all Http.Fields.isVisible := List.all_eq_true.2 idle.visible
  have keeps : forbidsKeeping (word d) = false :=
    Bool.eq_false_iff.2 (mt forbidsKeeping_word_iff.1 idle.unbanned)
  simp [said?, visible, keeps, maxAge?_word_eq_none_iff.2 idle.ageless]

theorem said?_map_lowerAscii (ds : List (List Char)) : said? (ds.map lowerAscii) = said? ds := by
  have visible (d : List Char) :
      (lowerAscii d).all Http.Fields.isVisible = d.all Http.Fields.isVisible := by
    simp [lowerAscii, Http.Fields.isVisible_toLower, Function.comp_def]
  simp [said?, word_lowerAscii, visible, Function.comp_def]

theorem said?_of_perm (perm : ds.Perm ds')
    (one : ds.Pairwise fun d d' => ∀ n n', Ages d n → ¬ Ages d' n') : said? ds = said? ds' := by
  -- No two ages are there to change places, so the ages stay as they are.
  have single : (ds.filterMap fun d => maxAge? (word d)).Pairwise fun _ _ => False := by
    refine List.pairwise_filterMap.2 (one.imp fun never s read s' read' => ?_)
    obtain ⟨n, ages, -⟩ := maxAge?_word_iff.1 read
    obtain ⟨n', ages', -⟩ := maxAge?_word_iff.1 read'
    exact never n n' ages ages'
  have moved := perm.filterMap fun d => maxAge? (word d)
  have single' := (moved.pairwise_iff id).1 single
  have ages := moved.eq_of_pairwise (fun _ _ _ _ less _ => less.elim) single single'
  unfold said?
  rw [perm.all_eq, perm.any_eq, ages]

theorem said?_of_rearranged (h : Rearranged ds ds') : said? ds = said? ds' := by
  induction h with
  | insert before after d idle => exact (said?_insert before after idle).symm
  | remove before after d idle => exact said?_insert before after idle
  | recase ds ds' same => rw [← said?_map_lowerAscii ds, same, said?_map_lowerAscii]
  | permute ds ds' perm one => exact said?_of_perm perm one
  | trans first second ih ih' => exact ih.trans ih'

theorem hint?_of_rearranged (carries : Carries fields ds) (carries' : Carries fields' ds')
    (rearranged : Rearranged ds ds') (expires : fields.first? "expires" = fields'.first? "expires")
    (now : Int) : hint? fields now = hint? fields' now := by
  rw [hint?_of_carries carries, hint?_of_carries carries', said?_of_rearranged rearranged, expires]

/-! ## Limits of our own -/

theorem granted_mono {hint hint' : Option Span} {standard : Span} (floor : Span)
    (le : hint.getD standard ≤ hint'.getD standard) :
    granted hint standard floor ≤ granted hint' standard floor := by
  change (granted hint standard floor).nanos ≤ (granted hint' standard floor).nanos
  have le : (hint.getD standard).nanos ≤ (hint'.getD standard).nanos := le
  unfold granted
  rw [Span.nanos_max, Span.nanos_max, Span.nanos_min, Span.nanos_min]
  omega

/-- The word of a server is read exactly, however it is arranged, and taken within limits. -/
theorem freshness_exact (fields : Http.Fields) (epoch : Stamp) (clock : Instant) :
    let now := Clock.wallNanos epoch clock
    (∃ ds, Carries fields ds) ∧
    (∀ ds, Carries fields ds → ∀ hint,
      hint? fields now = hint ↔ Tells ds (fields.first? "expires") now hint) ∧
    (∀ fields' ds ds', Carries fields ds → Carries fields' ds' → Rearranged ds ds' →
      fields.first? "expires" = fields'.first? "expires" → hint? fields now = hint? fields' now) ∧
    ∀ hint standard floor, floor.nanos ≤ (granted hint standard floor).nanos ∧
      (granted hint standard floor).nanos ≤ max (86400 * Span.nanosPerSecond) floor.nanos ∧
      ∀ hint', hint.getD standard ≤ hint'.getD standard →
        granted hint standard floor ≤ granted hint' standard floor :=
  ⟨exists_carries fields, fun _ carries _ => hint?_eq_iff carries,
    fun _ _ _ carries carries' rearranged expires =>
      hint?_of_rearranged carries carries' rearranged expires _,
    fun hint standard floor => ⟨le_granted hint standard floor, granted_le hint standard floor,
      fun _ le => granted_mono floor le⟩⟩

/-! ## A minute -/

def minute : Http.Fields := [("Cache-Control", "public, Max-Age=60")]

def plainMinute : Http.Fields := [("cache-control", " max-age=60")]

theorem minute_read_in_any_case :
    hint? minute (Clock.wallNanos .zero .start) = some (.ofSeconds 60) ∧
    hint? minute (Clock.wallNanos .zero .start) = hint? plainMinute (Clock.wallNanos .zero .start) ∧
    Tells ["public".toList, " Max-Age=60".toList] none (Clock.wallNanos .zero .start)
      (some (.ofSeconds 60)) := by
  obtain ⟨-, exact, same, -⟩ := freshness_exact minute .zero .start
  have given : Carries minute ["public".toList, " Max-Age=60".toList] :=
    .present _ _ rfl (by simp) (by decide +kernel) (by decide +kernel)
  have given' : Carries plainMinute [" max-age=60".toList] :=
    .present _ _ rfl (by simp) (by decide +kernel) (by decide +kernel)
  have idle : Idle "public".toList :=
    ⟨by simp [Http.Fields.isVisible], by decide +kernel, by decide +kernel⟩
  have sixty : hint? minute (Clock.wallNanos .zero .start) = some (.ofSeconds 60) := by decide +kernel
  refine ⟨sixty, same _ _ _ given given' ?_ rfl, (exact _ given _).1 sixty⟩
  exact .trans (.remove [] _ _ idle) (.recase _ _ (by decide +kernel))

/-- One directive with a foreign letter silences the others, although it says nothing itself. So does a letter
that is foreign only as long as it is small: the capital of `ſ` is a plain `S`. -/
theorem minute_lost_to_foreign_letter :
    let now := Clock.wallNanos .zero .start
    let foreign := "é".toList
    (',' ∉ foreign ∧ ¬ Bans foreign ∧ ∀ n, ¬ Ages foreign n) ∧
    (∃ fields fields', Carries fields ["max-age=60".toList] ∧
      Carries fields' ["max-age=60".toList, foreign] ∧
      fields.first? "expires" = fields'.first? "expires" ∧
      hint? fields now = some (.ofSeconds 60) ∧ hint? fields' now = none) ∧
    hint? [("cache-control", "no-store")] now = some .zero ∧
    hint? [("cache-control", "no-ſtore")] now = none := by
  refine ⟨by decide +kernel, ⟨[("cache-control", "max-age=60")], [("cache-control", "max-age=60,é")],
    .present _ _ rfl (by simp) (by decide +kernel) (by decide +kernel),
    .present _ _ rfl (by simp) (by decide +kernel) (by decide +kernel), rfl, ?_, ?_⟩, ?_, ?_⟩ <;>
    decide +kernel

end Freshness

end TokenGate
