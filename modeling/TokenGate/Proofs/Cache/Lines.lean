import TokenGate.Proofs.Cache.Freshness

/-!
# Directives on several lines

A list of directives may be sent on several lines of one name, and means what it would mean on one line with
commas in between. Only the first of the lines is read here. So a ban is heard on the first line, and not
on a later one.
-/

namespace TokenGate

/-! ## Lines of one name -/

namespace Http.Fields

/-- `joined` has one line of the name where `fields` may have several. -/
structure Joins (fields joined : Fields) (name : String) : Prop where
  one : joined.lines name = [", ".intercalate (fields.lines name)]
  others : joined.others name = fields.others name

variable {fields joined : Fields} {name other : String}

theorem Joins.first?_eq (joins : fields.Joins joined name)
    (apart : ¬ Text.sameIgnoringCase name.toList other.toList) :
    joined.first? other = fields.first? other := by
  rw [← first?_others joined apart, joins.others, first?_others fields apart]

end Http.Fields

namespace Freshness

open Text (trim isBlank)

/-! ## Directives of a line -/

/-- The directives of a line, as they are written. -/
def written (line : String) : List (List Char) := Text.fields ',' line.toList

theorem carries_of_first {fields : Http.Fields} {line : String}
    (first : fields.first? "cache-control" = some line) : Carries fields (written line) := by
  obtain ⟨nonempty, joined, whole⟩ := Text.fields_eq_iff.1 (rfl : Text.fields ',' line.toList = _)
  exact .present line _ first nonempty joined whole

theorem word_blank (d : List Char) : word (' ' :: d) = word d := by
  have blank : isBlank ' ' := by decide
  simp [word, trim, List.dropWhile_cons_of_pos blank]

theorem map_word_blank (s : List Char) :
    (Text.fields ',' (' ' :: s)).map word = (Text.fields ',' s).map word := by
  rw [Text.fields_cons, if_neg (by decide)]
  cases pieces : Text.fields ',' s with
  | nil => rfl
  | cons d rest => simp [word_blank]

theorem fields_append_comma (s t : List Char) :
    Text.fields ',' (s ++ ',' :: t) = Text.fields ',' s ++ Text.fields ',' t := by
  induction s with
  | nil => rw [List.nil_append, Text.fields_cons, if_pos rfl]; rfl
  | cons c s ih =>
    rw [List.cons_append, Text.fields_cons, Text.fields_cons, ih]
    split
    · rfl
    · rfl

theorem map_word_intercalate {lines : List String} (nonempty : lines ≠ []) :
    (written (", ".intercalate lines)).map word = (lines.flatMap written).map word := by
  induction lines with
  | nil => exact absurd rfl nonempty
  | cons line rest ih =>
    cases rest with
    | nil => simp
    | cons line' rest =>
      have split : (", ".intercalate (line :: line' :: rest)).toList =
          line.toList ++ ',' :: ' ' :: (", ".intercalate (line' :: rest)).toList := by
        rw [String.intercalate_cons_cons]
        simp
      rw [written, split, fields_append_comma, List.map_append, map_word_blank]
      have later := ih (by simp)
      unfold written at later ⊢
      rw [later, ← List.map_append]
      rfl

theorem said?_of_words {ds ds' : List (List Char)} (words : ds.map word = ds'.map word)
    (legible : Legible ds) (legible' : Legible ds') : said? ds = said? ds' := by
  have any : ds.any (fun d => forbidsKeeping (word d)) = ds'.any fun d => forbidsKeeping (word d) := by
    simpa [Function.comp_def] using congrArg (·.any forbidsKeeping) words
  have ages : ds.filterMap (fun d => maxAge? (word d)) = ds'.filterMap fun d => maxAge? (word d) := by
    simpa [List.filterMap_map, Function.comp_def] using congrArg (·.filterMap maxAge?) words
  unfold said?
  rw [if_pos (all_isVisible_iff.2 legible), if_pos (all_isVisible_iff.2 legible'), any, ages]

theorem said?_append_of_idle {ds later : List (List Char)} (idle : ∀ d ∈ later, Idle d) :
    said? (ds ++ later) = said? ds := by
  induction later with
  | nil => rw [List.append_nil]
  | cons d later ih =>
    rw [said?_insert ds later (idle d (by simp))]
    exact ih fun d' mem => idle d' (by simp [mem])

theorem legible_written {line : String} (visible : ∀ c ∈ line.toList, Http.Fields.isVisible c) :
    Legible (written line) := by
  obtain ⟨-, joined, -⟩ := Text.fields_eq_iff.1 (rfl : Text.fields ',' line.toList = _)
  rw [← all_isVisible_iff, ← all_intercalate, written, ← joined]
  exact List.all_eq_true.2 visible

theorem visible_intercalate {lines : List String}
    (visible : ∀ line ∈ lines, ∀ c ∈ line.toList, Http.Fields.isVisible c) :
    ∀ c ∈ (", ".intercalate lines).toList, Http.Fields.isVisible c := by
  induction lines with
  | nil => simp
  | cons line rest ih =>
    have first := visible line (by simp)
    have others := ih fun line' mem => visible line' (by simp [mem])
    cases rest with
    | nil => simpa using first
    | cons line' rest =>
      intro c mem
      rw [String.intercalate_cons_cons] at mem
      simp only [String.toList_append, List.mem_append] at mem
      rcases mem with (mem | separator) | mem
      · exact first c mem
      · revert c
        simp [Http.Fields.isVisible]
      · exact others c mem

/-! ## What is heard -/

/-- Only the first line is heard. Joined to one line all of them are, so the two agree if the first line
bans or no other one says anything. -/
theorem first_line_alone_heard (fields joined : Http.Fields) (epoch : Stamp) (clock : Instant)
    (line : String) (later : List String) (given : fields.lines "cache-control" = line :: later)
    (visible : ∀ value ∈ line :: later, ∀ c ∈ value.toList, Http.Fields.isVisible c)
    (joins : fields.Joins joined "cache-control") :
    let now := Clock.wallNanos epoch clock
    let expires := fields.first? "expires"
    (∀ hint, hint? fields now = hint ↔ Tells (written line) expires now hint) ∧
    (∀ hint, hint? joined now = hint ↔ Tells ((line :: later).flatMap written) expires now hint) ∧
    ((∃ d ∈ written line, Bans d) → hint? fields now = some .zero ∧ hint? joined now = some .zero) ∧
    ((∀ value ∈ later, ∀ d ∈ written value, ¬ Bans d ∧ ∀ n, ¬ Ages d n) →
      hint? fields now = hint? joined now) := by
  intro now expires
  have apart : ¬ Text.sameIgnoringCase "cache-control".toList "expires".toList := by decide
  have first : fields.first? "cache-control" = some line := by
    rw [Http.Fields.first?_eq_head?, given]
    rfl
  have whole : joined.first? "cache-control" = some (", ".intercalate (line :: later)) := by
    rw [Http.Fields.first?_eq_head?, joins.one, given]
    rfl
  have all : Legible ((line :: later).flatMap written) := by
    intro d mem
    obtain ⟨value, there, mem⟩ := List.mem_flatMap.1 mem
    exact legible_written (visible value there) d mem
  have said : said? (written (", ".intercalate (line :: later))) =
      said? ((line :: later).flatMap written) :=
    said?_of_words (map_word_intercalate (by simp)) (legible_written (visible_intercalate visible)) all
  have heard : hint? fields now = (said? (written line)).or (expires.map (ofExpires now)) :=
    hint?_of_carries (carries_of_first first) now
  have heard' : hint? joined now =
      (said? ((line :: later).flatMap written)).or (expires.map (ofExpires now)) := by
    rw [hint?_of_carries (carries_of_first whole), said, joins.first?_eq apart]
  refine ⟨fun hint => ?_, fun hint => ?_, ?_, ?_⟩
  · rw [heard]
    exact heard_eq_iff
  · rw [heard']
    exact heard_eq_iff
  · rintro ⟨d, mem, bans⟩
    rw [heard, heard', said?_of_bans (legible_written (visible line (by simp))) mem bans,
      said?_of_bans all (List.mem_flatMap.2 ⟨line, by simp, mem⟩) bans]
    exact ⟨rfl, rfl⟩
  · intro silent
    have idle : ∀ d ∈ later.flatMap written, Idle d := by
      intro d mem
      obtain ⟨value, there, mem⟩ := List.mem_flatMap.1 mem
      obtain ⟨unbanned, ageless⟩ := silent value there d mem
      exact ⟨legible_written (visible value (by simp [there])) d mem, unbanned, ageless⟩
    rw [heard, heard', List.flatMap_cons, said?_append_of_idle idle]

/-! ## A ban on the second line -/

def twoLines : Http.Fields := [("cache-control", "max-age=600"), ("cache-control", "no-store")]

def oneLine : Http.Fields := [("cache-control", "max-age=600, no-store")]

theorem twoLines_joins : twoLines.Joins oneLine "cache-control" := ⟨by decide +kernel, by decide +kernel⟩

theorem visible_twoLines : ∀ value ∈ ["max-age=600", "no-store"], ∀ c ∈ value.toList,
    Http.Fields.isVisible c := by
  simp [Http.Fields.isVisible]

/-- The first line is heard alone. -/
theorem second_line_unheard :
    let now := Clock.wallNanos .zero .start
    Tells ["max-age=600".toList] none now (hint? twoLines now) ∧
    Tells ["max-age=600".toList, "no-store".toList] none now (hint? oneLine now) ∧
    hint? twoLines now ≠ hint? oneLine now := by
  have heard := first_line_alone_heard twoLines oneLine .zero .start "max-age=600" ["no-store"]
    (by decide +kernel) visible_twoLines twoLines_joins
  exact ⟨(heard.1 _).1 rfl, (heard.2.1 _).1 rfl, by decide +kernel⟩

/-- One line with both directives is a ban, and two lines are not. -/
theorem ban_on_second_line_unheard :
    let now := Clock.wallNanos .zero .start
    twoLines.lines "cache-control" = ["max-age=600", "no-store"] ∧
    (∀ value ∈ ["max-age=600", "no-store"], ∀ c ∈ value.toList, Http.Fields.isVisible c) ∧
    twoLines.Joins oneLine "cache-control" ∧ (∃ d ∈ written "no-store", Bans d) ∧
    hint? twoLines now = some (.ofSeconds 600) ∧ hint? oneLine now = some .zero := by
  refine ⟨by decide +kernel, visible_twoLines, twoLines_joins, ?_, ?_, ?_⟩
  · decide +kernel
  · decide +kernel
  · decide +kernel

end Freshness

end TokenGate
