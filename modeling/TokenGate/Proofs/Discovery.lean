import TokenGate.Gate.Basic
import TokenGate.Proofs.Http.Trail
import TokenGate.Proofs.Json.Named
import TokenGate.Proofs.Text.Words

/-!
# What a provider is found to say

A provider is taken at its word if the exchange is answered with a document that has both fields, with more
than blanks in each. Whatever else happens is reported as a fault of discovery.
-/

namespace TokenGate

namespace Discovery

open Json (Form)

/-! ## Documents -/

/-- What a document says in a field: nothing, or a text. -/
inductive Says : Option Form → Option String → Prop
  | absent : Says none none
  | null : Says (some .null) none
  | text {pieces : List Json.Piece} {s : String} (spelled : Json.string? pieces = some s) :
      Says (some (.text pieces)) (some s)

/-- The two fields of a document. They may stand in a list without their names. -/
inductive Fields : Form → Option Form → Option Form → Prop
  | record {members : List (List Json.Piece × Form)} {endpoint? issuer? : Option Form}
      (spelled : ∀ m ∈ members, (Json.string? m.1).isSome)
      (endpoint : Form.named "jwks_uri" members = endpoint?.toList)
      (issuer : Form.named "issuer" members = issuer?.toList) : Fields (.record members) endpoint? issuer?
  | neither : Fields (.list []) none none
  | endpoint {f : Form} : Fields (.list [f]) (some f) none
  | both {f f' : Form} : Fields (.list [f, f']) (some f) (some f')

/-- A readable document with these texts in its fields. -/
def Document (body : String) (endpoint issuer : Option String) : Prop :=
  ∃ f endpoint? issuer?, Form.ofText? body = some f ∧ Fields f endpoint? issuer? ∧
    Says endpoint? endpoint ∧ Says issuer? issuer

/-- There is a text, and more to it than blanks. -/
def Filled (s? : Option String) : Prop := ∃ s ∈ s?, ∃ c ∈ s.toList, ¬ Text.isBlank c

theorem text?_eq_some_iff {f? : Option Form} {s? : Option String} :
    fields?.text? f? = some s? ↔ Says f? s? := by
  constructor
  · intro h
    cases f? with
    | none =>
      obtain rfl := Option.some.inj h
      exact .absent
    | some f =>
      obtain ⟨v, value, read⟩ := Option.bind_eq_some_iff.1 h
      cases v with
      | null =>
        obtain rfl := Form.value?_eq_null_iff.1 value
        obtain rfl := Option.some.inj read
        exact .null
      | text s =>
        obtain ⟨pieces, rfl, spelled⟩ := Form.value?_eq_text_iff.1 value
        obtain rfl := Option.some.inj read
        exact .text spelled
      | _ => cases read
  · rintro (_ | _ | spelled)
    · rfl
    · rfl
    · exact Option.bind_eq_some_iff.2 ⟨_, Form.value?_eq_text_iff.2 ⟨_, rfl, spelled⟩, rfl⟩

theorem fields_iff {f : Form} {endpoint? issuer? : Option Form} :
    f.fields? ["jwks_uri", "issuer"] = some [endpoint?, issuer?] ↔ Fields f endpoint? issuer? := by
  constructor
  · intro h
    cases f with
    | record members =>
      obtain ⟨spelled, given⟩ := Form.fields?_record_eq_some_iff.1 h
      obtain ⟨endpoint, given⟩ := List.forall₂_cons.1 given
      exact .record spelled endpoint (List.forall₂_cons.1 given).1
    | list items =>
      match items with
      | [] =>
        cases h
        exact .neither
      | [f] =>
        cases h
        exact .endpoint
      | [f, f'] =>
        cases h
        exact .both
      | f :: f' :: f'' :: rest => simp [Form.fields?] at h
    | _ => cases h
  · rintro (⟨spelled, endpoint, issuer⟩ | _ | _ | _)
    · exact Form.fields?_record_eq_some_iff.2 ⟨spelled, .cons endpoint (.cons issuer .nil)⟩
    all_goals rfl

theorem fields?_eq_some_iff {body : String} {endpoint issuer : Option String} :
    fields? body = some (endpoint, issuer) ↔ Document body endpoint issuer := by
  unfold fields? Document
  simp only [Option.bind_eq_bind, Option.bind_eq_some_iff, ← fields_iff, ← text?_eq_some_iff]
  constructor
  · rintro ⟨f, read, fs, found, said⟩
    match fs with
    | [endpoint?, issuer?] =>
      simp only [Option.bind_eq_some_iff] at said
      obtain ⟨e, said, i, said', same⟩ := said
      obtain ⟨rfl, rfl⟩ := Prod.mk.inj (Option.some.inj same)
      exact ⟨f, endpoint?, issuer?, read, found, said, said'⟩
    | [] | [_] | _ :: _ :: _ :: _ => cases said
  · rintro ⟨f, endpoint?, issuer?, read, found, said, said'⟩
    exact ⟨f, read, _, found, by simp [said, said']⟩

/-! ## Answers -/

variable {url name : String} {s? endpoint issuer : Option String} {a : Http.Answer} {md : ProviderMetadata}
  {e : Http.Exchange}

def missingField (url name : String) : AuthError := .discovery (url ++ " is missing required field " ++ name)

theorem filled_some_iff {s : String} : Filled (some s) ↔ Text.stripBlanks s ≠ "" := by
  simp [Filled, Text.stripBlanks_ne_empty_iff]

theorem require_of_filled {s : String} (filled : Filled (some s)) : require url name (some s) = .ok s := by
  have kept := filled_some_iff.1 filled
  rw [require, Option.filter_some, if_pos (by simpa using kept)]

theorem require_of_not_filled (blank : ¬ Filled s?) :
    require url name s? = .error (missingField url name) := by
  cases s? with
  | none => rfl
  | some s =>
    have nothing := mt filled_some_iff.2 blank
    rw [require, Option.filter_some, if_neg (by simpa using nothing), missingField]

theorem require_eq_ok_iff {s : String} : require url name s? = .ok s ↔ s? = some s ∧ Filled s? := by
  by_cases filled : Filled s?
  · obtain ⟨s', rfl, -⟩ := id filled
    simp [require_of_filled filled, filled]
  · simp [require_of_not_filled filled, filled]

/-- A complete answer with a document. -/
def Delivers (a : Http.Answer) (endpoint issuer : Option String) : Prop :=
  a.status = 200 ∧ ∃ body, a.body = some body ∧ Document body endpoint issuer

theorem ofAnswer_of_delivers (delivers : Delivers a endpoint issuer) : ofAnswer url a =
    (require url "jwks_uri" endpoint).bind fun keyEndpoint =>
      (require url "issuer" issuer).map (⟨keyEndpoint, ·⟩) := by
  obtain ⟨status, body, given, document⟩ := delivers
  unfold ofAnswer
  simp only [status, given, Option.bind_some, fields?_eq_some_iff.2 document, ne_eq, not_true_eq_false,
    if_false]
  cases require url "jwks_uri" endpoint with
  | error f => rfl
  | ok keyEndpoint => cases require url "issuer" issuer <;> rfl

theorem ofAnswer_of_not_delivers (url : String) (other : ∀ endpoint issuer, ¬ Delivers a endpoint issuer) :
    ∃ detail, ofAnswer url a = .error (.discovery detail) := by
  unfold ofAnswer
  by_cases status : a.status = 200
  · have none : a.body.bind fields? = none := by
      refine Option.eq_none_iff_forall_ne_some.2 fun ⟨endpoint, issuer⟩ read => ?_
      obtain ⟨body, given, document⟩ := Option.bind_eq_some_iff.1 read
      exact other endpoint issuer ⟨status, body, given, fields?_eq_some_iff.1 document⟩
    simp only [status, none, ne_eq, not_true_eq_false, if_false]
    exact ⟨_, rfl⟩
  · rw [if_pos status]
    exact ⟨_, rfl⟩

theorem ofAnswer_eq_ok_iff : ofAnswer url a = .ok md ↔
    Delivers a (some md.keyEndpoint) (some md.issuer) ∧
      Filled (some md.keyEndpoint) ∧ Filled (some md.issuer) := by
  constructor
  · intro found
    by_cases delivers : ∃ endpoint issuer, Delivers a endpoint issuer
    · obtain ⟨endpoint, issuer, delivers⟩ := delivers
      rw [ofAnswer_of_delivers delivers] at found
      cases first : require url "jwks_uri" endpoint with
      | error f =>
        rw [first] at found
        cases found
      | ok keyEndpoint' =>
        cases second : require url "issuer" issuer with
        | error f =>
          rw [first, second] at found
          cases found
        | ok issuer' =>
          rw [first, second] at found
          obtain rfl := Except.ok.inj found
          obtain ⟨rfl, filled⟩ := require_eq_ok_iff.1 first
          obtain ⟨rfl, filled'⟩ := require_eq_ok_iff.1 second
          exact ⟨delivers, filled, filled'⟩
    · simp only [not_exists] at delivers
      obtain ⟨detail, failed⟩ := ofAnswer_of_not_delivers url delivers
      rw [failed] at found
      cases found
  · rintro ⟨delivers, endpoint, issuer⟩
    rw [ofAnswer_of_delivers delivers, require_of_filled endpoint, require_of_filled issuer]
    rfl

theorem ofAnswer_cases (url : String) (a : Http.Answer) :
    (∃ md, ofAnswer url a = .ok md) ∨ ∃ detail, ofAnswer url a = .error (.discovery detail) := by
  by_cases delivers : ∃ endpoint issuer, Delivers a endpoint issuer
  · obtain ⟨endpoint, issuer, delivers⟩ := delivers
    rw [ofAnswer_of_delivers delivers]
    by_cases filled : Filled endpoint
    · obtain ⟨s, rfl, -⟩ := id filled
      rw [require_of_filled filled]
      by_cases filled' : Filled issuer
      · obtain ⟨s', rfl, -⟩ := id filled'
        rw [require_of_filled filled']
        exact .inl ⟨_, rfl⟩
      · rw [require_of_not_filled filled']
        exact .inr ⟨_, rfl⟩
    · rw [require_of_not_filled filled]
      exact .inr ⟨_, rfl⟩
  · simp only [not_exists] at delivers
    exact .inr (ofAnswer_of_not_delivers url delivers)

theorem ofExchange_cases (url : String) (x : Http.Exchange) :
    (∃ md, ofExchange url x = .ok md) ∨ ∃ detail, ofExchange url x = .error (.discovery detail) := by
  unfold ofExchange
  cases x.result with
  | error reason => exact .inr ⟨_, rfl⟩
  | ok a => exact ofAnswer_cases url a

theorem ofAnswer_of_missing (delivers : Delivers a endpoint issuer) :
    (¬ Filled endpoint → ofAnswer url a = .error (missingField url "jwks_uri")) ∧
      (Filled endpoint → ¬ Filled issuer → ofAnswer url a = .error (missingField url "issuer")) := by
  rw [ofAnswer_of_delivers delivers]
  refine ⟨fun blank => ?_, fun filled blank => ?_⟩
  · rw [require_of_not_filled blank]
    rfl
  · obtain ⟨s, rfl, -⟩ := id filled
    rw [require_of_filled filled, require_of_not_filled blank]
    rfl

/-! ## Looking up a provider -/

/-- What comes of looking up a provider at a URL. -/
structure Resolves (g : Gate) (timeout : Span) (url : String) : Prop where
  ok_iff : ∀ md, (g.discover timeout url).answer = .ok md ↔
    ∃ a, g.network.Answers timeout url a ∧ Delivers a (some md.keyEndpoint) (some md.issuer) ∧
      Filled (some md.keyEndpoint) ∧ Filled (some md.issuer)
  failed : (∃ md, (g.discover timeout url).answer = .ok md) ∨
    ∃ detail, (g.discover timeout url).answer = .error (.discovery detail)
  /-- The first field that is missing is named. -/
  missing : ∀ a endpoint issuer, g.network.Answers timeout url a → Delivers a endpoint issuer →
    (¬ Filled endpoint → (g.discover timeout url).answer = .error (missingField url "jwks_uri")) ∧
      (Filled endpoint → ¬ Filled issuer →
        (g.discover timeout url).answer = .error (missingField url "issuer"))
  /-- Where nothing can be asked, nothing is touched. -/
  unasked : (g.network.reachable = false ∨
      ∀ first, Http.Url.ofText? g.network.names url = some first → Http.Exchange.isWeb first = false) →
    (g.discover timeout url).gate.network = g.network
  asked : ∃ requests, (g.discover timeout url).gate.network.log = g.network.log ++ requests ∧
    g.network.Asks timeout url requests

theorem answer_discover (g : Gate) (timeout : Span) (url : String) :
    (g.discover timeout url).answer =
      ofExchange url (Http.Exchange.run timeout g.network g.now url) := rfl

theorem answer_of_answers {g : Gate} {timeout : Span} (answers : g.network.Answers timeout url a) :
    (g.discover timeout url).answer = ofAnswer url a := by
  have result : (Http.Exchange.run timeout g.network g.now url).result = .ok a :=
    Http.Exchange.result_run_eq_ok_iff.2 answers
  rw [answer_discover, ofExchange, result]

theorem resolves (g : Gate) (timeout : Span) (url : String) : Resolves g timeout url where
  ok_iff md := by
    constructor
    · intro found
      rw [answer_discover, ofExchange] at found
      split at found
      · cases found
      · rename_i a answered
        exact ⟨a, Http.Exchange.result_run_eq_ok_iff.1 answered, ofAnswer_eq_ok_iff.1 found⟩
    · rintro ⟨a, answers, given⟩
      rw [answer_of_answers answers]
      exact ofAnswer_eq_ok_iff.2 given
  failed := by
    rw [answer_discover]
    exact ofExchange_cases url _
  missing a endpoint issuer answers delivers := by
    rw [answer_of_answers answers]
    exact ofAnswer_of_missing delivers
  unasked := Http.Exchange.network_run_of_unasked
  asked := ⟨_, Http.Exchange.log_run .., Http.Exchange.asks_sent ..⟩

/-! ## A document that has moved -/

def looking (network : Http.Network) : Gate := .new ⟨.ofSeconds 10, .once, .ofSeconds 300⟩ .zero network

def telling (body : String) : Http.Reply := ⟨200, [], body, .zero, false, false⟩

/-- The document has moved to another place. -/
def moved (body : String) : Http.Network :=
  .ofScripts true [("https://k/", [⟨302, [("location", "/d")], "", .zero, false, false⟩]),
    ("https://k/d", [telling body])]

def sound : String := "\x7b\"issuer\":\"i\",\"jwks_uri\":\"u\"\x7d"

def endpointOnly : String := "[\"u\",\" \"]"

theorem moved_resolves :
    ((looking (moved sound)).discover standardTimeout "https://k/").answer = .ok ⟨"u", "i"⟩ ∧
    ((looking (moved endpointOnly)).discover standardTimeout "https://k/").answer =
      .error (missingField "https://k/" "issuer") := by
  have runs : ∀ body ∈ [sound, endpointOnly],
      (Http.Exchange.run standardTimeout (moved body) .start "https://k/").result =
        .ok ⟨200, [], some body, .zero⟩ := by decide +kernel
  have answers (body : String) (mem : body ∈ [sound, endpointOnly]) :
      (moved body).Answers standardTimeout "https://k/" ⟨200, [], some body, .zero⟩ :=
    Http.Exchange.result_run_eq_ok_iff.1 (runs body mem)
  have solid (s : String) (more : Text.stripBlanks s ≠ "") : Filled (some s) := filled_some_iff.2 more
  have document : Document sound (some "u") (some "i") := fields?_eq_some_iff.1 (by decide +kernel)
  have document' : Document endpointOnly (some "u") (some " ") := fields?_eq_some_iff.1 (by decide +kernel)
  constructor
  · refine ((resolves (looking (moved sound)) standardTimeout "https://k/").ok_iff _).2
      ⟨_, answers sound (by simp), ⟨rfl, _, rfl, document⟩, solid _ ?_, solid _ ?_⟩ <;> decide +kernel
  · refine ((resolves (looking (moved endpointOnly)) standardTimeout "https://k/").missing _ _ _
      (answers endpointOnly (by simp)) ⟨rfl, _, rfl, document'⟩).2 (solid _ ?_) (mt filled_some_iff.1 ?_) <;>
      decide +kernel

/-- One look-up need not be one request. A text that is no URL is not asked for, and a document that has
moved is asked for twice. -/
theorem requests_of_one_lookup :
    ((looking (.ofScripts true [])).discover standardTimeout "keys").gate.network.log = [] ∧
    ((looking (moved sound)).discover standardTimeout "https://k/").answer = .ok ⟨"u", "i"⟩ ∧
    ((looking (moved sound)).discover standardTimeout "https://k/").gate.network.log =
      ["https://k/", "https://k/d"] := by
  refine ⟨?_, ?_, ?_⟩ <;> decide +kernel

end Discovery

end TokenGate
