import TokenGate.Number.Shortest
import TokenGate.Time.Span

/-!
# Metrics

What happened is kept as a list of samples, the latest last. Counters, histograms and gauges are
read off that list when the metrics are asked for.
-/

namespace TokenGate.Metrics

/-- One measurement: the end of a validation, the end of a refresh, or the size of a key set. -/
inductive Sample
  | validation (outcome : String) (took : Span)
  | refresh (status : String) (took : Span)
  | keys (uri : String) (count : Nat)
  deriving DecidableEq

/-- Upper bounds of a histogram: how they are written, and their length. -/
abbrev Buckets := List (String × Span)

/-- Most validations need no request, so the bounds are short. -/
def validationBuckets : Buckets :=
  [("0.0001", .ofNanos 100000), ("0.00025", .ofNanos 250000), ("0.0005", .ofNanos 500000),
    ("0.001", .ofMillis 1), ("0.0025", .ofNanos 2500000), ("0.005", .ofMillis 5),
    ("0.01", .ofMillis 10), ("0.05", .ofMillis 50), ("0.25", .ofMillis 250), ("1", .ofSeconds 1)]

/-- The last bound is the time-out of one attempt. -/
def refreshBuckets : Buckets :=
  [("0.01", .ofMillis 10), ("0.05", .ofMillis 50), ("0.1", .ofMillis 100), ("0.25", .ofMillis 250),
    ("0.5", .ofMillis 500), ("1", .ofSeconds 1), ("2.5", .ofMillis 2500), ("5", .ofSeconds 5),
    ("10", .ofSeconds 10)]

def validations (samples : List Sample) : List (String × Span) :=
  samples.filterMap fun | .validation outcome took => some (outcome, took) | _ => none

def refreshes (samples : List Sample) : List (String × Span) :=
  samples.filterMap fun | .refresh status took => some (status, took) | _ => none

def keyCounts (samples : List Sample) : List (String × Nat) :=
  samples.filterMap fun | .keys uri count => some (uri, count) | _ => none

def count {α : Type} (events : List (String × α)) (label : String) : Nat :=
  (events.filter (·.1 = label)).length

def last? {α : Type} (events : List (String × α)) (label : String) : Option α :=
  ((events.filter (·.1 = label)).getLast?).map (·.2)

def labels {α : Type} (events : List (String × α)) : List String := (events.map (·.1)).eraseDups

/-! ## The text format -/

/-- A label value inside quotes. A backslash that already escapes a backslash or a quote stays, and
`held` says that one has been read and not yet written. -/
def escapeLabel : (held : Bool) → List Char → List Char
  | held, [] => if held then ['\\', '\\'] else []
  | held, '\n' :: rest => '\\' :: 'n' :: escapeLabel held rest
  | _, '"' :: rest => '\\' :: '"' :: escapeLabel false rest
  | true, '\\' :: rest => '\\' :: '\\' :: escapeLabel false rest
  | false, '\\' :: rest => escapeLabel true rest
  | true, c :: rest => '\\' :: '\\' :: c :: escapeLabel false rest
  | false, c :: rest => c :: escapeLabel false rest

/-- A name with its labels, as it stands before a value. -/
def series (name : String) (labels : List (String × String)) : String :=
  name ++ "\x7b" ++ ",".intercalate (labels.map fun (label, value) =>
    label ++ "=\"" ++ String.ofList (escapeLabel false value.toList) ++ "\"") ++ "\x7d"

def typeLine (name kind : String) : String := "# TYPE " ++ name ++ " " ++ kind

/-- A counter that has never counted is not shown. -/
def counterLines {α : Type} (name label : String) (events : List (String × α)) : List String :=
  if events.isEmpty then []
  else
    typeLine name "counter" :: (labels events).map fun value =>
      series name [(label, value)] ++ " " ++ toString (count events value)

/-- A histogram of lengths by label. Buckets count all that is not longer. -/
def histogramLines (name label : String) (buckets : Buckets) (events : List (String × Span)) :
    List String :=
  if events.isEmpty then []
  else
    typeLine name "histogram" :: (labels events).flatMap fun value =>
      let own := events.filter (·.1 = value)
      let bucket (bound : String) (n : Nat) :=
        series (name ++ "_bucket") [(label, value), ("le", bound)] ++ " " ++ toString n
      buckets.map (fun (text, bound) => bucket text (own.filter (·.2 ≤ bound)).length)
        ++ [bucket "+Inf" own.length,
          series (name ++ "_count") [(label, value)] ++ " " ++ toString own.length]

/-- Gauges are written as floating-point numbers. -/
def gaugeLines (name label : String) (events : List (String × Nat)) : List String :=
  if events.isEmpty then []
  else
    typeLine name "gauge" :: (labels events).map fun value =>
      let n := (last? events value).getD 0
      series name [(label, value)] ++ " " ++ ((Binary64.ofNat? n).map (·.toPositional)).getD ""

/-- The lines of the text format, in ascending order, without sums and help texts. -/
def lines (samples : List Sample) : List String :=
  (counterLines "bearer_auth_token_validations_total" "outcome" (validations samples)
    ++ histogramLines "bearer_auth_token_validation_duration_seconds" "outcome" validationBuckets
      (validations samples)
    ++ counterLines "bearer_auth_jwks_refresh_total" "status" (refreshes samples)
    ++ histogramLines "bearer_auth_jwks_refresh_duration_seconds" "status" refreshBuckets
      (refreshes samples)
    ++ gaugeLines "bearer_auth_jwks_keys" "jwks_uri" (keyCounts samples)).mergeSort
      fun a b => decide (a ≤ b)

end TokenGate.Metrics
