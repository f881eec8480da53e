import TokenGate.Http.Message
import TokenGate.Time.MailDate
import TokenGate.Time.Span

/-!
# How long fetched keys stay fresh

A server says in its answer how long the answer may be kept. We take its word within limits of our
own.
-/

namespace TokenGate.Freshness

def standard : Span := .ofSeconds 300

def longest : Span := .ofSeconds (24 * 60 * 60)

def directives (value : List Char) : List (List Char) :=
  (Text.fields ',' value).map fun d => Text.lowerAscii (Text.trim Text.isBlank d)

def forbidsKeeping (directive : List Char) : Bool :=
  directive == "no-cache".toList || directive == "no-store".toList

def maxAge? (directive : List Char) : Option Span :=
  match Text.after? "max-age=".toList directive with
  | none => none
  | some value =>
    match Text.readNatBelow Text.wordLimit (Text.trim (· == '"') value) with
    | .ok n => some (.ofSeconds n)
    | .error _ => none

/-- What `Cache-Control` says. A ban counts most, then the last readable age. -/
def ofCacheControl? (value : List Char) : Option Span :=
  let ds := directives value
  if ds.any forbidsKeeping then some .zero else (ds.filterMap maxAge?).getLast?

/-- The time from `now`, in nanoseconds of the Unix clock, until a date. An unreadable date has passed. -/
def ofExpires (now : Int) (value : String) : Span :=
  match (Http.Fields.visible? value).bind MailDate.read? with
  | some date => .ofNanos (date * Span.nanosPerSecond - now).toNat
  | none => .zero

/-- The server's word, if it gave any. Only the first field of each name counts. -/
def hint? (fields : Http.Fields) (now : Int) : Option Span :=
  match ((fields.first? "cache-control").bind Http.Fields.visible?).bind ofCacheControl? with
  | some age => some age
  | none => (fields.first? "expires").map (ofExpires now)

def granted (hint? : Option Span) (standard floor : Span) : Span :=
  max (min (hint?.getD standard) longest) floor

end TokenGate.Freshness
