import TokenGate.AuthError
import TokenGate.Time.Span
import TokenGate.Time.Stamp

/-!
# The time window of a token

A token is good from its start to its expiry. The leeway widens the window on both sides, by whole
seconds.
-/

namespace TokenGate

/-- The start is the later one of the two dates that are optional. -/
structure Window where
  expiry : Stamp
  notBefore : Option Stamp
  issuedAt : Option Stamp
  deriving DecidableEq

namespace Window

/-- The whole seconds of a leeway, as far as a stamp can hold them. -/
def leewaySeconds (leeway : Span) : Nat := min leeway.seconds 9223372036854775807

/-- Does a date lie beyond the limit? -/
def isAhead (limit : Stamp) (start? : Option Stamp) : Bool :=
  start?.any fun start => limit < start

/-- The expiry comes first. On the second of its expiry a token is still good. -/
def check (w : Window) (leeway : Span) (now : Stamp) : Except Token.Fault Unit :=
  let seconds := leewaySeconds leeway
  if w.expiry.plus seconds < now then .error .expired
  else if isAhead (now.plus seconds) w.notBefore || isAhead (now.plus seconds) w.issuedAt then
    .error .notYetValid
  else .ok ()

end Window

end TokenGate
