import TokenGate.Http.Message
import TokenGate.Http.Network
import TokenGate.Time.Instant

/-!
# Exchanges

One question to a URL, with all redirects that it leads through, under one deadline. An exchange ends with
the head of an answer. The deadline covers the body as well, for readers who want it.
-/

namespace TokenGate.Http

/-- Why there is no answer, with the URL that is at fault. -/
inductive NoAnswer
  | notUrl
  /-- A URL of a scheme that the client does not speak. -/
  | unsuited (url : Url)
  /-- There was no answer in time, or none at all. -/
  | unsent (url : Url)
  | tooManyRedirects (url : Url)
  deriving DecidableEq

namespace NoAnswer

def message : NoAnswer → String
  | notUrl => "builder error"
  | unsuited url => "builder error for url (" ++ url.text ++ ")"
  | unsent url => "error sending request for url (" ++ url.text ++ ")"
  | tooManyRedirects url => "error following redirect for url (" ++ url.text ++ ")"

end NoAnswer

/-- The head of a reply, and what can be had of its body. -/
structure Answer where
  status : Nat
  fields : Fields
  /-- None if the body breaks off, or is not there in time. -/
  body : Option String
  /-- How long the body is waited for. -/
  wait : Span
  deriving DecidableEq

namespace Answer

/-- A body that breaks off and one that does not fit are told alike. -/
def unreadable : String := "error decoding response body"

/-- Blanks around values do not belong to them, and some statuses have no body. -/
def ofReply (r : Reply) : Answer :=
  let fields := r.fields.map fun (name, value) =>
    (name, String.ofList (Text.trim Text.isSpaceOrTab value.toList))
  if Status.isBodiless r.status then ⟨r.status, fields, some "", .zero⟩
  else ⟨r.status, fields, if r.cutsShort then none else some r.body, r.delay.body⟩

/-- What can be had of an answer in the time that is left. -/
def within (a : Answer) (left : Span) : Answer :=
  if left ≤ a.wait then { a with body := none, wait := left } else a

/-- The place that an answer sends the client on to, if it is a redirect to a URL. -/
def redirect? (names : HostNames) (a : Answer) (asked : Url) : Option Url :=
  if Status.isRedirect a.status then (a.fields.first? "location").bind (asked.resolve? names) else none

end Answer

structure Exchange where
  result : Except NoAnswer Answer
  /-- When the head of the answer is there, or the client has given up. -/
  ended : Instant
  network : Network

namespace Exchange

/-- The next redirect is an error. -/
def maxRedirects : Nat := 10

/-- Does the client speak this scheme? -/
def isWeb (u : Url) : Bool := u.scheme == "http".toList || u.scheme == "https".toList

/-- One request, and the head of its answer. -/
def request (deadline : Instant) (n : Network) (now : Instant) (u : Url) : Exchange :=
  if !isWeb u || !n.reachable then ⟨.error (.unsent u), now, n⟩
  else
    let (reply, n) := n.ask u.target
    let arrival := now.plus reply.delay.head
    if deadline ≤ arrival then ⟨.error (.unsent u), deadline, n⟩
    else if reply.closes || !Status.isValid reply.status then ⟨.error (.unsent u), arrival, n⟩
    else ⟨.ok (.ofReply reply), arrival, n⟩

/-- Requests a place, and then each place that an answer leads to. -/
def follow (deadline : Instant) : (more : Nat) → Network → Instant → Url → Exchange
  | more, n, now, u =>
    let e := request deadline n now u
    match e.result with
    | .error _ => e
    | .ok answer =>
      match answer.redirect? e.network.names u, more with
      | none, _ => e
      | some _, 0 => { e with result := .error (.tooManyRedirects u) }
      | some place, more + 1 => follow deadline more e.network e.ended place

/-- What is left of an exchange for a reader of the body. -/
def settle (deadline : Instant) (e : Exchange) : Exchange :=
  { e with result := e.result.map (·.within (deadline.since e.ended)) }

/-- Asks for a URL. The deadline covers the whole exchange. -/
def run (timeout : Span) (n : Network) (now : Instant) (url : String) : Exchange :=
  match Url.ofText? n.names url with
  | none => ⟨.error .notUrl, now, n⟩
  | some u =>
    if isWeb u then (follow (now.plus timeout) maxRedirects n now u).settle (now.plus timeout)
    else ⟨.error (.unsuited u), now, n⟩

/-- When a client is done that reads the bodies of answers with these statuses, and no others. -/
def doneAt (reads : Nat → Bool) (e : Exchange) : Instant :=
  match e.result with
  | .ok a => if reads a.status then e.ended.plus a.wait else e.ended
  | .error _ => e.ended

end Exchange

end TokenGate.Http
