import TokenGate.Http.Message
import TokenGate.Http.Url
import TokenGate.Time.Span

/-!
# A scripted network

Each URL has a script of replies. A request takes the next one, and the last one is repeated. URLs
without a script are not found.
-/

namespace TokenGate.Http

/-- How long a server takes for the head of its reply, and for the body after that. -/
structure Delay where
  head : Span
  body : Span
  deriving DecidableEq

namespace Delay

def zero : Delay := ⟨.zero, .zero⟩

/-- The delay of a reply that comes in one piece. -/
def ofMillis (n : Nat) : Delay := ⟨.ofMillis n, .zero⟩

end Delay

/-- What a server does when it is asked. -/
structure Reply where
  status : Nat
  fields : Fields
  body : String
  delay : Delay
  /-- The connection is lost before the head is complete. -/
  closes : Bool
  /-- The connection is lost in the middle of the body. -/
  cutsShort : Bool
  deriving DecidableEq

namespace Reply

def notFound : Reply := ⟨404, [], "", .zero, false, false⟩

end Reply

/-- All servers together. The log tells what has been asked, the latest last. -/
structure Network where
  /-- Can servers be reached at all? If not, every request fails at once. -/
  reachable : Bool
  scripts : List (String × List Reply)
  log : List String
  names : HostNames
  deriving DecidableEq

namespace Network

/-- The address that scripts of a URL stand under: all its spellings share one. -/
def normal (names : HostNames) (url : String) : String :=
  ((Url.ofText? names url).map Url.target).getD url

/-- Replaces the script of a URL. -/
def publish (n : Network) (url : String) (replies : List Reply) : Network :=
  { n with scripts := (normal n.names url, replies) :: n.scripts.filter (·.1 ≠ normal n.names url) }

/-- Scripts may be given under any spelling of their URL. -/
def ofScripts (reachable : Bool) (scripts : List (String × List Reply)) : Network :=
  scripts.foldl (fun n (url, replies) => n.publish url replies) ⟨reachable, [], [], []⟩

/-- The next reply, and what is left of the script. -/
def next : List Reply → Reply × List Reply
  | [] => (.notFound, [])
  | [last] => (last, [last])
  | reply :: rest => (reply, rest)

/-- Asks a server, which is told in the log. -/
def ask (n : Network) (url : String) : Reply × Network :=
  match n.scripts.lookup url with
  | none => (.notFound, { n with log := n.log ++ [url] })
  | some script =>
    let (reply, rest) := next script
    (reply, { n with
      scripts := n.scripts.map fun (u, s) => if u = url then (u, rest) else (u, s)
      log := n.log ++ [url] })

end Network

end TokenGate.Http
