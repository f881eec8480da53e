import TokenGate.Gate.Keys
import TokenGate.Validator

/-!
# Validating tokens

Header, key, judgement. A token whose header names no key is refused without a look at the cache.
-/

namespace TokenGate

/-- What becomes of a token. -/
abbrev Verdict := Except AuthError ValidatedToken

namespace Verdict

/-- Under which label a validation is counted. -/
def outcome : Verdict → String
  | .ok _ => "success"
  | .error err => err.kind

/-- It took as long as the key did. Nothing else waits. -/
def event (v : Verdict) (started ended : Instant) : Event :=
  .validated v.outcome (ended.since started)

end Verdict

namespace Validator

/-- Without a key there is nothing to judge. -/
def conclude (v : Validator) (check : SignatureCheck) (token : String) (header : Token.Header)
    (key : Except AuthError Jwk) (now : Stamp) : Verdict :=
  match key with
  | .error err => .error err
  | .ok key => v.judge check token header key now

end Validator

namespace Gate

/-- The header names the key, and the key decides the rest. `stamp` is the wall clock of the caller. -/
def verify (g : Gate) (check : SignatureCheck) (v : Validator) (token : String) (stamp : Stamp) :
    Answered Verdict :=
  match Token.Header.ofToken token with
  | .error fault => g.reply (.error (.ofFault fault))
  | .ok header =>
    let a := g.getKey v.endpoint header.keyId
    { a with answer := v.conclude check token header a.answer stamp }

/-- A validation that is counted when it is over. -/
def validate (g : Gate) (check : SignatureCheck) (v : Validator) (token : String) (stamp : Stamp) :
    Answered Verdict :=
  let a := g.verify check v token stamp
  { a with gate := a.gate.record (a.answer.event g.now a.time) }

/-- Validates a token for a caller who waits until `deadline` at most. None: the caller gave up, and
nothing was counted. -/
def validateBefore (g : Gate) (deadline : Instant) (check : SignatureCheck) (v : Validator)
    (token : String) (stamp : Stamp) : Answered (Option Verdict) :=
  match Token.Header.ofToken token with
  | .error fault =>
    let verdict : Verdict := .error (.ofFault fault)
    (g.record (verdict.event g.now g.now)).reply (some verdict)
  | .ok header =>
    let a := g.getKeyBefore deadline v.endpoint header.keyId
    match a.answer with
    | none => { a with answer := none }
    | some key =>
      let verdict := v.conclude check token header key stamp
      { a with answer := some verdict, gate := a.gate.record (verdict.event g.now a.time) }

end Gate

end TokenGate
