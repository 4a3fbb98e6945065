import RateLimit.Bucket.Script
import RateLimit.Connection.Attempt
import RateLimit.Reply.Content

/-!
# The script over a connection

What the end of the two requests means that concern the script: its registration, which succeeds
with any reply that is no error, and a call of it, which has to be answered with an array of at
least three natural numbers: the tokens left, the time at which the bucket is full again, and
whether the call is allowed, as a number that is not zero.

## Main definitions

* `Answer`, `Answer.ofReply?` : the answer of the script to a call.
* `Warning` : what a client reports to its log while it goes on working.
* `Script.registered`, `Answer.ofResult?` : what the ends of the two requests mean.
-/

namespace RateLimit

/-- The answer of the script to a call. -/
structure Answer where
  /-- The tokens left. -/
  remaining : Nat
  /-- The time at which the bucket is full again, in nanoseconds since the epoch. -/
  reset : Nat
  /-- Whether the call is allowed. -/
  allowed : Bool
  deriving DecidableEq, Repr

/-- The answer that a reply holds. -/
def Answer.ofReply? (reply : Reply) : Except ProtocolFault Answer := do
  let items ← reply.elements?
  match items with
  | remaining :: reset :: allowed :: _ =>
      let remaining ← remaining.natural?
      let reset ← reset.natural?
      let allowed ← allowed.natural?
      return ⟨remaining, reset, allowed ≠ 0⟩
  | items => throw (.tooFewElements items.length)

/-- A report to the log. -/
inductive Warning
  /-- The server knows the script by another digest than the client. -/
  | otherDigest (expected got : String)
  /-- The server answers to the registration of the script with something that is no digest. -/
  | noDigest (error : Error)
  /-- A call has failed, and the failure mode has answered it. -/
  | unavailable (key : String) (error : Error) (mode : FailureMode)
  deriving DecidableEq

/-- The wording of a warning, apart from its particulars. -/
def Warning.message : Warning → String
  | .otherDigest _ _ => "server reported a different script fingerprint"
  | .noDigest _ => "unexpected SCRIPT LOAD reply"
  | .unavailable _ _ _ => "rate limit store unavailable"

/-- What the end of the registration of a script means: an error, or a warning if the reply is not
the digest of the script. -/
def Script.registered (script : Script) (result : Result) : Except Error (Option Warning) :=
  result.reply.map fun reply =>
    match reply.text? with
    | .ok got =>
        if Script.sameDigest got script.digest then none
        else some (.otherDigest script.digest got)
    | .error fault => some (.noDigest (.protocol fault))

/-- What the end of a call of the script means. -/
def Answer.ofResult? (result : Result) : Except Error Answer := do
  let reply ← result.reply
  (Answer.ofReply? reply).mapError .protocol

end RateLimit
