import RateLimit.Proofs.Network.Host
import RateLimit.Proofs.Script.Text

/-!
# What a server of token buckets answers

A server that works accepts the right credentials, acknowledges a script, and runs the script of
any limits on the bucket of any key, as one step.

## Main results

* `BucketServer.answer_credentials`, `BucketServer.answer_register` : the two answers that change
  nothing.
* `BucketServer.answer_call` : a call of a script is one step of a bucket.
-/

namespace RateLimit

namespace BucketServer

variable {α : Type} {s : BucketServer α}

/-- The reply that says that all is well. -/
def acknowledgement : Reply :=
  .status "OK"

variable [Quantity α] [Add α] [Sub α] [Mul α] [Div α] [LT α] [LE α] [DecidableLT α]
  [DecidableLE α]

/-- The credentials of a client that is let in are accepted. -/
theorem answer_credentials {credentials : Credentials} (h : s.admits (some credentials))
    (welcomed : Bool) :
    Host.answer service (.resting welcomed, s) credentials.command =
      ({ welcomed := true, outgoing := acknowledgement.encode }, s) := by
  have hhead : credentials.command.head? = some (Bytes.ofString "AUTH") := rfl
  have haccount : credentials ∈ s.accounts := h
  apply Host.answer_of_welcome
  change respond s welcomed credentials.command = _
  rw [respond, if_pos hhead, authenticate, if_neg (List.ne_nil_of_mem haccount),
    if_pos (List.mem_map_of_mem haccount)]
  rfl

/-- The answer to a command of a client that has been let in. -/
theorem respond_of_admits {credentials : Option Credentials} (h : s.admits credentials)
    {command : Command} (hauth : command.head? ≠ some (Bytes.ofString "AUTH")) :
    respond s credentials.isSome command =
      if command.head? = some (Bytes.ofString "EVAL") then s.evaluate command
      else (.send acknowledgement.encode, s) := by
  have hwelcome : (!s.guests && !credentials.isSome) = false := by
    cases credentials with
    | none => rw [show s.guests = true from h]; rfl
    | some _ => exact Bool.and_false _
  rw [respond, if_neg hauth, hwelcome, if_neg Bool.false_ne_true]
  rfl

/-- A script is acknowledged. -/
theorem answer_register {credentials : Option Credentials} (h : s.admits credentials)
    (script : Script) :
    Host.answer service (.resting credentials.isSome, s) script.register =
      ({ welcomed := credentials.isSome, outgoing := acknowledgement.encode }, s) := by
  have hhead : script.register.head? = some (Bytes.ofString "SCRIPT") := rfl
  apply Host.answer_of_send
  change respond s credentials.isSome script.register = _
  rw [respond_of_admits h (by rw [hhead]; decide), if_neg (by rw [hhead]; decide)]

theorem evaluate_of_working (hmode : s.mode = .working) (word body number key now : Bytes) :
    s.evaluate [word, body, number, key, now] = s.run body key now := by
  unfold evaluate
  rw [hmode]

/-- A call of a script is one step of the bucket of its key. -/
theorem answer_call {credentials : Option Credentials} (h : s.admits credentials)
    (hmode : s.mode = .working) (limits : Limits) (key : String) (now : Nat) :
    Host.answer service (.resting credentials.isSome, s) ((Script.ofLimits limits).call key now) =
      ({ welcomed := credentials.isSome,
          outgoing := (verdictReply (s.buckets.take limits (Bytes.ofString key) now).1).encode },
        { s with
          buckets := (s.buckets.take limits (Bytes.ofString key) now).2
          runs := s.runs + 1 }) := by
  have hlimits : (Utf8.decode (Bytes.ofString (Script.ofLimits limits).body)).toOption.bind
      Script.limits? = some limits := by
    have hbody : (Script.ofLimits limits).body = Script.textOf limits := rfl
    rw [hbody, Utf8.decode_ofString, Except.toOption, Option.bind_some, Script.limits?_textOf]
  generalize Script.ofLimits limits = script at hlimits
  have hhead : (script.call key now).head? = some (Bytes.ofString "EVAL") := rfl
  apply Host.answer_of_send
  change respond s credentials.isSome (script.call key now) = _
  rw [respond_of_admits h (by rw [hhead]; decide), if_pos hhead, Script.call, Command.ofTexts]
  simp only [List.map_cons, List.map_nil]
  rw [evaluate_of_working hmode, run, hlimits, Decimal.natural?_asciiChars_toString]

end BucketServer

end RateLimit
