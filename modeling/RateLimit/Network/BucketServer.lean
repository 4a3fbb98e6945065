import RateLimit.Bucket.Script
import RateLimit.Connection.Attempt
import RateLimit.Network.Host

/-!
# A server of token buckets

A service that keeps buckets and runs the script on them.  It may ask for credentials, and it can
be made to misbehave in several ways.

## Main definitions

* `Script.limits?` : the limits that a script was made for.
* `BucketServer` : the state of the service.
* `BucketServer.admits` : the clients that the service lets in.
* `BucketServer.service` : the service.
-/

namespace RateLimit

namespace Script

/-- The number at the end of the first line that begins with given characters. -/
def parameter? (name : String) (lines : List (List Char)) : Option Nat :=
  lines.findSome? fun line =>
    let start := ("local " ++ name ++ " = ").toList
    if start.isPrefixOf line then Decimal.natural? (line.drop start.length) else none

/-- The lines of a text, without their ends. -/
def lines : List Char → List (List Char)
  | [] => [[]]
  | c :: cs =>
      if c = '\n' then [] :: lines cs
      else
        match lines cs with
        | [] => [[c]]
        | line :: rest => (c :: line) :: rest

/-- The limits that a script was made for, if there are any. -/
def limits? (body : String) : Option Limits := do
  let lines := lines body.toList
  let tokens ← parameter? "tokens" lines
  let interval ← parameter? "interval" lines
  let ttl ← parameter? "ttl" lines
  let span := Duration.ofNanos interval
  if h : 0 < tokens ∧ 0 < span.toNanos ∧ 0 < ttl then
    let limits : Limits := ⟨tokens, span, ttl, h.1, h.2.1, h.2.2⟩
    if textOf limits = body then some limits else none
  else none

end Script

namespace BucketServer

/-- How a server treats calls of the script. -/
inductive Mode
  /-- It runs the script. -/
  | working
  /-- It ends the stream. -/
  | hangingUp
  /-- It sends bytes that are no reply. -/
  | garbage
  /-- It sends a reply that is no answer. -/
  | otherShape
  /-- It sends an error. -/
  | failing
  deriving DecidableEq, Repr

end BucketServer

/-- The state of a server of token buckets. -/
structure BucketServer (α : Type) where
  /-- The credentials that the service accepts. -/
  accounts : List Credentials := []
  /-- Whether clients may go without credentials. -/
  guests : Bool := true
  /-- How calls of the script are treated. -/
  mode : BucketServer.Mode := .working
  /-- Whether connections are refused. -/
  refusing : Bool := false
  /-- The buckets. -/
  buckets : Buckets α := {}
  /-- How many times the script has been run. -/
  runs : Nat := 0

namespace BucketServer

/-- An error line. -/
private def complaint (text : String) : Response :=
  .send (Reply.error text).encode

/-- A status line that says that all is well. -/
private def ok : Bytes :=
  (Reply.status "OK").encode

/-- Whether a client with given credentials, or with none, is let in. -/
def admits {α : Type} (s : BucketServer α) : Option Credentials → Prop
  | none => s.guests
  | some credentials => credentials ∈ s.accounts

/-- The response to credentials. -/
def authenticate {α : Type} (s : BucketServer α) (command : Command) : Response :=
  if s.accounts = [] then complaint "ERR AUTH called without any password configured"
  else if command ∈ s.accounts.map Credentials.command then .welcome ok
  else complaint "WRONGPASS invalid username-password pair"

section Run

variable {α : Type} [Quantity α] [Add α] [Sub α] [Mul α] [Div α] [LT α] [LE α] [DecidableLT α]
  [DecidableLE α]

/-- The verdict on a call as a reply. -/
def verdictReply (verdict : Verdict α) : Reply :=
  .array [.integer (Quantity.toInt64 verdict.remaining), .integer (Quantity.toInt64 verdict.reset),
    .integer (if verdict.allowed then 1 else 0)]

/-- Runs the script for a key at a time. -/
def run (s : BucketServer α) (body key now : Bytes) : Response × BucketServer α :=
  let limits := (Utf8.decode body).toOption.bind Script.limits?
  match limits, Decimal.natural? (Decimal.asciiChars now) with
  | some limits, some now =>
      let (verdict, buckets) := s.buckets.take limits key now
      (.send (verdictReply verdict).encode, { s with buckets, runs := s.runs + 1 })
  | _, _ => (complaint "ERR unknown script", s)

/-- The response to a call of the script. -/
def evaluate (s : BucketServer α) (command : Command) : Response × BucketServer α :=
  match s.mode, command with
  | .hangingUp, _ => (.hangUp, s)
  | .garbage, _ => (.send (Bytes.ofString "!garbage" ++ crlf), s)
  | .otherShape, _ => (.send ok, s)
  | .failing, _ => (complaint "ERR user_script:1: boom", s)
  | .working, [_, body, _, key, now] => s.run body key now
  | .working, _ => (complaint "ERR wrong number of arguments", s)

/-- The response to a command. -/
def respond (s : BucketServer α) (welcomed : Bool) (command : Command) :
    Response × BucketServer α :=
  if command.head? = some (Bytes.ofString "AUTH") then (s.authenticate command, s)
  else if !s.guests && !welcomed then
    (complaint "NOAUTH Authentication required.", s)
  else if command.head? = some (Bytes.ofString "EVAL") then s.evaluate command
  else (.send ok, s)

/-- The service. -/
def service : Service (BucketServer α) where
  refusal s := if s.refusing then some ⟨"ConnectionRefused", "refused"⟩ else none
  respond := respond

end Run

end BucketServer

end RateLimit
