import RateLimit.Connection.Attempt

/-!
# What a request comes to

A request marks its connection as broken before it sends anything.  From then on it waits with the
mark set, or fails and leaves the mark, or gets a complete reply and takes the mark away; there is
no other way.  An attempt to open a connection that presents credentials is such a request, so a
connection that it opens is whole.

## Main definitions

* `Command.bytes` : the bytes of a command.
* `Reply.result` : what a request hands on for a reply.
* `Exchange.Goes` : how a request goes on in an event.
* `Exchange.IsRequest` : a request in progress.

## Main results

* `Exchange.goes` : a request goes on in one of these ways.
* `Attempt.IsRequest.whole_of_opened` : an attempt opens whole connections.
-/

namespace RateLimit

/-- The bytes of a command; a command that cannot be sent has none. -/
def Command.bytes (command : Command) : Bytes :=
  match command.encode with
  | .ok bytes => bytes
  | .error _ => []

/-- What a request hands on for a reply: an error line is an error of the server. -/
def Reply.result : Reply → Result
  | .error text => .error (.server text)
  | reply => .ok (some reply)

/-- An error that comes from the exchange with the server, not from the books of a pool. -/
inductive Error.OfExchange : Error → Prop
  | transport (fault : TransportFault) : OfExchange (.transport fault)
  | protocol (fault : ProtocolFault) : OfExchange (.protocol fault)
  | auth (fault : AuthFault) : OfExchange (.auth fault)

namespace Connection

theorem deliver_request (c : Connection) (reply : Reply) (rest : Bytes) :
    c.deliver .request reply rest = .finished ⟨rest, false⟩ reply.result := by
  cases reply <;> rfl

theorem poll_of_needMore {c : Connection} {task : Task}
    (h : (Reader.read {} c.buffer).1 = .needMore) : c.poll task = .waiting ⟨c, task, .read⟩ := by
  rw [poll, h]

theorem poll_of_invalid {c : Connection} {task : Task} {fault : ProtocolFault}
    (h : (Reader.read {} c.buffer).1 = .invalid fault) :
    c.poll task = .finished c (.error (.protocol fault)) := by
  rw [poll, h]

theorem poll_of_complete {c : Connection} {reply : Reply} {rest : Bytes}
    (h : (Reader.read {} c.buffer).1 = .complete reply rest) :
    c.poll .request = .finished ⟨rest, false⟩ reply.result := by
  rw [poll, h]
  exact c.deliver_request reply rest

/-- The bytes that have arrived hold a reply, or more are waited for, or the request fails. -/
theorem poll_request_cases (c : Connection) :
    c.poll .request = .waiting ⟨c, .request, .read⟩ ∨
      (∃ reply rest, (Reader.read {} c.buffer).1 = .complete reply rest ∧
        c.poll .request = .finished ⟨rest, false⟩ reply.result) ∨
      ∃ fault, c.poll .request = .finished c (.error (.protocol fault)) := by
  cases h : (Reader.read {} c.buffer).1 with
  | needMore => exact .inl (poll_of_needMore h)
  | complete reply rest => exact .inr (.inl ⟨reply, rest, rfl, poll_of_complete h⟩)
  | invalid fault => exact .inr (.inr ⟨fault, poll_of_invalid h⟩)

end Connection

namespace Exchange

/-- How a request goes on in an event. -/
inductive Goes (x : Exchange) : Event → Progress → Prop
  /-- The event is not waited for. -/
  | stays {event : Event} (haccepted : x.accepted event = []) (hflushes : x.flushes event = false)
      (hread : x.awaiting = .read → ∀ data, event ≠ .received data) : Goes x event (.waiting x)
  /-- A part of the command has been taken. -/
  | wrote {rest : Bytes} {count : Nat} (hawaiting : x.awaiting = .write rest)
      (hcount : count < rest.length) :
      Goes x (.wrote count) (.waiting { x with awaiting := .write (rest.drop count) })
  /-- The rest of the command has been taken. -/
  | written {rest : Bytes} {count : Nat} (hawaiting : x.awaiting = .write rest)
      (hcount : rest.length ≤ count) :
      Goes x (.wrote count) (.waiting { x with awaiting := .flush })
  /-- The command has been passed on. -/
  | passed (hawaiting : x.awaiting = .flush) : Goes x .flushed (x.connection.poll .request)
  /-- Bytes have arrived. -/
  | received {data : Bytes} (hawaiting : x.awaiting = .read) :
      Goes x (.received data)
        (Connection.poll { x.connection with buffer := x.connection.buffer ++ data } .request)
  /-- The request fails. -/
  | failed {event : Event} {error : Error} (herror : error.OfExchange) :
      Goes x event (.finished x.connection (.error error))

theorem accepted_cases (x : Exchange) (event : Event) :
    x.accepted event = [] ∨ ∃ rest count, x.awaiting = .write rest ∧ event = .wrote count := by
  unfold accepted
  split
  · rename_i rest count hrest
    exact .inr ⟨rest, count, hrest, rfl⟩
  · exact .inl rfl

/-- A request goes on in one of the ways there are. -/
theorem goes {x : Exchange} (htask : x.task = .request) (event : Event) :
    x.Goes event (x.step event) := by
  obtain ⟨c, task, awaiting⟩ := x
  subst htask
  fun_cases step ⟨c, .request, awaiting⟩ event with
  | case1 | case4 | case7 | case9 | case10 => exact .failed (.transport _)
  | case2 rest count hawaiting _ hcount => exact .wrote hawaiting hcount
  | case3 rest count hawaiting _ hcount => exact .written hawaiting (Nat.le_of_not_lt hcount)
  | case5 _ htask => cases htask
  | case6 hawaiting => exact .passed hawaiting
  | case8 data hawaiting => exact .received hawaiting
  | case11 => exact .failed (.protocol _)
  | case12 _ hwrote _ hflushed _ hreceived _ =>
      refine .stays ?_ ?_ fun hread data => hreceived data hread
      · rcases accepted_cases ⟨c, .request, awaiting⟩ event with
          hnone | ⟨rest, count, hrest, hcount⟩
        · exact hnone
        · exact (hwrote rest count hrest hcount).elim
      · refine Bool.and_eq_false_iff.2 ?_
        simp only [decide_eq_false_iff_not]
        exact Decidable.not_and_iff_or_not.1 fun h => hflushed h.1 h.2

/-- A request waits for its reply once its command is passed on. -/
theorem awaiting_read_of_step {x x' : Exchange} {event : Event} (htask : x.task = .request)
    (h : x.step event = .waiting x') (hread : x'.awaiting = .read) :
    x.flushes event = true ∨ x.awaiting = .read ∧ x.flushes event = false := by
  have hgoes := goes htask event
  rw [h] at hgoes
  generalize hp : Progress.waiting x' = p at hgoes
  cases hgoes with
  | stays _ hflushes =>
      cases hp
      exact .inr ⟨hread, hflushes⟩
  | wrote | written =>
      cases hp
      cases hread
  | passed hawaiting =>
      refine .inl ?_
      rw [flushes, hawaiting]
      rfl
  | received hawaiting =>
      refine .inr ⟨hawaiting, ?_⟩
      rw [flushes, hawaiting]
      rfl
  | failed => cases hp

/-- A request in progress: its connection counts as broken. -/
structure IsRequest (x : Exchange) : Prop where
  task : x.task = .request
  broken : x.connection.broken = true

end Exchange

/-! ### Requests -/

/-- How far a request can have come. -/
inductive Progress.IsRequest : Progress → Prop
  | waiting {x : Exchange} (h : x.IsRequest) : IsRequest (.waiting x)
  | answered (rest : Bytes) (reply : Reply) : IsRequest (.finished ⟨rest, false⟩ reply.result)
  | failed {c : Connection} (hbroken : c.broken = true) {error : Error}
      (herror : error.OfExchange) : IsRequest (.finished c (.error error))

theorem Connection.poll_isRequest {c : Connection} (h : c.broken = true) :
    (c.poll .request).IsRequest := by
  rcases c.poll_request_cases with hwait | ⟨reply, rest, -, hdone⟩ | ⟨fault, hfail⟩
  · rw [hwait]
    exact .waiting ⟨rfl, h⟩
  · rw [hdone]
    exact .answered rest reply
  · rw [hfail]
    exact .failed h (.protocol fault)

theorem Connection.start_request {command : Command} {bytes : Bytes}
    (hbytes : command.encode = .ok bytes) :
    Connection.start {} (.request command) = .waiting ⟨⟨[], true⟩, .request, .write bytes⟩ := by
  rw [start, transmit, hbytes]

theorem Connection.start_isRequest (c : Connection) (command : Command) :
    (c.start (.request command)).IsRequest := by
  rw [start, transmit]
  split
  · exact .waiting ⟨rfl, rfl⟩
  · exact .failed rfl (.protocol _)

/-- A request goes on as a request. -/
theorem Exchange.IsRequest.step {x : Exchange} (h : x.IsRequest) (event : Event) :
    (x.step event).IsRequest := by
  have hgoes := goes h.task event
  generalize x.step event = p at hgoes ⊢
  cases hgoes with
  | stays => exact .waiting h
  | wrote => exact .waiting ⟨h.task, h.broken⟩
  | written => exact .waiting ⟨h.task, h.broken⟩
  | passed => exact Connection.poll_isRequest h.broken
  | received => exact Connection.poll_isRequest h.broken
  | failed herror => exact .failed h.broken herror

/-! ### Attempts to open a connection -/

namespace Attempt

/-- An attempt in progress, which may be presenting credentials in a request. -/
inductive IsRequest : Attempt → Prop
  | connecting : IsRequest .connecting
  | authenticating {x : Exchange} (h : x.IsRequest) : IsRequest (.authenticating x)

/-- How far an attempt can have come. -/
inductive Progress.IsRequest : Progress → Prop
  | waiting {attempt : Attempt} (h : attempt.IsRequest) : IsRequest (.waiting attempt)
  | opened {c : Connection} (h : c.broken = false) : IsRequest (.opened c)
  | failed {error : Error} (h : error.OfExchange) : IsRequest (.failed error)

theorem ofRequest_isRequest {p : RateLimit.Progress} (h : p.IsRequest) :
    (ofRequest p).IsRequest := by
  cases h with
  | waiting h => exact .waiting (.authenticating h)
  | answered rest reply =>
      cases reply with
      | status text => exact .opened rfl
      | error text => exact .failed (.auth _)
      | integer | bulk | array | null => exact .failed (.auth _)
  | failed hbroken herror =>
      cases herror with
      | transport fault => exact .failed (.transport fault)
      | protocol fault => exact .failed (.protocol fault)
      | auth fault => exact .failed (.auth fault)

/-- An attempt goes on as an attempt, and opens whole connections. -/
theorem IsRequest.step {attempt : Attempt} (h : attempt.IsRequest)
    (credentials : Option Credentials) (event : Event) :
    (attempt.step credentials event).IsRequest := by
  cases h with
  | connecting =>
      cases event with
      | connected =>
          cases credentials with
          | none => exact .opened rfl
          | some credentials =>
              exact ofRequest_isRequest (Connection.start_isRequest {} credentials.command)
      | connectFailed fault => exact .failed (.transport fault)
      | _ => exact .waiting .connecting
  | authenticating h => exact ofRequest_isRequest (h.step event)

end Attempt

end RateLimit
