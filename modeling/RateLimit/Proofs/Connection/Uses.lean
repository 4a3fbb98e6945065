import RateLimit.Pool.Basic
import RateLimit.Proofs.Connection.Request
import RateLimit.Scenario.Connection

/-!
# A connection in use

A caller uses a connection again and again: it sends, receives, makes requests, presents
credentials, registers the script and calls it, and may give up in the middle of each.  Whatever
happens on the transport meanwhile, the connection is marked as broken exactly if the last request
on it has failed.  Sending or receiving alone neither sets the mark nor takes it away, and a request
that is answered takes it away, whatever went wrong before.

## Main definitions

* `Connection.Use` : a use of a connection, with what happens on the transport.
* `Connection.Use.Fails` : what it is for a use to fail.
* `Connection.after` : a connection after uses of it.

## Main results

* `Connection.Use.broken_iff_fails` : a request leaves the mark exactly if it fails.
* `Connection.broken_after_iff` : what the mark of a connection says.
* `Connection.not_broken_after_failures` : failures that leave no mark.
* `Scenario.Connection.State.exists_use` : a step of a scenario is a use of its connection.
-/

namespace RateLimit

open Scenario.Connection (Step Value)

namespace Connection

/-- A use of a connection: what the caller does, and what happens on the transport until it is done
or gives up. -/
structure Use where
  step : Step
  events : List Event

namespace Use

/-- How far the call of a use comes. -/
def progress (u : Use) (c : Connection) : Progress :=
  ((c.start u.step.toCall).run u.events).1

/-- The result of the call of a use; none if it is given up. -/
def result? (u : Use) (c : Connection) : Option Result :=
  match u.progress c with
  | .waiting _ => none
  | .finished _ result => some result

/-- How a use ends, and the connection that it leaves. -/
def ending (u : Use) (c : Connection) : Ending Value × Connection :=
  match u.progress c with
  | .waiting x => (.cancelled, x.connection)
  | .finished c result =>
      let (c, result, _) := u.step.conclude c result
      (.returned result, c)

/-- Whether a use makes a request. -/
def isRequest (u : Use) : Bool :=
  match u.step with
  | .call (.send _) | .call .receive => false
  | .call (.request _) | .authenticate _ | .register _ | .evaluate _ _ _ => true

/-- A use fails: it is given up, or its call ends with a failure of the transport or a departure
from the protocol, or credentials are refused in it. -/
inductive Fails (u : Use) (c : Connection) : Prop
  | givenUp (h : u.result? c = none)
  | transport {fault : TransportFault} (h : u.result? c = some (.error (.transport fault)))
  | protocol {fault : ProtocolFault} (h : u.result? c = some (.error (.protocol fault)))
  | refused {fault : AuthFault} (h : (u.ending c).1 = .returned (.error (.auth fault)))

end Use

/-- A connection after uses of it, one after the other. -/
def after (c : Connection) (uses : List Use) : Connection :=
  uses.foldl (fun c u => (u.ending c).2) c

theorem after_append (c : Connection) (uses later : List Use) :
    c.after (uses ++ later) = (c.after uses).after later :=
  List.foldl_append

/-- The last request among uses of a connection, with the connection as it finds it. -/
def lastRequest? (c : Connection) : List Use → Option (Use × Connection)
  | [] => none
  | u :: uses =>
      ((u.ending c).2.lastRequest? uses).or (if u.isRequest then some (u, c) else none)

/-- Every request among uses of a connection fails. -/
def Unanswered (c : Connection) (uses : List Use) : Prop :=
  ∀ before u later, uses = before ++ u :: later → u.isRequest = true → u.Fails (c.after before)

end Connection

/-- A reply is handed on as it is, or as an error of the server. -/
theorem Reply.result_cases (reply : Reply) :
    reply.result = .ok (some reply) ∨ ∃ text, reply.result = .error (.server text) := by
  cases reply with
  | error text => exact .inr ⟨text, rfl⟩
  | status | integer | bulk | null | array => exact .inl rfl

/-! ### Calls that are no requests -/

/-- How far a call can have come that is no request: the mark of its connection is as it was. -/
structure Progress.Keeps (broken : Bool) (p : Progress) : Prop where
  task : ∀ x, p = .waiting x → x.task ≠ .request
  connection : p.connection.broken = broken

/-- A request goes on as a request over any events. -/
theorem Progress.IsRequest.run {p : Progress} (h : p.IsRequest) (events : List Event) :
    (p.run events).1.IsRequest := by
  induction events generalizing p with
  | nil => cases p <;> exact h
  | cons event events ih =>
      cases h with
      | waiting h => exact ih (h.step event)
      | answered rest reply => exact .answered rest reply
      | failed hbroken herror => exact .failed hbroken herror

theorem Connection.keeps_deliver (c : Connection) {task : Task} (h : task ≠ .request)
    (reply : Reply) (rest : Bytes) : (c.deliver task reply rest).Keeps c.broken := by
  cases task with
  | send | receive => exact ⟨fun _ => Progress.noConfusion, rfl⟩
  | request => exact (h rfl).elim

theorem Connection.keeps_poll (c : Connection) {task : Task} (h : task ≠ .request) :
    (c.poll task).Keeps c.broken := by
  rw [poll]
  split
  · exact ⟨fun x hx => by cases hx; exact h, rfl⟩
  · exact ⟨fun _ => Progress.noConfusion, rfl⟩
  · exact c.keeps_deliver h _ _

theorem Connection.keeps_transmit (c : Connection) {task : Task} (h : task ≠ .request)
    (command : Command) : (c.transmit task command).Keeps c.broken := by
  rw [transmit]
  split
  · exact ⟨fun x hx => by cases hx; exact h, rfl⟩
  · exact ⟨fun _ => Progress.noConfusion, rfl⟩

theorem Exchange.keeps_step {x : Exchange} (h : x.task ≠ .request) (event : Event) :
    (x.step event).Keeps x.connection.broken := by
  have hfailed (result : Result) :
      (Progress.finished x.connection result).Keeps x.connection.broken :=
    ⟨fun _ => Progress.noConfusion, rfl⟩
  have hwaiting (awaiting : Awaiting) :
      (Progress.waiting { x with awaiting }).Keeps x.connection.broken :=
    ⟨fun x' hx' => by cases hx'; exact h, rfl⟩
  fun_cases step x event with
  | case1 | case4 | case5 | case7 | case9 | case10 | case11 => exact hfailed _
  | case2 | case3 => exact hwaiting _
  | case6 => exact x.connection.keeps_poll h
  | case8 data => exact Connection.keeps_poll ⟨x.connection.buffer ++ data, _⟩ h
  | case12 => exact hwaiting x.awaiting

theorem Progress.Keeps.run {broken : Bool} {p : Progress} (h : p.Keeps broken)
    (events : List Event) : (p.run events).1.Keeps broken := by
  induction events generalizing p with
  | nil => cases p <;> exact h
  | cons event events ih =>
      cases p with
      | waiting x =>
          have hbroken : x.connection.broken = broken := h.connection
          exact ih (hbroken ▸ x.keeps_step (h.task x rfl) event)
      | finished c result => exact h

/-! ### The mark after uses -/

namespace Connection

variable {c : Connection} {u : Use}

theorem Use.progress_isRequest (h : u.isRequest = true) (c : Connection) :
    (u.progress c).IsRequest := by
  obtain ⟨step, events⟩ := u
  cases step with
  | call call =>
      cases call with
      | send | receive => cases h
      | request command => exact (c.start_isRequest command).run events
  | authenticate credentials => exact (c.start_isRequest _).run events
  | register limits => exact (c.start_isRequest _).run events
  | evaluate limits key now => exact (c.start_isRequest _).run events

/-- Sending or receiving alone leaves the mark as it was. -/
theorem Use.broken_of_not_isRequest (h : u.isRequest = false) (c : Connection) :
    (u.ending c).2.broken = c.broken := by
  have hkeeps : (u.progress c).Keeps c.broken := by
    obtain ⟨step, events⟩ := u
    cases step with
    | call call =>
        cases call with
        | send command => exact (c.keeps_transmit (by decide) command).run events
        | receive => exact (c.keeps_poll (by decide)).run events
        | request => cases h
    | authenticate | register | evaluate => cases h
  rw [ending]
  generalize u.progress c = p at hkeeps
  cases p with
  | waiting x => exact hkeeps.connection
  | finished c' result =>
      obtain ⟨step, events⟩ := u
      cases step with
      | call call => exact hkeeps.connection
      | authenticate | register | evaluate => cases h

/-- What a step makes of a call that has failed. -/
theorem conclude_error (step : Step) (c : Connection) {error : Error} (h : error.OfExchange) :
    step.conclude c (.error error) = (c, .error error, none) := by
  cases step with
  | call | register | evaluate => rfl
  | authenticate => cases h <;> rfl

/-- A step other than the presentation of credentials leaves the connection as its request does, and
does not refuse credentials. -/
theorem conclude_result {step : Step} (h : ∀ credentials, step ≠ .authenticate credentials)
    (c : Connection) (reply : Reply) :
    (step.conclude c reply.result).1 = c ∧
      ∀ fault, (step.conclude c reply.result).2.1 ≠ .error (.auth fault) := by
  rcases reply.result_cases with hreply | ⟨text, hreply⟩ <;> rw [hreply]
  · cases step with
    | call => exact ⟨rfl, fun fault heq => by cases heq⟩
    | authenticate credentials => exact (h credentials rfl).elim
    | register => exact ⟨rfl, fun fault heq => by cases heq⟩
    | evaluate limits key now =>
        refine ⟨rfl, fun fault heq => ?_⟩
        change (((Answer.ofReply? reply).mapError Error.protocol).map Value.answer) = _ at heq
        cases hanswer : Answer.ofReply? reply <;> rw [hanswer] at heq <;> cases heq
  · cases step with
    | authenticate credentials => exact (h credentials rfl).elim
    | call | register | evaluate => exact ⟨rfl, fun fault heq => by cases heq⟩

/-- A use that gets a reply does not fail, unless it refuses credentials. -/
theorem Use.not_fails {reply : Reply} (hresult : u.result? c = some reply.result)
    (hending : ∀ fault, (u.ending c).1 ≠ .returned (.error (.auth fault))) : ¬ u.Fails c := by
  intro hfails
  cases hfails with
  | givenUp h => cases hresult.symm.trans h
  | refused h => exact hending _ h
  | transport h | protocol h =>
      rw [hresult, Option.some.injEq] at h
      rcases reply.result_cases with hreply | ⟨text, hreply⟩ <;> cases hreply.symm.trans h

/-- **A request leaves the mark exactly if it fails.** -/
theorem Use.broken_iff_fails (h : u.isRequest = true) (c : Connection) :
    (u.ending c).2.broken = true ↔ u.Fails c := by
  have hrequest := u.progress_isRequest h c
  generalize hp : u.progress c = p at hrequest
  cases hrequest with
  | @waiting x hx =>
      have hresult : u.result? c = none := by rw [result?, hp]
      refine iff_of_true ?_ (.givenUp hresult)
      rw [ending, hp]
      exact hx.broken
  | @failed c' hbroken error herror =>
      have hresult : u.result? c = some (.error error) := by rw [result?, hp]
      have hending : u.ending c = (.returned (.error error), c') := by
        rw [ending, hp]
        dsimp only
        rw [conclude_error u.step c' herror]
      rw [hending]
      refine iff_of_true hbroken ?_
      cases herror with
      | transport => exact .transport hresult
      | protocol => exact .protocol hresult
      | auth => exact .refused (congrArg Prod.fst hending)
  | answered rest reply =>
      have hending : u.ending c = (.returned (u.step.conclude ⟨rest, false⟩ reply.result).2.1,
          (u.step.conclude ⟨rest, false⟩ reply.result).1) := by
        rw [ending, hp]
      have hresult : u.result? c = some reply.result := by rw [result?, hp]
      by_cases hauth : ∃ credentials, u.step = .authenticate credentials
      · obtain ⟨credentials, hstep⟩ := hauth
        rw [hstep] at hending
        cases reply with
        | status text =>
            refine iff_of_false ?_ (Use.not_fails hresult fun fault heq => ?_)
            · rw [hending]
              exact Bool.noConfusion
            · rw [hending] at heq
              cases heq
        | error | integer | bulk | null | array =>
            refine iff_of_true ?_ (.refused (congrArg Prod.fst hending))
            rw [hending]
            rfl
      · obtain ⟨hsame, hvalue⟩ := conclude_result (fun credentials hstep =>
          hauth ⟨credentials, hstep⟩) ⟨rest, false⟩ reply
        refine iff_of_false ?_ (Use.not_fails hresult fun fault heq => ?_)
        · rw [hending, hsame]
          exact Bool.noConfusion
        · rw [hending] at heq
          exact hvalue fault (Ending.returned.inj heq)

/-- A connection is marked after uses of it exactly if the last request among them failed, or none
was made and it was marked before. -/
theorem broken_after_iff_last (c : Connection) (uses : List Use) :
    (c.after uses).broken = true ↔
      match c.lastRequest? uses with
      | some (u, found) => u.Fails found
      | none => c.broken = true := by
  induction uses generalizing c with
  | nil => exact Iff.rfl
  | cons u uses ih =>
      change ((u.ending c).2.after uses).broken = true ↔ _
      rw [ih, lastRequest?]
      cases (u.ending c).2.lastRequest? uses with
      | some last => exact Iff.rfl
      | none =>
          rw [Option.none_or]
          cases hu : u.isRequest with
          | true =>
              rw [if_pos rfl]
              exact Use.broken_iff_fails hu c
          | false =>
              rw [if_neg Bool.false_ne_true]
              exact Bool.eq_iff_iff.1 (Use.broken_of_not_isRequest hu c)

/-- A mark stays as long as no request is answered. -/
theorem Unanswered.broken_after {uses : List Use} (h : c.Unanswered uses)
    (hbroken : c.broken = true) : (c.after uses).broken = true := by
  induction uses generalizing c with
  | nil => exact hbroken
  | cons u uses ih =>
      refine ih (fun before v later huses => h (u :: before) v later (congrArg _ huses)) ?_
      cases hu : u.isRequest with
      | true => exact (Use.broken_iff_fails hu c).2 (h [] u uses rfl hu)
      | false => rw [Use.broken_of_not_isRequest hu, hbroken]

/-- A connection that is marked does not come back to the idle ones of a pool. -/
theorem idle_release {c : Connection} (h : c.broken = true) (p : Pool) (dial : Nat) :
    (p.release ⟨dial, c⟩).idle = p.idle := by
  rw [Pool.release, if_pos (by rw [h, Bool.or_true])]
  rfl

/-- **What the mark of a connection says.** Whatever uses are made of a connection, each to its end
or given up, and whatever happens on its transport: once a request has failed the connection is
marked, at once and after every later use, as long as no request on it is answered; in every case it
is marked exactly if the last request on it failed, or none was made and it was marked before; and a
connection that is marked does not come back to the idle ones of a pool. -/
theorem broken_after_iff (c : Connection) (uses : List Use) :
    (∀ u later, u.isRequest = true → u.Fails (c.after uses) →
      (c.after (uses ++ [u])).Unanswered later →
        (c.after (uses ++ u :: later)).broken = true) ∧
      ((c.after uses).broken = true ↔
        match c.lastRequest? uses with
        | some (u, found) => u.Fails found
        | none => c.broken = true) ∧
      ((c.after uses).broken = true → ∀ (p : Pool) (dial : Nat),
        (p.release ⟨dial, c.after uses⟩).idle = p.idle) := by
  refine ⟨fun u later hu hfails hlater => ?_, c.broken_after_iff_last uses, idle_release⟩
  have hbroken : (c.after (uses ++ [u])).broken = true := by
    rw [after_append]
    exact (Use.broken_iff_fails hu _).2 hfails
  have hall : uses ++ u :: later = (uses ++ [u]) ++ later := by
    rw [List.append_assoc, List.singleton_append]
  rw [hall, after_append]
  exact hlater.broken_after hbroken

/-- A failure to receive leaves no mark.  A request that is given up leaves one, but the next
request takes it away with the first reply that comes, which was meant for the request before. -/
theorem not_broken_after_failures :
    let failing : Use := ⟨.call .receive, [.readFailed ⟨"ConnectionReset", "reset by peer"⟩]⟩
    let first : Use := ⟨.call (.request (.ofTexts ["A"])), [.wrote 11, .flushed]⟩
    let second : Use := ⟨.call (.request (.ofTexts ["B"])),
      [.wrote 11, .flushed, .received (Bytes.ofString "+one\r\n")]⟩
    failing.Fails {} ∧ (after {} [failing]).broken = false ∧
      first.Fails (after {} [failing]) ∧ (after {} [failing, first]).broken = true ∧
      (after {} [failing, first, second]).broken = false := by
  intro failing first second
  exact ⟨.transport rfl, rfl, .givenUp rfl, rfl, rfl⟩

end Connection

/-! ### Scenarios -/

namespace Scenario.Connection

/-- A call that waits on a network comes as far as the events take it that the network lets
happen. -/
theorem exists_run_settleWithin {σ : Type} (network : Network σ) (steps : Nat) (p : Progress)
    (net : σ) (made : List Unit) :
    ∃ events, (settleWithin waiter network steps p net made).state = (p.run events).1 := by
  induction steps generalizing p net made with
  | zero => exact ⟨[], by cases p <;> rfl⟩
  | succ steps ih =>
      cases p with
      | finished c result => exact ⟨[], rfl⟩
      | waiting x =>
          have hawaiting : waiter.awaiting? (.waiting x) = some (0, x.awaiting) := rfl
          rw [settleWithin, hawaiting]
          dsimp only
          split
          · rename_i event net' _
            obtain ⟨events, hevents⟩ := ih (x.step event) net' (made ++ [])
            exact ⟨event :: events, hevents⟩
          · exact ih (.waiting x) _ _
          · exact ⟨[], rfl⟩

/-- A step of a scenario is a use of its connection. -/
theorem State.exists_use (s : State) (step : Step) :
    ∃ u : RateLimit.Connection.Use, u.step = step ∧
      u.ending s.connection = ((s.step step).1.ending, (s.step step).2.connection) ∧
      (s.step step).1.broken = (s.step step).2.connection.broken := by
  obtain ⟨events, hevents⟩ := exists_run_settleWithin Playback.network
    (Playback.network.patience s.network.cleared (waiter.attempts (s.connection.start step.toCall)))
    (s.connection.start step.toCall) s.network.cleared []
  refine ⟨⟨step, events⟩, rfl, ?_⟩
  rw [RateLimit.Connection.Use.ending, RateLimit.Connection.Use.progress, ← hevents, State.step,
    settle]
  dsimp only
  generalize settleWithin waiter Playback.network _ _ _ [] = settled
  obtain ⟨x | ⟨c, result⟩, network, made, -⟩ := settled
  · exact ⟨rfl, rfl⟩
  · exact ⟨rfl, rfl⟩

end Scenario.Connection

end RateLimit
