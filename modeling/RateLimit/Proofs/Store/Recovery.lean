import RateLimit.Proofs.Store.Authentication
import RateLimit.Proofs.Store.Construction
import RateLimit.Proofs.Store.Ready
import RateLimit.Proofs.Store.Trails

/-!
# Recovery after an outage

The connections of a store that nobody uses may all have died while nobody looked.  Each of the next
calls is then lent one of them, fails on it, is answered by the failure mode and leaves the pool one
connection less.  Once none is left, the next call opens a connection, and is answered by the server
if that is back.

## Main definitions

* `Store.answers` : the answers that notices tell of.
* `Store.Ask` : a call with all that happens on its transport.
* `Store.Ask.Fails`, `Store.Ask.Succeeds` : a call on a connection that has died, and on a server
  that works.
* `Store.engaged` : a store with one call.
* `Store.left`, `Store.regained` : a store with these idle connections, and with a new one.

## Main results

* `Store.AtRest.run_of_fails` : a call on a connection that has died.
* `Store.AtRest.run_of_succeeds` : a call on a server that works.
* `Store.Attainable.recovers` : a store recovers as soon as its dead connections are used up.
-/

namespace RateLimit

open Pool (System Turn)

namespace Pool.System

/-- A pool that has given somebody the right to open a connection. -/
def withSlot (s : System) : System :=
  { s with pool := { s.pool with live := s.pool.live + 1 }, dialed := s.dialed + 1 }

theorem acquire_of_room {s : System} (hopen : s.pool.closed = false) (hidle : s.pool.idle = [])
    (hroom : s.pool.live < s.pool.maxSize) (user : Nat) :
    s.acquire user =
      (s.withSlot.assign user (.opening s.dialed .connecting), .dialing s.dialed) := by
  obtain ⟨credentials, ⟨maxSize, _, live, _⟩, users, dialed⟩ := s
  subst hopen hidle
  have hcheckout : Pool.checkout ⟨maxSize, [], live, false⟩ =
      (.slot, ⟨maxSize, [], live + 1, false⟩) := if_neg hroom.not_ge
  rw [acquire, hcheckout]
  rfl

end Pool.System

/-- A request that ends with an error of its transport, or of the protocol, leaves its connection
broken. -/
theorem Progress.IsRequest.broken_of_fatal {c : Connection} {error : Error}
    (h : (Progress.finished c (.error error)).IsRequest) (hfatal : error.isFatal = true) :
    c.broken = true := by
  generalize hresult : (Except.error error : Result) = result at h
  cases h with
  | answered rest reply =>
      cases reply <;> cases hresult
      cases hfatal
  | failed hbroken => exact hbroken

namespace Store

/-! ### What notices tell -/

/-- The answers that notices tell of, with the names of the calls. -/
def answers (notices : List Notice) : List (Nat × Decision) :=
  notices.filterMap fun
    | .answered name decision => some (name, decision)
    | _ => none

/-- Notices tell of these answers, and of these attempts to open a connection. -/
structure Accounts (answered : List (Nat × Decision)) (begun : List Nat)
    (notices : List Notice) : Prop where
  answers : answers notices = answered
  dials : dials notices = begun

theorem accounts_nil : Accounts [] [] [] := ⟨rfl, rfl⟩

theorem Accounts.append {answered answered' : List (Nat × Decision)} {begun begun' : List Nat}
    {notices more : List Notice} (h : Accounts answered begun notices)
    (hmore : Accounts answered' begun' more) :
    Accounts (answered ++ answered') (begun ++ begun') (notices ++ more) where
  answers := by rw [Store.answers, List.filterMap_append, ← h.answers, ← hmore.answers]; rfl
  dials := by rw [dials_append, h.dials, hmore.dials]

theorem accounts_traffic (role : Pool.Role) (event : Event) :
    Accounts [] [] ((role.traffic event).map .pool) where
  answers := by
    rw [Store.answers, List.filterMap_map]
    exact List.filterMap_eq_nil_iff.mpr fun _ _ => rfl
  dials := (tells_traffic role event).dials

theorem run_append (s : Store) (actions later : List Action) :
    s.run (actions ++ later) = (((s.run actions).1.run later).1,
      (s.run actions).2 ++ ((s.run actions).1.run later).2) := by
  induction actions generalizing s with
  | nil => rfl
  | cons action actions ih => rw [List.cons_append, run_cons, run_cons, ih, List.append_assoc]

/-- What happens on a transport concerns nobody if there are no calls. -/
theorem run_of_free {s : Store} (htakes : s.takes = []) (name : Nat) (events : List Event) :
    s.run (events.map (.event name)) = (s, []) := by
  induction events with
  | nil => rfl
  | cons event events ih =>
      have hstep : s.step (.event name event) = (s, []) := by
        rw [Store.step, take?, htakes, List.lookup_nil]
      rw [List.map_cons, run_cons, hstep, ih, List.append_nil]

/-- A call whose reply holds an answer of the script is answered with that. -/
theorem verdict_result (s : Store) {reply : Reply} {a : Answer}
    (h : Answer.ofReply? reply = .ok a) :
    s.verdict reply.result = ⟨s.limits.tokens, a.remaining, a.reset, a.allowed⟩ := by
  rcases Answer.ofResult?_result reply with ⟨b, hb, hresult⟩ | ⟨hnone, -⟩
  · cases h.symm.trans hb
    rw [verdict, decide?, hresult]
    rfl
  · exact absurd h (hnone a)

/-! ### A store with one call -/

/-- A store with one call, which has a role at the pool. -/
def engaged (s : Store) (base : System) (name : Nat) (take : Take) (role : Pool.Role) : Store :=
  { s with takes := [(name, take)], system := base.assign name role }

/-- A store once its only call has given back its connection. -/
def released (s : Store) (base : System) (name : Nat) (session : Session) : Store :=
  { s with takes := [], system := (base.assign name (.holding session)).release name }

/-- Once the only call of a store has given back its connection, nobody uses the pool. -/
theorem released_eq (s : Store) {base : System} (husers : base.users = []) (name : Nat)
    (session : Session) :
    s.released base name session =
      { s with takes := [], system := { base with pool := base.pool.release session } } := by
  have hothers : base.others name = base.users := by rw [System.others, husers, List.filter_nil]
  rw [released, System.release_assign, System.dismiss, hothers]

/-- A call goes on with its turn at the pool. -/
theorem step_engaged (s : Store) (base : System) (name : Nat) (take : Take) (role : Pool.Role)
    (event : Event) :
    (s.engaged base name take role).step (.event name event) =
      let after := (s.engaged base name take role).follow name take
        ((base.assign name role).react name event)
      (after.1, (role.traffic event).map .pool ++ after.2) := by
  have htake : (s.engaged base name take role).take? name = some take := List.lookup_cons_self
  have htraffic : (s.engaged base name take role).system.traffic name event =
      role.traffic event := by
    rw [System.traffic, engaged, System.role?_assign_self]
  rw [Store.step, htake, ← htraffic]
  rfl

/-- A call that waits goes on in its new role. -/
theorem engaged_follow_pending (s : Store) (base : System) (name : Nat) (take : Take)
    (role role' : Pool.Role) :
    (s.engaged base name take role).follow name take
      ((base.assign name role).assign name role', .pending) =
        (s.engaged base name take role', []) := by
  rw [System.assign_assign]
  rfl

/-- A call that has got a connection begins its request on it. -/
theorem engaged_follow_acquired (s : Store) (base : System) (name : Nat) (take : Take)
    (role : Pool.Role) (session : Session) :
    (s.engaged base name take role).follow name take
      (base.assign name (.holding session), .acquired session.dial) =
        (s.engaged base name take (.calling session.dial ⟨⟨session.connection.buffer, true⟩,
          .request, .write (s.script.call take.key take.now).bytes⟩),
          [.pool (.acquired name session.dial)]) := by
  rw [follow]
  dsimp only
  rw [System.call, System.role?_assign_self]
  dsimp only
  rw [engaged, Connection.start_request_eq _ (s.script.encode_call take.key take.now),
    System.advance, System.assign_assign]
  rfl

/-- A call whose request has ended is answered, and gives back its connection. -/
theorem engaged_follow_ended (s : Store) (base : System) (name : Nat) (take : Take)
    (role : Pool.Role) (session : Session) (result : Result) :
    let after := (s.engaged base name take role).follow name take
      (base.assign name (.holding session), .ended result)
    after.1 = s.released base name session ∧ Accounts [(name, s.verdict result)] [] after.2 := by
  refine ⟨?_, ?_⟩
  · rw [follow, conclude, forget, released, engaged]
    · simp
    · exact fun _ => Turn.noConfusion
  · have hdecide : (s.engaged base name take role).decide? result = s.decide? result := rfl
    rw [notices_follow_ended, hdecide, verdict]
    cases s.decide? result <;> exact ⟨rfl, rfl⟩

/-- A call on its connection is answered once its request has ended, and has then given back the
connection. -/
theorem run_calling (s : Store) (base : System) (name : Nat) (take : Take) (dial : Nat)
    {x : Exchange} {events : List Event} {c : Connection} {result : Result}
    (hrun : ((Progress.waiting x).run events).1 = .finished c result) :
    let after := (s.engaged base name take (.calling dial x)).run (events.map (.event name))
    after.1 = s.released base name ⟨dial, c⟩ ∧ Accounts [(name, s.verdict result)] [] after.2 := by
  induction events generalizing x with
  | nil => cases hrun
  | cons event events ih =>
      have htraffic := accounts_traffic (.calling dial x) event
      rw [Progress.run_waiting_cons] at hrun
      rw [List.map_cons, run_cons, step_engaged,
        System.react_of_calling (System.role?_assign_self ..)]
      cases hstep : x.step event with
      | waiting x' =>
          rw [hstep] at hrun
          obtain ⟨hlater, haccounts⟩ := ih hrun
          rw [System.advance, engaged_follow_pending]
          refine ⟨hlater, ?_⟩
          simpa using htraffic.append haccounts
      | finished c' result' =>
          rw [hstep, Progress.run_finished] at hrun
          cases hrun
          obtain ⟨hafter, haccounts⟩ :=
            s.engaged_follow_ended base name take (.calling dial x) ⟨dial, c⟩ result
          rw [System.advance, System.assign_assign]
          dsimp only
          -- What happens on the transport from now on is no longer for this call.
          rw [hafter, run_of_free rfl]
          refine ⟨rfl, ?_⟩
          simpa using htraffic.append haccounts

/-- A call that opens its own connection begins its request as soon as that is open. -/
theorem run_opening (s : Store) {base : System} (hopen : base.pool.closed = false) (name : Nat)
    (take : Take) (dial : Nat) {attempt : Attempt} {events : List Event} {c : Connection}
    (hrun : ((Attempt.Progress.waiting attempt).run base.credentials events).1 = .opened c) :
    let left := ((Attempt.Progress.waiting attempt).run base.credentials events).2.2
    let x : Exchange :=
      ⟨⟨c.buffer, true⟩, .request, .write (s.script.call take.key take.now).bytes⟩
    let after := (s.engaged base name take (.calling dial x)).run (left.map (.event name))
    ∃ made, Accounts [] [] made ∧
      (s.engaged base name take (.opening dial attempt)).run (events.map (.event name)) =
        (after.1, made ++ after.2) := by
  induction events generalizing attempt with
  | nil => cases hrun
  | cons event events ih =>
      have htraffic := accounts_traffic (.opening dial attempt) event
      have hcredentials : (base.assign name (.opening dial attempt)).credentials =
          base.credentials := rfl
      rw [Attempt.run_waiting_cons] at hrun ⊢
      rw [List.map_cons, run_cons, step_engaged,
        System.react_of_opening (System.role?_assign_self ..), hcredentials]
      cases hstep : attempt.step base.credentials event with
      | waiting attempt' =>
          rw [hstep] at hrun
          obtain ⟨made, haccounts, hlater⟩ := ih hrun
          rw [System.proceed, engaged_follow_pending]
          dsimp only
          rw [hlater, List.append_nil]
          exact ⟨_, htraffic.append haccounts, by rw [List.append_assoc]⟩
      | failed error =>
          rw [hstep, Attempt.run_failed] at hrun
          cases hrun
      | opened c' =>
          rw [hstep, Attempt.run_opened] at hrun
          cases hrun
          have hproceed : (base.assign name (.opening dial attempt)).proceed name dial
              (.opened c) = (base.assign name (.holding ⟨dial, c⟩), .acquired dial) :=
            (if_neg (Bool.eq_false_iff.mp hopen)).trans (by rw [System.assign_assign])
          have hacquired : Accounts [] [] [.pool (.acquired name dial)] := ⟨rfl, rfl⟩
          rw [hproceed, engaged_follow_acquired s base name take _ ⟨dial, c⟩, Attempt.run_opened]
          exact ⟨_, htraffic.append hacquired, rfl⟩

/-! ### A store without calls -/

/-- A store that is open and has no calls. -/
structure AtRest (s : Store) : Prop where
  isOpen : s.closed = false
  pool_open : s.system.pool.closed = false
  users : s.system.users = []
  takes : s.takes = []

/-- A store with these idle connections and no others. -/
def left (s : Store) (idle : List Session) : Store :=
  { s with system := { s.system with pool := { s.system.pool with idle, live := idle.length } } }

/-- A store with a connection that it has opened itself and no others. -/
def regained (s : Store) : Store :=
  { s with system := { s.system with
    pool := { s.system.pool with idle := [⟨s.system.dialed, {}⟩], live := 1 }
    dialed := s.system.dialed + 1 } }

/-- A call for a token, with all that happens on its transport. -/
structure Ask where
  /-- The name of the call. -/
  name : Nat
  /-- The key of the bucket. -/
  key : String
  /-- The time of the call. -/
  moment : Moment
  /-- What happens on the transport of the call. -/
  events : List Event

/-- What happens to a store in a call. -/
def Ask.actions (ask : Ask) : List Action :=
  .take ask.name ask.key ask.moment :: ask.events.map (.event ask.name)

/-- The request of a call fails on the connection that the call is lent: its transport fails or
ends, or delivers what is no reply. -/
inductive Ask.Fails (script : Script) (session : Session) (ask : Ask) : Prop
  | intro {now : Nat} {c : Connection} {error : Error} (hnow : ask.moment.nanos? = .ok now)
      (hrun : ((session.connection.start (.request (script.call ask.key now))).run
        ask.events).1 = .finished c (.error error)) (hfatal : error.isFatal = true)

section

variable {script : Script} {session : Session} {name : Nat} {key : String} {moment : Moment}
  {now : Nat}

/-- A call fails on a connection whose transport does not take its request. -/
theorem Ask.fails_of_writeFailed (hnow : moment.nanos? = .ok now) (fault : TransportFault) :
    Ask.Fails script session ⟨name, key, moment, [.writeFailed fault]⟩ := by
  have hrun : ((session.connection.start (.request (script.call key now))).run
      [.writeFailed fault]).1 =
        .finished ⟨session.connection.buffer, true⟩ (.error (.transport fault)) := by
    rw [Connection.start_request_eq _ (script.encode_call key now)]
    rfl
  exact .intro hnow hrun rfl

/-- A call fails on a connection over which the server ends the stream in the place of an answer. -/
theorem Ask.fails_of_ended (hnow : moment.nanos? = .ok now)
    (hbuffer : session.connection.buffer = []) :
    Ask.Fails script session
      ⟨name, key, moment, [.wrote (script.call key now).bytes.length, .flushed, .ended]⟩ := by
  have hne : (script.call key now).bytes ≠ [] := List.cons_ne_nil _ _
  have hrun : ((session.connection.start (.request (script.call key now))).run
      ([.wrote (script.call key now).bytes.length] ++ [.flushed, .ended])).1 =
        .finished ⟨[], true⟩ (.error (.transport .closedByServer)) := by
    rw [Connection.start_request_eq _ (script.encode_call key now), hbuffer, Progress.run_append,
      (Event.Takes.last hne).run]
    rfl
  exact .intro hnow hrun rfl

end

/-- A call opens a connection, on which the server lets it in and answers its request with an answer
of the script. -/
inductive Ask.Succeeds (script : Script) (credentials : Option Credentials) (a : Answer)
    (ask : Ask) : Prop
  | intro {now : Nat} {welcome serve : List Event} {answer : Bytes} {reply : Reply}
      (hnow : ask.moment.nanos? = .ok now) (hwelcome : Event.Welcomes credentials welcome)
      (hserve : Event.Serves (script.call ask.key now).bytes answer serve)
      (hread : (Reader.read {} answer).1 = .complete reply [])
      (hanswer : Answer.ofReply? reply = .ok a) (hevents : ask.events = welcome ++ serve)

section AtRest

variable {s : Store} {session : Session} {ask : Ask} {a : Answer}

theorem AtRest.left (h : s.AtRest) (idle : List Session) : (s.left idle).AtRest :=
  ⟨h.isOpen, h.pool_open, h.users, h.takes⟩

/-- A call begins to open a connection if none is idle. -/
theorem AtRest.step_take_dialing (h : s.AtRest) (hidle : s.system.pool.idle = [])
    (hroom : s.system.pool.live < s.system.pool.maxSize) (name : Nat) (key : String)
    {moment : Moment} {now : Nat} (hnow : moment.nanos? = .ok now) :
    s.step (.take name key moment) =
      (s.engaged s.system.withSlot name ⟨key, now⟩ (.opening s.system.dialed .connecting),
        [.pool (.dialed s.system.dialed)]) := by
  have hfree : s.take? name = none := by rw [take?, h.takes, List.lookup_nil]
  rw [Store.step, if_neg (by simp [hfree]), begin, if_neg (by simp [h.isOpen]), hnow, h.takes]
  dsimp only
  rw [System.acquire_of_room h.pool_open hidle hroom]
  rfl

/-- A call on a connection that has died is answered by the failure mode, opens no connection, and
leaves the store with the other connections. -/
theorem AtRest.run_of_fails (h : s.AtRest) (hask : ask.Fails s.script session)
    (idle : List Session) :
    let after := (s.left (session :: idle)).run ask.actions
    after.1 = s.left idle ∧ Accounts [(ask.name, s.failureMode.outcome)] [] after.2 := by
  obtain @⟨now, c, error, hnow, hrun, hfatal⟩ := hask
  have hrest := h.left (session :: idle)
  let base := (s.left (session :: idle)).system.withIdle idle
  have hrequest := (session.connection.start_isRequest (s.script.call ask.key now)).run ask.events
  rw [hrun] at hrequest
  have hreleased : (s.left (session :: idle)).released base ask.name ⟨session.dial, c⟩ =
      s.left idle := by
    have husers : base.users = [] := h.users
    have hrelease : base.pool.release ⟨session.dial, c⟩ = base.pool.giveBack :=
      if_pos (by simp [hrequest.broken_of_fatal hfatal])
    rw [released_eq _ husers, hrelease, Store.left, ← h.takes]
    rfl
  rw [session.connection.start_request_eq (s.script.encode_call ask.key now)] at hrun
  obtain ⟨hafter, haccounts⟩ := (s.left (session :: idle)).run_calling base ask.name
    ⟨ask.key, now⟩ session.dial hrun
  have hbegin : (s.left (session :: idle)).step (.take ask.name ask.key ask.moment) =
      ((s.left (session :: idle)).engaged base ask.name ⟨ask.key, now⟩ (.calling session.dial _),
        [.pool (.acquired ask.name session.dial)]) :=
    step_take_lent ask.name hrest.isOpen hrest.pool_open rfl hrest.takes ask.key hnow
  have hlent : Accounts [] [] [.pool (.acquired ask.name session.dial)] := ⟨rfl, rfl⟩
  rw [Ask.actions, run_cons, hbegin]
  exact ⟨hafter.trans hreleased, hlent.append haccounts⟩

/-- Calls on connections that have died, one after the other, are answered by the failure mode, open
no connection, and leave the store with the other connections. -/
theorem AtRest.run_of_stale (h : s.AtRest) {stale : List Session} {asks : List Ask}
    (hstale : List.Forall₂ (Ask.Fails s.script) stale asks) (idle : List Session) :
    let after := (s.left (stale ++ idle)).run (asks.flatMap Ask.actions)
    after.1 = s.left idle ∧
      Accounts (asks.map fun ask => (ask.name, s.failureMode.outcome)) [] after.2 := by
  -- The pool lends its connections in the order in which they stand there.
  induction hstale with
  | nil => exact ⟨rfl, accounts_nil⟩
  | @cons session ask stale asks hask _ ih =>
      obtain ⟨hnext, haccounts⟩ := h.run_of_fails hask (stale ++ idle)
      obtain ⟨hlast, hmore⟩ := ih
      intro after
      have hafter : after = (s.left (session :: (stale ++ idle))).run
          (ask.actions ++ asks.flatMap Ask.actions) := rfl
      rw [hafter, run_append, hnext]
      exact ⟨hlast, haccounts.append hmore⟩

/-- A call that finds no connection opens one, and is answered by the server. -/
theorem AtRest.run_of_succeeds (h : s.AtRest) (hroom : 0 < s.system.pool.maxSize)
    (hask : ask.Succeeds s.script s.system.credentials a) :
    let after := (s.left []).run ask.actions
    after.1 = s.regained ∧
      Accounts [(ask.name, ⟨s.limits.tokens, a.remaining, a.reset, a.allowed⟩)]
        [s.system.dialed] after.2 := by
  obtain @⟨now, welcome, serve, answer, reply, hnow, hwelcome, hserve, hread, hanswer, hevents⟩ :=
    hask
  let base := (s.left []).system.withSlot
  have hreleased : (s.left []).released base ask.name ⟨s.system.dialed, {}⟩ = s.regained := by
    have husers : base.users = [] := h.users
    have hrelease : base.pool.release ⟨s.system.dialed, {}⟩ =
        { base.pool with idle := [⟨s.system.dialed, {}⟩] } :=
      if_neg (by simp [base, System.withSlot, Store.left, h.pool_open])
    rw [released_eq _ husers, hrelease, regained, ← h.takes]
    rfl
  have hattempt : (Attempt.Progress.waiting .connecting).run base.credentials ask.events =
      (.opened {}, greeting base.credentials, serve) := hevents ▸ hwelcome.run serve
  have hrequest := hserve.run hread []
  rw [Connection.start_request_eq _ (s.script.encode_call ask.key now), List.append_nil] at hrequest
  have hopen : base.pool.closed = false := h.pool_open
  obtain ⟨made, hmade, hopened⟩ := (s.left []).run_opening hopen ask.name ⟨ask.key, now⟩
    s.system.dialed (congrArg Prod.fst hattempt)
  rw [hattempt] at hopened
  obtain ⟨hafter, haccounts⟩ := (s.left []).run_calling base ask.name ⟨ask.key, now⟩
    s.system.dialed (congrArg Prod.fst hrequest)
  have hbegin : (s.left []).step (.take ask.name ask.key ask.moment) =
      ((s.left []).engaged base ask.name ⟨ask.key, now⟩ (.opening s.system.dialed .connecting),
        [.pool (.dialed s.system.dialed)]) :=
    (h.left []).step_take_dialing rfl hroom ask.name ask.key hnow
  have hdialed : Accounts [] [s.system.dialed] [.pool (.dialed s.system.dialed)] := ⟨rfl, rfl⟩
  rw [verdict_result _ hanswer] at haccounts
  rw [Ask.actions, run_cons, hbegin]
  dsimp only
  rw [hopened]
  exact ⟨hafter.trans hreleased, hdialed.append (hmade.append haccounts)⟩

end AtRest

/-! ### Recovery -/

variable {config : Config} {s : Store}

/-- A store can be attained with some record of what has passed over its transports. -/
theorem Opening.Attainable.observed {progress : Opening.Progress}
    (h : Opening.Attainable config progress) : ∃ wires, Observed config wires progress := by
  induction h with
  | start => exact ⟨_, .start⟩
  | step _ event ih =>
      obtain ⟨wires, hobserved⟩ := ih
      exact ⟨_, hobserved.opening event⟩

theorem Attainable.observed (h : s.Attainable config) :
    ∃ wires, Observed config wires (.opened s) := by
  induction h with
  | opened h => exact h.observed
  | step _ action ih =>
      obtain ⟨wires, hobserved⟩ := ih
      exact ⟨_, hobserved.use action⟩

/-- A store may have a connection. -/
theorem Attainable.maxSize_pos (h : s.Attainable config) : 0 < s.system.pool.maxSize := by
  obtain ⟨wires, hobserved⟩ := h.observed
  rcases hobserved.simulates with ⟨settings, hpool, p, hp, huses⟩ | ⟨-, error, dropped, heq⟩
  · cases huses
    rw [(hp.system.sound (Config.pool_sizes hpool)).2]
    exact (Config.pool_initialSize_pos hpool).trans_le (Config.pool_sizes hpool)
  · cases heq

/-- A store that is open and has no calls is at rest, with its idle connections and no others. -/
theorem Attainable.atRest (h : s.Attainable config) (hopen : s.closed = false)
    (htakes : s.takes = []) : s.AtRest ∧ s.left s.system.pool.idle = s := by
  have husers : s.system.users = [] := by
    rw [← List.length_eq_zero_iff, h.sound.length_users, htakes, List.length_nil]
  have hlive : s.system.pool.live = s.system.pool.idle.length := by
    rw [h.sound.system.live_eq, husers, List.length_nil, Nat.add_zero]
  exact ⟨⟨hopen, h.sound.closed.trans hopen, husers, htakes⟩, by rw [left, ← hlive]⟩

/-- **Recovery after an outage.** Of a store that runs come to, that is open and has no calls in
progress, all idle connections have died, so that the next request on each of them fails.  As many
calls as there are idle connections, one after the other, are answered by the failure mode, open no
connection, and destroy one connection each, in the order in which the pool lends them.  The call
after these opens one connection, on a server that is back, and is answered with what the server
says; that connection is then the only one.  In what pieces the transports take and deliver bytes,
and how they fail, does not matter. -/
theorem Attainable.recovers (h : s.Attainable config) (hopen : s.closed = false)
    (htakes : s.takes = []) {asks : List Ask}
    (hstale : List.Forall₂ (Ask.Fails s.script) s.system.pool.idle asks) {ask : Ask} {a : Answer}
    (hworks : ask.Succeeds s.script s.system.credentials a) :
    let during (n : Nat) := s.run ((asks.take n).flatMap Ask.actions)
    let after := (during asks.length).1.run ask.actions
    (∀ n ≤ asks.length,
      answers (during n).2 = (asks.take n).map (fun ask => (ask.name, s.failureMode.outcome)) ∧
      dials (during n).2 = [] ∧
      (during n).1.system.pool.idle = s.system.pool.idle.drop n ∧
      (during n).1.system.pool.live = asks.length - n ∧
      (during n).1.system.transports = (s.system.pool.idle.drop n).map Session.dial ∧
      (during n).1.takes = []) ∧
    answers after.2 = [(ask.name, ⟨s.limits.tokens, a.remaining, a.reset, a.allowed⟩)] ∧
    dials after.2 = [s.system.dialed] ∧
    after.1.system.pool.live = 1 ∧ after.1.system.pool.idle = [⟨s.system.dialed, {}⟩] ∧
    after.1.system.transports = [s.system.dialed] ∧
    after.1.takes = [] := by
  obtain ⟨hrest, hleft⟩ := h.atRest hopen htakes
  have htransports (idle : List Session) :
      (s.left idle).system.transports = idle.map Session.dial := by
    rw [System.transports, Store.left, hrest.users]
    exact List.append_nil _
  intro during after
  have hduring (n : Nat) : (during n).1 = s.left (s.system.pool.idle.drop n) ∧
      Accounts ((asks.take n).map fun ask => (ask.name, s.failureMode.outcome)) []
        (during n).2 := by
    have hrun := hrest.run_of_stale (List.forall₂_take n hstale) (s.system.pool.idle.drop n)
    rwa [List.take_append_drop, hleft] at hrun
  have hused : (during asks.length).1 = s.left [] := by
    rw [(hduring asks.length).1, ← hstale.length_eq, List.drop_length]
  obtain ⟨hafter, haccounts⟩ := hrest.run_of_succeeds h.maxSize_pos hworks
  rw [← hused] at hafter haccounts
  refine ⟨fun n hn => ?_, haccounts.answers, haccounts.dials, ?_⟩
  · obtain ⟨hstore, haccounts⟩ := hduring n
    rw [hstore]
    refine ⟨haccounts.answers, haccounts.dials, rfl, ?_, htransports _, hrest.takes⟩
    change (s.system.pool.idle.drop n).length = _
    rw [List.length_drop, hstale.length_eq]
  · change after.1 = s.regained at hafter
    rw [hafter]
    refine ⟨rfl, rfl, ?_, hrest.takes⟩
    rw [System.transports, regained, hrest.users]
    rfl

/-- Both connections of a store have died.  The first call fails on the one that was opened last, as
it sends its command; the second one on the other, as the stream ends before an answer; and the
third one opens a connection. -/
theorem recovers_two :
    let config : Config := {
      tokens := 5, interval := .ofNanos 30, ttl := 1, initialSize := 2, maxSize := 2,
      endpoint := some .supplied, failureMode := .failOpen }
    ∃ (s : Store) (broken ended events : List Event), s.Attainable config ∧ s.closed = false ∧
      s.takes = [] ∧ s.system.transports = [1, 0] ∧
      let asks : List Ask := [⟨1, "a", .after (.ofNanos 7), broken⟩,
        ⟨2, "b", .after (.ofNanos 8), ended⟩]
      let during (n : Nat) := s.run ((asks.take n).flatMap Ask.actions)
      let after := (during asks.length).1.run (Ask.actions ⟨3, "a", .after (.ofNanos 9), events⟩)
      answers (during 1).2 = [(1, ⟨0, 0, 0, true⟩)] ∧ dials (during 1).2 = [] ∧
        (during 1).1.system.transports = [0] ∧
      answers (during 2).2 = [(1, ⟨0, 0, 0, true⟩), (2, ⟨0, 0, 0, true⟩)] ∧
        dials (during 2).2 = [] ∧ (during 2).1.system.transports = [] ∧
      answers after.2 = [(3, ⟨5, 4, 90, true⟩)] ∧ dials after.2 = [2] ∧
        after.1.system.transports = [2] := by
  intro config
  let limits : Limits := ⟨5, .ofNanos 30, 1, by decide, by decide, by decide⟩
  let granted : Reply := .array [.integer 4, .integer 90, .integer 1]
  have hstatus : (Reader.read {} (Reply.status "OK").encode).1 = .complete (.status "OK") [] :=
    Reader.fst_read_encode (by decide) (by decide)
  have hgranted : (Reader.read {} granted.encode).1 = .complete granted [] :=
    Reader.fst_read_encode (by decide) (by decide)
  have hserves (command : Command) (hne : command.bytes ≠ []) {answer : Bytes}
      (hanswer : answer ≠ []) : ∃ serve, Event.Serves command.bytes answer serve :=
    ⟨_, Event.serves_at_once hne hanswer⟩
  have hlimits : config.limits = .ok limits := by decide
  have hsettings : config.pool = .ok ⟨2, 2, none⟩ := by decide
  obtain ⟨registering, hregistering⟩ := hserves (Script.ofLimits limits).register
    (List.cons_ne_nil _ _) (Reply.status "OK").encode_ne_nil
  have hdialing : Pool.Dialing.run none [] 2 ([.connected] ++ ([.connected] ++ registering)) =
      .opened [⟨1, {}⟩, ⟨0, {}⟩] registering := by
    simp only [Pool.Dialing.run, Event.Welcomes.free.run]
    rfl
  let s : Store := {
    limits
    script := .ofLimits limits
    failureMode := .failOpen
    system := { credentials := none, pool := ⟨2, [⟨1, {}⟩, ⟨0, {}⟩], 2, false⟩, dialed := 2 } }
  have hopened : (Opening.run config _).1 = .opened s := Opening.run_eq_opened hlimits hsettings
    hdialing hregistering hstatus fun _ => Reply.noConfusion
  have hs : s.Attainable config := .opened (hopened ▸ Opening.attainable_run config _)
  have hearly : (Moment.after (.ofNanos 7)).nanos? = .ok 7 := by decide
  have hlater : (Moment.after (.ofNanos 8)).nanos? = .ok 8 := by decide
  have hlate : (Moment.after (.ofNanos 9)).nanos? = .ok 9 := by decide
  obtain ⟨broken, hbroken⟩ : ∃ broken,
      Ask.Fails s.script ⟨1, {}⟩ ⟨1, "a", .after (.ofNanos 7), broken⟩ :=
    ⟨_, Ask.fails_of_writeFailed hearly ⟨"BrokenPipe", "gone"⟩⟩
  obtain ⟨ended, hended⟩ : ∃ ended,
      Ask.Fails s.script ⟨0, {}⟩ ⟨2, "b", .after (.ofNanos 8), ended⟩ :=
    ⟨_, Ask.fails_of_ended hlater rfl⟩
  obtain ⟨serve, hserve⟩ := hserves (s.script.call "a" 9) (List.cons_ne_nil _ _)
    granted.encode_ne_nil
  have hworks : Ask.Succeeds s.script none ⟨4, 90, true⟩
      ⟨3, "a", .after (.ofNanos 9), .connected :: serve⟩ :=
    .intro hlate .free hserve hgranted (by decide) rfl
  obtain ⟨hduring, hanswers, hdials, -, -, htransports, -⟩ :=
    hs.recovers rfl rfl (.cons hbroken (.cons hended .nil)) hworks
  obtain ⟨hfailed, hnone, -, -, hleft, -⟩ := hduring 1 (Nat.le_succ 1)
  obtain ⟨hfailed', hnone', -, -, hgone, -⟩ := hduring 2 le_rfl
  exact ⟨s, broken, ended, _, hs, rfl, rfl, rfl, hfailed, hnone, hleft, hfailed', hnone', hgone,
    hanswers, hdials, htransports⟩

end Store

end RateLimit
