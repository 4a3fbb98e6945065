import RateLimit.Proofs.Store.Journal

/-!
# A call that is served

What one event does to a call that waits, and from it that a call can be served: on a store that is
open and has an idle connection, the command of a new call is taken, passed on and answered, and
the call is answered with what the server said.

## Main results

* `Store.step_event_of_waiting`, `Store.answered_of_finished` : what an event does to a call.
* `Store.Reachable.served` : a call can be served.
-/

namespace RateLimit

open Pool (System Turn)

namespace Exchange

variable {c : Connection} {task : Task} {rest data : Bytes} {reply : Reply}

theorem step_wrote_all (hrest : rest ≠ []) :
    step ⟨c, task, .write rest⟩ (.wrote rest.length) = .waiting ⟨c, task, .flush⟩ := by
  have hpos : rest.length ≠ 0 := fun h => hrest (List.length_eq_zero_iff.1 h)
  unfold step
  dsimp only
  rw [if_neg hpos, if_neg (Nat.lt_irrefl _)]

theorem step_flushed : step ⟨⟨[], true⟩, .request, .flush⟩ .flushed =
    .waiting ⟨⟨[], true⟩, .request, .read⟩ := rfl

theorem step_received (h : (Reader.read {} data).1 = .complete reply []) :
    step ⟨⟨[], true⟩, .request, .read⟩ (.received data) = .finished {} reply.result :=
  Connection.poll_of_complete h

end Exchange

namespace Pool.System

variable {s : System} {user dial : Nat} {x : Exchange} {event : Event}

theorem request_of_holding (hrole : s.role? user = some (.holding ⟨dial, {}⟩)) {command : Command}
    {bytes : Bytes} (hbytes : command.encode = .ok bytes) :
    s.call user (.request command) =
      (s.assign user (.calling dial ⟨⟨[], true⟩, .request, .write bytes⟩), .pending) := by
  rw [System.call, hrole]
  dsimp only
  rw [Connection.start_request hbytes]
  rfl

end Pool.System

namespace Server

variable {server : Server} {wires : Nat → Wire} {dial : Nat} {w : Wire}

theorem allows_update (h : ∀ dial, server.Allows dial (wires dial)) (hw : server.Allows dial w) :
    ∀ other, server.Allows other (Function.update wires dial w other) := by
  intro other
  by_cases hother : other = dial
  · subst hother
    rwa [Function.update_self]
  · rw [Function.update_of_ne hother]
    exact h other

theorem allows_empty (server : Server) (dial : Nat) : server.Allows dial {} :=
  List.nil_prefix

end Server

namespace Store

variable {server : Server} {config : Config} {j : Journal} {s : Store} {name dial : Nat}
  {take : Take} {x x' : Exchange} {event : Event}

theorem Opening.Reachable.allows {wires : Nat → Wire} {progress : Opening.Progress}
    (h : Opening.Reachable server config wires progress) (dial : Nat) :
    server.Allows dial (wires dial) := by
  cases h with
  | start => exact server.allows_empty dial
  | step _ _ hallows => exact hallows dial

/-- In every run all that has passed is the doing of the server. -/
theorem Reachable.allows (h : Reachable server config j s) (dial : Nat) :
    server.Allows dial (j.wires dial) := by
  cases h with
  | opened h => exact h.allows dial
  | step _ _ hallows => exact hallows dial

/-- A call that begins on an idle connection. -/
theorem step_take_of_idle (hopen : s.closed = false) (hpool : s.system.pool.closed = false)
    {idle : List Session} (hidle : s.system.pool.idle = ⟨dial, {}⟩ :: idle)
    (hfree : s.take? name = none) (key : String) {moment : Moment} {now : Nat}
    (hnow : moment.nanos? = .ok now) :
    ∃ system : System, (s.step (.take name key moment)).1 =
        { s with takes := (name, ⟨key, now⟩) :: s.takes, system } ∧
      system.role? name = some
        (.calling dial ⟨⟨[], true⟩, .request, .write (s.script.call key now).bytes⟩) := by
  refine ⟨((s.system.withIdle idle).assign name
    (.holding ⟨dial, {}⟩)).assign name (.calling dial _), ?_, System.role?_assign_self ..⟩
  rw [Store.step, if_neg (by simp [hfree]), begin, if_neg (by simp [hopen]), hnow]
  dsimp only
  rw [System.acquire_of_idle hpool hidle, Store.follow]
  dsimp only
  rw [System.request_of_holding (System.role?_assign_self ..) (s.script.encode_call key now)]
  rfl

/-- A call that goes on waiting. -/
theorem step_event_of_waiting (htake : s.take? name = some take)
    (hrole : s.system.role? name = some (.calling dial x)) (hstep : x.step event = .waiting x') :
    (s.step (.event name event)).1 =
      { s with system := s.system.assign name (.calling dial x') } := by
  rw [Store.step, htake]
  dsimp only
  rw [System.react_of_calling hrole, hstep]
  rfl

/-- What becomes known when the request of a call has ended. -/
theorem notices_follow_ended (s : Store) (name : Nat) (take : Take) (system : System)
    (result : Result) : (s.follow name take (system, .ended result)).2 =
      .pool (.ended name result) ::
        match s.decide? result with
        | .ok decision => [.answered name decision]
        | .error error => s.failed name take.key error := rfl

/-- A call that ends with an answer of the script. -/
theorem answered_of_finished (htake : s.take? name = some take)
    (hrole : s.system.role? name = some (.calling dial x)) {c : Connection} {result : Result}
    (hstep : x.step event = .finished c result) {decision : Decision}
    (hdecide : s.decide? result = .ok decision) :
    .answered name decision ∈ (s.step (.event name event)).2 := by
  rw [Store.step, htake]
  dsimp only
  rw [System.react_of_calling hrole, hstep, System.advance, notices_follow_ended, hdecide]
  exact List.mem_append_right _ (List.mem_cons_of_mem _ (List.mem_singleton.2 rfl))

/-- An event for a call adds to the journal what passes in it. -/
theorem wires_record_event (htake : s.take? name = some take)
    (hrole : s.system.role? name = some (.calling dial x)) :
    (j.record s (.event name event)).wires =
      Function.update j.wires dial ((j.wires dial).after x event) := by
  rw [Journal.record, if_pos (by rw [htake]; rfl)]
  exact System.observe_of_role hrole

/-! ### Serving a call -/

/-- A run in which a call under a name waits on a transport, over which so much has passed. -/
structure Waits (server : Server) (config : Config) (name dial : Nat) (limits : Limits)
    (take : Take) (j : Journal) (s : Store) (x : Exchange) (w : Wire) : Prop where
  run : Reachable server config j s
  take : s.take? name = some take
  role : s.system.role? name = some (.calling dial x)
  wire : j.wires dial = w
  limits : s.limits = limits

variable {limits : Limits} {w : Wire}

theorem Waits.allows (h : Waits server config name dial limits take j s x w)
    (hw : server.Allows dial (w.after x event)) (other : Nat) :
    server.Allows other ((j.record s (.event name event)).wires other) := by
  rw [wires_record_event h.take h.role, h.wire]
  exact Server.allows_update h.run.allows hw other

/-- A call that waits goes on with what it waits for. -/
theorem Waits.step (h : Waits server config name dial limits take j s x w)
    (hstep : x.step event = .waiting x') (hw : server.Allows dial (w.after x event)) :
    Waits server config name dial limits take (j.record s (.event name event))
      (s.step (.event name event)).1 x' (w.after x event) where
  run := h.run.step _ (h.allows hw)
  take := by
    rw [step_event_of_waiting h.take h.role hstep]
    exact h.take
  role := by
    rw [step_event_of_waiting h.take h.role hstep]
    exact System.role?_assign_self ..
  wire := by
    rw [wires_record_event h.take h.role, h.wire, Function.update_self]
  limits := by
    rw [step_event_of_waiting h.take h.role hstep]
    exact h.limits

/-- A call that begins on a store with an idle connection is about to write its command. -/
theorem Reachable.waits (h : Reachable server config j s) (hopen : s.closed = false)
    (hpool : s.system.pool.closed = false) {session : Session} {idle : List Session}
    (hidle : s.system.pool.idle = session :: idle) (hfree : s.take? name = none) (key : String)
    {moment : Moment} {now : Nat} (hnow : moment.nanos? = .ok now) :
    Waits server config name session.dial s.limits ⟨key, now⟩
      (j.record s (.take name key moment)) (s.step (.take name key moment)).1
      ⟨⟨[], true⟩, .request, .write (s.script.call key now).bytes⟩ (j.wires session.dial) := by
  have hnew := h.tracked.system.eq_of_idle (hidle ▸ List.mem_cons_self)
  obtain ⟨system, hstep, hrole⟩ :=
    step_take_of_idle hopen hpool (hnew ▸ hidle) hfree key hnow
  have hrecord : (j.record s (.take name key moment)).wires = j.wires := by
    rw [Journal.record, if_neg (by simp [hfree])]
  rw [hstep]
  refine ⟨hstep ▸ h.step _ (hrecord ▸ h.allows), List.lookup_cons_self, hrole, ?_, rfl⟩
  rw [hrecord]

/-- **A call can be served.** On a store that is open and has an idle connection, there is a run in
which a new call is answered with what the server says to its command. -/
theorem Reachable.served (h : Reachable server config j s) (hopen : s.closed = false)
    (hpool : s.system.pool.closed = false) {session : Session} {idle : List Session}
    (hidle : s.system.pool.idle = session :: idle) (hfree : s.take? name = none) (key : String)
    {moment : Moment} {now : Nat} (hnow : moment.nanos? = .ok now) {reply : Reply}
    (hreply : server.Answers session.dial (j.wires session.dial).commands.length reply)
    {answer : Answer} (hanswer : Answer.ofResult? reply.result = .ok answer) :
    ∃ j' s' action, Reachable server config j' s' ∧
      (∀ dial, server.Allows dial ((j'.record s' action).wires dial)) ∧
      .answered name ⟨s.limits.tokens, answer.remaining, answer.reset, answer.allowed⟩ ∈
        (s'.step action).2 := by
  have hrest := (h.tracked.system.idle session (hidle ▸ List.mem_cons_self)).settled
  have hnil : (s.script.call key now).bytes ≠ [] := List.cons_ne_nil _ _
  have hwriting := h.waits hopen hpool hidle hfree key hnow
  generalize (s.script.call key now).bytes = bytes at hnil hwriting
  generalize j.wires session.dial = w at hrest hreply hwriting
  -- What was delivered before the call are the answers to all the commands before its own.
  have hstream := hrest.delivered
  have hflushing := hwriting.step (Exchange.step_wrote_all hnil) (by
    rw [Wire.after_wrote, Server.Allows, hstream])
  have hreading := hflushing.step Exchange.step_flushed (by
    rw [Wire.after_wrote]
    change w.delivered ++ [] <+: server.stream session.dial (w.commands ++ [_]).length
    rw [List.append_nil, List.length_append, List.length_singleton, Server.stream_succ, hstream]
    exact List.prefix_append _ _)
  have hanswered : server.Allows session.dial
      (((w.after ⟨⟨[], true⟩, .request, .write bytes⟩ (.wrote bytes.length)).after
        ⟨⟨[], true⟩, .request, .flush⟩ .flushed).after ⟨⟨[], true⟩, .request, .read⟩
          (.received (server.answer session.dial w.commands.length))) := by
    rw [Wire.after_wrote]
    change w.delivered ++ [] ++ server.answer session.dial w.commands.length <+:
      server.stream session.dial (w.commands ++ [_]).length
    rw [List.append_nil, List.length_append, List.length_singleton, Server.stream_succ, hstream]
  refine ⟨_, _, _, hreading.run, hreading.allows hanswered,
    answered_of_finished hreading.take hreading.role (Exchange.step_received hreply) ?_⟩
  rw [decide?, hanswer, hreading.limits]
  rfl

/-! ### Opening a store with one connection -/

namespace Opening

variable {plan : Plan} {system : System}

theorem step_script_of_waiting (hrole : system.role? user = some (.calling dial x))
    (hstep : x.step event = .waiting x') :
    ((Opening.script plan system).step event).1 =
      .waiting (.script plan (system.assign user (.calling dial x'))) := by
  rw [Opening.step, System.react_of_calling hrole, hstep]
  rfl

theorem step_script_of_finished (hrole : system.role? user = some (.calling dial x))
    {c : Connection} {result : Result} (hstep : x.step event = .finished c result)
    {warning : Option Warning} (hregistered : plan.script.registered result = .ok warning) :
    ((Opening.script plan system).step event).1 = .opened {
      limits := plan.limits
      script := plan.script
      failureMode := plan.failureMode
      system := (system.assign user (.holding ⟨dial, c⟩)).release user } := by
  rw [Opening.step, System.react_of_calling hrole, hstep, System.advance, Opening.follow,
    Opening.conclude, hregistered]
  exact fun _ => Turn.noConfusion

/-- What has passed after an event for the request that registers the script. -/
theorem observe_script {wires : Nat → Wire} (hrole : system.role? user = some (.calling dial x)) :
    (Opening.script plan system).observe wires event =
      Function.update wires dial ((wires dial).after x event) :=
  System.observe_of_role hrole

/-- The request that registers the script goes on. -/
theorem Reachable.script_step {wires : Nat → Wire}
    (h : Reachable server config wires (.waiting (.script plan system)))
    (hrole : system.role? user = some (.calling dial x)) (hstep : x.step event = .waiting x')
    (hw : server.Allows dial ((wires dial).after x event)) :
    Reachable server config (Function.update wires dial ((wires dial).after x event))
      (.waiting (.script plan (system.assign user (.calling dial x')))) := by
  rw [← step_script_of_waiting hrole hstep, ← observe_script hrole]
  refine h.step event ?_
  rw [observe_script hrole]
  exact Server.allows_update h.allows hw

/-- The request that registers the script ends. -/
theorem Reachable.script_finish {wires : Nat → Wire}
    (h : Reachable server config wires (.waiting (.script plan system)))
    (hrole : system.role? user = some (.calling dial x)) {c : Connection} {result : Result}
    (hstep : x.step event = .finished c result) {warning : Option Warning}
    (hregistered : plan.script.registered result = .ok warning)
    (hw : server.Allows dial ((wires dial).after x event)) :
    Reachable server config (Function.update wires dial ((wires dial).after x event)) <| .opened {
      limits := plan.limits
      script := plan.script
      failureMode := plan.failureMode
      system := (system.assign user (.holding ⟨dial, c⟩)).release user } := by
  rw [← step_script_of_finished hrole hstep hregistered, ← observe_script hrole]
  refine h.step event ?_
  rw [observe_script hrole]
  exact Server.allows_update h.allows hw

/-- A store whose pool begins with one connection is opened once its server has accepted the
script. -/
theorem exists_reachable_opened {limits : Limits} (hlimits : config.limits = .ok limits)
    {maxSize : Nat} (hpool : config.pool = .ok ⟨1, maxSize, none⟩) {reply : Reply}
    (hreply : server.Answers 0 0 reply) {warning : Option Warning}
    (hregistered : (Script.ofLimits limits).registered reply.result = .ok warning) :
    ∃ wires, (wires 0).commands.length = 1 ∧ Reachable server config wires (.opened {
      limits
      script := .ofLimits limits
      failureMode := config.failureMode
      system := {
        credentials := none
        pool := ⟨maxSize, [⟨0, {}⟩], 1, false⟩
        dialed := 1 } }) := by
  let plan : Plan := ⟨limits, .ofLimits limits, config.failureMode⟩
  have hnil : plan.script.register.bytes ≠ [] := List.cons_ne_nil _ _
  have hstart : (start config).1 =
      .waiting (.pool plan ⟨⟨1, maxSize, none⟩, [], .connecting⟩) := by
    rw [Opening.start, hlimits, hpool]
    rfl
  have hconnecting : Reachable server config (fun _ => {}) (start config).1 := .start
  rw [hstart] at hconnecting
  have hwriting : Reachable server config (fun _ => {}) <| .waiting <| .script plan {
      credentials := none
      pool := ⟨maxSize, [], 1, false⟩
      users := [(user, .calling 0 ⟨⟨[], true⟩, .request, .write plan.script.register.bytes⟩)]
      dialed := 1 } :=
    hconnecting.step .connected fun dial => server.allows_empty dial
  generalize plan.script.register.bytes = bytes at hnil hwriting
  have hflushing := hwriting.script_step rfl (Exchange.step_wrote_all hnil) List.nil_prefix
  have hreading := hflushing.script_step (System.role?_assign_self ..) Exchange.step_flushed (by
    rw [Function.update_self]
    exact List.nil_prefix)
  have hopened := hreading.script_finish (System.role?_assign_self ..)
    (Exchange.step_received hreply) hregistered (by
      rw [Function.update_self, Function.update_self]
      change server.answer 0 0 <+: server.stream 0 1
      rw [Server.stream_succ]
      exact List.prefix_rfl)
  refine ⟨_, ?_, hopened⟩
  rw [Function.update_self, Function.update_self, Function.update_self]
  rfl

/-- A store whose pool begins with one connection can be opened. -/
theorem exists_opened {limits : Limits} (hlimits : config.limits = .ok limits) {maxSize : Nat}
    (hpool : config.pool = .ok ⟨1, maxSize, none⟩) {reply : Reply}
    (hreply : server.Answers 0 0 reply) {warning : Option Warning}
    (hregistered : (Script.ofLimits limits).registered reply.result = .ok warning) :
    ∃ wires s, Reachable server config wires (.opened s) ∧ s.closed = false ∧
      s.system.pool.closed = false ∧ s.system.pool.idle = [⟨0, {}⟩] ∧ s.takes = [] ∧
      s.limits = limits ∧ (wires 0).commands.length = 1 := by
  obtain ⟨wires, hlength, hopened⟩ := exists_reachable_opened hlimits hpool hreply hregistered
  exact ⟨wires, _, hopened, rfl, rfl, rfl, rfl, rfl, hlength⟩

end Opening

end Store

end RateLimit
