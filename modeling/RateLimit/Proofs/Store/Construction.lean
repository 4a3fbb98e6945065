import RateLimit.Proofs.Connection.Uses
import RateLimit.Proofs.Pool.Lives
import RateLimit.Proofs.Store.Closing
import RateLimit.Proofs.Store.Opened
import RateLimit.Proofs.Store.Opening

/-!
# Opening a store is all or nothing

Nothing is assumed of the transports and of the server.  The opening of a store refuses a
configuration before it opens any connection; it opens its connections one after the other and
stops at the first that fails; and once all are open it registers the script, once, on the last of
them.  It ends with a store that has all these connections if a complete reply comes back that is no
error, and otherwise with an error that names the step, and drops all that was open.

## Main definitions

* `Store.lent` : the connections that were handed to a user, as notices tell.
* `Store.Opening.registering` : what the opening comes to, by what the registration comes to.

## Main results

* `Store.Opening.through_eq` : the opening of a store goes on where the opening of its pool ends.
* `Store.Opening.run_script` : the opening of a store goes on as the request does that registers the
  script.
* `Store.Opening.run_of_accepted` : how the opening goes, by what comes of the connections.
* `Store.Opening.run_eq_opened` : the store that is opened on a server that accepts its script.
* `Store.Opening.all_or_nothing` : what the opening of a store comes to.
-/

namespace RateLimit

open Pool (System Turn Dialing)

namespace Store

/-! ### What notices tell -/

/-- The connections that were handed to a user, as notices tell. -/
def lent (notices : List Notice) : List Nat :=
  notices.filterMap fun
    | .pool (.acquired _ dial) => some dial
    | _ => none

theorem dials_append (notices more : List Notice) :
    dials (notices ++ more) = dials notices ++ dials more :=
  List.filterMap_append

theorem lent_append (notices more : List Notice) :
    lent (notices ++ more) = lent notices ++ lent more :=
  List.filterMap_append

theorem dials_map_pool (notices : List Pool.Notice) :
    dials (notices.map .pool) = Pool.dials notices := by
  rw [dials, List.filterMap_map]
  refine List.filterMap_congr fun notice _ => ?_
  cases notice <;> rfl

theorem lent_map_pool {notices : List Pool.Notice}
    (h : ∀ user dial, .acquired user dial ∉ notices) : lent (notices.map .pool) = [] := by
  rw [lent, List.filterMap_map, List.filterMap_eq_nil_iff]
  intro notice hmem
  cases notice with
  | acquired user dial => exact absurd hmem (h user dial)
  | dialed | wrote | flushed | refused | ended => rfl

/-- Notices tell of no attempt to open a connection and of nobody who was handed one, and of no
bytes but those on one transport. -/
structure Tells (dial : Nat) (bytes : Bytes) (notices : List Notice) : Prop where
  dials : dials notices = []
  lent : lent notices = []
  written : ∀ other, written other notices = if other = dial then bytes else []

theorem Tells.append {dial : Nat} {bytes taken : Bytes} {notices more : List Notice}
    (h : Tells dial bytes notices) (hmore : Tells dial taken more) :
    Tells dial (bytes ++ taken) (notices ++ more) where
  dials := by rw [dials_append, h.dials, hmore.dials, List.append_nil]
  lent := by rw [lent_append, h.lent, hmore.lent, List.append_nil]
  written other := by
    rw [written_append, h.written, hmore.written]
    split <;> simp

/-- What an event makes known about the transport of a user. -/
theorem tells_traffic (role : Pool.Role) (event : Event) :
    Tells role.dial (role.accepted event) ((role.traffic event).map .pool) where
  dials := (dials_map_pool _).trans (Pool.tells_traffic role event).dials
  lent := lent_map_pool fun user dial hmem => by
    rcases (Pool.tells_traffic role event).traffic _ hmem with heq | ⟨taken, heq⟩ <;> cases heq
  written other := by
    rw [written_map_pool, Pool.written_traffic]
    exact if_congr eq_comm rfl rfl

namespace Opening

variable {plan : Plan}

/-- The opening of a store from some stage of the opening of its pool, over events in order. -/
def through (plan : Plan) (after : Pool.Opening.Progress × List Pool.Notice)
    (events : List Event) : Opening.Progress × List Notice :=
  let (progress, made) := proceed plan after
  let (progress, later) := progress.run events
  (progress, made ++ later)

theorem proceed_append (plan : Plan) (progress : Pool.Opening.Progress)
    (notices more : List Pool.Notice) :
    proceed plan (progress, notices ++ more) =
      ((proceed plan (progress, more)).1,
        notices.map .pool ++ (proceed plan (progress, more)).2) := by
  cases progress with
  | waiting | failed => simp only [proceed, List.map_append]
  | opened => simp only [proceed, List.map_append, List.append_assoc]

/-- The opening of a store goes on where the opening of its pool ends. -/
theorem through_eq (plan : Plan) (progress : Pool.Opening.Progress) (notices : List Pool.Notice)
    (events : List Event) :
    through plan (progress, notices) events =
      through plan ((progress.run events).1, notices ++ (progress.run events).2.1)
        (progress.run events).2.2 := by
  induction events generalizing progress notices with
  | nil => cases progress <;> simp [Pool.Opening.Progress.run]
  | cons event events ih =>
      cases progress with
      | opened t => rw [Pool.Opening.run_opened, List.append_nil]
      | failed error dropped => rw [Pool.Opening.run_failed, List.append_nil]
      | waiting o =>
          have hstep : through plan (.waiting o, notices) (event :: events) =
              through plan ((o.step event).1, notices ++ (o.step event).2) events := by
            rw [through, through, proceed_append]
            simp only [proceed, run_waiting_cons, Opening.step, List.append_assoc]
          rw [hstep, ih, Pool.Opening.run_waiting_cons, List.append_assoc]

/-! ### The registration of the script -/

/-- How far the opening of a store has come, once it waits for the request that registers the
script, by how far the request has come. -/
def registering (plan : Plan) (base : System) (dial : Nat) :
    RateLimit.Progress → Opening.Progress
  | .waiting x => .waiting (.script plan (base.assign user (.calling dial x)))
  | .finished c (.error cause) =>
      .failed (.setup .prime cause) (base.assign user (.holding ⟨dial, c⟩)).transports
  | .finished c (.ok _) => .opened {
      limits := plan.limits
      script := plan.script
      failureMode := plan.failureMode
      system := (base.assign user (.holding ⟨dial, c⟩)).release user }

/-- The opening of a store ends with the request that registers the script. -/
theorem conclude_ended (plan : Plan) (base : System) (dial : Nat) (c : Connection)
    (result : Result) (events : List Event) :
    let after := conclude plan (base.assign user (.holding ⟨dial, c⟩)) (.ended result)
    after.1.run events = (registering plan base dial (.finished c result), []) ∧
      Tells dial [] after.2 := by
  rcases result with error | reply
  · exact ⟨run_failed _ _ _, rfl, rfl, fun _ => (ite_self _).symm⟩
  · rw [conclude]
    refine ⟨run_opened _ _, ?_⟩
    rcases plan.script.registered (.ok reply) with _ | _ | warning <;>
      exact ⟨rfl, rfl, fun _ => (ite_self _).symm⟩

/-- The opening of a store goes on over events as the request does that registers the script, and
ends with it. -/
theorem run_script (plan : Plan) (base : System) (dial : Nat) (x : Exchange)
    (events : List Event) :
    let request := (RateLimit.Progress.waiting x).run events
    let after := (Progress.waiting (.script plan (base.assign user (.calling dial x)))).run events
    after.1 = registering plan base dial request.1 ∧ Tells dial request.2.1 after.2 := by
  induction events generalizing x with
  | nil => exact ⟨rfl, rfl, rfl, fun _ => (ite_self _).symm⟩
  | cons event events ih =>
      have hrole := System.role?_assign_self base user (.calling dial x)
      have htells := tells_traffic (.calling dial x) event
      have htraffic : (base.assign user (.calling dial x)).traffic user event =
          Pool.Role.traffic (.calling dial x) event := by
        rw [System.traffic, hrole]
      rw [run_waiting_cons, Progress.run_waiting_cons, Opening.step, System.react_of_calling hrole,
        htraffic]
      cases hstep : x.step event with
      | waiting x' =>
          obtain ⟨hprogress, hmore⟩ := ih x'
          simp only [System.advance, System.assign_assign, follow, conclude, Turn.notices,
            List.map_nil, List.append_nil]
          exact ⟨hprogress, htells.append hmore⟩
      | finished c result =>
          obtain ⟨hrun, hmore⟩ := conclude_ended plan base dial c result events
          have hended (t : System) : follow plan (t, .ended result) =
              conclude plan t (.ended result) := rfl
          simp only [System.advance, System.assign_assign, hended, hrun, Progress.run_finished,
            List.append_nil]
          refine ⟨trivial, ?_⟩
          have hboth := htells.append hmore
          rwa [List.append_nil] at hboth

/-- Once all connections are open, the one that was opened last is handed out, and the script is
registered on it. -/
theorem through_opened (plan : Plan) (settings : PoolSettings) (session : Session)
    (others : List Session) (made : List Pool.Notice) (left : List Event) :
    let request := (session.connection.start (.request plan.script.register)).run left
    let after := through plan (.opened (pooled settings (session :: others)), made) left
    after.1 = registering plan ((pooled settings (session :: others)).withIdle others) session.dial
        request.1 ∧
      ∃ later, after.2 = made.map .pool ++ .pool (.acquired user session.dial) :: later ∧
        Tells session.dial request.2.1 later := by
  let base := (pooled settings (session :: others)).withIdle others
  let x : Exchange :=
    ⟨⟨session.connection.buffer, true⟩, .request, .write plan.script.register.bytes⟩
  have hfollow : follow plan ((pooled settings (session :: others)).acquire user) =
      (.waiting (.script plan (base.assign user (.calling session.dial x))),
        [.pool (.acquired user session.dial)]) := follow_acquire plan rfl rfl
  obtain ⟨hprogress, htells⟩ := run_script plan base session.dial x left
  rw [session.connection.start_request_eq plan.script.encode_register]
  simp only [through, proceed, hfollow, List.append_assoc, List.singleton_append]
  exact ⟨hprogress, _, rfl, htells⟩

/-- A store that is open has all its connections. -/
theorem release_registered (settings : PoolSettings) (session : Session) (others : List Session)
    (c : Connection) (hwhole : c.broken = false) :
    ((((pooled settings (session :: others)).withIdle others).assign user
      (.holding ⟨session.dial, c⟩)).release user) =
        pooled settings (⟨session.dial, c⟩ :: others) := by
  rw [System.release_assign]
  simp [pooled, System.withIdle, System.dismiss, System.others, Pool.release, hwhole]

variable {config : Config} {limits : Limits} {settings : PoolSettings}

/-- The opening of a store whose configuration is accepted goes on where its connections have been
opened, one after the other. -/
theorem run_eq_through (hlimits : config.limits = .ok limits) (hpool : config.pool = .ok settings)
    (events : List Event) :
    let dialing := Dialing.run settings.credentials [] settings.initialSize events
    ∃ made left dropped, Pool.Announces settings.credentials 0 dialing.begun made ∧
      run config events = through ⟨limits, .ofLimits limits, config.failureMode⟩
        (dialing.progress settings dropped, made) left ∧
      (∀ before attempt, dialing = .waiting before attempt → left = []) ∧
      ∀ sessions later, dialing = .opened sessions later → left = later ∧
        ∀ dial < sessions.length, Pool.written dial made = greeting settings.credentials := by
  intro dialing
  have hnone : ([] : List Session).length + settings.initialSize = settings.initialSize :=
    Nat.zero_add _
  obtain ⟨⟨dropped, hprogress⟩, hannounces, hopened⟩ := Pool.Opening.further_eq hnone events
  have hstart : run config events = through ⟨limits, .ofLimits limits, config.failureMode⟩
      (Pool.Opening.next settings []) events := by
    rw [run, start, hlimits]
    dsimp only
    rw [hpool]
    rfl
  rw [through_eq] at hstart
  refine ⟨_, _, dropped, hannounces, hprogress ▸ hstart, fun before attempt heq => ?_,
    fun sessions later heq => ?_⟩
  · refine Pool.Opening.left_eq_nil_of_waiting (o := ⟨settings, before, attempt⟩) ?_
    exact hprogress.trans (congrArg (Dialing.progress settings dropped) heq)
  · obtain ⟨hleft, hwritten⟩ := hopened sessions later heq
    exact ⟨hleft, fun dial hlt => hwritten dial (Nat.zero_le dial) hlt⟩

/-- What notices tell of the attempts to open a connection, of the connections that were handed out,
and of what was sent: the credentials, and behind them a command where a connection was handed
out. -/
structure Tallies (credentials : Option Credentials) (command : Bytes) (begun : Nat)
    (handed : List Nat) (notices : List Notice) : Prop where
  dials : dials notices = List.range begun
  lent : lent notices = handed
  written : ∀ dial, written dial notices <+:
    greeting credentials ++ if dial ∈ Store.lent notices then command else []
  silent : ∀ dial, dial ∉ Store.dials notices → Store.written dial notices = []

variable {credentials : Option Credentials} {command : Bytes} {begun : Nat}
  {made : List Pool.Notice}

/-- As long as nobody was handed a connection, nothing was sent but credentials. -/
theorem tallies_map_pool (command : Bytes) (h : Pool.Announces credentials 0 begun made) :
    Tallies credentials command begun [] (made.map .pool) := by
  have hdials : Store.dials (made.map .pool) = List.range begun := by
    rw [dials_map_pool, h.dials, Nat.sub_zero, List.range_eq_range']
  have hlent : Store.lent (made.map .pool) = [] := lent_map_pool h.nobody
  refine ⟨hdials, hlent, fun dial => ?_, fun dial hdial => ?_⟩
  · rw [written_map_pool, hlent, if_neg List.not_mem_nil, List.append_nil]
    exact h.greets dial
  · rw [hdials, List.mem_range, not_lt] at hdial
    rw [written_map_pool]
    exact h.silent dial (.inr hdial)

/-- Once one of the connections was handed out, a command has gone over it as far as it was taken,
behind the credentials. -/
theorem tallies_registering {taken : Bytes} {dial : Nat} {later : List Notice}
    (h : Pool.Announces credentials 0 begun made) (hdial : dial < begun)
    (hgreets : Pool.written dial made = greeting credentials) (htells : Tells dial taken later)
    (htaken : taken <+: command) :
    let notices := made.map .pool ++ .pool (.acquired user dial) :: later
    Tallies credentials command begun [dial] notices ∧
      written dial notices = greeting credentials ++ taken := by
  intro notices
  have hmade := tallies_map_pool command h
  have hdials : Store.dials notices = List.range begun := by
    rw [dials_append, hmade.dials]
    change _ ++ Store.dials later = _
    rw [htells.dials, List.append_nil]
  have hwritten (other : Nat) : Store.written other notices =
      Pool.written other made ++ if other = dial then taken else [] := by
    rw [Store.written_append, written_map_pool]
    change _ ++ Store.written other later = _
    rw [htells.written]
  have hlent : Store.lent notices = [dial] := by
    rw [lent_append, hmade.lent]
    change dial :: Store.lent later = _
    rw [htells.lent]
  refine ⟨⟨hdials, hlent, fun other => ?_, fun other hother => ?_⟩, ?_⟩
  · rw [hwritten, hlent]
    by_cases heq : other = dial
    · rw [heq, hgreets, if_pos rfl, if_pos List.mem_cons_self]
      exact (List.prefix_append_right_inj _).mpr htaken
    · rw [if_neg heq, List.append_nil]
      exact (h.greets other).trans (List.prefix_append _ _)
  · rw [hdials, List.mem_range, not_lt] at hother
    rw [hwritten, h.silent other (.inr hother), if_neg (by omega), List.append_nil]
  · rw [hwritten, hgreets, if_pos rfl]

/-- The opening of a store ends as the request does that registers the script; if it fails, it drops
all connections. -/
theorem registering_eq_failed_iff {session : Session} {others : List Session}
    {p : RateLimit.Progress} {error : Error} {dropped : List Nat} :
    registering plan ((pooled settings (session :: others)).withIdle others) session.dial p =
        .failed error dropped ↔
      ∃ c cause, p = .finished c (.error cause) ∧ error = .setup .prime cause ∧
        dropped = others.map Session.dial ++ [session.dial] := by
  constructor
  · intro h
    rcases p with x | ⟨c, cause | reply⟩ <;> cases h
    exact ⟨c, cause, rfl, rfl, rfl⟩
  · rintro ⟨c, cause, rfl, rfl, rfl⟩
    rfl

theorem exists_registering_eq_opened_iff {base : System} {dial : Nat} {p : RateLimit.Progress} :
    (∃ s, registering plan base dial p = .opened s) ↔ ∃ c reply, p = .finished c (.ok reply) := by
  constructor
  · rintro ⟨s, h⟩
    rcases p with x | ⟨c, cause | reply⟩ <;> cases h
    exact ⟨c, reply, rfl⟩
  · rintro ⟨c, reply, rfl⟩
    exact ⟨_, rfl⟩

/-- A store that is open after the registration of its script has all the connections of its
pool. -/
theorem eq_of_registering {session : Session} {others : List Session} {p : RateLimit.Progress}
    (hp : p.IsRequest) {s : Store}
    (h : registering plan ((pooled settings (session :: others)).withIdle others) session.dial p =
      .opened s) :
    ∃ c, s = {
      limits := plan.limits
      script := plan.script
      failureMode := plan.failureMode
      system := pooled settings (⟨session.dial, c⟩ :: others) } := by
  obtain ⟨c, reply, rfl⟩ := exists_registering_eq_opened_iff.mp ⟨s, h⟩
  cases h
  have hwhole : c.broken = false := by
    generalize hresult : Except.ok reply = result at hp
    cases hp with
    | answered => rfl
    | failed => cases hresult
  exact ⟨c, by rw [release_registered settings session others c hwhole]⟩

/-- How the opening of a store goes once its configuration is accepted, by what comes of opening its
connections: only when all are open is one of them handed out, the one that was opened last, for the
request that registers the script. -/
theorem run_of_accepted (hlimits : config.limits = .ok limits) (hpool : config.pool = .ok settings)
    (events : List Event) :
    let plan : Plan := ⟨limits, .ofLimits limits, config.failureMode⟩
    let dialing := Dialing.run settings.credentials [] settings.initialSize events
    let after := run config events
    let tallies := Tallies settings.credentials plan.script.register.bytes dialing.begun
    match dialing with
    | .waiting before attempt =>
        after.1 = .waiting (.pool plan ⟨settings, before, attempt⟩) ∧ tallies [] after.2
    | .failed _ error =>
        (∃ dropped, after.1 = .failed (.setup .openPool error) dropped) ∧ tallies [] after.2
    | .opened sessions left => ∃ last others, sessions = last :: others ∧
        let request := (last.connection.start (.request plan.script.register)).run left
        after.1 = registering plan ((pooled settings sessions).withIdle others) last.dial
          request.1 ∧
        tallies [last.dial] after.2 ∧
        written last.dial after.2 = greeting settings.credentials ++ request.2.1 := by
  obtain ⟨made, left, dropped, hannounces, hrun, hwaiting, hopened⟩ :=
    run_eq_through hlimits hpool events
  have hsound := Dialing.sound_start settings.credentials settings.initialSize events
  generalize Dialing.run settings.credentials [] settings.initialSize events = dialing
    at hannounces hrun hwaiting hopened hsound
  have htallies := tallies_map_pool (Script.ofLimits limits).register.bytes hannounces
  rw [hrun]
  dsimp only
  cases hsound with
  | @waiting before attempt =>
      obtain rfl := hwaiting before attempt rfl
      have hthrough (plan : Plan) :
          through plan ((Dialing.waiting before attempt).progress settings dropped, made) [] =
            (.waiting (.pool plan ⟨settings, before, attempt⟩), made.map .pool) :=
        congrArg (Prod.mk _) (List.append_nil _)
      rw [hthrough]
      exact ⟨rfl, htallies⟩
  | @failed before error =>
      rw [Dialing.progress, through, proceed]
      dsimp only
      rw [run_failed, List.append_nil]
      exact ⟨⟨dropped, rfl⟩, htallies⟩
  | @opened sessions later hnumbered hlength =>
      obtain ⟨rfl, hgreets⟩ := hopened sessions later rfl
      have hpos := Config.pool_initialSize_pos hpool
      rcases sessions with _ | ⟨last, others⟩
      · exact absurd hlength hpos.ne
      · have hlast : last.dial < (last :: others).length := hnumbered.dial_lt List.mem_cons_self
        obtain ⟨hprogress, later, hnotices, htells⟩ :=
          through_opened ⟨limits, .ofLimits limits, config.failureMode⟩ settings last others made
            left
        obtain ⟨htallies, hwritten⟩ := tallies_registering hannounces hlast (hgreets _ hlast)
          htells (last.connection.taken_isPrefix (Script.encode_register _) left)
        refine ⟨last, others, rfl, hprogress, ?_, ?_⟩
        · exact hnotices ▸ htallies
        · exact hnotices ▸ hwritten

/-- A store is opened if its connections are, and if a server then accepts its script. -/
theorem run_eq_opened (hlimits : config.limits = .ok limits) (hpool : config.pool = .ok settings)
    {events serve : List Event} {dial : Nat} {others : List Session} {answer : Bytes}
    {reply : Reply}
    (hdialing : Dialing.run settings.credentials [] settings.initialSize events =
      .opened (⟨dial, {}⟩ :: others) serve)
    (hserve : Event.Serves (Script.ofLimits limits).register.bytes answer serve)
    (hread : (Reader.read {} answer).1 = .complete reply [])
    (hreply : ∀ text, reply ≠ .error text) :
    (run config events).1 = .opened {
      limits
      script := .ofLimits limits
      failureMode := config.failureMode
      system := pooled settings (⟨dial, {}⟩ :: others) } := by
  have haccepted := run_of_accepted hlimits hpool events
  rw [hdialing] at haccepted
  obtain ⟨last, others, heq, hprogress, -⟩ := haccepted
  cases heq
  have hrequest := hserve.run hread []
  rw [List.append_nil] at hrequest
  rw [hprogress, hrequest, Reply.result_eq_ok hreply, registering,
    release_registered settings ⟨dial, {}⟩ others {} rfl]

/-- If the opening of a store fails once its configuration is accepted, a step is named, which is
never that of getting a connection for the registration. -/
theorem error_of_accepted (hlimits : config.limits = .ok limits)
    (hpool : config.pool = .ok settings) {events : List Event} {error : Error}
    {dropped : List Nat} (h : (run config events).1 = .failed error dropped) :
    ∃ step cause, error = .setup step cause ∧ step ≠ .borrow := by
  have haccepted := run_of_accepted hlimits hpool events
  dsimp only at haccepted
  rw [h] at haccepted
  split at haccepted
  · cases haccepted.1
  · obtain ⟨⟨dropped', heq⟩, -⟩ := haccepted
    cases heq
    exact ⟨_, _, rfl, SetupStep.noConfusion⟩
  · obtain ⟨last, others, rfl, hprogress, -⟩ := haccepted
    obtain ⟨c, cause, -, rfl, -⟩ := registering_eq_failed_iff.mp hprogress.symm
    exact ⟨_, _, rfl, SetupStep.noConfusion⟩

/-- With what the opening of a store may fail. -/
theorem refuses_or_setup {events : List Event} {error : Error} {dropped : List Nat}
    (h : (run config events).1 = .failed error dropped) :
    (∃ fault, error = .config fault ∧ dropped = [] ∧ config.Refuses fault) ∨
      ∃ step cause, error = .setup step cause ∧ step ≠ .borrow := by
  rcases config.refuses_or_accepts with ⟨fault, hfault⟩ | ⟨limits, settings, hlimits, hpool⟩
  · rw [run_of_refuses hfault] at h
    cases h
    exact .inl ⟨fault, rfl, rfl, hfault⟩
  · exact .inr (error_of_accepted hlimits hpool h)

/-- A store that is open has all its connections and is ready for calls. -/
theorem whole_of_registering {session : Session} {others : List Session} {p : RateLimit.Progress}
    (hp : p.IsRequest) (hnumbered : Pool.Opening.Numbered (session :: others))
    (hlength : (session :: others).length = settings.initialSize) {s : Store}
    (h : registering plan ((pooled settings (session :: others)).withIdle others) session.dial p =
      .opened s) :
    s.system.pool.stats = ⟨settings.initialSize, settings.initialSize, settings.maxSize⟩ ∧
      s.system.transports = (List.range settings.initialSize).reverse ∧
      s.closed = false ∧ s.system.pool.closed = false ∧ s.takes = [] ∧
      s.limits = plan.limits ∧ s.script = plan.script ∧ s.failureMode = plan.failureMode := by
  obtain ⟨c, rfl⟩ := eq_of_registering hp h
  have htransports : (pooled settings (⟨session.dial, c⟩ :: others)).transports =
      (session :: others).map Session.dial := List.append_nil _
  refine ⟨?_, ?_, rfl, rfl, rfl, rfl, rfl, rfl⟩
  · rw [← hlength]
    rfl
  · rw [htransports, hnumbered.dials, hlength]

/-- **Opening a store is all or nothing.** Whatever happens on the transports, the opening of a
store fails with what is wrong with its configuration, and nothing else happens, exactly if the
configuration is refused.  Otherwise it opens its connections one after the other, up to the first
that fails, and sends nothing but the credentials on each and the command that registers the script
on one: that command is sent, on the connection that was opened last, exactly if all connections
have been opened.  The store is then open, with these connections and no others, all of them idle,
exactly if the command was passed on and a complete reply has come back that is no error; bytes that
were left unread behind the reply to the credentials count as come back.  In every other case the
opening goes on, or has failed at a step that is named, and has dropped every transport that was
open at any time before.  It never fails for want of a connection on which to register the
script. -/
theorem all_or_nothing (config : Config) (events : List Event) :
    let progress := (run config events).1
    let notices := (run config events).2
    (∀ fault dropped, progress = .failed (.config fault) dropped ↔
      config.Refuses fault ∧ dropped = []) ∧
    (∀ fault dropped, progress = .failed (.config fault) dropped → notices = []) ∧
    (∀ cause dropped, progress ≠ .failed (.setup .borrow cause) dropped) ∧
    (∀ error dropped, progress = .failed error dropped →
      dropped.Nodup ∧ ∀ dial, dial ∈ dropped ↔ WasOpen config events dial) ∧
    ∀ limits settings, config.limits = .ok limits → config.pool = .ok settings →
      let register := (Script.ofLimits limits).register
      let dialing := Dialing.run settings.credentials [] settings.initialSize events
      dials notices = List.range dialing.begun ∧ dialing.begun ≤ settings.initialSize ∧
      (∀ dial, written dial notices <+: greeting settings.credentials ++
        if dial ∈ lent notices then register.bytes else []) ∧
      (∀ dial, dial ∉ dials notices → written dial notices = []) ∧
      match dialing with
      | .waiting _ _ => (∃ o, progress = .waiting o) ∧ lent notices = []
      | .failed _ error =>
          (∃ dropped, progress = .failed (.setup .openPool error) dropped) ∧ lent notices = []
      | .opened sessions left => ∃ last others, sessions = last :: others ∧
          lent notices = [last.dial] ∧
          let request := last.connection.start (.request register)
          written last.dial notices = greeting settings.credentials ++ (request.run left).2.1 ∧
          ((∃ s, progress = .opened s) ↔ ∃ reply rest,
            (Wire.afterAll {} request left).Replied last.connection.buffer register.bytes reply
              rest ∧ ∀ text, reply ≠ .error text) ∧
          (∀ error dropped, progress = .failed error dropped ↔ ∃ c cause,
            (request.run left).1 = .finished c (.error cause) ∧ error = .setup .prime cause ∧
              dropped = others.map Session.dial ++ [last.dial]) ∧
          ∀ s, progress = .opened s →
            s.system.pool.stats =
              ⟨settings.initialSize, settings.initialSize, settings.maxSize⟩ ∧
            s.system.transports = (List.range settings.initialSize).reverse ∧
            s.closed = false ∧ s.system.pool.closed = false ∧ s.takes = [] ∧
            s.limits = limits ∧ s.script = .ofLimits limits ∧
            s.failureMode = config.failureMode := by
  intro progress notices
  refine ⟨fun fault dropped => ⟨fun h => ?_, ?_⟩, fun fault dropped h => ?_,
    fun cause dropped h => ?_, fun error dropped h => ?_, fun limits settings hlimits hpool => ?_⟩
  · rcases refuses_or_setup h with ⟨fault, heq, hnone, hfault⟩ | ⟨step, cause, heq, -⟩ <;>
      cases heq
    exact ⟨hfault, hnone⟩
  · rintro ⟨hfault, rfl⟩
    exact congrArg Prod.fst (run_of_refuses hfault events)
  · rcases refuses_or_setup h with ⟨fault, heq, -, hfault⟩ | ⟨step, cause, heq, -⟩ <;> cases heq
    exact congrArg Prod.snd (run_of_refuses hfault events)
  · rcases refuses_or_setup h with ⟨fault, heq, -⟩ | ⟨step, cause, heq, hstep⟩ <;> cases heq
    exact hstep rfl
  · exact dropped_of_failed h
  · have haccepted := run_of_accepted hlimits hpool events
    have hsound := Dialing.sound_start settings.credentials settings.initialSize events
    generalize Dialing.run settings.credentials [] settings.initialSize events = dialing
      at haccepted hsound
    have hle := hsound.begun_le
    cases hsound with
    | waiting =>
        obtain ⟨hprogress, h⟩ := haccepted
        exact ⟨h.dials, hle, h.written, h.silent, ⟨_, hprogress⟩, h.lent⟩
    | failed =>
        obtain ⟨hprogress, h⟩ := haccepted
        exact ⟨h.dials, hle, h.written, h.silent, hprogress, h.lent⟩
    | @opened sessions left hnumbered hlength =>
        obtain ⟨last, others, rfl, hprogress, h, hwritten⟩ := haccepted
        have hrequest :=
          (last.connection.start_isRequest (Script.ofLimits limits).register).run left
        refine ⟨h.dials, hle, h.written, h.silent, last, others, rfl, h.lent, hwritten, ?_,
          fun error dropped => ?_, fun s hs => ?_⟩
        · rw [← last.connection.request_answered_iff (Script.encode_register _) left,
            ← exists_registering_eq_opened_iff, ← hprogress]
        · rw [← registering_eq_failed_iff, ← hprogress]
        · exact whole_of_registering hrequest hnumbered hlength (hprogress.symm.trans hs)

/-- A store opens two connections, which its server accepts one after the other, and registers its
script on the second.  Without credentials, the first is open at once, and dropped if the second
cannot be opened. -/
theorem all_or_nothing_two :
    let config : Config := {
      tokens := 5, interval := .ofNanos 30, ttl := 1, initialSize := 2, maxSize := 3,
      credentials := some { password := "secret" }, endpoint := some .supplied }
    ∃ events s, (run config events).1 = .opened s ∧ dials (run config events).2 = [0, 1] ∧
      lent (run config events).2 = [1] ∧ s.system.pool.stats = ⟨2, 2, 3⟩ ∧
      s.system.transports = [1, 0] ∧
      let bare : Config := { config with credentials := none }
      let fault : TransportFault := ⟨"ConnectionRefused", "connection refused"⟩
      let events : List Event := [.connected, .connectFailed fault]
      (run bare events).1 = .failed (.setup .openPool (.transport fault)) [0] ∧
        ∀ dial, dial ∈ [0] ↔ WasOpen bare events dial := by
  intro config
  let limits : Limits := ⟨5, .ofNanos 30, 1, by decide, by decide, by decide⟩
  let credentials : Credentials := { password := "secret" }
  let register := (Script.ofLimits limits).register
  let answer := (Reply.status "OK").encode
  let welcome : List Event :=
    .connected :: [.wrote credentials.command.bytes.length, .flushed, .received answer]
  let serve : List Event := [.wrote register.bytes.length, .flushed, .received answer]
  have hlimits : config.limits = .ok limits := by decide
  have hsettings : config.pool = .ok ⟨2, 3, some credentials⟩ := by decide
  have hread : (Reader.read {} answer).1 = .complete (.status "OK") [] :=
    Reader.fst_read_encode (by decide) (by decide)
  have hwelcomes : Event.Welcomes (some credentials) welcome :=
    .accepted (Event.serves_at_once (List.cons_ne_nil _ _) (by decide)) hread
  have hdialing : Dialing.run (some credentials) [] 2 (welcome ++ (welcome ++ serve)) =
      .opened [⟨1, {}⟩, ⟨0, {}⟩] serve := by
    simp only [Dialing.run, hwelcomes.run]
    rfl
  have hserve : Event.Serves register.bytes answer serve :=
    Event.serves_at_once (List.cons_ne_nil _ _) (by decide)
  have hs := run_eq_opened hlimits hsettings hdialing hserve hread fun _ => Reply.noConfusion
  obtain ⟨-, -, -, -, haccepted⟩ := all_or_nothing config (welcome ++ (welcome ++ serve))
  have hends := haccepted limits _ hlimits hsettings
  dsimp only at hends
  rw [hdialing] at hends
  obtain ⟨hdials, -, -, -, last, others, heq, hlent, -, -, -, hwhole⟩ := hends
  cases heq
  obtain ⟨hstats, htransports, -⟩ := hwhole _ hs
  refine ⟨_, _, hs, hdials, hlent, hstats, htransports, ?_⟩
  intro bare fault events
  have hfailed : (run bare events).1 = .failed (.setup .openPool (.transport fault)) [0] := rfl
  obtain ⟨-, -, -, hdropped, -⟩ := all_or_nothing bare events
  exact ⟨hfailed, (hdropped _ _ hfailed).2⟩

end Opening

end Store

end RateLimit
