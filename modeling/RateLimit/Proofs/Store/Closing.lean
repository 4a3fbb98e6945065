import RateLimit.Proofs.Reply.RoundTrip
import RateLimit.Proofs.Store.Attainable
import RateLimit.Proofs.Store.Courses

/-!
# Closing a store

A store is closed while calls are in progress: some of them are opening a connection, the others
wait for the answer to the request that runs the script.  The former never run it, and the failure
mode answers them; the latter are answered as if nothing had been closed.  Either way their
connections are destroyed, and every later call is denied at once.

## Main definitions

* `Store.written` : what was written on a transport.
* `Store.Forestalled` : what becomes of a call that was opening a connection.

## Main results

* `Store.Sound.step_of_closed` : what an action does to the pool of a store that is closed.
* `Store.Sound.written_run`, `Store.Sound.notMem_transports` : what is sent after a store was
  closed, and which transports are left.
* `Store.Sound.forestalled` : a call that was opening a connection.
* `Store.Attainable.after_close` : what closing a store comes to.
-/

namespace RateLimit

open Pool (System Turn)

namespace Store

/-! ### What is sent -/

/-- The bytes that a notice tells to have been written on a transport. -/
def Notice.bytesOn (dial : Nat) : Notice → Bytes
  | .pool notice => notice.bytesOn dial
  | _ => []

/-- The bytes that notices tell to have been written on a transport. -/
def written (dial : Nat) (notices : List Notice) : Bytes :=
  notices.flatMap (Notice.bytesOn dial)

theorem written_append (dial : Nat) (notices more : List Notice) :
    written dial (notices ++ more) = written dial notices ++ written dial more :=
  List.flatMap_append

theorem written_map_pool (dial : Nat) (notices : List Pool.Notice) :
    written dial (notices.map .pool) = Pool.written dial notices :=
  List.flatMap_map ..

variable {s : Store} {name other dial : Nat} {take : Take} {x x' : Exchange} {event : Event}
  {action : Action} {role : Pool.Role} {bytes : Bytes}

/-- Nothing is written when a call goes on after its turn. -/
theorem written_conclude (dial : Nat) (s : Store) (name : Nat) (take : Take) (turn : Turn) :
    written dial (s.conclude name take turn).2 = [] := by
  cases turn with
  | ended result =>
      rw [conclude]
      dsimp only
      split <;> rfl
  | pending | dialing | acquired | refused => rfl

theorem written_follow (dial : Nat) (s : Store) (name : Nat) (take : Take)
    (result : System × Turn) : written dial (s.follow name take result).2 = [] :=
  follow_induction (motive := fun after => written dial after.2 = [])
    (fun _ turn _ => written_conclude dial _ name take turn) fun _ _ h => h

/-! ### A store that is closed -/

theorem closed_conclude (s : Store) (name : Nat) (take : Take) (turn : Turn) :
    (s.conclude name take turn).1.closed = s.closed := by
  cases turn <;> rfl

theorem closed_follow (s : Store) (name : Nat) (take : Take) (result : System × Turn) :
    (s.follow name take result).1.closed = s.closed :=
  follow_induction (motive := fun after => after.1.closed = s.closed)
    (fun _ turn _ => closed_conclude _ name take turn) fun _ _ h => h

/-- A call that gets no connection in its turn leaves the pool as it is, or gives back the one it
has. -/
theorem system_follow {result : System × Turn} (hturn : ∀ dial, result.2 ≠ .acquired dial)
    (s : Store) (name : Nat) (take : Take) :
    (s.follow name take result).1.system = result.1 ∨
      (s.follow name take result).1.system = result.1.release name := by
  obtain ⟨t, turn⟩ := result
  cases turn with
  | acquired dial => exact (hturn dial rfl).elim
  | ended => exact .inr rfl
  | pending | dialing | refused => exact .inl rfl

/-- A store that is closed denies. -/
theorem step_take_of_closed (hclosed : s.closed = true) (hfree : s.take? name = none)
    (key : String) (moment : Moment) :
    s.step (.take name key moment) = (s, [.answered name ⟨0, 0, 0, false⟩]) := by
  rw [Store.step, if_neg (by rw [hfree]; exact Bool.false_ne_true), begin, if_pos hclosed]

/-- What an action does to a store that is closed: nothing happens at its pool, or a user goes
on. -/
theorem Sound.step_of_closed (h : s.Sound) (hclosed : s.closed = true) (action : Action) :
    (s.step action).1.closed = true ∧
      ((s.step action).1.system = s.system ∧ (∀ dial, written dial (s.step action).2 = []) ∨
        ∃ name role taken, s.system.role? name = some role ∧
          s.system.Continues (s.step action).1.system name taken ∧
          ∀ dial, written dial (s.step action).2 = if role.dial = dial then taken else []) := by
  cases action with
  | take name key moment =>
      cases htake : s.take? name with
      | some take =>
          rw [step_take_of_some htake]
          exact ⟨hclosed, .inl ⟨rfl, fun _ => rfl⟩⟩
      | none =>
          rw [step_take_of_closed hclosed htake]
          exact ⟨hclosed, .inl ⟨rfl, fun _ => rfl⟩⟩
  | event name event =>
      rw [Store.step]
      cases htake : s.take? name with
      | none => exact ⟨hclosed, .inl ⟨rfl, fun _ => rfl⟩⟩
      | some take =>
          obtain ⟨role, hrole⟩ := h.exists_role_of_take htake
          refine ⟨(closed_follow ..).trans hclosed,
            .inr ⟨name, role, role.accepted event, hrole, ?_, fun dial => ?_⟩⟩
          · have hreact := System.continues_react hrole event
            rcases system_follow (System.react_ne_acquired (h.closed.trans hclosed) name event) s
              name take with hsystem | hsystem
            · exact hsystem ▸ hreact
            · exact hsystem ▸ hreact.trans (System.continues_release _ name)
          · dsimp only
            rw [written_append, written_map_pool, written_follow, List.append_nil, System.traffic,
              hrole]
            exact Pool.written_traffic dial role event
  | giveUp name =>
      rw [Store.step]
      cases htake : s.take? name with
      | none => exact ⟨hclosed, .inl ⟨rfl, fun _ => rfl⟩⟩
      | some take =>
          obtain ⟨role, hrole⟩ := h.exists_role_of_take htake
          refine ⟨hclosed, .inr ⟨name, role, [], hrole, ?_, fun dial => (ite_self _).symm⟩⟩
          exact (s.system.continues_giveUp name).trans (System.continues_release _ name)
  | close =>
      rw [Store.step, if_pos hclosed]
      exact ⟨hclosed, .inl ⟨rfl, fun _ => rfl⟩⟩

/-- After a store was closed, no more is sent on a transport than what its user had to send. -/
theorem Sound.written_run (h : s.Sound) (hclosed : s.closed = true)
    (hlimited : s.system.Limited dial bytes) (actions : List Action) :
    written dial (s.run actions).2 <+: bytes := by
  induction actions generalizing s bytes with
  | nil => exact List.nil_prefix
  | cons action actions ih =>
      rw [run_cons, written_append]
      obtain ⟨hclosed', ⟨hsystem, hwritten⟩ | ⟨name, role, taken, hrole, hcontinues, hwritten⟩⟩ :=
        h.step_of_closed hclosed action
      · rw [hwritten, List.nil_append]
        exact ih (h.step action) hclosed' (hsystem.symm ▸ hlimited)
      · obtain ⟨rest, rfl, hrest⟩ := hcontinues.limited h.system hrole hlimited
        rw [hwritten]
        exact (List.prefix_append_right_inj _).2 (ih (h.step action) hclosed' hrest)

theorem Sound.run (h : s.Sound) (actions : List Action) : (s.run actions).1.Sound := by
  induction actions generalizing s with
  | nil => exact h
  | cons action actions ih => exact ih (h.step action)

/-- A store that is closed stays so, with its credentials. -/
theorem Sound.run_of_closed (h : s.Sound) (hclosed : s.closed = true) (actions : List Action) :
    (s.run actions).1.closed = true ∧
      (s.run actions).1.system.credentials = s.system.credentials := by
  induction actions generalizing s with
  | nil => exact ⟨hclosed, rfl⟩
  | cons action actions ih =>
      obtain ⟨hclosed', hpool⟩ := h.step_of_closed hclosed action
      have hcredentials : (s.step action).1.system.credentials = s.system.credentials := by
        rcases hpool with ⟨hsystem, -⟩ | ⟨_, _, _, -, hcontinues, -⟩
        · rw [hsystem]
        · exact hcontinues.keeps.credentials
      obtain ⟨hclosed'', hcredentials'⟩ := ih (h.step action) hclosed'
      exact ⟨hclosed'', hcredentials'.trans hcredentials⟩

/-! ### Which transports are left -/

/-- Whoever uses the pool of a store that is closed has used it before, on the same transport. -/
theorem Sound.role_of_closed (h : s.Sound) (hclosed : s.closed = true) {action : Action}
    {role' : Pool.Role} (hrole' : (s.step action).1.system.role? name = some role') :
    ∃ role, s.system.role? name = some role ∧ role'.dial = role.dial := by
  obtain ⟨-, ⟨hsystem, -⟩ | ⟨user, role, taken, -, hcontinues, -⟩⟩ :=
    h.step_of_closed hclosed action
  · exact ⟨role', hsystem ▸ hrole', rfl⟩
  · by_cases hname : name = user
    · subst hname
      obtain ⟨role, hrole, hdial, -⟩ := hcontinues.own role' hrole'
      exact ⟨role, hrole, hdial⟩
    · exact ⟨role', (hcontinues.others name hname).symm.trans hrole', rfl⟩

/-- A transport that nobody uses when a store is closed is not open later. -/
theorem Sound.notMem_of_unused (h : s.Sound) (hclosed : s.closed = true)
    (hunused : ∀ name role, s.system.role? name = some role → role.dial ≠ dial)
    (actions : List Action) : dial ∉ (s.run actions).1.system.transports := by
  induction actions generalizing s with
  | nil =>
      intro hmem
      obtain ⟨name, role, hrole, hdial⟩ := h.exists_role hclosed hmem
      exact hunused name role hrole hdial
  | cons action actions ih =>
      refine ih (h.step action) (h.step_of_closed hclosed action).1 fun name role' hrole' => ?_
      obtain ⟨role, hrole, hdial⟩ := h.role_of_closed hclosed hrole'
      exact hdial ▸ hunused name role hrole

/-- The transport of a call that has ended is gone if the store is closed. -/
theorem Sound.notMem_transports (h : s.Sound) (hclosed : s.closed = true)
    (hcall : s.InProgress name take role) {actions : List Action}
    (hended : s.course name actions ≠ .waiting) :
    role.dial ∉ (s.run actions).1.system.transports := by
  induction actions generalizing s role with
  | nil => exact (hended rfl).elim
  | cons action actions ih =>
      have hclosed' := (h.step_of_closed hclosed action).1
      rcases hcall.take?_step action with ⟨-, hgone⟩ | ⟨⟨hdrop, hanswer⟩, htake⟩
      · -- The call has left, and no other is on its transport.
        refine (h.step action).notMem_of_unused hclosed' (fun other role' hrole' => ?_) actions
        have hne : other ≠ name := by
          rintro rfl
          cases hrole'.symm.trans (((h.step action).users other).2 hgone)
        obtain ⟨role'', hrole'', hdial⟩ := h.role_of_closed hclosed hrole'
        exact hdial ▸ h.system.other_ne hcall.role hrole'' hne
      · obtain ⟨role', hrole'⟩ := (h.step action).exists_role_of_take htake
        obtain ⟨role'', hrole'', hdial⟩ := h.role_of_closed hclosed hrole'
        cases hcall.role.symm.trans hrole''
        rw [course_of_none hdrop hanswer] at hended
        exact hdial ▸ ih (h.step action) hclosed' ⟨htake, hrole'⟩ hended

/-! ### Calls that were opening a connection -/

/-- In a store that is closed, a call that is opening a connection goes on with that, or the failure
mode answers. -/
theorem InProgress.opening_step {attempt : Attempt}
    (h : s.InProgress name take (.opening dial attempt)) (hclosed : s.system.pool.closed = true)
    (event : Event) :
    (∃ attempt', s.answer? name (.event name event) = none ∧
        (s.step (.event name event)).1.InProgress name take (.opening dial attempt') ∧
        attempt.step s.system.credentials event = .waiting attempt') ∨
      (∀ attempt', attempt.step s.system.credentials event ≠ .waiting attempt') ∧
        s.answer? name (.event name event) = some s.failureMode.outcome := by
  have hreact : s.system.react name event =
      s.system.proceed name dial (attempt.step s.system.credentials event) := by
    rw [System.react, h.role]
  have hrefused (t : System) (error : Error) :
      (s.follow name take (t, .refused error)).2.findSome? (Notice.answer? name) =
        some s.failureMode.outcome :=
    (findSome?_answer?_failed s name name take.key error).trans (if_pos rfl)
  rw [h.answer?_event, hreact]
  cases hstep : attempt.step s.system.credentials event with
  | waiting attempt' =>
      refine .inl ⟨attempt', rfl, ?_, rfl⟩
      rw [Store.step, h.take]
      dsimp only
      rw [hreact, hstep]
      exact ⟨h.take, System.role?_assign_self ..⟩
  | failed error => exact .inr ⟨fun _ => Attempt.Progress.noConfusion, hrefused _ error⟩
  | opened connection =>
      refine .inr ⟨fun _ => Attempt.Progress.noConfusion, ?_⟩
      rw [System.proceed, if_pos hclosed]
      exact hrefused _ _

/-- In a store that is closed, a call that is opening a connection does so as long as its caller
waits, and no one but the failure mode answers it. -/
theorem Sound.opening_run (h : s.Sound) (hclosed : s.closed = true) {attempt : Attempt}
    (hcall : s.InProgress name take (.opening dial attempt)) (actions : List Action) :
    (s.course name actions = .waiting →
        ∃ attempt', (s.run actions).1.InProgress name take (.opening dial attempt')) ∧
      ∀ decision, s.course name actions = .answered decision →
        decision = s.failureMode.outcome := by
  induction actions generalizing s attempt with
  | nil => exact ⟨fun _ => ⟨attempt, hcall⟩, fun _ => Course.noConfusion⟩
  | cons action actions ih =>
      have hclosed' := (h.step_of_closed hclosed action).1
      have hmode := (s.agrees_step action).mode
      rw [run_cons]
      by_cases hname : action.name? = some name
      · cases action with
        | take other key moment =>
            cases hname
            rw [course_take hcall.take, step_take_of_some hcall.take]
            exact ih h hclosed hcall
        | event other event =>
            cases hname
            have hdrop : Action.event name event ≠ .giveUp name := Action.noConfusion
            rcases hcall.opening_step (h.closed.trans hclosed) event with
              ⟨attempt', hanswer, hcall', -⟩ | ⟨-, hanswer⟩
            · rw [course_of_none hdrop hanswer, ← hmode]
              exact ih (h.step _) hclosed' hcall'
            · rw [course_of_answer hdrop hanswer]
              refine ⟨Course.noConfusion, fun decision heq => ?_⟩
              cases heq
              rfl
        | giveUp other =>
            cases hname
            rw [course_giveUp]
            exact ⟨Course.noConfusion, fun _ => Course.noConfusion⟩
        | close => cases hname
      · rw [course_of_spares hname, ← hmode]
        exact ih (h.step action) hclosed' (hcall.spared (spares_step hname s))

/-- What becomes, in a run, of a call that is opening a connection in a store that is closed. -/
structure Forestalled (s : Store) (name dial : Nat) (actions : List Action) : Prop where
  /-- The connection is being opened as long as the caller waits, and once that comes to an end, in
  whatever way, the failure mode answers. -/
  waiting : s.course name actions = .waiting →
    ∃ attempt, (s.run actions).1.system.role? name = some (.opening dial attempt) ∧
      ∀ event, (∀ attempt', attempt.step s.system.credentials event ≠ .waiting attempt') →
        s.course name (actions ++ [.event name event]) = .answered s.failureMode.outcome
  /-- Nothing else answers the call. -/
  answered : ∀ decision, s.course name actions = .answered decision →
    decision = s.failureMode.outcome
  /-- Nothing is sent for the call but the credentials. -/
  written : written dial (s.run actions).2 <:+: greeting s.system.credentials
  /-- The connection is destroyed. -/
  destroyed : s.course name actions ≠ .waiting → dial ∉ (s.run actions).1.system.transports

/-- **A call that was opening a connection** when its store was closed never runs the script. -/
theorem Sound.forestalled (h : s.Sound) (hclosed : s.closed = true) {attempt : Attempt}
    (hcall : s.InProgress name take (.opening dial attempt)) (actions : List Action) :
    s.Forestalled name dial actions where
  waiting hwaiting := by
    obtain ⟨attempt', hlater⟩ := (h.opening_run hclosed hcall actions).1 hwaiting
    obtain ⟨hclosed', hcredentials⟩ := h.run_of_closed hclosed actions
    refine ⟨attempt', hlater.role, fun event hends => ?_⟩
    rw [← hcredentials] at hends
    rw [course_append hwaiting, ← (s.agrees_run actions).mode]
    rcases hlater.opening_step ((h.run actions).closed.trans hclosed') event with
      ⟨attempt'', -, -, hstep⟩ | ⟨-, hanswer⟩
    · exact (hends attempt'' hstep).elim
    · exact course_of_answer Action.noConfusion hanswer
  answered := (h.opening_run hclosed hcall actions).2
  written := by
    cases h.waits name _ hcall.role with
    | opening _ hunsent =>
        exact (h.written_run hclosed (h.system.limited hcall.role) actions).isInfix.trans hunsent
  destroyed hended := h.notMem_transports hclosed hcall hended

/-! ### Closing -/

/-- **Closing a store.** Whatever calls are in progress when a store is closed for the first time,
and whatever happens from then on: every later call is denied, without any effect; a call that was
opening a connection is answered by the failure mode and sends nothing but the credentials; a call
that had a connection is answered as if the store had not been closed; either way its connection is
destroyed when it ends; closing the store again changes nothing; and what the pool counts are the
calls that are still in progress, so that nothing is left once they have ended. -/
theorem Attainable.after_close {config : Config} (h : s.Attainable config)
    (hopen : s.closed = false) (actions : List Action) :
    let closed := (s.step .close).1
    let later := (closed.run actions).1
    (∀ name key moment, later.take? name = none →
        later.step (.take name key moment) = (later, [.answered name ⟨0, 0, 0, false⟩])) ∧
      (∀ name take, s.take? name = some take →
        (∃ dial attempt, s.system.role? name = some (.opening dial attempt) ∧
            closed.Forestalled name dial actions) ∨
          ∃ dial x, s.system.role? name = some (.calling dial x) ∧
            closed.course name actions = s.course name actions ∧
            (closed.course name actions ≠ .waiting → dial ∉ later.system.transports)) ∧
      later.step .close = (later, []) ∧
      later.system.pool.idle = [] ∧
      later.system.pool.live = later.takes.length ∧
      (later.takes = [] → later.system.transports = []) := by
  intro closed later
  have hclose : s.step .close = ({ s with closed := true, system := s.system.close }, []) := by
    rw [Store.step, hopen]
    rfl
  have hclosed : closed.closed = true := congrArg (fun after => after.1.closed) hclose
  have hsound : closed.Sound := h.sound.step .close
  have hlater : later.closed = true := (hsound.run_of_closed hclosed actions).1
  refine ⟨fun name key moment hfree => step_take_of_closed hlater hfree key moment,
    fun name take htake => ?_, ?_, (hsound.run actions).idle hlater,
    (hsound.run actions).live hlater, (hsound.run actions).transports_eq_nil hlater⟩
  · obtain ⟨role, hrole⟩ := h.sound.exists_role_of_take htake
    have hcall : s.InProgress name take role := ⟨htake, hrole⟩
    have hcall' : closed.InProgress name take role := hcall.close
    cases h.sound.waits name role hrole with
    | @opening dial attempt =>
        exact .inl ⟨dial, attempt, hrole, hsound.forestalled hclosed hcall' actions⟩
    | calling dial x =>
        exact .inr ⟨dial, x, hrole, course_congr hcall hcall' (s.agrees_step .close) actions,
          fun hended => hsound.notMem_transports hclosed hcall' hended⟩
  · rw [Store.step, if_pos hlater]

/-- A store that lets everybody pass while its server cannot be asked is closed while one call waits
for its answer and another for its connection. -/
theorem after_close_two :
    let config : Config := {
      tokens := 5, interval := .ofNanos 30, ttl := 1, initialSize := 1, maxSize := 2,
      endpoint := some .supplied, failureMode := .failOpen }
    ∃ s : Store, s.Attainable config ∧ s.closed = false ∧
      let closed := (s.step .close).1
      (∃ x, s.system.role? 1 = some (.calling 0 x)) ∧
        s.system.role? 2 = some (.opening 1 .connecting) ∧
        (∃ actions, closed.course 1 actions = .answered ⟨5, 4, 90, true⟩) ∧
        closed.course 2 [.event 2 .connected] = .answered ⟨0, 0, 0, true⟩ ∧
        closed.step (.take 3 "c" (.after (.ofNanos 7))) =
          (closed, [.answered 3 ⟨0, 0, 0, false⟩]) ∧
        let later := (closed.run [.giveUp 1, .giveUp 2]).1
        later.system.pool.live = 0 ∧ later.system.transports = [] := by
  intro config
  let limits : Limits := ⟨5, .ofNanos 30, 1, by decide, by decide, by decide⟩
  let granted : Reply := .array [.integer 4, .integer 90, .integer 1]
  have hstatus : (Reader.read {} (Reply.status "OK").encode).1 = .complete (.status "OK") [] :=
    Reader.fst_read_encode (by decide) (by decide)
  have hgranted : (Reader.read {} granted.encode).1 = .complete granted [] :=
    Reader.fst_read_encode (by decide) (by decide)
  let server : Server := ⟨fun _ _ => (Reply.status "OK").encode, fun dial i reply rest h => by
    rw [hstatus] at h
    cases h
    rfl⟩
  have haccepts : server.Answers 0 0 (.status "OK") := hstatus
  have hlimits : config.limits = .ok limits := by decide
  have hsettings : config.pool = .ok ⟨1, 2, none⟩ := by decide
  obtain ⟨wires, -, hopening⟩ := Opening.exists_reachable_opened hlimits hsettings haccepts rfl
  let opened : Store := {
    limits
    script := .ofLimits limits
    failureMode := .failOpen
    system := { credentials := none, pool := ⟨2, [⟨0, {}⟩], 1, false⟩, dialed := 1 } }
  have hopened : opened.Attainable config := .opened hopening.attainable
  -- The first call gets the connection that is idle, the second one has to open another.
  let moment : Moment := .after (.ofNanos 7)
  obtain ⟨bytes, hnil, s, hs, hopen, hlimits, hcalling, hdialing, hmode, hcredentials, hfree,
      htakes⟩ :
      ∃ bytes, bytes ≠ [] ∧ ∃ s : Store, s.Attainable config ∧ s.closed = false ∧
        s.limits = limits ∧
        s.InProgress 1 ⟨"a", 7⟩ (.calling 0 ⟨⟨[], true⟩, .request, .write bytes⟩) ∧
        s.InProgress 2 ⟨"b", 7⟩ (.opening 1 .connecting) ∧
        (s.step .close).1.failureMode = .failOpen ∧
        (s.step .close).1.system.credentials = none ∧ (s.step .close).1.take? 3 = none ∧
        ((s.step .close).1.run [.giveUp 1, .giveUp 2]).1.takes = [] :=
    ⟨((Script.ofLimits limits).call "a" 7).bytes, List.cons_ne_nil _ _, _,
      (hopened.step (.take 1 "a" moment)).step (.take 2 "b" moment), rfl, rfl, ⟨rfl, rfl⟩,
      ⟨rfl, rfl⟩, rfl, rfl, rfl, rfl⟩
  refine ⟨s, hs, hopen, ⟨_, hcalling.role⟩, hdialing.role, ?_, ?_, ?_, ?_⟩
  · have hverdict : s.verdict granted.result = ⟨5, 4, 90, true⟩ := by
      rw [verdict, decide?, hlimits]
      rfl
    obtain ⟨-, hcalls, -⟩ := hs.after_close hopen [.event 1 (.wrote bytes.length),
      .event 1 .flushed, .event 1 (.received granted.encode)]
    rcases hcalls 1 _ hcalling.take with ⟨_, _, hrole, -⟩ | ⟨_, _, -, hsame, -⟩
    · cases hcalling.role.symm.trans hrole
    · exact ⟨_, hsame.trans (hverdict ▸ hcalling.course_of_reply hnil hgranted)⟩
  · obtain ⟨-, hcalls, -⟩ := hs.after_close hopen []
    rcases hcalls 2 _ hdialing.take with ⟨_, _, hrole, hforestalled⟩ | ⟨_, _, hrole, -⟩
    · cases hdialing.role.symm.trans hrole
      obtain ⟨attempt, hrole', hends⟩ := hforestalled.waiting rfl
      cases hdialing.close.role.symm.trans hrole'
      rw [hcredentials, hmode] at hends
      exact hends .connected fun _ => Attempt.Progress.noConfusion
    · cases hdialing.role.symm.trans hrole
  · exact (hs.after_close hopen []).1 3 "c" moment hfree
  · obtain ⟨-, -, -, -, hlive, hgone⟩ := hs.after_close hopen [.giveUp 1, .giveUp 2]
    rw [htakes] at hlive
    exact ⟨hlive, hgone htakes⟩

end Store

end RateLimit
