import RateLimit.Proofs.Connection.RoundTrip
import RateLimit.Proofs.Pool.Draining
import RateLimit.Proofs.Store.Closing

/-!
# The trail of a call

Beside a call stands a record of all that has passed over a transport on its behalf: what passed
while a connection was being opened for it, the bytes that were left unread on the connection when
the call got it, and what passed from then on.  Nothing is assumed of the transports and of the
server.  The call sends the credentials and its command, each once at most; it is answered from a
reply, or the failure mode answers it and the failure is reported.

## Main definitions

* `Store.Trail` : what has passed on behalf of a call, and `Store.trail` : its trail in a run.
* `Store.Trail.Answered` : the command of a call has gone out, and the answer of the script came.
* `Store.Follows` : how a call in progress stands to its trail.
* `Store.Turned` : what a call comes to in an action.

## Main results

* `Store.turned_take`, `Store.Follows.turned_event` : what a call comes to in an action.
-/

namespace RateLimit

open Pool (System Turn)

/-- A reply that a request hands on holds the answer of the script, or the request counts as one
that failed. -/
theorem Answer.ofResult?_result (reply : Reply) :
    (∃ a, Answer.ofReply? reply = .ok a ∧ Answer.ofResult? reply.result = .ok a) ∨
      (∀ a, Answer.ofReply? reply ≠ .ok a) ∧
        ∃ error, Answer.ofResult? reply.result = .error error := by
  have hread (h : reply.result = .ok (some reply)) :
      Answer.ofResult? reply.result = (Answer.ofReply? reply).mapError .protocol := by
    rw [h]
    rfl
  cases reply with
  | error text => exact .inr ⟨fun a h => (by cases h), .server text, rfl⟩
  | status | integer | bulk | null | array =>
      rw [hread rfl]
      cases Answer.ofReply? _ with
      | ok a => exact .inl ⟨a, rfl, rfl⟩
      | error fault => exact .inr ⟨fun a h => (by cases h), .protocol fault, rfl⟩

namespace Store

/-- What has passed over a transport on behalf of a call. -/
structure Trail where
  /-- What passed while a connection was being opened. -/
  greeting : Wire := {}
  /-- The bytes that were left unread on the connection that the call got. -/
  kept : Option Bytes := none
  /-- What has passed since the call got its connection. -/
  request : Wire := {}

namespace Trail

/-- What has passed after an event for a call in some role at the pool. -/
def event (t : Trail) (event : Event) : Option Pool.Role → Trail
  | some (.opening _ attempt) => { t with greeting := attempt.observe t.greeting event }
  | some (.calling _ x) => { t with request := t.request.after x event }
  | _ => t

/-- What is known once a call has had its turn, with the role it has then. -/
def turn (t : Trail) : Option Pool.Role → Trail
  | some (.calling _ x) => { t with kept := t.kept.or (some x.connection.buffer) }
  | _ => t

/-- The call got a connection, its command went out whole and was passed on, and a complete reply
came that holds an answer of the script. -/
def Answered (t : Trail) (command : Bytes) (a : Answer) : Prop :=
  ∃ kept reply rest, t.kept = some kept ∧ t.request.Replied kept command reply rest ∧
    Answer.ofReply? reply = .ok a

/-- What passes on behalf of a call is what presents the credentials and, once there is a
connection, its command, each once at most. -/
structure Sends (t : Trail) (credentials : Option Credentials) (command : Bytes) : Prop where
  greeting : t.greeting.Greeted credentials
  request : t.request.Sends command
  obtained : t.kept = none → t.request = {}

theorem not_answered_of_kept {t : Trail} (h : t.kept = none) (command : Bytes) (a : Answer) :
    ¬t.Answered command a := by
  rintro ⟨kept, reply, rest, hkept, -⟩
  cases h.symm.trans hkept

theorem not_answered_of_round {kept command : Bytes} {greeting request : Wire} {x : Exchange}
    (h : request.Round kept command x) (a : Answer) :
    ¬Answered ⟨greeting, some kept, request⟩ command a := by
  rintro ⟨_, reply, rest, hkept, hreplied, -⟩
  cases hkept
  exact h.not_replied reply rest hreplied

/-- A call is answered once. -/
theorem Answered.unique {t : Trail} {command : Bytes} {a a' : Answer} (h : t.Answered command a)
    (h' : t.Answered command a') : a = a' := by
  obtain ⟨kept, reply, rest, hkept, hreplied, ha⟩ := h
  obtain ⟨kept', reply', rest', hkept', hreplied', ha'⟩ := h'
  cases hkept.symm.trans hkept'
  cases hreplied.read.symm.trans hreplied'.read
  cases ha.symm.trans ha'
  rfl

end Trail

/-- The trail of the call under a name after what passes in an action. -/
def passed (s : Store) (name : Nat) (t : Trail) : Action → Trail
  | .event other event => if other = name then t.event event (s.system.role? name) else t
  | _ => t

/-- The trail of the call under a name in a run, up to the end of the call. -/
def trail (s : Store) (name : Nat) (t : Trail) : List Action → Trail
  | [] => t
  | action :: actions =>
      if action = .giveUp name ∨ s.answer? name action ≠ none then s.passed name t action
      else
        (s.step action).1.trail name
          ((s.passed name t action).turn ((s.step action).1.system.role? name)) actions

/-- Whether the failure mode answers the call under a name in a run: the action that answers it
reports the failure. -/
def FallsBack (s : Store) (name : Nat) (key : String) : List Action → Prop
  | [] => False
  | action :: actions =>
      if s.answer? name action ≠ none then
        ∃ error, .warned (.unavailable key error s.failureMode) ∈ (s.step action).2
      else action ≠ .giveUp name ∧ (s.step action).1.FallsBack name key actions

variable {s : Store} {name dial : Nat} {take : Take} {t : Trail} {x : Exchange} {event : Event}
  {action : Action} {role : Pool.Role}

/-! ### What a store retains -/

/-- From one store to another the script and the credentials have stayed. -/
structure Retains (s s' : Store) : Prop where
  script : s'.script = s.script
  credentials : s'.system.credentials = s.system.credentials

theorem retains_conclude (s : Store) (name : Nat) (take : Take) (turn : Turn) :
    s.Retains (s.conclude name take turn).1 := by
  cases turn with
  | ended => exact ⟨rfl, (s.system.continues_release name).keeps.credentials⟩
  | pending | dialing | acquired | refused => exact ⟨rfl, rfl⟩

theorem retains_follow (s : Store) (name : Nat) (take : Take) {result : System × Turn}
    (h : result.1.credentials = s.system.credentials) :
    s.Retains (s.follow name take result).1 := by
  obtain ⟨t, turn⟩ := result
  cases turn with
  | acquired dial =>
      have hcall := (t.keeps_call name (.request (s.script.call take.key take.now))).credentials
      have hlast := retains_conclude
        { s with system := (t.call name (.request (s.script.call take.key take.now))).1 } name take
        (t.call name (.request (s.script.call take.key take.now))).2
      exact ⟨hlast.script, hlast.credentials.trans (hcall.trans h)⟩
  | pending | dialing | refused | ended =>
      have hlast := retains_conclude { s with system := t } name take
      exact ⟨(hlast _).script, (hlast _).credentials.trans h⟩

theorem retains_step (s : Store) (action : Action) : s.Retains (s.step action).1 := by
  cases action with
  | take name key moment =>
      rw [Store.step, begin]
      split
      · exact ⟨rfl, rfl⟩
      · split
        · exact ⟨rfl, rfl⟩
        · split
          · exact ⟨rfl, rfl⟩
          · rename_i now hnow
            have h := retains_follow { s with takes := (name, ⟨key, now⟩) :: s.takes } name
              ⟨key, now⟩ (s.system.keeps_acquire name).credentials
            exact ⟨h.script, h.credentials⟩
  | event name event =>
      rw [Store.step]
      split
      · exact ⟨rfl, rfl⟩
      · exact s.retains_follow name _ (s.system.dwindles_react name event).keeps.credentials
  | giveUp name =>
      rw [Store.step]
      split
      · exact ⟨rfl, rfl⟩
      · exact ⟨rfl, ((s.system.continues_giveUp name).keeps.trans
          ((s.system.giveUp name).continues_release name).keeps).credentials⟩
  | close =>
      rw [Store.step]
      split <;> exact ⟨rfl, rfl⟩

/-! ### Calls and their trails -/

/-- How a call in progress stands to its trail. -/
inductive Follows (s : Store) (name : Nat) (take : Take) : Trail → Prop
  /-- A connection is being opened for it. -/
  | opening {dial : Nat} {attempt : Attempt} {greeting : Wire}
      (h : s.InProgress name take (.opening dial attempt))
      (hgreets : attempt.Greets s.system.credentials greeting) : Follows s name take { greeting }
  /-- It has a connection, and its request is in progress. -/
  | calling {dial : Nat} {x : Exchange} {greeting request : Wire} {kept : Bytes}
      (h : s.InProgress name take (.calling dial x))
      (hgreeted : greeting.Greeted s.system.credentials)
      (hround : request.Round kept (s.script.call take.key take.now).bytes x) :
      Follows s name take ⟨greeting, some kept, request⟩

theorem Follows.sends (h : s.Follows name take t) :
    t.Sends s.system.credentials (s.script.call take.key take.now).bytes := by
  cases h with
  | opening h hgreets => exact ⟨hgreets.greeted, Wire.sends_empty _, fun _ => rfl⟩
  | calling h hgreeted hround => exact ⟨hgreeted, hround.sends, fun hkept => by cases hkept⟩

theorem Follows.not_answered (h : s.Follows name take t) (a : Answer) :
    ¬t.Answered (s.script.call take.key take.now).bytes a := by
  cases h with
  | opening => exact Trail.not_answered_of_kept rfl _ a
  | calling h hgreeted hround => exact Trail.not_answered_of_round hround a

theorem Follows.inProgress (h : s.Follows name take t) :
    ∃ role, s.InProgress name take role := by
  cases h with
  | opening h => exact ⟨_, h⟩
  | calling h => exact ⟨_, h⟩

/-- What happens to others does not concern a call. -/
theorem Follows.spared (h : s.Follows name take t) (hname : action.name? ≠ some name) :
    (s.step action).1.Follows name take t := by
  have hspares := spares_step hname s
  have hretains := s.retains_step action
  cases h with
  | opening h hgreets =>
      exact .opening (h.spared hspares) (hretains.credentials.symm ▸ hgreets)
  | calling h hgreeted hround =>
      exact .calling (h.spared hspares) (hretains.credentials.symm ▸ hgreeted)
        (hretains.script.symm ▸ hround)

/-- What a call comes to in an action, with its trail after what passes in it. -/
inductive Turned (s : Store) (name : Nat) (take : Take) (t : Trail) :
    Store × List Notice → Prop
  /-- The call goes on. -/
  | goes {after : Store} (made : List Pool.Notice)
      (h : after.Follows name take (t.turn (after.system.role? name))) :
      Turned s name take t (after, made.map .pool)
  /-- The call fails, and the failure mode answers it. -/
  | failed {after : Store} (made : List Pool.Notice) {error : Error}
      (hsends : t.Sends s.system.credentials (s.script.call take.key take.now).bytes)
      (hnone : ∀ a, ¬t.Answered (s.script.call take.key take.now).bytes a) :
      Turned s name take t (after, made.map .pool ++ s.failed name take.key error)
  /-- The call is answered from the reply. -/
  | replied {after : Store} (made : List Pool.Notice) {a : Answer}
      (hsends : t.Sends s.system.credentials (s.script.call take.key take.now).bytes)
      (h : t.Answered (s.script.call take.key take.now).bytes a) :
      Turned s name take t
        (after, made.map .pool ++
          [.answered name ⟨s.limits.tokens, a.remaining, a.reset, a.allowed⟩])

/-- What a turn at the pool makes known comes after what passed in the event. -/
theorem Turned.after_traffic {after : Store × List Notice} (h : s.Turned name take t after)
    (traffic : List Pool.Notice) :
    s.Turned name take t (after.1, traffic.map .pool ++ after.2) := by
  cases h with
  | goes made h =>
      rw [← List.map_append]
      exact .goes _ h
  | failed made hsends hnone =>
      rw [← List.append_assoc, ← List.map_append]
      exact .failed _ hsends hnone
  | replied made hsends h =>
      rw [← List.append_assoc, ← List.map_append]
      exact .replied _ hsends h

/-- What a call comes to does not depend on the calls in progress before. -/
theorem Turned.of_takes {takes : List (Nat × Take)} {after : Store × List Notice}
    (h : Turned { s with takes } name take t after) : s.Turned name take t after := by
  cases h with
  | goes made h => exact .goes made h
  | failed made hsends hnone => exact .failed made hsends hnone
  | replied made hsends h => exact .replied made hsends h

/-- A call that takes another role at the pool goes on. -/
theorem turned_assign (sys : System) (role : Pool.Role) (made : List Pool.Notice)
    (h : (sys.assign name role).role? name = some role →
      Follows { s with system := sys.assign name role } name take (t.turn (some role))) :
    s.Turned name take t ({ s with system := sys.assign name role }, made.map .pool) := by
  have hassigned := System.role?_assign_self sys name role
  refine .goes made ?_
  dsimp only
  rw [hassigned]
  exact h hassigned

/-- A call that gets a connection makes its request on it. -/
theorem turned_acquired {sys : System} {session : Session} {greeting : Wire}
    (htake : s.take? name = some take) (hrole : sys.role? name = some (.holding session))
    (hcredentials : sys.credentials = s.system.credentials)
    (hgreeted : greeting.Greeted s.system.credentials) (dial : Nat) :
    s.Turned name take { greeting } (s.follow name take (sys, .acquired dial)) := by
  have hfollow : s.follow name take (sys, .acquired dial) =
      ({ s with system := sys.assign name (.calling session.dial ⟨⟨session.connection.buffer, true⟩,
          .request, .write (s.script.call take.key take.now).bytes⟩) },
        [Pool.Notice.acquired name dial].map .pool) := by
    rw [follow]
    dsimp only
    rw [System.call_of_holding hrole]
    rfl
  rw [hfollow]
  exact turned_assign sys _ _ fun hassigned =>
    .calling ⟨htake, hassigned⟩ (hcredentials.symm ▸ hgreeted) (Wire.round_start _ _)

/-- A call that is refused a connection fails. -/
theorem turned_refused {greeting : Wire} (hgreeted : greeting.Greeted s.system.credentials)
    (sys : System) (error : Error) :
    s.Turned name take { greeting } (s.follow name take (sys, .refused error)) :=
  .failed [.refused name error] ⟨hgreeted, Wire.sends_empty _, fun _ => rfl⟩
    (Trail.not_answered_of_kept rfl _)

/-- A call whose request has ended is answered. -/
theorem turned_ended {sys : System}
    (hsends : t.Sends s.system.credentials (s.script.call take.key take.now).bytes)
    {result : Result} (hresult : ∀ a, Answer.ofResult? result = .ok a ↔
      t.Answered (s.script.call take.key take.now).bytes a) :
    s.Turned name take t (s.follow name take (sys, .ended result)) := by
  change s.Turned name take t (conclude { s with system := sys } name take (.ended result))
  rw [conclude]
  dsimp only
  rw [decide?]
  cases hanswer : Answer.ofResult? result with
  | ok a =>
      exact .replied [.ended name result] hsends ((hresult a).1 hanswer)
  | error error =>
      refine .failed [.ended name result] hsends fun a ha => ?_
      cases hanswer.symm.trans ((hresult a).2 ha)

/-- What a call that is opening a connection comes to in an event. -/
theorem InProgress.turned_opening {attempt : Attempt} {greeting : Wire}
    (h : s.InProgress name take (.opening dial attempt))
    (hgreets : attempt.Greets s.system.credentials greeting) (event : Event) :
    s.Turned name take { greeting := attempt.observe greeting event }
      (s.follow name take (s.system.react name event)) := by
  have hreact : s.system.react name event =
      s.system.proceed name dial (attempt.step s.system.credentials event) := by
    rw [System.react, h.role]
  have houtcome := hgreets.outcome event
  rw [hreact]
  generalize attempt.step s.system.credentials event = p at houtcome ⊢
  cases houtcome with
  | waiting hgreets' =>
      exact turned_assign s.system _ [] fun hassigned => .opening ⟨h.take, hassigned⟩ hgreets'
  | @opened c hwhole hadmitted =>
      rw [System.proceed]
      split
      · exact turned_refused hadmitted.greeted _ _
      · exact turned_acquired h.take (System.role?_assign_self ..) rfl hadmitted.greeted dial
  | failed error hgreeted => exact turned_refused hgreeted _ error

/-- What a call whose request is in progress comes to in an event. -/
theorem InProgress.turned_calling {greeting request : Wire} {kept : Bytes}
    (h : s.InProgress name take (.calling dial x))
    (hgreeted : greeting.Greeted s.system.credentials)
    (hround : request.Round kept (s.script.call take.key take.now).bytes x) (event : Event) :
    s.Turned name take ⟨greeting, some kept, request.after x event⟩
      (s.follow name take (s.system.react name event)) := by
  have houtcome := hround.outcome event
  rw [System.react_of_calling h.role]
  generalize x.step event = p at houtcome ⊢
  cases houtcome with
  | waiting hround' =>
      exact turned_assign s.system _ [] fun hassigned =>
        .calling ⟨h.take, hassigned⟩ hgreeted hround'
  | failed herror hsends hnone =>
      refine turned_ended ⟨hgreeted, hsends, fun hkept => by cases hkept⟩ fun a => ?_
      refine iff_of_false (fun h => by cases h) ?_
      rintro ⟨_, reply, rest, hkept, hreplied, -⟩
      cases hkept
      exact hnone reply rest hreplied
  | @answered reply rest hreplied =>
      refine turned_ended ⟨hgreeted, hreplied.sends, fun hkept => by cases hkept⟩ fun a => ?_
      have hiff : Answer.ofResult? reply.result = .ok a ↔ Answer.ofReply? reply = .ok a := by
        rcases Answer.ofResult?_result reply with ⟨b, hread, hresult⟩ | ⟨hread, error, hresult⟩
        · rw [hread, hresult]
          exact Iff.of_eq (by simp)
        · rw [hresult]
          exact iff_of_false (fun h => by cases h) (hread a)
      rw [hiff]
      constructor
      · exact fun ha => ⟨kept, reply, rest, rfl, hreplied, ha⟩
      · rintro ⟨_, reply', rest', hkept, hreplied', ha⟩
        cases hkept
        cases hreplied.read.symm.trans hreplied'.read
        exact ha

/-- What a call in progress comes to in an event. -/
theorem Follows.turned_event (h : s.Follows name take t) (event : Event) :
    s.Turned name take (s.passed name t (.event name event)) (s.step (.event name event)) := by
  obtain ⟨role, hcall⟩ := h.inProgress
  have hpassed : s.passed name t (.event name event) = t.event event (s.system.role? name) :=
    if_pos rfl
  have hstep : s.step (.event name event) =
      ((s.follow name take (s.system.react name event)).1,
        (s.system.traffic name event).map .pool ++
          (s.follow name take (s.system.react name event)).2) := by
    rw [Store.step, hcall.take]
  rw [hpassed, hstep]
  refine Turned.after_traffic ?_ _
  cases h with
  | opening h hgreets =>
      rw [h.role]
      exact h.turned_opening hgreets event
  | calling h hgreeted hround =>
      rw [h.role]
      exact h.turned_calling hgreeted hround event

/-- What a call that asks for a connection comes to. -/
theorem turned_acquire (htake : s.take? name = some take) :
    s.Turned name take {} (s.follow name take (s.system.acquire name)) := by
  have hgreeted := Wire.greeted_empty s.system.credentials
  have hacquires := s.system.acquires name
  generalize s.system.acquire name = result at hacquires ⊢
  cases hacquires with
  | closed | exhausted => exact turned_refused hgreeted _ _
  | session =>
      refine turned_acquired htake (System.role?_assign_self ..) ?_ hgreeted _
      rfl
  | slot =>
      exact turned_assign { s.system with
        pool := { s.system.pool with live := s.system.pool.live + 1 }
        dialed := s.system.dialed + 1 } _ [.dialed _] fun hassigned =>
          .opening ⟨htake, hassigned⟩ .connecting

/-- What a call comes to when it begins. -/
theorem turned_take (hfree : s.take? name = none) (hopen : s.closed = false) {key : String}
    {moment : Moment} {now : Nat} (hnow : moment.nanos? = .ok now) :
    s.Turned name ⟨key, now⟩ {} (s.step (.take name key moment)) := by
  have hstep : s.step (.take name key moment) =
      { s with takes := (name, ⟨key, now⟩) :: s.takes }.follow name ⟨key, now⟩
        (s.system.acquire name) := by
    rw [Store.step, if_neg (by rw [hfree]; exact Bool.false_ne_true), begin,
      if_neg (by rw [hopen]; exact Bool.false_ne_true), hnow]
  have htake : take? { s with takes := (name, ⟨key, now⟩) :: s.takes } name = some ⟨key, now⟩ := by
    rw [take?_cons, if_pos rfl]
  rw [hstep]
  exact .of_takes (turned_acquire htake)

end Store

end RateLimit
