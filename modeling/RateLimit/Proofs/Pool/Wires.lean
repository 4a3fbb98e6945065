import Mathlib.Logic.Function.Basic
import RateLimit.Proofs.Connection.Wire
import RateLimit.Proofs.Pool.Ledger

/-!
# What passes over the transports of a pool

Beside a pool and its users stands a record of what has passed over every transport.  While the
server answers the commands that reach it in their order, every command on an idle connection is
answered and nothing is left in its buffer, and every call in progress is the last one on its
transport.  So a call that ends with a reply has got the answer to its own command.

## Main definitions

* `Pool.System.observe` : what has passed after an event.
* `Pool.Session.AtRest` : a connection on which nothing is outstanding.
* `Pool.Role.Tracked`, `Pool.System.Tracked` : how a role, and a pool in use, stand to what has
  passed.

## Main results

* `Pool.System.Tracked.react`, `Pool.System.Tracked.acquire`, `Pool.System.Tracked.request`,
  `Pool.System.Tracked.release`, `Pool.System.Tracked.giveUp`, `Pool.System.Tracked.close` : what
  happens to a pool keeps it in step with what has passed.
* `Pool.Opening.Tracked.step` : so does its opening.
-/

namespace RateLimit

/-- A connection on which nothing is outstanding: every command that went over its transport is
answered, and the answers are read. -/
structure Session.AtRest (server : Server) (wires : Nat → Wire) (session : Session) : Prop where
  buffer : session.connection.buffer = []
  settled : Wire.Settled server session.dial (wires session.dial)

theorem Session.AtRest.congr {server : Server} {wires wires' : Nat → Wire} {session : Session}
    (h : session.AtRest server wires) (hwires : wires' session.dial = wires session.dial) :
    session.AtRest server wires' :=
  ⟨h.buffer, hwires ▸ h.settled⟩

namespace Pool

/-! ### Observation -/

/-- The call or request through which a user uses its transport at the moment. -/
def Role.exchange? : Role → Option Exchange
  | .opening _ .connecting => none
  | .opening _ (.authenticating x) => some x
  | .holding _ => none
  | .calling _ x => some x

/-- What has passed over the transports after an event for a user in the given role. -/
def Role.observe (wires : Nat → Wire) (role : Role) (event : Event) : Nat → Wire :=
  match role.exchange? with
  | some x => Function.update wires role.dial ((wires role.dial).after x event)
  | none => wires

/-- What has passed over the transports after an event for a user. -/
def System.observe (wires : Nat → Wire) (s : System) (user : Nat) (event : Event) : Nat → Wire :=
  match s.role? user with
  | some role => role.observe wires event
  | none => wires

variable {server : Server} {wires wires' : Nat → Wire} {dial user : Nat} {command : Bytes}
  {role role' : Role} {event : Event}

theorem Role.observe_of_ne (h : dial ≠ role.dial) : role.observe wires event dial = wires dial := by
  rw [Role.observe]
  cases role.exchange? with
  | none => rfl
  | some x => exact Function.update_of_ne h _ _

/-! ### Roles -/

/-- How a user stands to what has passed over its transport, if its call is to send the given
command. -/
inductive Role.Tracked (server : Server) (wires : Nat → Wire) (command : Bytes) : Role → Prop
  /-- Nothing passes before the transport is open. -/
  | connecting {dial : Nat} (h : wires dial = {}) :
      Tracked server wires command (.opening dial .connecting)
  /-- The credentials are the first that passes. -/
  | authenticating {dial : Nat} {credentials : Bytes} {x : Exchange}
      (h : Wire.Stage {} credentials (wires dial) x) :
      Tracked server wires command (.opening dial (.authenticating x))
  /-- Nothing is outstanding on a connection that is held whole. -/
  | holding {session : Session}
      (h : session.connection.broken = false → session.AtRest server wires) :
      Tracked server wires command (.holding session)
  /-- Nothing was outstanding when the call began. -/
  | calling {dial : Nat} {before : Wire} {x : Exchange} (hbefore : Wire.Settled server dial before)
      (h : Wire.Stage before command (wires dial) x) :
      Tracked server wires command (.calling dial x)

theorem Role.Tracked.isRequest (h : role.Tracked server wires command) : role.IsRequest := by
  cases h with
  | connecting => exact .opening _ .connecting
  | authenticating h => exact .opening _ (.authenticating h.isRequest)
  | holding => exact .holding _
  | calling => exact .calling _ _

/-- What passes over other transports does not concern a user. -/
theorem Role.Tracked.congr (h : role.Tracked server wires command)
    (hwires : wires' role.dial = wires role.dial) : role.Tracked server wires' command := by
  cases h with
  | connecting h => exact .connecting (hwires.trans h)
  | authenticating h => exact .authenticating (hwires ▸ h)
  | holding h =>
      exact .holding fun hwhole => (h hwhole).congr hwires
  | calling hbefore h => exact .calling hbefore (hwires ▸ h)

/-- What an attempt to open a connection comes to in an event. -/
inductive Attempt.Outcome (server : Server) (wires : Nat → Wire) (dial : Nat) :
    Attempt.Progress → Prop
  /-- The attempt goes on. -/
  | waiting {attempt : Attempt}
      (h : ∀ command, (Role.opening dial attempt).Tracked server wires command) :
      Outcome server wires dial (.waiting attempt)
  /-- The connection is open, and nothing is outstanding on it. -/
  | opened (h : Wire.Settled server dial (wires dial)) : Outcome server wires dial (.opened {})
  /-- The attempt has failed. -/
  | failed (error : Error) : Outcome server wires dial (.failed error)

theorem outcome_ofRequest {before : Wire} {credentials : Bytes} {x : Exchange}
    {p : RateLimit.Progress} (h : Wire.Outcome server dial before credentials x (wires dial) p)
    (hbefore : before = {}) :
    Attempt.Outcome server wires dial (Attempt.ofRequest p) := by
  subst hbefore
  cases h with
  | waiting h => exact .waiting fun _ => .authenticating h
  | failed hbroken herror => cases herror <;> exact .failed _
  | @answered reply _ _ _ hw =>
      cases reply with
      | status => exact .opened hw
      | error | integer | bulk | null | array => exact .failed _

/-- What an attempt that has kept in step comes to in an event. -/
theorem Role.Tracked.attempt {attempt : Attempt}
    (h : (Role.opening dial attempt).Tracked server wires command)
    (credentials : Option Credentials) (event : Event)
    (hallows : server.Allows dial ((Role.opening dial attempt).observe wires event dial)) :
    Attempt.Outcome server ((Role.opening dial attempt).observe wires event) dial
      (attempt.step credentials event) := by
  cases h with
  | connecting h =>
      change Attempt.Outcome server wires dial _
      cases event with
      | connected =>
          cases credentials with
          | none => exact .opened (h ▸ Wire.settled_empty server dial)
          | some credentials =>
              change Attempt.Outcome server wires dial
                (Attempt.ofRequest (Connection.start {} (.request credentials.command)))
              rw [Connection.start_request rfl]
              exact .waiting fun _ => .authenticating <|
                h.symm.subst (motive := fun w => Wire.Stage {} _ w _)
                  ((Wire.settled_empty server dial).stage_start _)
      | connectFailed => exact .failed _
      | _ => exact .waiting fun _ => .connecting h
  | @authenticating _ _ x h =>
      have hwire : (Role.opening dial (.authenticating x)).observe wires event dial =
          (wires dial).after x event := Function.update_self ..
      rw [hwire] at hallows
      have houtcome := h.outcome (Wire.settled_empty server dial) event hallows
      rw [← hwire] at houtcome
      exact outcome_ofRequest houtcome rfl

/-! ### Pools in use -/

/-- How a pool and its users stand to what has passed, where the call of each user is to send the
command that is given for it. -/
structure System.Tracked (server : Server) (wires : Nat → Wire) (order : Nat → Bytes)
    (s : System) : Prop where
  sound : s.Sound
  idle : ∀ session ∈ s.pool.idle, session.AtRest server wires
  users : ∀ user role, s.role? user = some role → role.Tracked server wires (order user)
  unused : ∀ dial, s.dialed ≤ dial → wires dial = {}

namespace System

variable {s : System} {order order' : Nat → Bytes} {pool : Pool}

theorem Sound.idle_ne (h : s.Sound) (hrole : s.role? user = some role) {session : Session}
    (hsession : session ∈ s.pool.idle) : session.dial ≠ role.dial := by
  intro heq
  have hnodup := (perm_dials h.names hrole).nodup_iff.1 h.dials
  refine (List.nodup_cons.1 hnodup).1 (List.mem_append_left _ ?_)
  exact List.mem_map.2 ⟨session, hsession, heq⟩

theorem Sound.other_ne (h : s.Sound) (hrole : s.role? user = some role) {other : Nat}
    (hother : s.role? other = some role') (hne : other ≠ user) : role'.dial ≠ role.dial := by
  intro heq
  have hnodup := (perm_dials h.names hrole).nodup_iff.1 h.dials
  have hmem : (other, role') ∈ s.others user :=
    List.mem_filter.2 ⟨mem_of_lookup hother, decide_eq_true hne⟩
  refine (List.nodup_cons.1 hnodup).1 (List.mem_append_right _ ?_)
  exact List.mem_map.2 ⟨_, hmem, heq⟩

theorem Sound.role_lt (h : s.Sound) (hrole : s.role? user = some role) : role.dial < s.dialed :=
  h.dial_lt _ ((perm_dials h.names hrole).mem_iff.2 List.mem_cons_self)

/-- Only the commands of those who use the pool matter. -/
theorem Tracked.congr (h : s.Tracked server wires order)
    (horder : ∀ user, s.role? user ≠ none → order' user = order user) :
    s.Tracked server wires order' where
  sound := h.sound
  idle := h.idle
  users := fun user role hrole => by
    rw [horder user (by simp [hrole])]
    exact h.users user role hrole
  unused := h.unused

/-- A user goes on, and nothing has passed but over its own transport. -/
theorem Tracked.assign (h : s.Tracked server wires order) (hrole : s.role? user = some role)
    (role' : Role) (hdial : role'.dial = role.dial)
    (hwires : ∀ dial, dial ≠ role.dial → wires' dial = wires dial)
    (hrole' : role'.Tracked server wires' (order user)) :
    (s.assign user role').Tracked server wires' order where
  sound := h.sound.assign hrole hdial hrole'.isRequest
  idle := fun session hmem =>
    (h.idle session hmem).congr (hwires _ (h.sound.idle_ne hrole hmem))
  users := by
    intro other role'' hother
    rw [role?_assign] at hother
    split_ifs at hother with heq
    · cases hother
      exact heq ▸ hrole'
    · exact (h.users other role'' hother).congr (hwires _ (h.sound.other_ne hrole hother heq))
  unused := fun dial hdial' => by
    have hlt := h.sound.role_lt hrole
    change s.dialed ≤ dial at hdial'
    rw [hwires dial (by omega)]
    exact h.unused dial hdial'

/-- A user goes, and nothing has passed but over its own transport. -/
theorem Tracked.dismiss (h : s.Tracked server wires order) (hrole : s.role? user = some role)
    (hwires : ∀ dial, dial ≠ role.dial → wires' dial = wires dial)
    (hsound : (s.dismiss user pool).Sound)
    (hidle : ∀ session ∈ pool.idle, session ∈ s.pool.idle ∨ session.AtRest server wires') :
    (s.dismiss user pool).Tracked server wires' order where
  sound := hsound
  idle := by
    intro session hmem
    rcases hidle session hmem with hold | hnew
    · exact (h.idle session hold).congr (hwires _ (h.sound.idle_ne hrole hold))
    · exact hnew
  users := by
    intro other role' hother
    rw [role?_dismiss] at hother
    split_ifs at hother with heq
    exact (h.users other role' hother).congr (hwires _ (h.sound.other_ne hrole hother heq))
  unused := fun dial hdial => by
    have hlt := h.sound.role_lt hrole
    change s.dialed ≤ dial at hdial
    rw [hwires dial (by omega)]
    exact h.unused dial hdial

/-! ### What happens to a pool -/

/-- How a call of a user ends: it fails, or it has got the answer to the last command on its
transport, which is the one it was to send. -/
inductive Ends (server : Server) (wires : Nat → Wire) (order : Nat → Bytes) (s : System)
    (user : Nat) : Result → Prop
  | failed {error : Error} (herror : error.OfExchange) :
      Ends server wires order s user (.error error)
  | answered {dial : Nat} {x : Exchange} {earlier : List Bytes} {reply : Reply}
      (hrole : s.role? user = some (.calling dial x)) (hawaiting : x.awaiting = .read)
      (hcommands : (wires dial).commands = earlier ++ [order user])
      (hreply : server.Answers dial earlier.length reply) :
      Ends server wires order s user reply.result

/-- A pool that is in step with what has passed, and the turn of a user that led to it. -/
inductive Turned (server : Server) (wires : Nat → Wire) (order : Nat → Bytes) (user : Nat)
    (ends : Result → Prop) : System × Turn → Prop
  | pending {t : System} (h : t.Tracked server wires order) :
      Turned server wires order user ends (t, .pending)
  | dialing {t : System} (h : t.Tracked server wires order) (dial : Nat) :
      Turned server wires order user ends (t, .dialing dial)
  /-- The user is gone. -/
  | refused {t : System} (h : t.Tracked server wires order) (hrole : t.role? user = none)
      (error : Error) : Turned server wires order user ends (t, .refused error)
  /-- The connection is whole, with nothing outstanding on it. -/
  | acquired {t : System} (h : t.Tracked server wires order) {dial : Nat}
      (hrole : t.role? user = some (.holding ⟨dial, {}⟩)) :
      Turned server wires order user ends (t, .acquired dial)
  | ended {t : System} (h : t.Tracked server wires order) {session : Session}
      (hrole : t.role? user = some (.holding session)) {result : Result} (hends : ends result) :
      Turned server wires order user ends (t, .ended result)

theorem Turned.tracked {ends : Result → Prop} {result : System × Turn}
    (h : Turned server wires order user ends result) : result.1.Tracked server wires order := by
  cases h <;> assumption

/-- A session that is taken from the idle ones is as good as new. -/
theorem Tracked.eq_of_idle (h : s.Tracked server wires order) {session : Session}
    (hmem : session ∈ s.pool.idle) : session = ⟨session.dial, {}⟩ := by
  obtain ⟨dial, buffer, broken⟩ := session
  obtain rfl : broken = false := h.sound.whole _ hmem
  obtain rfl : buffer = [] := (h.idle _ hmem).buffer
  rfl

/-- Somebody new comes with a connection of its own, and nothing passes. -/
theorem Tracked.join {t : System} (h : s.Tracked server wires order)
    (hsound : (t.assign user role).Sound) (husers : t.users = s.users)
    (hidle : ∀ session ∈ t.pool.idle, session ∈ s.pool.idle) (hdialed : s.dialed ≤ t.dialed)
    (hrole : role.Tracked server wires (order user)) :
    (t.assign user role).Tracked server wires order where
  sound := hsound
  idle := fun session hmem => h.idle session (hidle session hmem)
  users := by
    intro other role' hother
    rw [role?_assign] at hother
    split_ifs at hother with heq
    · cases hother
      exact heq ▸ hrole
    · rw [role?, husers] at hother
      exact h.users other role' hother
  unused := fun dial hdial => h.unused dial (Nat.le_trans hdialed hdial)

/-- Whoever asks for a connection gets one with nothing outstanding on it, or begins to open one
over which nothing has passed. -/
theorem Tracked.acquire (h : s.Tracked server wires order) (hfree : s.role? user = none)
    (ends : Result → Prop) : Turned server wires order user ends (s.acquire user) := by
  have hsound := h.sound.acquire hfree
  have hacquires := s.acquires user
  generalize s.acquire user = result at hsound hacquires ⊢
  cases hacquires with
  | closed | exhausted => exact .refused h hfree _
  | @session session idle hidle =>
      have hmem : session ∈ s.pool.idle := hidle ▸ List.mem_cons_self
      have hrest : ∀ other ∈ idle, other ∈ s.pool.idle := fun other hother =>
        hidle ▸ List.mem_cons_of_mem session hother
      refine .acquired (h.join hsound rfl hrest (Nat.le_refl _) ?_) ?_
      · exact .holding fun _ => h.idle session hmem
      · rw [role?_assign_self, ← h.eq_of_idle hmem]
  | slot hidle hroom =>
      refine .dialing (h.join hsound rfl (fun _ => id) (Nat.le_succ _) ?_) _
      exact .connecting (h.unused _ (Nat.le_refl _))

/-- An attempt that goes on in step keeps the pool in step. -/
theorem Tracked.proceed (h : s.Tracked server wires order) {attempt : Attempt}
    (hrole : s.role? user = some (.opening dial attempt))
    (hwires : ∀ other, other ≠ dial → wires' other = wires other) {p : Attempt.Progress}
    (hp : Attempt.Outcome server wires' dial p) (ends : Result → Prop) :
    Turned server wires' order user ends (s.proceed user dial p) := by
  have hgone := h.dismiss hrole hwires (h.sound.giveBack hrole) fun _ => .inl
  have hnone : (s.dismiss user s.pool.giveBack).role? user = none := role?_dismiss_self ..
  cases hp with
  | @waiting attempt hattempt =>
      exact .pending (h.assign hrole (.opening dial attempt) rfl hwires (hattempt _))
  | failed error => exact .refused hgone hnone error
  | opened hw =>
      rw [System.proceed]
      split
      · exact .refused hgone hnone _
      · refine .acquired (h.assign hrole (.holding ⟨dial, {}⟩) rfl hwires ?_) ?_
        · exact .holding fun _ => ⟨rfl, hw⟩
        · exact role?_assign_self s user _

/-- A call that goes on in step keeps the pool in step. -/
theorem Tracked.advance (h : s.Tracked server wires order) {x : Exchange}
    (hrole : s.role? user = some (.calling dial x))
    (hwires : ∀ other, other ≠ dial → wires' other = wires other) {before : Wire}
    (hbefore : Wire.Settled server dial before)
    (hstage : Wire.Stage before (order user) (wires dial) x) {p : RateLimit.Progress}
    (hp : Wire.Outcome server dial before (order user) x (wires' dial) p) :
    Turned server wires' order user (Ends server wires order s user) (s.advance user dial p) := by
  cases hp with
  | @waiting x' hnext =>
      exact .pending (h.assign hrole (.calling dial x') rfl hwires (.calling hbefore hnext))
  | @failed c error hbroken herror =>
      refine .ended (h.assign hrole (.holding ⟨dial, c⟩) rfl hwires ?_) (role?_assign_self ..)
        (.failed herror)
      refine .holding fun hwhole => ?_
      cases hbroken.symm.trans hwhole
  | answered hawaiting hreply hcommands hw =>
      refine .ended (h.assign hrole (.holding ⟨dial, {}⟩) rfl hwires ?_) (role?_assign_self ..) ?_
      · exact .holding fun _ => ⟨rfl, hw⟩
      · exact .answered hrole hawaiting (hstage.commands_of_read hawaiting) hreply

theorem observe_of_role (hrole : s.role? user = some role) :
    s.observe wires user event = role.observe wires event := by
  rw [System.observe, hrole]

/-- An event for a user does not concern the transports of the others. -/
theorem Sound.observe_of_ne (h : s.Sound) {other : Nat} (hother : s.role? other = some role)
    (hne : other ≠ user) (wires : Nat → Wire) (event : Event) :
    s.observe wires user event role.dial = wires role.dial := by
  rw [System.observe]
  cases hrole : s.role? user with
  | none => rfl
  | some role' => exact Role.observe_of_ne (h.other_ne hrole hother hne)

/-- An event keeps a pool in step, if what passes in it is the doing of the server. -/
theorem Tracked.react (h : s.Tracked server wires order) (user : Nat) (event : Event)
    (hallows : ∀ dial, server.Allows dial (s.observe wires user event dial)) :
    Turned server (s.observe wires user event) order user (Ends server wires order s user)
      (s.react user event) := by
  rw [System.react]
  rcases hrole : s.role? user with _ | role
  · rw [System.observe, hrole]
    exact .pending h
  · have hwires : ∀ other, other ≠ role.dial → role.observe wires event other = wires other :=
      fun _ hother => Role.observe_of_ne hother
    have htracked := h.users user role hrole
    rw [observe_of_role hrole] at hallows ⊢
    cases role with
    | opening dial attempt =>
        exact h.proceed hrole hwires (htracked.attempt s.credentials event (hallows dial)) _
    | holding session => exact .pending h
    | calling dial x =>
        cases htracked with
        | calling hbefore hstage =>
            have hwire : (Role.calling dial x).observe wires event dial =
                (wires dial).after x event := Function.update_self ..
            refine h.advance hrole hwires hbefore hstage ?_
            rw [hwire]
            exact hstage.outcome hbefore event (hwire ▸ hallows dial)

/-- A request on a whole connection that is held begins with nothing outstanding. -/
theorem Tracked.request (h : s.Tracked server wires order)
    (hrole : s.role? user = some (.holding ⟨dial, {}⟩)) {command : Command}
    (hbytes : command.encode = .ok (order user)) :
    ∃ t x, s.call user (.request command) = (t, .pending) ∧ t.Tracked server wires order ∧
      t.role? user = some (.calling dial x) ∧ x.awaiting = .write (order user) := by
  have hrest : Wire.Settled server dial (wires dial) := by
    cases h.users user _ hrole with
    | holding hrest => exact (hrest rfl).settled
  have hstage := hrest.stage_start (order user)
  refine ⟨s.assign user (.calling dial _), ⟨⟨[], true⟩, .request, .write (order user)⟩, ?_, ?_,
    role?_assign_self .., rfl⟩
  · rw [System.call, hrole]
    dsimp only
    rw [Connection.start_request hbytes]
    rfl
  · exact h.assign hrole (.calling dial _) rfl (fun _ _ => rfl) (.calling hrest hstage)

/-- A connection that is given back is destroyed or has nothing outstanding. -/
theorem Tracked.release (h : s.Tracked server wires order) (user : Nat) :
    (s.release user).Tracked server wires order := by
  have hsound := h.sound.release user
  rw [System.release] at hsound ⊢
  split at hsound
  · rename_i session hrole
    refine h.dismiss hrole (fun _ _ => rfl) hsound fun other hother => ?_
    rcases s.pool.release_cases session with ⟨-, hgone⟩ | ⟨-, hwhole, hkept⟩
    · rw [hgone] at hother
      exact .inl hother
    · rw [hkept] at hother
      rcases List.mem_cons.1 hother with rfl | hold
      · cases h.users user _ hrole with
        | holding hrest => exact .inr (hrest hwhole)
      · exact .inl hold
  · exact h

/-- Giving up gives back a slot, or leaves a connection behind that counts as broken. -/
theorem Tracked.giveUp (h : s.Tracked server wires order) (user : Nat) :
    (s.giveUp user).Tracked server wires order := by
  rw [System.giveUp]
  split
  · rename_i hrole
    exact h.dismiss hrole (fun _ _ => rfl) (h.sound.giveBack hrole) fun _ => .inl
  · rename_i dial x hrole
    refine h.assign hrole (.holding ⟨dial, x.connection⟩) rfl (fun _ _ => rfl) ?_
    refine .holding fun hwhole => ?_
    cases h.users user _ hrole with
    | calling _ hstage => cases hstage.isRequest.broken.symm.trans hwhole
  · exact h

/-- Closing a pool destroys connections and nothing else. -/
theorem Tracked.close (h : s.Tracked server wires order) :
    s.close.Tracked server wires order where
  sound := h.sound.close
  idle := by
    intro session hmem
    rw [System.close, Pool.close] at hmem
    split at hmem
    · exact h.idle session hmem
    · cases hmem
  users := h.users
  unused := h.unused

end System

/-! ### Opening -/

namespace Opening

variable {o : Opening} {settings : PoolSettings} {opened : List Session}

/-- What has passed over the transports after an event during the opening of a pool. -/
def observe (wires : Nat → Wire) (o : Opening) (event : Event) : Nat → Wire :=
  (Role.opening o.dial o.attempt).observe wires event

/-- How a pool that is being opened stands to what has passed. -/
structure Tracked (server : Server) (wires : Nat → Wire) (o : Opening) : Prop where
  attempt : ∀ command, (Role.opening o.dial o.attempt).Tracked server wires command
  opened : ∀ session ∈ o.opened, session.AtRest server wires
  unused : ∀ dial, o.dial < dial → wires dial = {}

/-- How far the opening of a pool has come, in step with what has passed. -/
inductive Progress.Tracked (server : Server) (wires : Nat → Wire) : Progress → Prop
  | waiting {o : Opening} (h : o.Tracked server wires) : Tracked server wires (.waiting o)
  | opened {s : System} (h : ∀ order, s.Tracked server wires order) (husers : s.users = []) :
      Tracked server wires (.opened s)
  | failed (error : Error) (dropped : List Nat) : Tracked server wires (.failed error dropped)

theorem next_tracked (hsound : (next settings opened).1.Sound settings)
    (hopened : ∀ session ∈ opened, session.AtRest server wires)
    (hunused : ∀ dial, opened.length ≤ dial → wires dial = {}) :
    (next settings opened).1.Tracked server wires := by
  by_cases hroom : opened.length < settings.initialSize
  · rw [next, if_pos hroom]
    exact .waiting {
      attempt := fun _ => .connecting (hunused _ (Nat.le_refl _))
      opened := hopened
      unused := fun dial hdial => hunused dial (Nat.le_of_lt hdial) }
  · rw [next, if_neg hroom] at hsound ⊢
    cases hsound with
    | opened hsound =>
        refine .opened (fun order => ?_) rfl
        exact {
          sound := hsound
          idle := hopened
          users := fun user role hrole => by cases hrole
          unused := hunused }

/-- An event keeps the opening of a pool in step, if what passes in it is the doing of the
server. -/
theorem Tracked.step (h : o.Tracked server wires) (hnumbered : Numbered o.opened) (event : Event)
    (hsound : (o.step event).1.Sound o.settings)
    (hallows : server.Allows o.dial (o.observe wires event o.dial)) :
    (o.step event).1.Tracked server (o.observe wires event) := by
  have hwires : ∀ dial, dial ≠ o.dial → o.observe wires event dial = wires dial :=
    fun dial hdial => Role.observe_of_ne hdial
  have hopened : ∀ session ∈ o.opened, session.AtRest server (o.observe wires event) := by
    intro session hmem
    have hlt : session.dial < o.opened.length := by
      have hdial := List.mem_map_of_mem (f := Session.dial) hmem
      rw [hnumbered.dials, List.mem_reverse] at hdial
      exact List.mem_range.1 hdial
    exact (h.opened session hmem).congr (hwires _ (Nat.ne_of_lt hlt))
  have hunused : ∀ dial, o.dial < dial → o.observe wires event dial = {} := fun dial hdial =>
    (hwires dial (Nat.ne_of_gt hdial)).trans (h.unused dial hdial)
  have houtcome := (h.attempt []).attempt o.settings.credentials event hallows
  rw [Opening.step] at hsound ⊢
  generalize o.attempt.step o.settings.credentials event = p at houtcome hsound ⊢
  cases houtcome with
  | waiting hattempt => exact .waiting ⟨hattempt, hopened, hunused⟩
  | failed error => exact .failed error _
  | opened hw =>
      exact next_tracked hsound (List.forall_mem_cons.2 ⟨⟨rfl, hw⟩, hopened⟩) hunused

end Opening

end Pool

end RateLimit
