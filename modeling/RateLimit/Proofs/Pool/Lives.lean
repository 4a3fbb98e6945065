import RateLimit.Proofs.Connection.RoundTrip
import RateLimit.Proofs.Pool.Draining

/-!
# The life of a transport

A transport of a pool is opened, perhaps to present credentials, and then passes from hand to hand:
it is held, it carries a call, it is idle, until it is closed for good.  What has passed over it
depends on what happened to itself, never on the other transports of the pool.  So what is true of
every single life of a transport is true of all transports in every run of a pool.

## Main definitions

* `Pool.Life` : the lives of transports, each with its user and what has passed over it.
* `Pool.System.Lives` : every transport of a pool lives such a life.
* `Pool.Observed` : the runs of pools from the beginning of their opening, with what has passed.

## Main results

* `Pool.System.Lives.step` : whatever happens to a pool, its transports live on.
* `Pool.Observed.lives` : every transport lives a life in every run.
-/

namespace RateLimit

/-- The role of a user whose attempt to open a connection has come so far; none if it has failed. -/
def Attempt.Progress.role? (dial : Nat) : Attempt.Progress → Option Pool.Role
  | .waiting attempt => some (.opening dial attempt)
  | .opened connection => some (.holding ⟨dial, connection⟩)
  | .failed _ => none

/-- The role of a user whose call has come so far. -/
def Progress.role (dial : Nat) : Progress → Pool.Role
  | .waiting x => .calling dial x
  | .finished connection _ => .holding ⟨dial, connection⟩

namespace Pool

/-- A transport, by what it is used for and what has passed over it, where connections are used for
some calls only.  An idle connection counts as held, and a transport that nobody uses any more has
no use. -/
inductive Life (credentials : Option Credentials) (allowed : Connection → Call → Prop) :
    Option Role → Wire → Prop
  /-- Somebody begins to open it. -/
  | dialed (dial : Nat) : Life credentials allowed (some (.opening dial .connecting)) {}
  /-- Something happens while it is being opened. -/
  | attempt {dial : Nat} {attempt : Attempt} {w : Wire}
      (h : Life credentials allowed (some (.opening dial attempt)) w) (event : Event) :
      Life credentials allowed ((attempt.step credentials event).role? dial)
        (attempt.observe w event)
  /-- Its user begins a call. -/
  | call {session : Session} {w : Wire} (h : Life credentials allowed (some (.holding session)) w)
      {call : Call} (hcall : allowed session.connection call) :
      Life credentials allowed (some ((session.connection.start call).role session.dial)) w
  /-- Something happens in a call. -/
  | event {dial : Nat} {x : Exchange} {w : Wire}
      (h : Life credentials allowed (some (.calling dial x)) w) (event : Event) :
      Life credentials allowed (some ((x.step event).role dial)) (w.after x event)
  /-- Its user gives up a call. -/
  | giveUp {dial : Nat} {x : Exchange} {w : Wire}
      (h : Life credentials allowed (some (.calling dial x)) w) :
      Life credentials allowed (some (.holding ⟨dial, x.connection⟩)) w
  /-- It is closed. -/
  | closed {role : Role} {w : Wire} (h : Life credentials allowed (some role) w) :
      Life credentials allowed none w

variable {credentials : Option Credentials} {allowed : Connection → Call → Prop}
  {wires wires' : Nat → Wire} {user : Nat} {role role' : Role}

theorem observe_opening (wires : Nat → Wire) (dial : Nat) (attempt : Attempt) (event : Event) :
    (Role.opening dial attempt).observe wires event dial = attempt.observe (wires dial) event := by
  cases attempt with
  | connecting => rfl
  | authenticating => exact Function.update_self ..

/-! ### Pools in use -/

namespace System

/-- Every transport of a pool in use lives a life; nothing has passed over those to come. -/
structure Lives (credentials : Option Credentials) (allowed : Connection → Call → Prop)
    (wires : Nat → Wire) (s : System) : Prop where
  presents : s.credentials = credentials
  idle : ∀ session ∈ s.pool.idle, Life credentials allowed (some (.holding session))
    (wires session.dial)
  users : ∀ user role, s.role? user = some role →
    Life credentials allowed (some role) (wires role.dial)
  all : ∀ dial, Life credentials allowed none (wires dial)
  unused : ∀ dial, s.dialed ≤ dial → wires dial = {}

/-- What has passed over the transports after an action. -/
def record (wires : Nat → Wire) (s : System) : Action → Nat → Wire
  | .event user event => s.observe wires user event
  | _ => wires

/-- An action does not begin a call but one of those that are allowed. -/
def Allows (allowed : Connection → Call → Prop) (s : System) (action : Action) : Prop :=
  ∀ user session call, action = .call user call → s.role? user = some (.holding session) →
    allowed session.connection call

variable {s : System}

theorem Balanced.sound (h : s.Balanced) : (s.resize s.pool.live).Sound :=
  h.resize (Nat.le_refl _)

/-- From one record to another nothing has passed but over the transport of a user. -/
theorem Lives.all_of (h : s.Lives credentials allowed wires) {dial : Nat}
    (hwires : ∀ other, other ≠ dial → wires' other = wires other)
    (hlife : Life credentials allowed none (wires' dial)) (other : Nat) :
    Life credentials allowed none (wires' other) := by
  by_cases hne : other = dial
  · exact hne ▸ hlife
  · exact (hwires other hne).symm ▸ h.all other

theorem Lives.unused_of (h : s.Lives credentials allowed wires) (hs : s.Balanced)
    (hrole : s.role? user = some role)
    (hwires : ∀ dial, dial ≠ role.dial → wires' dial = wires dial) (dial : Nat)
    (hdial : s.dialed ≤ dial) : wires' dial = {} := by
  have hlt : role.dial < s.dialed := hs.sound.role_lt hrole
  rw [hwires dial (Nat.ne_of_gt (hlt.trans_le hdial))]
  exact h.unused dial hdial

/-- A user goes on, and nothing has passed but over its own transport. -/
theorem Lives.assign (h : s.Lives credentials allowed wires) (hs : s.Balanced)
    (hrole : s.role? user = some role) (hdial : role'.dial = role.dial)
    (hwires : ∀ dial, dial ≠ role.dial → wires' dial = wires dial)
    (hlife : Life credentials allowed (some role') (wires' role.dial)) :
    (s.assign user role').Lives credentials allowed wires' where
  presents := h.presents
  idle := fun session hmem =>
    (hwires _ (hs.sound.idle_ne hrole hmem)).symm ▸ h.idle session hmem
  users := by
    intro other role'' hother
    rw [role?_assign] at hother
    split_ifs at hother with heq
    · cases hother
      exact hdial.symm ▸ hlife
    · exact (hwires _ (hs.sound.other_ne hrole hother heq)).symm ▸ h.users other role'' hother
  all := h.all_of hwires hlife.closed
  unused := h.unused_of hs hrole hwires

/-- A user goes, and nothing has passed but over its own transport. -/
theorem Lives.dismiss (h : s.Lives credentials allowed wires) (hs : s.Balanced)
    (hrole : s.role? user = some role)
    (hwires : ∀ dial, dial ≠ role.dial → wires' dial = wires dial)
    (hlife : Life credentials allowed none (wires' role.dial)) {pool : Pool}
    (hidle : ∀ session ∈ pool.idle, session ∈ s.pool.idle ∨
      Life credentials allowed (some (.holding session)) (wires' session.dial)) :
    (s.dismiss user pool).Lives credentials allowed wires' where
  presents := h.presents
  idle := by
    intro session hmem
    rcases hidle session hmem with hold | hnew
    · exact (hwires _ (hs.sound.idle_ne hrole hold)).symm ▸ h.idle session hold
    · exact hnew
  users := by
    intro other role' hother
    rw [role?_dismiss] at hother
    split_ifs at hother with heq
    exact (hwires _ (hs.sound.other_ne hrole hother heq)).symm ▸ h.users other role' hother
  all := h.all_of hwires hlife
  unused := h.unused_of hs hrole hwires

/-- Somebody asks for a connection: an idle one changes hands, or a new one is begun. -/
theorem Lives.acquire (h : s.Lives credentials allowed wires) (user : Nat) :
    (s.acquire user).1.Lives credentials allowed wires := by
  have hacquires := s.acquires user
  generalize s.acquire user = result at hacquires ⊢
  cases hacquires with
  | closed | exhausted => exact h
  | @session session idle hidle =>
      have hsession := h.idle session (hidle ▸ List.mem_cons_self)
      exact {
        presents := h.presents
        idle := fun other hmem => h.idle other (hidle ▸ List.mem_cons_of_mem session hmem)
        users := by
          intro other role' hother
          rw [role?_assign] at hother
          split_ifs at hother with heq
          · cases hother
            exact hsession
          · exact h.users other role' hother
        all := h.all
        unused := h.unused }
  | slot hidle =>
      exact {
        presents := h.presents
        idle := h.idle
        users := by
          intro other role' hother
          rw [role?_assign] at hother
          split_ifs at hother with heq
          · cases hother
            exact (h.unused s.dialed (Nat.le_refl _)).symm ▸ .dialed s.dialed
          · exact h.users other role' hother
        all := h.all
        unused := fun dial hdial => h.unused dial (Nat.le_of_succ_le hdial) }

/-- An attempt goes on: its transport is being opened, or opened, or closed. -/
theorem Lives.proceed (h : s.Lives credentials allowed wires) (hs : s.Balanced) {dial : Nat}
    {attempt : Attempt} (hrole : s.role? user = some (.opening dial attempt))
    (hwires : ∀ other, other ≠ dial → wires' other = wires other) {p : Attempt.Progress}
    (hlife : Life credentials allowed (p.role? dial) (wires' dial)) :
    (s.proceed user dial p).1.Lives credentials allowed wires' := by
  cases p with
  | waiting => exact h.assign hs hrole rfl hwires hlife
  | failed => exact h.dismiss hs hrole hwires hlife fun _ => .inl
  | opened =>
      rw [System.proceed]
      split
      · exact h.dismiss hs hrole hwires hlife.closed fun _ => .inl
      · exact h.assign hs hrole rfl hwires hlife

/-- A call goes on, or has ended. -/
theorem Lives.advance (h : s.Lives credentials allowed wires) (hs : s.Balanced)
    (hrole : s.role? user = some role)
    (hwires : ∀ other, other ≠ role.dial → wires' other = wires other) {p : RateLimit.Progress}
    (hlife : Life credentials allowed (some (p.role role.dial)) (wires' role.dial)) :
    (s.advance user role.dial p).1.Lives credentials allowed wires' := by
  cases p <;> exact h.assign hs hrole rfl hwires hlife

theorem Lives.react (h : s.Lives credentials allowed wires) (hs : s.Balanced) (user : Nat)
    (event : Event) : (s.react user event).1.Lives credentials allowed
      (s.observe wires user event) := by
  rcases hrole : s.role? user with _ | role
  · rw [System.react, System.observe, hrole]
    exact h
  · have hlife := h.users user role hrole
    have hwires : ∀ other, other ≠ role.dial → role.observe wires event other = wires other :=
      fun _ hother => Role.observe_of_ne hother
    rw [System.react, observe_of_role hrole, hrole]
    cases role with
    | opening dial attempt =>
        refine h.proceed hs hrole hwires ?_
        rw [h.presents, observe_opening]
        exact hlife.attempt event
    | holding session => exact h
    | calling dial x =>
        refine h.advance hs hrole hwires ?_
        have hwire : (Role.calling dial x).observe wires event dial =
            (wires dial).after x event := Function.update_self ..
        change Life credentials allowed _ ((Role.calling dial x).observe wires event dial)
        rw [hwire]
        exact hlife.event event

theorem Lives.call (h : s.Lives credentials allowed wires) (hs : s.Balanced) {call : Call}
    (hallowed : ∀ session, s.role? user = some (.holding session) →
      allowed session.connection call) :
    (s.call user call).1.Lives credentials allowed wires := by
  rw [System.call]
  split
  · rename_i session hrole
    exact h.advance hs hrole (fun _ _ => rfl)
      ((h.users user _ hrole).call (hallowed session hrole))
  · exact h

theorem Lives.giveUp (h : s.Lives credentials allowed wires) (hs : s.Balanced) (user : Nat) :
    (s.giveUp user).Lives credentials allowed wires := by
  rw [System.giveUp]
  split
  · rename_i hrole
    exact h.dismiss hs hrole (fun _ _ => rfl) (h.users user _ hrole).closed fun _ => .inl
  · rename_i hrole
    exact h.assign hs hrole rfl (fun _ _ => rfl) (h.users user _ hrole).giveUp
  · exact h

theorem Lives.release (h : s.Lives credentials allowed wires) (hs : s.Balanced) (user : Nat) :
    (s.release user).Lives credentials allowed wires := by
  rw [System.release]
  split
  · rename_i session hrole
    have hlife := h.users user _ hrole
    refine h.dismiss hs hrole (fun _ _ => rfl) hlife.closed fun other hother => ?_
    rcases s.pool.release_cases session with ⟨-, hgone⟩ | ⟨-, -, hkept⟩
    · rw [hgone] at hother
      exact .inl hother
    · rw [hkept] at hother
      rcases List.mem_cons.1 hother with rfl | hold
      · exact .inr hlife
      · exact .inl hold
  · exact h

theorem Lives.close (h : s.Lives credentials allowed wires) :
    s.close.Lives credentials allowed wires where
  presents := h.presents
  idle := by
    intro session hmem
    rw [System.close, Pool.close] at hmem
    split at hmem
    · exact h.idle session hmem
    · cases hmem
  users := h.users
  all := h.all
  unused := h.unused

/-- Whatever happens to a pool, its transports live on. -/
theorem Lives.step (h : s.Lives credentials allowed wires) (hs : s.Balanced) {action : Action}
    (hallows : s.Allows allowed action) :
    (s.step action).1.Lives credentials allowed (s.record wires action) := by
  cases action with
  | acquire user =>
      rw [System.step]
      split
      · exact h
      · exact h.acquire user
  | event user event => exact h.react hs user event
  | call user call => exact h.call hs fun session => hallows user session call rfl
  | giveUp user => exact h.giveUp hs user
  | release user => exact h.release hs user
  | close => exact h.close

end System

/-! ### Opening -/

namespace Opening

variable {settings : PoolSettings}

/-- Every transport of a pool that is being opened lives a life. -/
inductive Progress.Lives (settings : PoolSettings) (allowed : Connection → Call → Prop)
    (wires : Nat → Wire) : Progress → Prop
  | waiting {o : Opening} (hsettings : o.settings = settings)
      (hattempt : Life settings.credentials allowed (some (.opening o.dial o.attempt))
        (wires o.dial))
      (hopened : ∀ session ∈ o.opened,
        Life settings.credentials allowed (some (.holding session)) (wires session.dial))
      (hall : ∀ dial, Life settings.credentials allowed none (wires dial))
      (hunused : ∀ dial, o.dial < dial → wires dial = {}) :
      Lives settings allowed wires (.waiting o)
  | opened {s : System} (h : s.Lives settings.credentials allowed wires) :
      Lives settings allowed wires (.opened s)
  | failed {error : Error} {dropped : List Nat}
      (hall : ∀ dial, Life settings.credentials allowed none (wires dial)) :
      Lives settings allowed wires (.failed error dropped)

theorem Numbered.dial_lt {opened : List Session} (h : Numbered opened) {session : Session}
    (hmem : session ∈ opened) : session.dial < opened.length := by
  have hdial := List.mem_map_of_mem (f := Session.dial) hmem
  rw [h.dials, List.mem_reverse] at hdial
  exact List.mem_range.1 hdial

theorem next_lives {opened : List Session}
    (hopened : ∀ session ∈ opened,
      Life settings.credentials allowed (some (.holding session)) (wires session.dial))
    (hall : ∀ dial, Life settings.credentials allowed none (wires dial))
    (hunused : ∀ dial, opened.length ≤ dial → wires dial = {}) :
    (next settings opened).1.Lives settings allowed wires := by
  rw [next]
  split
  · refine .waiting rfl ?_ hopened hall fun dial hdial => hunused dial (Nat.le_of_lt hdial)
    exact (hunused opened.length (Nat.le_refl _)).symm ▸ .dialed opened.length
  · exact .opened {
      presents := rfl
      idle := hopened
      users := fun user role hrole => by cases hrole
      all := hall
      unused := hunused }

theorem start_lives (settings : PoolSettings) (allowed : Connection → Call → Prop) :
    (start settings).1.Lives settings allowed fun _ => {} :=
  next_lives (fun session hmem => by cases hmem) (fun _ => .closed (.dialed 0)) fun _ _ => rfl

/-- Whatever happens to a pool that is being opened, its transports live on. -/
theorem Progress.Lives.step {o : Opening} (h : (Progress.waiting o).Lives settings allowed wires)
    (hnumbered : Numbered o.opened) (event : Event) :
    (o.step event).1.Lives settings allowed (o.observe wires event) := by
  cases h with
  | waiting hsettings hattempt hopened hall hunused =>
      subst hsettings
      have hwires : ∀ dial, dial ≠ o.dial → o.observe wires event dial = wires dial :=
        fun dial hdial => Role.observe_of_ne hdial
      have hlife := hattempt.attempt event
      rw [← observe_opening] at hlife
      change Life _ allowed _ (o.observe wires event o.dial) at hlife
      have hopened' : ∀ session ∈ o.opened, Life o.settings.credentials allowed
          (some (.holding session)) (o.observe wires event session.dial) := by
        intro session hmem
        have hlt := hnumbered.dial_lt hmem
        exact (hwires _ (Nat.ne_of_lt hlt)).symm ▸ hopened session hmem
      have hall' (hclosed : Life o.settings.credentials allowed none
          (o.observe wires event o.dial)) (dial : Nat) :
          Life o.settings.credentials allowed none (o.observe wires event dial) := by
        by_cases hne : dial = o.dial
        · exact hne ▸ hclosed
        · exact (hwires dial hne).symm ▸ hall dial
      have hunused' : ∀ dial, o.dial < dial → o.observe wires event dial = {} := fun dial hdial =>
        (hwires dial (Nat.ne_of_gt hdial)).trans (hunused dial hdial)
      rw [Opening.step]
      generalize o.attempt.step o.settings.credentials event = p at hlife ⊢
      cases p with
      | waiting => exact .waiting rfl hlife hopened' (hall' hlife.closed) hunused'
      | failed => exact .failed (hall' hlife)
      | opened =>
          exact next_lives (List.forall_mem_cons.2 ⟨hlife, hopened'⟩) (hall' hlife.closed) hunused'

end Opening

/-! ### Runs -/

/-- The runs of pools from the beginning of their opening, by events and actions in any order, with
what has passed over the transports, where connections are used for some calls only. -/
inductive Observed (settings : PoolSettings) (allowed : Connection → Call → Prop) :
    (Nat → Wire) → Opening.Progress → Prop
  | start : Observed settings allowed (fun _ => {}) (Opening.start settings).1
  | opening {wires : Nat → Wire} {o : Opening} (h : Observed settings allowed wires (.waiting o))
      (event : Event) : Observed settings allowed (o.observe wires event) (o.step event).1
  | use {wires : Nat → Wire} {s : System} (h : Observed settings allowed wires (.opened s))
      (action : Action) (hallows : s.Allows allowed action) :
      Observed settings allowed (s.record wires action) (.opened (s.step action).1)

variable {settings : PoolSettings} {progress : Opening.Progress}

/-- A run is one of the opening of a pool, or of a pool that was opened. -/
theorem Observed.reachable (h : Observed settings allowed wires progress) :
    Opening.Reachable settings progress ∨ ∃ s, progress = .opened s ∧ s.Reachable settings := by
  induction h with
  | start => exact .inl .start
  | opening h event ih =>
      rcases ih with hopening | ⟨s, hopened, -⟩
      · exact .inl (hopening.step event)
      · cases hopened
  | use h action hallows ih =>
      refine .inr ⟨_, rfl, ?_⟩
      rcases ih with hopening | ⟨s, hopened, hs⟩
      · exact .step (.opened hopening) _
      · cases hopened
        exact hs.step _

theorem Observed.system {s : System} (h : Observed settings allowed wires (.opened s)) :
    s.Reachable settings := by
  rcases h.reachable with hopening | ⟨s, hopened, hs⟩
  · exact .opened hopening
  · cases hopened
    exact hs

/-- The connections of a pool that is being opened are numbered. -/
theorem Observed.numbered {o : Opening} (h : Observed settings allowed wires (.waiting o)) :
    Opening.Numbered o.opened := by
  rcases h.reachable with hopening | ⟨s, hopened, -⟩
  · cases (hopening.resize settings.initialSize).sound (Nat.le_refl _) with
    | waiting _ hopened => exact hopened
  · cases hopened

/-- Every transport lives a life in every run of a pool. -/
theorem Observed.lives (h : Observed settings allowed wires progress) :
    progress.Lives settings allowed wires := by
  induction h with
  | start => exact Opening.start_lives settings allowed
  | opening h event ih => exact ih.step h.numbered event
  | use h action hallows ih =>
      cases ih with
      | opened ih => exact .opened (ih.step h.system.balanced hallows)

end Pool

end RateLimit
