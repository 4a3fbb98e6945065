import RateLimit.Proofs.Pool.Capacity
import RateLimit.Proofs.Pool.Closing

/-!
# A pool that is closed drains

From the time a pool is closed it counts nothing but its users, and users only leave.  Those who
hold a connection give it back, and it is destroyed; those who are opening one never get it, whether
it is opened, cannot be opened, or is given up, and each gives its slot back once.  When the last
user has left, nothing is counted and no transport is open.

## Main definitions

* `Pool.Action.user?` : the user under whose name something happens.
* `Pool.System.Dwindles` : from one state of a closed pool to a later one nobody has come.
* `Pool.System.returned` : how many slots a user gives back in a run.
* `Pool.System.Overtaken` : what comes of a user that was opening a connection.

## Main results

* `Pool.System.dwindles_run` : nobody comes to a closed pool in a run, and nobody gets a connection.
* `Pool.System.Balanced.overtaken_run` : who was opening a connection gives back its slot once.
* `Pool.System.Reachable.drains` : a closed pool drains and stays closed.
-/

namespace RateLimit.Pool

/-- The user under whose name something happens; closing the pool has none. -/
def Action.user? : Action → Option Nat
  | .acquire user | .event user _ | .call user _ | .giveUp user | .release user => some user
  | .close => none

/-- A notice tells that somebody begins to open a connection, or has got one. -/
def Notice.Admits (notice : Notice) : Prop :=
  (∃ dial, notice = .dialed dial) ∨ ∃ user dial, notice = .acquired user dial

/-- A turn begins to open a connection, or gets one. -/
def Turn.Admits (turn : Turn) : Prop :=
  (∃ dial, turn = .dialing dial) ∨ ∃ dial, turn = .acquired dial

theorem Turn.admits_of_mem {turn : Turn} {user : Nat} {notice : Notice}
    (hmem : notice ∈ turn.notices user) (h : notice.Admits) : turn.Admits := by
  cases turn with
  | pending => cases hmem
  | dialing dial => exact .inl ⟨dial, rfl⟩
  | acquired dial => exact .inr ⟨dial, rfl⟩
  | refused | ended =>
      cases List.mem_singleton.1 hmem
      rcases h with ⟨_, h⟩ | ⟨_, _, h⟩ <;> cases h

/-- The bytes on a transport tell nothing about who begins to open a connection, or gets one. -/
theorem Role.not_admits_of_mem_traffic {role : Role} {event : Event} {notice : Notice}
    (hmem : notice ∈ role.traffic event) : ¬notice.Admits := by
  rw [traffic, List.mem_append] at hmem
  rintro (⟨dial, rfl⟩ | ⟨user, dial, rfl⟩) <;> split_ifs at hmem <;> simp at hmem

/-- A pool that has been opened is not closed. -/
theorem Opening.Reachable.not_closed {settings : PoolSettings} {s : System}
    (h : Opening.Reachable settings (.opened s)) : s.pool.closed = false := by
  have hnext {settings : PoolSettings} {opened : List Session}
      (h : (Opening.next settings opened).1 = .opened s) : s.pool.closed = false := by
    rw [Opening.next] at h
    split at h <;> cases h
    rfl
  generalize hprogress : Opening.Progress.opened s = progress at h
  cases h with
  | start => exact hnext hprogress.symm
  | @step o h event =>
      rw [Opening.step] at hprogress
      cases hstep : o.attempt.step o.settings.credentials event with
      | waiting | failed =>
          rw [hstep] at hprogress
          cases hprogress
      | opened c =>
          rw [hstep] at hprogress
          exact hnext hprogress.symm

namespace System

variable {s t u : System} {user dial : Nat} {role : Role} {attempt : Attempt} {action : Action}

/-- What happens under another name does not concern a user. -/
theorem role?_step_of_ne (h : action.user? ≠ some user) (s : System) :
    (s.step action).1.role? user = s.role? user := by
  cases action with
  | acquire other =>
      have hne : user ≠ other := fun heq => h (congrArg some heq.symm)
      rw [System.step]
      split
      · rfl
      · exact role?_acquire_of_ne hne s
  | event other event => exact role?_react_of_ne (fun heq => h (congrArg some heq.symm)) s event
  | call other call => exact role?_call_of_ne (fun heq => h (congrArg some heq.symm)) s call
  | giveUp other => exact role?_giveUp_of_ne (fun heq => h (congrArg some heq.symm)) s
  | release other => exact role?_release_of_ne (fun heq => h (congrArg some heq.symm)) s
  | close => rfl

/-! ### What happens to a closed pool -/

/-- From one state of a closed pool to a later one, the pool has stayed as it is but for its count,
no attempt to open a connection was begun, and whoever uses it did so before, on the same
transport. -/
structure Dwindles (s t : System) : Prop where
  keeps : s.Keeps t
  dialed : t.dialed = s.dialed
  users : ∀ user role', t.role? user = some role' →
    ∃ role, s.role? user = some role ∧ role'.dial = role.dial

theorem Dwindles.refl (s : System) : s.Dwindles s :=
  ⟨.refl s, rfl, fun _ role hrole => ⟨role, hrole, rfl⟩⟩

theorem Dwindles.trans (h : s.Dwindles t) (h' : t.Dwindles u) : s.Dwindles u where
  keeps := h.keeps.trans h'.keeps
  dialed := h'.dialed.trans h.dialed
  users user role'' hrole'' := by
    obtain ⟨role', hrole', hdial'⟩ := h'.users user role'' hrole''
    obtain ⟨role, hrole, hdial⟩ := h.users user role' hrole'
    exact ⟨role, hrole, hdial'.trans hdial⟩

/-- A user that goes on or leaves does not add to the users. -/
theorem Continues.dwindles {taken : Bytes} (h : s.Continues t user taken)
    (hdialed : t.dialed = s.dialed) : s.Dwindles t where
  keeps := h.keeps
  dialed := hdialed
  users other role' hrole' := by
    by_cases hne : other = user
    · subst hne
      obtain ⟨role, hrole, hdial, -⟩ := h.own role' hrole'
      exact ⟨role, hrole, hdial⟩
    · exact ⟨role', (h.others other hne).symm.trans hrole', rfl⟩

/-- A user takes another role on its transport. -/
theorem dwindles_assign (hrole : s.role? user = some role) {role' : Role}
    (hdial : role'.dial = role.dial) : s.Dwindles (s.assign user role') where
  keeps := s.keeps_assign user role'
  dialed := rfl
  users other role'' hother := by
    rw [role?_assign] at hother
    split_ifs at hother with heq
    · cases hother
      exact ⟨role, heq ▸ hrole, hdial⟩
    · exact ⟨role'', hother, rfl⟩

theorem dialed_react (s : System) (user : Nat) (event : Event) :
    (s.react user event).1.dialed = s.dialed := by
  rw [react]
  split
  · rename_i dial attempt _
    cases attempt.step s.credentials event with
    | waiting | failed => rfl
    | opened =>
        rw [proceed]
        split <;> rfl
  · rename_i dial x _
    cases x.step event <;> rfl
  · rfl

theorem dwindles_react (s : System) (user : Nat) (event : Event) :
    s.Dwindles (s.react user event).1 := by
  rcases hrole : s.role? user with _ | role
  · rw [react, hrole]
    exact .refl s
  · exact (continues_react hrole event).dwindles (s.dialed_react user event)

theorem dwindles_call (s : System) (user : Nat) (call : Call) :
    s.Dwindles (s.call user call).1 := by
  rw [System.call]
  split
  · rename_i session hrole
    cases session.connection.start call <;> exact dwindles_assign hrole rfl
  · exact .refl s

theorem dwindles_giveUp (s : System) (user : Nat) : s.Dwindles (s.giveUp user) := by
  refine (s.continues_giveUp user).dwindles ?_
  rw [giveUp]
  split <;> rfl

theorem dwindles_release (s : System) (user : Nat) : s.Dwindles (s.release user) := by
  refine (s.continues_release user).dwindles ?_
  rw [release]
  split <;> rfl

theorem close_of_closed (hclosed : s.pool.closed = true) : s.close = s := by
  rw [close, Pool.close, if_pos hclosed]

/-- Whoever asks a closed pool for a connection is refused at once. -/
theorem step_acquire_of_closed (hclosed : s.pool.closed = true) (hfree : s.role? user = none) :
    s.step (.acquire user) = (s, [.refused user .poolClosed]) := by
  have hacquire : s.acquire user = (s, .refused .poolClosed) := by
    rw [acquire, Pool.checkout, if_pos hclosed]
  rw [System.step, hfree, hacquire]
  rfl

/-- Whatever happens to a closed pool, nobody comes to it. -/
theorem dwindles_step (hclosed : s.pool.closed = true) (action : Action) :
    s.Dwindles (s.step action).1 := by
  cases action with
  | acquire user =>
      rcases hrole : s.role? user with _ | role
      · rw [step_acquire_of_closed hclosed hrole]
        exact .refl s
      · rw [System.step, hrole]
        exact .refl s
  | event user event => exact s.dwindles_react user event
  | call user call => exact s.dwindles_call user call
  | giveUp user => exact s.dwindles_giveUp user
  | release user => exact s.dwindles_release user
  | close =>
      change s.Dwindles s.close
      rw [close_of_closed hclosed]
      exact .refl s

theorem not_admits_react (hclosed : s.pool.closed = true) (user : Nat) (event : Event) :
    ¬(s.react user event).2.Admits := by
  rintro (⟨dial, heq⟩ | ⟨dial, heq⟩)
  · rw [react] at heq
    split at heq
    · rename_i dial' attempt _
      cases hstep : attempt.step s.credentials event with
      | waiting | failed =>
          rw [hstep] at heq
          cases heq
      | opened =>
          rw [hstep, proceed, if_pos hclosed] at heq
          cases heq
    · rename_i dial' x _
      cases hstep : x.step event <;> rw [hstep] at heq <;> cases heq
    · cases heq
  · exact react_ne_acquired hclosed user event dial heq

theorem not_admits_call (s : System) (user : Nat) (call : Call) :
    ¬(s.call user call).2.Admits := by
  rw [System.call]
  split
  · rename_i session _
    cases session.connection.start call <;> rintro (⟨_, heq⟩ | ⟨_, heq⟩) <;> cases heq
  · rintro (⟨_, heq⟩ | ⟨_, heq⟩) <;> cases heq

/-- Whatever happens to a closed pool, nobody begins to open a connection or gets one. -/
theorem not_admits_step (hclosed : s.pool.closed = true) (action : Action) :
    ∀ notice ∈ (s.step action).2, ¬notice.Admits := by
  intro notice hmem hadmits
  cases action with
  | acquire user =>
      rcases hrole : s.role? user with _ | role
      · rw [step_acquire_of_closed hclosed hrole] at hmem
        cases List.mem_singleton.1 hmem
        rcases hadmits with ⟨_, h⟩ | ⟨_, _, h⟩ <;> cases h
      · rw [System.step, hrole] at hmem
        cases hmem
  | event user event =>
      rcases List.mem_append.1 hmem with htraffic | hturn
      · rw [System.traffic] at htraffic
        split at htraffic
        · exact Role.not_admits_of_mem_traffic htraffic hadmits
        · cases htraffic
      · exact not_admits_react hclosed user event (Turn.admits_of_mem hturn hadmits)
  | call user call => exact s.not_admits_call user call (Turn.admits_of_mem hmem hadmits)
  | giveUp | release | close => cases hmem

/-- Nobody comes to a closed pool in a run, and nobody begins to open a connection or gets one. -/
theorem dwindles_run (hclosed : s.pool.closed = true) (actions : List Action) :
    s.Dwindles (s.run actions).1 ∧ ∀ notice ∈ (s.run actions).2, ¬notice.Admits := by
  induction actions generalizing s with
  | nil => exact ⟨.refl s, fun notice hmem => by cases hmem⟩
  | cons action actions ih =>
      have hstep := dwindles_step hclosed action
      obtain ⟨hrun, hlater⟩ := ih (hstep.keeps.closed.trans hclosed)
      refine ⟨hstep.trans hrun, fun notice hmem => ?_⟩
      rcases List.mem_append.1 hmem with hnow | hmem
      · exact not_admits_step hclosed action notice hnow
      · exact hlater notice hmem

/-! ### The count of a closed pool -/

/-- How many connections a closed pool may have does not matter. -/
theorem step_resize_of_closed (hclosed : s.pool.closed = true) (n : Nat) (action : Action) :
    ((s.resize n).step action).1 = (s.step action).1.resize n := by
  cases action with
  | acquire user =>
      have hrole : (s.resize n).role? user = s.role? user := rfl
      rcases hfree : s.role? user with _ | role
      · rw [step_acquire_of_closed hclosed hfree,
          step_acquire_of_closed (s := s.resize n) hclosed (hrole.trans hfree)]
      · rw [System.step, System.step, hrole, hfree]
        rfl
  | event user event => exact react_resize s n user event
  | call user call => exact call_resize s n user call
  | giveUp user => exact giveUp_resize s n user
  | release user => exact release_resize s n user
  | close => exact close_resize s n

/-- Whatever happens to a closed pool lowers its count by what is given back or destroyed. -/
theorem Balanced.live_add_debit (h : s.Balanced) (hclosed : s.pool.closed = true)
    (action : Action) : (s.step action).1.pool.live + s.debit action = s.pool.live := by
  have hdialed := (dwindles_step hclosed action).dialed
  have hlive := ((h.resize (Nat.le_refl _)).charges action).live
  rw [step_resize_of_closed hclosed] at hlive
  change (s.step action).1.pool.live + s.debit action + s.dialed =
    s.pool.live + (s.step action).1.dialed at hlive
  omega

/-- A closed pool without idle connections counts its users. -/
theorem Balanced.live_of_idle (h : s.Balanced) (hidle : s.pool.idle = []) :
    s.pool.live = s.held + s.dialing := by
  rw [h.live_eq, hidle, held_add_dialing, List.length_nil, Nat.zero_add]

theorem Balanced.run (h : s.Balanced) (actions : List Action) : (s.run actions).1.Balanced := by
  induction actions generalizing s with
  | nil => exact h
  | cons action actions ih => exact ih (h.step action)

/-! ### Who was opening a connection -/

/-- How many slots a user gives back, or connections it gives back that are destroyed, in a run. -/
def returned (s : System) (user : Nat) : List Action → Nat
  | [] => 0
  | action :: actions =>
      (if action.user? = some user then s.debit action else 0) +
        (s.step action).1.returned user actions

/-- Nothing is given back under a name that is not in use. -/
theorem debit_of_free (hfree : s.role? user = none) (haction : action.user? = some user) :
    s.debit action = 0 := by
  cases action with
  | acquire | call => rfl
  | event | giveUp | release =>
      cases haction
      rw [debit, hfree]
  | close => cases haction

/-- Nobody comes to a closed pool under a name that is not in use. -/
theorem returned_of_free (hclosed : s.pool.closed = true) (hfree : s.role? user = none)
    (actions : List Action) :
    (s.run actions).1.role? user = none ∧ s.returned user actions = 0 := by
  induction actions generalizing s with
  | nil => exact ⟨hfree, rfl⟩
  | cons action actions ih =>
      have hstep := dwindles_step hclosed action
      have hgone : (s.step action).1.role? user = none := by
        rw [Option.eq_none_iff_forall_ne_some]
        intro role' hrole'
        obtain ⟨role, hrole, -⟩ := hstep.users user role' hrole'
        cases hfree.symm.trans hrole
      obtain ⟨hrun, hreturned⟩ := ih (hstep.keeps.closed.trans hclosed) hgone
      refine ⟨hrun, ?_⟩
      rw [returned, hreturned]
      split_ifs with haction
      · rw [debit_of_free hfree haction]
      · rfl

/-- What happens to a user that is opening a connection of a closed pool: it goes on to open it, or
gives its slot back and leaves. -/
theorem opening_cases (hclosed : s.pool.closed = true)
    (hrole : s.role? user = some (.opening dial attempt)) (haction : action.user? = some user) :
    (∃ attempt', (s.step action).1.role? user = some (.opening dial attempt')) ∧
        s.debit action = 0 ∨
      (s.step action).1.role? user = none ∧ s.debit action = 1 := by
  cases action with
  | acquire =>
      cases haction
      rw [System.step, hrole]
      exact .inl ⟨⟨attempt, hrole⟩, rfl⟩
  | event _ event =>
      cases haction
      change (∃ attempt', (s.react user event).1.role? user = _) ∧ _ ∨
        (s.react user event).1.role? user = none ∧ _
      rw [react, debit, hrole]
      dsimp only
      cases attempt.step s.credentials event with
      | waiting attempt' => exact .inl ⟨⟨attempt', role?_assign_self ..⟩, rfl⟩
      | failed => exact .inr ⟨role?_dismiss_self .., rfl⟩
      | opened =>
          rw [proceed, if_pos hclosed]
          exact .inr ⟨role?_dismiss_self .., if_pos hclosed⟩
  | call _ call =>
      cases haction
      change (∃ attempt', (s.call user call).1.role? user = _) ∧ _ ∨ _
      rw [System.call, hrole]
      exact .inl ⟨⟨attempt, hrole⟩, rfl⟩
  | giveUp =>
      cases haction
      change _ ∨ (s.giveUp user).role? user = none ∧ _
      rw [giveUp, debit, hrole]
      exact .inr ⟨role?_dismiss_self .., rfl⟩
  | release =>
      cases haction
      change (∃ attempt', (s.release user).role? user = _) ∧ _ ∨ _
      rw [release, debit, hrole]
      exact .inl ⟨⟨attempt, hrole⟩, rfl⟩
  | close => cases haction

/-- A user of a closed pool that is opening a connection does so until it gives its slot back. -/
theorem opening_run (hclosed : s.pool.closed = true)
    (hrole : s.role? user = some (.opening dial attempt)) (actions : List Action) :
    (∃ attempt', (s.run actions).1.role? user = some (.opening dial attempt')) ∧
        s.returned user actions = 0 ∨
      (s.run actions).1.role? user = none ∧ s.returned user actions = 1 := by
  induction actions generalizing s attempt with
  | nil => exact .inl ⟨⟨attempt, hrole⟩, rfl⟩
  | cons action actions ih =>
      have hclosed' := (dwindles_step hclosed action).keeps.closed.trans hclosed
      rw [returned]
      by_cases haction : action.user? = some user
      · rw [if_pos haction]
        rcases opening_cases hclosed hrole haction with
          ⟨⟨attempt', hrole'⟩, hdebit⟩ | ⟨hgone, hdebit⟩
        · rw [hdebit, Nat.zero_add]
          exact ih hclosed' hrole'
        · obtain ⟨hrun, hreturned⟩ := returned_of_free hclosed' hgone actions
          exact .inr ⟨hrun, by rw [hdebit, hreturned]⟩
      · rw [if_neg haction, Nat.zero_add]
        exact ih hclosed' ((role?_step_of_ne haction s).trans hrole)

/-- Once a user of a closed pool has left, its transport is not open. -/
theorem Dwindles.notMem_transports (h : s.Dwindles t) (hs : s.Balanced) (ht : t.Balanced)
    (hidle : t.pool.idle = []) (hrole : s.role? user = some role) (hgone : t.role? user = none) :
    role.dial ∉ t.transports := by
  intro hmem
  rw [transports, hidle] at hmem
  obtain ⟨⟨other, role'⟩, hentry, hdial'⟩ := List.mem_map.1 hmem
  have hother' : t.role? other = some role' :=
    lookup_of_mem ht.names (List.mem_filter.1 hentry).1
  have hne : other ≠ user := by
    rintro rfl
    cases hgone.symm.trans hother'
  obtain ⟨role'', hother, hdial''⟩ := h.users other role' hother'
  exact (hs.resize (Nat.le_refl _)).other_ne hrole hother hne (hdial''.symm.trans hdial')

/-- What comes of a user that was opening a connection when the pool was closed, once so many slots
are given back under its name. -/
inductive Overtaken (user dial : Nat) (t : System) (returned : Nat) : Prop
  /-- It is opening its connection still. -/
  | opening {attempt : Attempt} (hrole : t.role? user = some (.opening dial attempt))
      (hreturned : returned = 0)
  /-- It has left without a connection, and its transport is not open. -/
  | left (hrole : t.role? user = none) (htransport : dial ∉ t.transports)
      (hreturned : returned = 1)

/-- Who was opening a connection when the pool was closed gives back its slot once. -/
theorem Balanced.overtaken_run (h : s.Balanced) (hclosed : s.pool.closed = true)
    (hidle : s.pool.idle = []) (hrole : s.role? user = some (.opening dial attempt))
    (actions : List Action) :
    Overtaken user dial (s.run actions).1 (s.returned user actions) := by
  rcases opening_run hclosed hrole actions with ⟨⟨attempt', hrole'⟩, hreturned⟩ | ⟨hgone, hreturned⟩
  · exact .opening hrole' hreturned
  · obtain ⟨hrun, -⟩ := dwindles_run hclosed actions
    exact .left hgone
      (hrun.notMem_transports h (h.run actions) ((hrun.keeps.idle hclosed).trans hidle) hrole hgone)
      hreturned

/-- A connection that is opened after the pool was closed is refused to its user and destroyed, and
its slot is given back. -/
theorem Balanced.refuses_opened (h : s.Balanced) (hclosed : s.pool.closed = true)
    (hidle : s.pool.idle = []) (hrole : s.role? user = some (.opening dial attempt))
    {event : Event} {c : Connection} (hopened : attempt.step s.credentials event = .opened c) :
    .refused user .poolClosed ∈ (s.step (.event user event)).2 ∧
      (s.step (.event user event)).1.role? user = none ∧
      dial ∉ (s.step (.event user event)).1.transports ∧
      s.debit (.event user event) = 1 := by
  have hreact : s.react user event =
      (s.dismiss user s.pool.giveBack, .refused .poolClosed) := by
    rw [react, hrole]
    dsimp only
    rw [hopened, proceed, if_pos hclosed]
  have hstep : s.step (.event user event) =
      (s.dismiss user s.pool.giveBack,
        s.traffic user event ++ [.refused user .poolClosed]) := by
    rw [System.step, hreact]
    rfl
  have hgone : (s.step (.event user event)).1.role? user = none := by
    rw [hstep]
    exact role?_dismiss_self ..
  have hdwindles := dwindles_step hclosed (.event user event)
  refine ⟨?_, hgone, ?_, ?_⟩
  · rw [hstep]
    exact List.mem_append_right _ (List.mem_singleton_self _)
  · exact hdwindles.notMem_transports h (h.step _) ((hdwindles.keeps.idle hclosed).trans hidle)
      hrole hgone
  · rw [debit, hrole]
    dsimp only
    rw [hopened]
    exact if_pos hclosed

/-! ### Draining -/

/-- A pool that is closed has no idle connection. -/
theorem Reachable.idle_of_closed {settings : PoolSettings} (hs : s.Reachable settings)
    (hclosed : s.pool.closed = true) : s.pool.idle = [] := by
  induction hs with
  | opened h => cases h.not_closed.symm.trans hclosed
  | @step s h action ih =>
      by_cases hbefore : s.pool.closed = true
      · exact ((dwindles_step hbefore action).keeps.idle hbefore).trans (ih hbefore)
      · cases action with
        | close =>
            change s.close.pool.idle = []
            rw [close, Pool.close, if_neg hbefore]
        | acquire user =>
            rw [System.step] at hclosed
            split at hclosed
            · exact (hbefore hclosed).elim
            · exact (hbefore ((s.keeps_acquire user).closed.symm.trans hclosed)).elim
        | event user event =>
            exact (hbefore ((s.dwindles_react user event).keeps.closed.symm.trans hclosed)).elim
        | call user call =>
            exact (hbefore ((s.keeps_call user call).closed.symm.trans hclosed)).elim
        | giveUp user =>
            exact (hbefore ((s.continues_giveUp user).keeps.closed.symm.trans hclosed)).elim
        | release user =>
            exact (hbefore ((s.continues_release user).keeps.closed.symm.trans hclosed)).elim

theorem closed_close (s : System) : s.close.pool.closed = true := by
  rw [close, Pool.close]
  split
  · assumption
  · rfl

/-- **A closed pool drains and stays closed.** From the time any pool is closed, and whatever
happens from then on: it is closed and has no idle connection; who asks for a connection is refused
and no attempt to open one is begun; nobody gets a connection; who was opening one does so until it
leaves, gives its slot back once, and leaves no transport open, and a connection that it has opened
is refused to it and destroyed; what the pool counts is held or being opened, and every action
lowers the count by what is given back or destroyed in it; when nothing is held or being opened,
nothing is counted and no transport is open; and closing the pool again changes nothing. -/
theorem Reachable.drains {settings : PoolSettings} (hs : s.Reachable settings)
    (actions : List Action) :
    let closing := (s.step .close).1
    let later := (closing.run actions).1
    (later.pool.closed = true ∧ later.pool.idle = []) ∧
      (∀ user, later.role? user = none →
        later.step (.acquire user) = (later, [.refused user .poolClosed])) ∧
      later.dialed = closing.dialed ∧
      (∀ notice ∈ (closing.run actions).2,
        (∀ dial, notice ≠ .dialed dial) ∧ ∀ user dial, notice ≠ .acquired user dial) ∧
      (∀ user dial attempt, s.role? user = some (.opening dial attempt) →
        Overtaken user dial later (closing.returned user actions)) ∧
      (∀ user dial attempt event c, later.role? user = some (.opening dial attempt) →
        attempt.step later.credentials event = .opened c →
        .refused user .poolClosed ∈ (later.step (.event user event)).2 ∧
          (later.step (.event user event)).1.role? user = none ∧
          dial ∉ (later.step (.event user event)).1.transports ∧
          later.debit (.event user event) = 1) ∧
      later.pool.live = later.held + later.dialing ∧
      (∀ action, (later.step action).1.pool.live + later.debit action = later.pool.live) ∧
      (later.held = 0 → later.dialing = 0 → later.pool.live = 0 ∧ later.transports = []) ∧
      later.step .close = (later, []) := by
  intro closing later
  have hbalanced : closing.Balanced := hs.balanced.step .close
  have hclosed : closing.pool.closed = true := s.closed_close
  have hidle : closing.pool.idle = [] := (hs.step .close).idle_of_closed hclosed
  obtain ⟨hrun, hnotices⟩ := dwindles_run hclosed actions
  have hbalanced' : later.Balanced := hbalanced.run actions
  have hclosed' : later.pool.closed = true := hrun.keeps.closed.trans hclosed
  have hidle' : later.pool.idle = [] := (hrun.keeps.idle hclosed).trans hidle
  have hlive : later.pool.live = later.held + later.dialing := hbalanced'.live_of_idle hidle'
  refine ⟨⟨hclosed', hidle'⟩, fun user => step_acquire_of_closed hclosed', hrun.dialed, ?_, ?_, ?_,
    hlive, hbalanced'.live_add_debit hclosed', ?_, ?_⟩
  · exact fun notice hmem => ⟨fun dial heq => hnotices notice hmem (.inl ⟨dial, heq⟩),
      fun user dial heq => hnotices notice hmem (.inr ⟨user, dial, heq⟩)⟩
  · exact fun user dial attempt hrole => hbalanced.overtaken_run hclosed hidle hrole actions
  · exact fun user dial attempt event c hrole => hbalanced'.refuses_opened hclosed' hidle' hrole
  · intro hheld hdialing
    have husers : later.users = [] := by
      rw [← List.length_eq_zero_iff, ← held_add_dialing, hheld, hdialing]
    exact ⟨by rw [hlive, hheld, hdialing], by rw [transports, hidle', husers]; rfl⟩
  · change (later.close, []) = (later, [])
    rw [close_of_closed hclosed']

/-- A pool is closed while the first user holds a connection and the second is opening another.  The
connection of the second is opened after that, and the first gives its connection back. -/
theorem drains_overtaken :
    let settings : PoolSettings := ⟨1, 2, none⟩
    let opened : System := { credentials := none, pool := ⟨2, [⟨0, {}⟩], 1, false⟩, dialed := 1 }
    let s := ((opened.step (.acquire 1)).1.step (.acquire 2)).1
    let actions := [.event 2 .connected, .release 1]
    let closing := (s.step .close).1
    let later := (closing.run actions).1
    s.Reachable settings ∧ closing.pool.live = 2 ∧
      s.role? 2 = some (.opening 1 .connecting) ∧
      Overtaken 2 1 later (closing.returned 2 actions) ∧ closing.returned 2 actions = 1 ∧
      later.pool.live = 0 ∧ later.transports = [] := by
  intro settings opened s actions closing later
  have hopened : opened.Reachable settings :=
    .opened (@Opening.Reachable.step settings ⟨settings, [], .connecting⟩ .start .connected)
  have hs : s.Reachable settings := (hopened.step (.acquire 1)).step (.acquire 2)
  obtain ⟨-, -, -, -, hovertaken, -, -, -, hgone, -⟩ := hs.drains actions
  obtain ⟨hlive, htransports⟩ := hgone rfl rfl
  exact ⟨hs, rfl, rfl, hovertaken 2 1 .connecting rfl, rfl, hlive, htransports⟩

end System

end RateLimit.Pool
