import RateLimit.Proofs.Pool.Ledger

/-!
# Pools of any size

How many connections a pool may have is looked at only when somebody asks for one.  A pool that was
opened with more connections than it may have, which nothing forbids, keeps its books as right as
any other: all that is lost is the bound on their number.

## Main definitions

* `Pool.System.resize` : a pool that may have another number of connections.
* `Pool.System.Balanced` : the books of a pool are right, but for the bound.

## Main results

* `Pool.System.Balanced.step` : every action keeps the books right.
* `Pool.System.Reachable.balanced` : the books of every pool are right.
-/

namespace RateLimit.Pool

namespace System

variable {s : System} {user n : Nat}

/-- The same pool and users, where the pool may have another number of connections. -/
def resize (s : System) (maxSize : Nat) : System :=
  { s with pool := { s.pool with maxSize } }

/-- The books of a pool would be right if it might have more connections. -/
def Balanced (s : System) : Prop :=
  ∃ maxSize, (s.resize maxSize).Sound

/-- A pool whose books are right but for the bound may as well have any number of connections that
holds those it counts. -/
theorem Balanced.resize (h : s.Balanced) (hle : s.pool.live ≤ n) : (s.resize n).Sound := by
  obtain ⟨maxSize, h⟩ := h
  exact { h with live_le := hle }

/-- What is counted is idle or in use. -/
theorem Balanced.live_eq (h : s.Balanced) :
    s.pool.live = s.pool.idle.length + s.users.length :=
  (h.resize (Nat.le_refl _)).live_eq

theorem Balanced.names (h : s.Balanced) : (s.users.map Prod.fst).Nodup :=
  (h.resize (Nat.le_refl _)).names

theorem Balanced.dials (h : s.Balanced) : s.dials.Nodup :=
  (h.resize (Nat.le_refl _)).dials

/-! ### The bound does not matter but to who asks -/

theorem acquire_resize (h : s.pool.maxSize ≤ s.pool.live ↔ n ≤ s.pool.live) :
    ((s.resize n).acquire user).1 = (s.acquire user).1.resize n := by
  obtain ⟨credentials, ⟨maxSize, idle, live, closed⟩, users, dialed⟩ := s
  rw [acquire, acquire, Pool.checkout, Pool.checkout]
  cases closed with
  | true => rfl
  | false =>
      cases idle with
      | cons => rfl
      | nil =>
          change maxSize ≤ live ↔ n ≤ live at h
          by_cases hfull : maxSize ≤ live
          · have hfull' := h.1 hfull
            simp only [System.resize, hfull, hfull', Bool.false_eq_true, if_false, if_true]
          · have hfull' := mt h.2 hfull
            simp only [System.resize, hfull, hfull', Bool.false_eq_true, if_false]
            rfl

theorem react_resize (s : System) (n user : Nat) (event : Event) :
    ((s.resize n).react user event).1 = (s.react user event).1.resize n := by
  have hrole : (s.resize n).role? user = s.role? user := rfl
  rw [react, react, hrole]
  rcases s.role? user with _ | (⟨dial, attempt⟩ | session | ⟨dial, x⟩)
  · rfl
  · change ((s.resize n).proceed user dial (attempt.step s.credentials event)).1 =
      (s.proceed user dial (attempt.step s.credentials event)).1.resize n
    cases attempt.step s.credentials event with
    | waiting | failed => rfl
    | opened =>
        obtain ⟨credentials, ⟨maxSize, idle, live, closed⟩, users, dialed⟩ := s
        cases closed <;> rfl
  · rfl
  · dsimp only
    cases x.step event <;> rfl

theorem call_resize (s : System) (n user : Nat) (call : Call) :
    ((s.resize n).call user call).1 = (s.call user call).1.resize n := by
  have hrole : (s.resize n).role? user = s.role? user := rfl
  rw [System.call, System.call, hrole]
  rcases s.role? user with _ | (_ | session | _)
  · rfl
  · rfl
  · dsimp only
    cases session.connection.start call <;> rfl
  · rfl

theorem giveUp_resize (s : System) (n user : Nat) :
    (s.resize n).giveUp user = (s.giveUp user).resize n := by
  have hrole : (s.resize n).role? user = s.role? user := rfl
  rw [giveUp, giveUp, hrole]
  rcases s.role? user with _ | (_ | _ | _) <;> rfl

theorem release_resize (s : System) (n user : Nat) :
    (s.resize n).release user = (s.release user).resize n := by
  have hrole : (s.resize n).role? user = s.role? user := rfl
  rw [release, release, hrole]
  rcases s.role? user with _ | (_ | session | _)
  · rfl
  · rfl
  · obtain ⟨credentials, ⟨maxSize, idle, live, closed⟩, users, dialed⟩ := s
    dsimp only [System.resize, Pool.release]
    split <;> rfl
  · rfl

theorem close_resize (s : System) (n : Nat) : (s.resize n).close = s.close.resize n := by
  obtain ⟨credentials, ⟨maxSize, idle, live, closed⟩, users, dialed⟩ := s
  cases closed <;> rfl

/-- Every action keeps the books right. -/
theorem Balanced.step (h : s.Balanced) (action : Action) : (s.step action).1.Balanced := by
  have hsound := h.resize (Nat.le_refl _)
  cases action with
  | acquire user =>
      rw [System.step]
      split
      · exact h
      · rename_i hfree
        have hfree : s.role? user = none := by simpa using hfree
        by_cases hfull : s.pool.maxSize ≤ s.pool.live
        · refine ⟨s.pool.live, ?_⟩
          rw [← acquire_resize (iff_of_true hfull (Nat.le_refl _))]
          exact hsound.acquire hfree
        · refine ⟨s.pool.live + 1, ?_⟩
          rw [← acquire_resize (iff_of_false hfull (Nat.not_succ_le_self _))]
          exact (h.resize (Nat.le_succ _)).acquire hfree
  | event user event => exact ⟨_, react_resize s _ user event ▸ hsound.react user event⟩
  | call user call => exact ⟨_, call_resize s _ user call ▸ hsound.call user call⟩
  | giveUp user => exact ⟨_, giveUp_resize s _ user ▸ hsound.giveUp user⟩
  | release user => exact ⟨_, release_resize s _ user ▸ hsound.release user⟩
  | close => exact ⟨_, close_resize s _ ▸ hsound.close⟩

end System

/-! ### Opening -/

namespace Opening

variable {settings : PoolSettings}

/-- How far the opening has come of a pool that may have another number of connections. -/
def Progress.resize (maxSize : Nat) : Progress → Progress
  | .waiting o => .waiting { o with settings := { o.settings with maxSize } }
  | .opened s => .opened (s.resize maxSize)
  | .failed error dropped => .failed error dropped

theorem next_resize (settings : PoolSettings) (maxSize : Nat) (opened : List Session) :
    (next { settings with maxSize } opened).1 = (next settings opened).1.resize maxSize := by
  rw [next, next]
  dsimp only
  split <;> rfl

theorem step_resize (o : Opening) (maxSize : Nat) (event : Event) :
    (step { o with settings := { o.settings with maxSize } } event).1 =
      (o.step event).1.resize maxSize := by
  rw [step, step]
  dsimp only
  cases o.attempt.step o.settings.credentials event with
  | waiting | failed => rfl
  | opened connection => exact next_resize o.settings maxSize _

theorem Reachable.resize {progress : Progress} (h : Reachable settings progress) (maxSize : Nat) :
    Reachable { settings with maxSize } (progress.resize maxSize) := by
  induction h with
  | start =>
      have hstart : Reachable { settings with maxSize }
          (Opening.start { settings with maxSize }).1 := .start
      rwa [Opening.start, next_resize] at hstart
  | @step o h event ih =>
      have hstep := ih.step event
      rwa [step_resize] at hstep

end Opening

/-- The books of every pool are right, whatever sizes it was opened with. -/
theorem System.Reachable.balanced {settings : PoolSettings} {s : System}
    (h : s.Reachable settings) : s.Balanced := by
  induction h with
  | opened h =>
      cases (h.resize settings.initialSize).sound (Nat.le_refl _) with
      | opened hsound => exact ⟨_, hsound⟩
  | step h action ih => exact ih.step action

end RateLimit.Pool
