import RateLimit.Pool.System
import RateLimit.Proofs.Named

/-!
# The users of a pool

Users are kept in a list by name, and a name stands in it once.  Giving a user a role, or removing
it, concerns no other user.

## Main definitions

* `Pool.System.dials` : the attempts that opened, or are to open, a connection that is kept or used.

## Main results

* `Pool.System.role?_assign`, `Pool.System.role?_dismiss` : the roles afterwards.
* `Pool.System.perm_others` : the users are one of them and the others.
-/

namespace RateLimit

namespace Pool.System

variable {s : System} {user : Nat} {role : Role}

/-- The numbers of the attempts that opened the connections that are kept or used, or that are to
open one. -/
def dials (s : System) : List Nat :=
  s.pool.idle.map Session.dial ++ s.users.map fun entry => entry.2.dial

/-! ### Roles -/

theorem role?_assign (s : System) (user other : Nat) (role : Role) :
    (s.assign user role).role? other = if other = user then some role else s.role? other := by
  by_cases h : other = user
  · subst h
    rw [if_pos rfl, role?, assign, List.lookup_cons_self]
  · rw [role?, assign, List.lookup_cons, beq_false_of_ne h]
    dsimp only [others]
    rw [lookup_filter_ne, if_neg h, if_neg h, role?]

theorem role?_assign_self (s : System) (user : Nat) (role : Role) :
    (s.assign user role).role? user = some role := by
  rw [role?_assign, if_pos rfl]

theorem role?_dismiss (s : System) (user other : Nat) (pool : Pool) :
    (s.dismiss user pool).role? other = if other = user then none else s.role? other :=
  lookup_filter_ne s.users user other

theorem role?_assign_of_ne {other : Nat} (h : other ≠ user) (s : System) (role : Role) :
    (s.assign user role).role? other = s.role? other := by
  rw [role?_assign, if_neg h]

theorem others_assign (s : System) (user : Nat) (role : Role) :
    (s.assign user role).others user = s.others user := by
  rw [others, assign, List.filter_cons_of_neg (by simp), others, List.filter_filter]
  simp only [Bool.and_self]

theorem assign_assign (s : System) (user : Nat) (role role' : Role) :
    (s.assign user role).assign user role' = s.assign user role' := by
  rw [assign, others_assign]
  rfl

theorem role?_dismiss_self (s : System) (user : Nat) (pool : Pool) :
    (s.dismiss user pool).role? user = none := by
  rw [role?_dismiss, if_pos rfl]

theorem role?_dismiss_of_ne {other : Nat} (h : other ≠ user) (s : System) (pool : Pool) :
    (s.dismiss user pool).role? other = s.role? other := by
  rw [role?_dismiss, if_neg h]

/-! ### What does not concern a user -/

section Frame

variable {other : Nat} (h : other ≠ user) (s : System)

include h

theorem role?_acquire_of_ne : (s.acquire user).1.role? other = s.role? other := by
  rw [acquire]
  split
  · rfl
  · exact role?_assign_of_ne h _ _
  · exact role?_assign_of_ne h _ _

theorem role?_proceed_of_ne (dial : Nat) (p : Attempt.Progress) :
    (s.proceed user dial p).1.role? other = s.role? other := by
  cases p with
  | waiting => exact role?_assign_of_ne h _ _
  | failed => exact role?_dismiss_of_ne h _ _
  | opened =>
      rw [proceed]
      split
      · exact role?_dismiss_of_ne h _ _
      · exact role?_assign_of_ne h _ _

theorem role?_advance_of_ne (dial : Nat) (p : RateLimit.Progress) :
    (s.advance user dial p).1.role? other = s.role? other := by
  cases p <;> exact role?_assign_of_ne h _ _

theorem role?_react_of_ne (event : Event) :
    (s.react user event).1.role? other = s.role? other := by
  rw [react]
  split
  · exact role?_proceed_of_ne h s _ _
  · exact role?_advance_of_ne h s _ _
  · rfl

theorem role?_call_of_ne (call : Call) : (s.call user call).1.role? other = s.role? other := by
  rw [System.call]
  split
  · exact role?_advance_of_ne h s _ _
  · rfl

theorem role?_giveUp_of_ne : (s.giveUp user).role? other = s.role? other := by
  rw [giveUp]
  split
  · exact role?_dismiss_of_ne h _ _
  · exact role?_assign_of_ne h _ _
  · rfl

theorem role?_release_of_ne : (s.release user).role? other = s.role? other := by
  rw [release]
  split
  · exact role?_dismiss_of_ne h _ _
  · rfl

end Frame

theorem role?_release_self {session : Session} (h : s.role? user = some (.holding session)) :
    (s.release user).role? user = none := by
  rw [release, h]
  exact role?_dismiss_self ..

/-- Whoever gives up what it waits for and gives back its connection is gone. -/
theorem role?_release_giveUp_self (s : System) (user : Nat) :
    ((s.giveUp user).release user).role? user = none := by
  rw [giveUp]
  rcases hrole : s.role? user with _ | (⟨dial, attempt⟩ | session | ⟨dial, x⟩) <;> dsimp only
  · rw [release, hrole]
    exact hrole
  · rw [release, role?_dismiss_self]
    exact role?_dismiss_self ..
  · exact role?_release_self hrole
  · exact role?_release_self (role?_assign_self ..)

/-- A pool with fewer idle connections. -/
def withIdle (s : System) (idle : List Session) : System :=
  { s with pool := { s.pool with idle } }

/-- The connection that has been idle for the shortest time is handed out first. -/
theorem acquire_of_idle (hopen : s.pool.closed = false) {session : Session} {idle : List Session}
    (hidle : s.pool.idle = session :: idle) :
    s.acquire user = ((s.withIdle idle).assign user (.holding session),
      .acquired session.dial) := by
  rw [acquire, Pool.checkout, if_neg (by simp [hopen]), hidle]
  rfl

theorem react_of_opening {dial : Nat} {attempt : Attempt} {event : Event}
    (hrole : s.role? user = some (.opening dial attempt)) :
    s.react user event = s.proceed user dial (attempt.step s.credentials event) := by
  rw [react, hrole]

theorem react_of_calling {dial : Nat} {x : Exchange} {event : Event}
    (hrole : s.role? user = some (.calling dial x)) :
    s.react user event = s.advance user dial (x.step event) := by
  rw [react, hrole]

/-- A call that is in progress after an event was in progress before. -/
theorem role?_react_eq_calling {dial : Nat} {event : Event} {x' : Exchange}
    (h : (s.react user event).1.role? user = some (.calling dial x')) :
    ∃ x, s.role? user = some (.calling dial x) ∧ x.step event = .waiting x' := by
  rw [react] at h
  rcases hrole : s.role? user with _ | (⟨dial', attempt⟩ | session | ⟨dial', x⟩)
  all_goals simp only [hrole] at h
  · cases h
  · cases hstep : attempt.step s.credentials event <;> rw [hstep] at h
    · rw [proceed, role?_assign_self] at h
      cases h
    · rw [proceed] at h
      split at h
      · rw [role?_dismiss_self] at h
        cases h
      · rw [role?_assign_self] at h
        cases h
    · rw [proceed, role?_dismiss_self] at h
      cases h
  · cases h
  · cases hstep : x.step event <;> rw [hstep, advance, role?_assign_self] at h
    · cases h
      exact ⟨x, rfl, hstep⟩
    · cases h

/-! ### The others -/

/-- The users are one of them and the others. -/
theorem perm_others (hnames : (s.users.map Prod.fst).Nodup) (h : s.role? user = some role) :
    s.users.Perm ((user, role) :: s.others user) :=
  perm_of_lookup hnames h

/-- The open transports are those of the idle connections and those of users. -/
theorem mem_transports (hnames : (s.users.map Prod.fst).Nodup) {dial : Nat} :
    dial ∈ s.transports ↔ (∃ session ∈ s.pool.idle, session.dial = dial) ∨
      ∃ user role, s.role? user = some role ∧ role.hasTransport = true ∧ role.dial = dial := by
  rw [transports, List.mem_append, List.mem_map, List.mem_map]
  refine or_congr_right ⟨?_, ?_⟩
  · rintro ⟨⟨user, role⟩, hentry, hdial⟩
    obtain ⟨hmem, htransport⟩ := List.mem_filter.1 hentry
    exact ⟨user, role, lookup_of_mem hnames hmem, htransport, hdial⟩
  · rintro ⟨user, role, hrole, htransport, hdial⟩
    exact ⟨(user, role), List.mem_filter.2 ⟨mem_of_lookup hrole, htransport⟩, hdial⟩

/-- The open transports stay the same while a user goes on with the one it has. -/
theorem perm_transports_assign (hnames : (s.users.map Prod.fst).Nodup)
    (hrole : s.role? user = some role) {role' : Role}
    (htransport : role'.hasTransport = role.hasTransport) (hdial : role'.dial = role.dial) :
    (s.assign user role').transports.Perm s.transports := by
  have husers := ((perm_others hnames hrole).filter fun entry => entry.2.hasTransport).map
    fun entry => entry.2.dial
  have hassign :
      (((user, role') :: s.others user).filter fun entry => entry.2.hasTransport).map
          (fun entry => entry.2.dial) =
        (((user, role) :: s.others user).filter fun entry => entry.2.hasTransport).map
          fun entry => entry.2.dial := by
    rw [List.filter_cons, List.filter_cons]
    dsimp only
    rw [htransport]
    split
    · rw [List.map_cons, List.map_cons, hdial]
    · rfl
  exact (hassign ▸ husers.symm).append_left _

theorem length_users (hnames : (s.users.map Prod.fst).Nodup) (h : s.role? user = some role) :
    s.users.length = (s.others user).length + 1 :=
  (perm_others hnames h).length_eq

theorem perm_dials (hnames : (s.users.map Prod.fst).Nodup) (h : s.role? user = some role) :
    s.dials.Perm
      (role.dial :: (s.pool.idle.map Session.dial ++ (s.others user).map fun e => e.2.dial)) :=
  ((perm_others hnames h).map _).append_left _ |>.trans List.perm_middle

theorem notMem_others (s : System) (user : Nat) : user ∉ (s.others user).map Prod.fst := by
  intro h
  obtain ⟨entry, hentry, heq⟩ := List.mem_map.1 h
  simpa [heq] using (List.mem_filter.1 hentry).2

theorem nodup_names_others (hnames : (s.users.map Prod.fst).Nodup) (user : Nat) :
    ((s.others user).map Prod.fst).Nodup :=
  (List.filter_sublist.map _).nodup hnames

theorem others_eq_self (h : s.role? user = none) : s.others user = s.users := by
  refine List.filter_eq_self.2 fun entry hentry => ?_
  have hne : user != entry.1 := List.lookup_eq_none_iff.1 h entry hentry
  exact decide_eq_true (bne_iff_ne.1 hne).symm

end Pool.System

end RateLimit
