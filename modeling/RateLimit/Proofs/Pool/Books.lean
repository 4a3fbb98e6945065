import RateLimit.Proofs.Connection.Request
import RateLimit.Proofs.Pool.Users

/-!
# The books of a pool are right

Every connection that exists or is being opened is an idle one or belongs to one user, and the
pool counts exactly these.  Each thing that can happen to a pool and its users keeps this, and with
it the other facts that the count rests on.

## Main definitions

* `Pool.System.Sound` : the books agree with the connections there are.
* `Pool.System.Acquires` : what comes of asking for a connection.

## Main results

* `Pool.System.Sound.step` : every action keeps the books right.
-/

namespace RateLimit.Pool

/-- If a user is opening a connection, credentials are presented in a request. -/
inductive Role.IsRequest : Role → Prop
  | opening (dial : Nat) {attempt : Attempt} (h : attempt.IsRequest) :
      IsRequest (.opening dial attempt)
  | holding (session : Session) : IsRequest (.holding session)
  | calling (dial : Nat) (exchange : Exchange) : IsRequest (.calling dial exchange)

/-- A connection that comes back is destroyed, or it is whole and becomes an idle one. -/
theorem release_cases (p : Pool) (session : Session) :
    (p.closed || session.connection.broken) = true ∧ p.release session = p.giveBack ∨
      (p.closed || session.connection.broken) = false ∧ session.connection.broken = false ∧
        p.release session = { p with idle := session :: p.idle } := by
  cases h : p.closed || session.connection.broken
  · refine .inr ⟨rfl, (Bool.or_eq_false_iff.1 h).2, ?_⟩
    rw [release, if_neg (by simp [h])]
  · exact .inl ⟨rfl, by rw [release, if_pos h]⟩

namespace System

/-- The books of a pool agree with the connections there are. -/
structure Sound (s : System) : Prop where
  /-- What is counted is idle or in use. -/
  live_eq : s.pool.live = s.pool.idle.length + s.users.length
  live_le : s.pool.live ≤ s.pool.maxSize
  names : (s.users.map Prod.fst).Nodup
  /-- No connection is kept or used twice. -/
  dials : s.dials.Nodup
  dial_lt : ∀ dial ∈ s.dials, dial < s.dialed
  whole : ∀ session ∈ s.pool.idle, session.connection.broken = false
  requests : ∀ user role, s.role? user = some role → role.IsRequest

variable {s : System} {user : Nat} {role role' : Role}

/-! ### Changes of one user -/

theorem Sound.live_pos (h : s.Sound) (hrole : s.role? user = some role) : 0 < s.pool.live := by
  have hlive := h.live_eq
  have hlength := length_users h.names hrole
  omega

/-- No transport is open twice. -/
theorem Sound.nodup_transports (h : s.Sound) : s.transports.Nodup :=
  ((List.Sublist.refl _).append (List.filter_sublist.map _)).nodup h.dials

theorem perm_dials_assign (hnames : (s.users.map Prod.fst).Nodup)
    (hrole : s.role? user = some role) (hdial : role'.dial = role.dial) :
    (s.assign user role').dials.Perm s.dials := by
  have hassign : (s.assign user role').dials = s.pool.idle.map Session.dial ++
      role'.dial :: (s.others user).map fun entry => entry.2.dial := rfl
  rw [hassign, hdial]
  exact List.perm_middle.trans (perm_dials hnames hrole).symm

/-- A user goes on with the connection it has. -/
theorem Sound.assign (h : s.Sound) (hrole : s.role? user = some role)
    (hdial : role'.dial = role.dial) (hrequest : role'.IsRequest) :
    (s.assign user role').Sound where
  live_eq := by
    have hlive := h.live_eq
    have hlength := length_users h.names hrole
    change s.pool.live = s.pool.idle.length + ((s.others user).length + 1)
    omega
  live_le := h.live_le
  names := List.nodup_cons.2 ⟨notMem_others s user, nodup_names_others h.names user⟩
  dials := (perm_dials_assign h.names hrole hdial).nodup_iff.2 h.dials
  dial_lt := fun dial hmem =>
    h.dial_lt dial ((perm_dials_assign h.names hrole hdial).mem_iff.1 hmem)
  whole := h.whole
  requests := by
    intro other role'' hother
    rw [role?_assign] at hother
    split at hother
    · cases hother
      exact hrequest
    · exact h.requests other role'' hother

theorem Sound.requests_dismiss (h : s.Sound) (pool : Pool) (other : Nat) (role' : Role)
    (hother : (s.dismiss user pool).role? other = some role') : role'.IsRequest := by
  rw [role?_dismiss] at hother
  split at hother
  · cases hother
  · exact h.requests other role' hother

/-- A user that destroys its connection, or gives up opening one, gives the slot back. -/
theorem Sound.giveBack (h : s.Sound) (hrole : s.role? user = some role) :
    (s.dismiss user s.pool.giveBack).Sound where
  live_eq := by
    have hlive := h.live_eq
    have hlength := length_users h.names hrole
    change s.pool.live - 1 = s.pool.idle.length + (s.others user).length
    omega
  live_le := Nat.le_trans (Nat.sub_le _ _) h.live_le
  names := nodup_names_others h.names user
  dials := (List.nodup_cons.1 ((perm_dials h.names hrole).nodup_iff.1 h.dials)).2
  dial_lt := fun dial hmem =>
    h.dial_lt dial ((perm_dials h.names hrole).mem_iff.2 (List.mem_cons_of_mem _ hmem))
  whole := h.whole
  requests := h.requests_dismiss _

/-- A user puts a whole connection back among the idle ones. -/
theorem Sound.restore (h : s.Sound) {session : Session}
    (hrole : s.role? user = some (.holding session)) (hwhole : session.connection.broken = false) :
    (s.dismiss user { s.pool with idle := session :: s.pool.idle }).Sound where
  live_eq := by
    have hlive := h.live_eq
    have hlength := length_users h.names hrole
    change s.pool.live = s.pool.idle.length + 1 + (s.others user).length
    omega
  live_le := h.live_le
  names := nodup_names_others h.names user
  dials := (perm_dials h.names hrole).nodup_iff.1 h.dials
  dial_lt := fun dial hmem => h.dial_lt dial ((perm_dials h.names hrole).mem_iff.2 hmem)
  whole := List.forall_mem_cons.2 ⟨hwhole, h.whole⟩
  requests := h.requests_dismiss _

/-! ### Asking for a connection -/

/-- What comes of asking for a connection. -/
inductive Acquires (s : System) (user : Nat) : System × Turn → Prop
  /-- The pool is closed. -/
  | closed (hclosed : s.pool.closed = true) : Acquires s user (s, .refused .poolClosed)
  /-- There is no idle connection, and no further one may be opened. -/
  | exhausted (hidle : s.pool.idle = []) (hfull : s.pool.maxSize ≤ s.pool.live) :
      Acquires s user (s, .refused (.poolExhausted s.pool.maxSize))
  /-- There is an idle connection. -/
  | session {session : Session} {idle : List Session} (hidle : s.pool.idle = session :: idle) :
      Acquires s user
        ({ s with pool := { s.pool with idle } }.assign user (.holding session),
          .acquired session.dial)
  /-- A connection may be opened. -/
  | slot (hidle : s.pool.idle = []) (hroom : s.pool.live < s.pool.maxSize) :
      Acquires s user
        ({ s with
            pool := { s.pool with live := s.pool.live + 1 }
            dialed := s.dialed + 1 }.assign user (.opening s.dialed .connecting),
          .dialing s.dialed)

theorem acquires (s : System) (user : Nat) : s.Acquires user (s.acquire user) := by
  obtain ⟨credentials, ⟨maxSize, idle, live, closed⟩, users, dialed⟩ := s
  rw [acquire, Pool.checkout]
  by_cases hclosed : closed = true
  · rw [if_pos hclosed]
    exact .closed hclosed
  · rw [if_neg hclosed]
    cases idle with
    | cons session idle => exact .session rfl
    | nil =>
        dsimp only
        by_cases hfull : maxSize ≤ live
        · rw [if_pos hfull]
          exact .exhausted rfl hfull
        · rw [if_neg hfull]
          exact .slot rfl (Nat.lt_of_not_le hfull)

/-- Whoever asks for a connection does not begin a call by that. -/
theorem role?_acquire_ne_calling (hfree : s.role? user = none) (dial : Nat) (x : Exchange) :
    (s.acquire user).1.role? user ≠ some (.calling dial x) := by
  have hacquires := s.acquires user
  generalize s.acquire user = result at hacquires ⊢
  intro hrole
  cases hacquires with
  | closed | exhausted => cases hfree.symm.trans hrole
  | session | slot =>
      rw [role?_assign_self] at hrole
      cases hrole

/-- Somebody new comes with a connection of its own. -/
theorem Sound.join {t : System} (h : s.Sound) (hfree : s.role? user = none)
    (husers : t.users = s.users)
    (hlive : t.pool.live = t.pool.idle.length + (s.users.length + 1))
    (hle : t.pool.live ≤ t.pool.maxSize) (hdials : (role.dial :: t.dials).Nodup)
    (hlt : ∀ dial ∈ role.dial :: t.dials, dial < t.dialed)
    (hwhole : ∀ session ∈ t.pool.idle, session.connection.broken = false)
    (hrequest : role.IsRequest) : (t.assign user role).Sound := by
  have hothers : t.others user = t.users := others_eq_self (by rw [role?, husers]; exact hfree)
  have hperm : (t.assign user role).dials.Perm (role.dial :: t.dials) := by
    have hassign : (t.assign user role).dials = t.pool.idle.map Session.dial ++
        role.dial :: (t.others user).map fun entry => entry.2.dial := rfl
    rw [hassign, hothers]
    exact List.perm_middle
  exact {
    live_eq := by
      change t.pool.live = t.pool.idle.length + ((t.others user).length + 1)
      rw [hothers, husers, hlive]
    live_le := hle
    names := by
      refine List.nodup_cons.2 ⟨notMem_others t user, nodup_names_others ?_ user⟩
      rw [husers]
      exact h.names
    dials := hperm.nodup_iff.2 hdials
    dial_lt := fun dial hmem => hlt dial (hperm.mem_iff.1 hmem)
    whole := hwhole
    requests := by
      intro other role' hother
      rw [role?_assign] at hother
      split at hother
      · cases hother
        exact hrequest
      · rw [role?, husers] at hother
        exact h.requests other role' hother }

/-- Whoever asks for a connection gets an idle one, or a slot that is counted at once. -/
theorem Sound.acquire (h : s.Sound) (hfree : s.role? user = none) :
    (s.acquire user).1.Sound := by
  have hlive := h.live_eq
  have hdials := h.dials
  have hlt := h.dial_lt
  have hacquires := s.acquires user
  generalize s.acquire user = result at hacquires ⊢
  cases hacquires with
  | closed => exact h
  | exhausted => exact h
  | @session session idle hidle =>
      rw [System.dials, hidle] at hdials hlt
      refine h.join hfree rfl ?_ h.live_le hdials hlt ?_ (.holding session)
      · rw [hlive, hidle, List.length_cons]
        dsimp only
        omega
      · exact fun x hx => h.whole x (hidle ▸ List.mem_cons_of_mem session hx)
  | slot hidle hroom =>
      refine h.join hfree rfl ?_ hroom ?_ ?_ h.whole (.opening _ .connecting)
      · dsimp only
        omega
      · exact List.nodup_cons.2 ⟨fun hmem => Nat.lt_irrefl _ (hlt _ hmem), hdials⟩
      · exact List.forall_mem_cons.2
          ⟨Nat.lt_succ_self _, fun dial hmem => Nat.lt_succ_of_lt (hlt dial hmem)⟩

/-! ### The other things that happen -/

/-- An attempt goes on: it keeps its slot, fills it, or gives it back. -/
theorem Sound.proceed (h : s.Sound) {dial : Nat} {attempt : Attempt}
    (hrole : s.role? user = some (.opening dial attempt)) {p : Attempt.Progress}
    (hp : p.IsRequest) : (s.proceed user dial p).1.Sound := by
  cases hp with
  | waiting hattempt => exact h.assign hrole rfl (.opening dial hattempt)
  | failed => exact h.giveBack hrole
  | opened =>
      rw [System.proceed]
      split
      · exact h.giveBack hrole
      · exact h.assign hrole rfl (.holding _)

/-- A call goes on: the user keeps its connection. -/
theorem Sound.advance (h : s.Sound) (hrole : s.role? user = some role) (p : RateLimit.Progress) :
    (s.advance user role.dial p).1.Sound := by
  cases p with
  | waiting exchange => exact h.assign hrole rfl (.calling _ exchange)
  | finished connection result => exact h.assign hrole rfl (.holding _)

theorem Sound.react (h : s.Sound) (user : Nat) (event : Event) : (s.react user event).1.Sound := by
  rw [System.react]
  split
  · rename_i dial attempt hrole
    cases h.requests user _ hrole with
    | opening _ hattempt => exact h.proceed hrole (hattempt.step s.credentials event)
  · rename_i dial exchange hrole
    exact h.advance hrole (exchange.step event)
  · exact h

theorem Sound.call (h : s.Sound) (user : Nat) (call : Call) : (s.call user call).1.Sound := by
  rw [System.call]
  split
  · rename_i session hrole
    exact h.advance hrole (session.connection.start call)
  · exact h

theorem Sound.giveUp (h : s.Sound) (user : Nat) : (s.giveUp user).Sound := by
  rw [System.giveUp]
  split
  · rename_i hrole
    exact h.giveBack hrole
  · rename_i hrole
    exact h.assign hrole rfl (.holding _)
  · exact h

theorem Sound.release (h : s.Sound) (user : Nat) : (s.release user).Sound := by
  rw [System.release]
  split
  · rename_i session hrole
    rcases s.pool.release_cases session with ⟨-, hgone⟩ | ⟨-, hwhole, hkept⟩
    · rw [hgone]
      exact h.giveBack hrole
    · rw [hkept]
      exact h.restore hrole hwhole
  · exact h

/-- The idle connections are no longer counted once they are destroyed. -/
theorem Sound.close (h : s.Sound) : s.close.Sound := by
  rw [System.close, Pool.close]
  split
  · exact h
  · have hlive := h.live_eq
    have husers : (s.users.map fun entry => entry.2.dial).Sublist s.dials :=
      List.sublist_append_right _ _
    exact {
      live_eq := by
        dsimp only [List.length_nil]
        omega
      live_le := Nat.le_trans (Nat.sub_le _ _) h.live_le
      names := h.names
      dials := husers.nodup h.dials
      dial_lt := fun dial hmem => h.dial_lt dial (husers.subset hmem)
      whole := fun session hmem => (List.not_mem_nil hmem).elim
      requests := h.requests }

/-- Every action keeps the books right. -/
theorem Sound.step (h : s.Sound) (action : Action) : (s.step action).1.Sound := by
  cases action with
  | acquire user =>
      rw [System.step]
      split
      · exact h
      · rename_i hfree
        exact h.acquire (by simpa using hfree)
  | event user event => exact h.react user event
  | call user call => exact h.call user call
  | giveUp user => exact h.giveUp user
  | release user => exact h.release user
  | close => exact h.close

end System

end RateLimit.Pool
