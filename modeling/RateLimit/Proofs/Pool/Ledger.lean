import RateLimit.Pool.Opening
import RateLimit.Proofs.Pool.Books

/-!
# The ledger of a pool

A pool that was opened with sizes that fit keeps its books right in every run: whatever its users
and their transports do, and whenever it is closed, what it counts is what there is.  So nothing is
ever subtracted that was not counted, a caller is refused for want of room only if there is none,
and no failure leaves anything counted behind.

## Main definitions

* `Pool.System.Reachable` : the states that a pool opened with some settings comes to.
* `Pool.System.held`, `Pool.System.dialing` : how many connections are in use or being opened.
* `Pool.System.debit` : by how much an action lowers the count of connections.

## Main results

* `Pool.System.Sound.charges` : what an action does to the count.
* `Pool.System.Reachable.sound` : the books are right in every state.
* `Pool.System.ledger` : what that says about the pool.
-/

namespace RateLimit.Pool

/-! ### Opening -/

namespace Opening

/-- How far the opening of a pool can come, by events in any order. -/
inductive Reachable (settings : PoolSettings) : Progress → Prop
  | start : Reachable settings (start settings).1
  | step {o : Opening} (h : Reachable settings (.waiting o)) (event : Event) :
      Reachable settings (o.step event).1

/-- The connections that were opened one after the other, all of them whole. -/
structure Numbered (opened : List Session) : Prop where
  dials : opened.map Session.dial = (List.range opened.length).reverse
  whole : ∀ session ∈ opened, session.connection.broken = false

theorem Numbered.cons {opened : List Session} (h : Numbered opened) {c : Connection}
    (hc : c.broken = false) : Numbered (⟨opened.length, c⟩ :: opened) where
  dials := by
    rw [List.map_cons, h.dials, List.length_cons, List.range_succ, List.reverse_append]
    rfl
  whole := List.forall_mem_cons.2 ⟨hc, h.whole⟩

/-- No two connections of a pool that is being opened share a transport. -/
theorem Numbered.nodup_transports {o : Opening} (h : Numbered o.opened) : o.transports.Nodup := by
  have hnodup : (o.dial :: o.opened.map Session.dial).Nodup := by
    rw [h.dials, List.nodup_cons, List.mem_reverse, List.mem_range]
    exact ⟨Nat.lt_irrefl _, List.nodup_reverse.2 List.nodup_range⟩
  rw [transports]
  split
  · exact hnodup
  · exact (List.nodup_cons.1 hnodup).2

/-- How far the opening of a pool has come, with the connections so far numbered. -/
inductive Progress.Sound (settings : PoolSettings) : Progress → Prop
  | waiting {o : Opening} (hsettings : o.settings = settings) (hopened : Numbered o.opened)
      (hroom : o.opened.length < settings.initialSize) (hattempt : o.attempt.IsRequest) :
      Sound settings (.waiting o)
  | opened {s : System} (hsound : s.Sound) (hmax : s.pool.maxSize = settings.maxSize) :
      Sound settings (.opened s)
  | failed (error : Error) {dropped : List Nat} (hdropped : dropped.Nodup) :
      Sound settings (.failed error dropped)

variable {settings : PoolSettings}

theorem next_sound (hsizes : settings.initialSize ≤ settings.maxSize) {opened : List Session}
    (h : Numbered opened) (hlength : opened.length ≤ settings.initialSize) :
    (next settings opened).1.Sound settings := by
  rw [next]
  split
  · rename_i hroom
    exact .waiting rfl h hroom .connecting
  · refine .opened ?_ rfl
    exact {
      live_eq := rfl
      live_le := Nat.le_trans hlength hsizes
      names := List.nodup_nil
      dials := by
        rw [System.dials, h.dials, List.map_nil, List.append_nil]
        exact List.nodup_reverse.2 List.nodup_range
      dial_lt := by
        intro dial hmem
        rw [System.dials, h.dials, List.map_nil, List.append_nil, List.mem_reverse] at hmem
        exact List.mem_range.1 hmem
      whole := h.whole
      requests := fun user role hrole => by cases hrole }

theorem Progress.Sound.step (hsizes : settings.initialSize ≤ settings.maxSize) {o : Opening}
    (h : (Progress.waiting o).Sound settings) (event : Event) :
    (o.step event).1.Sound settings := by
  cases h with
  | waiting hsettings hopened hroom hattempt =>
      rw [Opening.step]
      have hrequest := hattempt.step o.settings.credentials event
      generalize o.attempt.step o.settings.credentials event = p at hrequest ⊢
      cases hrequest with
      | waiting hattempt => exact .waiting hsettings hopened hroom hattempt
      | failed => exact .failed _ hopened.nodup_transports
      | opened hc =>
          subst hsettings
          exact next_sound hsizes (hopened.cons hc) hroom

theorem Progress.Sound.numbered {o : Opening} (h : (Progress.waiting o).Sound settings) :
    Numbered o.opened := by
  cases h with
  | waiting _ hopened => exact hopened

theorem start_sound (hsizes : settings.initialSize ≤ settings.maxSize) :
    (start settings).1.Sound settings :=
  next_sound hsizes ⟨rfl, fun session hmem => by cases hmem⟩ (Nat.zero_le _)

theorem Reachable.sound (hsizes : settings.initialSize ≤ settings.maxSize)
    {progress : Progress} (h : Reachable settings progress) : progress.Sound settings := by
  induction h with
  | start => exact start_sound hsizes
  | step h event ih => exact ih.step hsizes event

end Opening

namespace System

/-- The states that a pool opened with some settings comes to, by actions in any order. -/
inductive Reachable (settings : PoolSettings) : System → Prop
  | opened {s : System} (h : Opening.Reachable settings (.opened s)) : Reachable settings s
  | step {s : System} (h : Reachable settings s) (action : Action) :
      Reachable settings (s.step action).1

/-- How many connections are being opened. -/
def dialing (s : System) : Nat :=
  s.users.countP fun entry => entry.2 matches .opening _ _

/-- How many connections are held by users, at rest or in a call. -/
def held (s : System) : Nat :=
  s.users.countP fun entry => !entry.2 matches .opening _ _

/-- By how much an action lowers the count of connections: by one for a slot that is given back or
a connection that is destroyed, and by the idle connections when the pool is closed. -/
def debit (s : System) : Action → Nat
  | .event user event =>
      match s.role? user with
      | some (.opening _ attempt) =>
          match attempt.step s.credentials event with
          | .waiting _ => 0
          | .failed _ => 1
          | .opened _ => if s.pool.closed then 1 else 0
      | _ => 0
  | .giveUp user =>
      match s.role? user with
      | some (.opening _ _) => 1
      | _ => 0
  | .release user =>
      match s.role? user with
      | some (.holding session) => if s.pool.closed || session.connection.broken then 1 else 0
      | _ => 0
  | .close => if s.pool.closed then 0 else s.pool.idle.length
  | .acquire _ | .call _ _ => 0

/-! ### What an action does to the count -/

/-- From one state to another, so much was subtracted from a count that held it, and one was added
for each connection that began to be opened. -/
structure Charges (s t : System) (debit : Nat) : Prop where
  maxSize : t.pool.maxSize = s.pool.maxSize
  le : debit ≤ s.pool.live
  live : t.pool.live + debit + s.dialed = s.pool.live + t.dialed

variable {s : System} {user : Nat} {role : Role}

theorem Charges.refl (s : System) : s.Charges s 0 :=
  ⟨rfl, Nat.zero_le _, rfl⟩

theorem Charges.assign (s : System) (user : Nat) (role : Role) :
    s.Charges (s.assign user role) 0 :=
  ⟨rfl, Nat.zero_le _, rfl⟩

theorem Sound.charges_giveBack (h : s.Sound) (hrole : s.role? user = some role) :
    s.Charges (s.dismiss user s.pool.giveBack) 1 := by
  have hpos := h.live_pos hrole
  refine ⟨rfl, hpos, ?_⟩
  change s.pool.live - 1 + 1 + s.dialed = s.pool.live + s.dialed
  omega

/-- What an action subtracts is there to be subtracted. -/
theorem Sound.charges (h : s.Sound) (action : Action) :
    s.Charges (s.step action).1 (s.debit action) := by
  cases action with
  | acquire user =>
      rw [System.step, debit]
      split
      · exact .refl s
      · have hacquires := s.acquires user
        generalize s.acquire user = result at hacquires ⊢
        cases hacquires with
        | closed | exhausted => exact .refl s
        | session => exact ⟨rfl, Nat.zero_le _, rfl⟩
        | slot => exact ⟨rfl, Nat.zero_le _, Nat.add_right_comm s.pool.live 1 s.dialed⟩
  | event user event =>
      change s.Charges (s.react user event).1 _
      rw [System.react, debit]
      rcases hrole : s.role? user with _ | (⟨dial, attempt⟩ | session | ⟨dial, exchange⟩)
      · exact .refl s
      · dsimp only
        cases attempt.step s.credentials event with
        | waiting => exact .assign s user _
        | failed => exact h.charges_giveBack hrole
        | opened =>
            rw [System.proceed]
            dsimp only
            split
            · exact h.charges_giveBack hrole
            · exact .assign s user _
      · exact .refl s
      · dsimp only
        cases exchange.step event <;> exact .assign s user _
  | call user call =>
      change s.Charges (s.call user call).1 0
      rw [System.call]
      split
      · rename_i session hrole
        cases session.connection.start call <;> exact .assign s user _
      · exact .refl s
  | giveUp user =>
      change s.Charges (s.giveUp user) _
      rw [System.giveUp, debit]
      rcases hrole : s.role? user with _ | (⟨dial, attempt⟩ | session | ⟨dial, exchange⟩)
      · exact .refl s
      · exact h.charges_giveBack hrole
      · exact .refl s
      · exact .assign s user _
  | release user =>
      change s.Charges (s.release user) _
      rw [System.release, debit]
      rcases hrole : s.role? user with _ | (⟨dial, attempt⟩ | session | ⟨dial, exchange⟩)
      · exact .refl s
      · exact .refl s
      · dsimp only
        rcases s.pool.release_cases session with ⟨hlost, hgone⟩ | ⟨hwhole, -, hkept⟩
        · rw [hgone, if_pos hlost]
          exact h.charges_giveBack hrole
        · rw [hkept, if_neg (by simp [hwhole])]
          exact ⟨rfl, Nat.zero_le _, rfl⟩
      · exact .refl s
  | close =>
      change s.Charges s.close _
      rw [System.close, Pool.close, debit]
      have hlive := h.live_eq
      split
      · exact .refl s
      · refine ⟨rfl, by omega, ?_⟩
        dsimp only
        omega

/-! ### The ledger -/

theorem held_add_dialing (s : System) : s.held + s.dialing = s.users.length := by
  rw [List.length_eq_countP_add_countP fun entry => entry.2 matches .opening _ _, dialing, held,
    Nat.add_comm]
  simp only [Bool.not_eq_true, Bool.decide_eq_false]

theorem refused_mem_notices {turn : Turn} {user other : Nat} {error : Error}
    (h : .refused user error ∈ turn.notices other) : turn = .refused error := by
  cases turn with
  | pending => cases h
  | refused =>
      cases List.mem_singleton.1 h
      rfl
  | dialing | acquired | ended => cases List.mem_singleton.1 h

theorem refused_notMem_traffic (s : System) (event : Event) (user other : Nat) (error : Error) :
    .refused other error ∉ s.traffic user event := by
  unfold traffic Role.traffic
  split
  · rw [List.mem_append]
    split_ifs <;> simp
  · exact List.not_mem_nil

/-- A user that waits is not refused for want of room. -/
theorem Sound.react_ne_exhausted (h : s.Sound) (user : Nat) (event : Event) (n : Nat) :
    (s.react user event).2 ≠ .refused (.poolExhausted n) := by
  intro heq
  rw [System.react] at heq
  rcases hrole : s.role? user with _ | (⟨dial, attempt⟩ | session | ⟨dial, exchange⟩)
  all_goals simp only [hrole] at heq
  · cases heq
  · cases h.requests user _ hrole with
    | opening _ hattempt =>
        have hrequest := hattempt.step s.credentials event
        generalize attempt.step s.credentials event = p at hrequest heq
        cases hrequest with
        | waiting => cases heq
        | failed herror =>
            cases heq
            cases herror
        | opened =>
            rw [System.proceed] at heq
            split at heq <;> cases heq
  · cases heq
  · cases hstep : exchange.step event <;> rw [hstep] at heq <;> cases heq

/-- Only who asks for a connection is told that there is no room. -/
theorem Sound.exhausted (h : s.Sound) {action : Action} {n : Nat}
    (hmem : .refused user (.poolExhausted n) ∈ (s.step action).2) :
    n = s.pool.maxSize ∧ s.pool.idle = [] ∧ s.pool.maxSize ≤ s.pool.live := by
  cases action with
  | acquire other =>
      rw [System.step] at hmem
      split at hmem
      · cases hmem
      · have hturn := refused_mem_notices hmem
        have hacquires := s.acquires other
        generalize s.acquire other = result at hacquires hturn
        cases hacquires with
        | exhausted hidle hfull =>
            cases hturn
            exact ⟨rfl, hidle, hfull⟩
        | closed | session | slot => cases hturn
  | event other event =>
      rcases List.mem_append.1 hmem with htraffic | hturn
      · exact (refused_notMem_traffic s event other user _ htraffic).elim
      · exact (h.react_ne_exhausted other event n (refused_mem_notices hturn)).elim
  | call other call =>
      have hturn : (s.call other call).2 = .refused (.poolExhausted n) := refused_mem_notices hmem
      rw [System.call] at hturn
      split at hturn
      · rename_i session _
        cases hstart : session.connection.start call <;> rw [hstart] at hturn <;> cases hturn
      · cases hturn
  | giveUp | release | close => cases hmem

/-- The books are right in every state that a pool comes to whose sizes fit. -/
theorem Reachable.sound {settings : PoolSettings}
    (hsizes : settings.initialSize ≤ settings.maxSize) (h : s.Reachable settings) :
    s.Sound ∧ s.pool.maxSize = settings.maxSize := by
  induction h with
  | opened h =>
      cases h.sound hsizes with
      | opened hsound hmax => exact ⟨hsound, hmax⟩
  | step h action ih =>
      exact ⟨ih.1.step action, (ih.1.charges action).maxSize.trans ih.2⟩

/-- **The ledger of a pool.** In every state that a pool comes to whose sizes fit:
what it counts is what is idle, held and being opened; that is no more than it may be, and no fewer
than the transports there are; no connection is idle or held twice, and no idle one is broken; no
action subtracts more than is there, and what it adds are the connections it begins to open; who is
told that there is no room finds all room taken by connections in use; and when none is in use, all
that is counted is idle. -/
theorem ledger {settings : PoolSettings} (hsizes : settings.initialSize ≤ settings.maxSize)
    (hs : s.Reachable settings) :
    s.pool.live = s.pool.idle.length + s.held + s.dialing ∧
      s.pool.live ≤ settings.maxSize ∧
      s.transports.length ≤ s.pool.live ∧
      s.dials.Nodup ∧
      (∀ session ∈ s.pool.idle, session.connection.broken = false) ∧
      (∀ action, s.debit action ≤ s.pool.live ∧
        (s.step action).1.pool.live + s.debit action + s.dialed =
          s.pool.live + (s.step action).1.dialed) ∧
      (∀ action user n, .refused user (.poolExhausted n) ∈ (s.step action).2 →
        n = settings.maxSize ∧ s.held + s.dialing = settings.maxSize) ∧
      (s.held = 0 → s.dialing = 0 → s.pool.live = s.pool.idle.length) := by
  obtain ⟨h, hmax⟩ := hs.sound hsizes
  have hlive := h.live_eq
  have hle := h.live_le
  have husers := s.held_add_dialing
  refine ⟨by omega, by omega, ?_, h.dials, h.whole, ?_, ?_, by omega⟩
  · have hfilter := List.length_filter_le (fun entry : Nat × Role => entry.2.hasTransport) s.users
    rw [transports, List.length_append, List.length_map, List.length_map]
    omega
  · exact fun action => ⟨(h.charges action).le, (h.charges action).live⟩
  · intro action user n hmem
    obtain ⟨rfl, hidle, hfull⟩ := h.exhausted hmem
    rw [hidle, List.length_nil] at hlive
    omega

/-- A pool for two connections that was opened with one: the first user has got it, the second is
opening another, and the third is refused. -/
theorem ledger_full :
    let settings : PoolSettings := ⟨1, 2, none⟩
    let opened : System := { credentials := none, pool := ⟨2, [⟨0, {}⟩], 1, false⟩, dialed := 1 }
    let s := ((opened.step (.acquire 1)).1.step (.acquire 2)).1
    s.Reachable settings ∧ .refused 3 (.poolExhausted 2) ∈ (s.step (.acquire 3)).2 ∧
      s.pool.live = s.pool.idle.length + s.held + s.dialing ∧ s.held + s.dialing = 2 := by
  intro settings opened s
  have hopened : opened.Reachable settings :=
    .opened (@Opening.Reachable.step settings ⟨settings, [], .connecting⟩ .start .connected)
  have hs : s.Reachable settings := (hopened.step (.acquire 1)).step (.acquire 2)
  have hrefused : .refused 3 (.poolExhausted 2) ∈ (s.step (.acquire 3)).2 :=
    List.mem_singleton.2 rfl
  obtain ⟨hlive, -, -, -, -, -, hfull, -⟩ := ledger (by decide) hs
  exact ⟨hs, hrefused, hlive, (hfull (.acquire 3) 3 2 hrefused).2⟩

end System

end RateLimit.Pool
