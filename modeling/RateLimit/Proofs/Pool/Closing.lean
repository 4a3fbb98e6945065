import RateLimit.Proofs.Pool.Turns
import RateLimit.Proofs.Pool.Wires

/-!
# A pool that is closed

Nobody comes to a pool that is closed, and no connection comes back to it.  Those who use it go on,
each on its own transport, until they have left.  So nothing is sent on a transport any more but
what its user had still to send when the pool was closed.

## Main definitions

* `Pool.System.Keeps` : the flags of a pool stay as they are.
* `Pool.System.Continues` : a user goes on or leaves, and all others stay as they are.
* `Pool.System.Limited` : nobody has more to send on a transport than some bytes.
* `Pool.written` : what was written on a transport.

## Main results

* `Pool.System.continues_react`, `Pool.System.continues_giveUp`, `Pool.System.continues_release` :
  what happens to a user.
* `Pool.System.Continues.limited` : what is written on a transport is no longer to be sent.
-/

namespace RateLimit.Pool

/-! ### What is written -/

/-- The bytes that a notice tells to have been written on a transport. -/
def Notice.bytesOn (dial : Nat) : Notice → Bytes
  | .wrote other bytes => if other = dial then bytes else []
  | _ => []

/-- The bytes that notices tell to have been written on a transport. -/
def written (dial : Nat) (notices : List Notice) : Bytes :=
  notices.flatMap (Notice.bytesOn dial)

theorem written_append (dial : Nat) (notices more : List Notice) :
    written dial (notices ++ more) = written dial notices ++ written dial more :=
  List.flatMap_append

/-- What is written in an event is what the transport of the user takes. -/
theorem written_traffic (dial : Nat) (role : Role) (event : Event) :
    written dial (role.traffic event) = if role.dial = dial then role.accepted event else [] := by
  have hflushed : written dial (if role.flushes event then [.flushed role.dial] else []) = [] := by
    split <;> rfl
  rw [Role.traffic, written_append, hflushed, List.append_nil]
  split
  · rename_i hempty
    rw [List.isEmpty_iff.1 hempty, ite_self]
    rfl
  · exact List.append_nil _

namespace System

variable {s t u : System} {user dial : Nat} {role : Role} {taken bytes : Bytes}

/-! ### What a pool keeps -/

/-- From one state to another, the credentials have stayed and the pool was not closed; and if it
was closed before, its idle connections are the same. -/
structure Keeps (s t : System) : Prop where
  credentials : t.credentials = s.credentials
  closed : t.pool.closed = s.pool.closed
  idle : s.pool.closed = true → t.pool.idle = s.pool.idle

theorem Keeps.refl (s : System) : s.Keeps s :=
  ⟨rfl, rfl, fun _ => rfl⟩

theorem Keeps.trans (h : s.Keeps t) (h' : t.Keeps u) : s.Keeps u where
  credentials := h'.credentials.trans h.credentials
  closed := h'.closed.trans h.closed
  idle hclosed := (h'.idle (h.closed.trans hclosed)).trans (h.idle hclosed)

theorem keeps_assign (s : System) (user : Nat) (role : Role) : s.Keeps (s.assign user role) :=
  ⟨rfl, rfl, fun _ => rfl⟩

theorem keeps_giveBack (s : System) (user : Nat) :
    s.Keeps (s.dismiss user s.pool.giveBack) :=
  ⟨rfl, rfl, fun _ => rfl⟩

theorem keeps_acquire (s : System) (user : Nat) : s.Keeps (s.acquire user).1 := by
  by_cases hclosed : s.pool.closed = true
  · rw [acquire, Pool.checkout, if_pos hclosed]
    exact .refl s
  · have hacquires := s.acquires user
    generalize s.acquire user = result at hacquires ⊢
    cases hacquires with
    | closed | exhausted => exact .refl s
    | session | slot => exact ⟨rfl, rfl, fun h => (hclosed h).elim⟩

theorem keeps_advance (s : System) (user dial : Nat) (p : RateLimit.Progress) :
    s.Keeps (s.advance user dial p).1 := by
  cases p <;> exact s.keeps_assign user _

theorem keeps_call (s : System) (user : Nat) (call : Call) : s.Keeps (s.call user call).1 := by
  rw [System.call]
  split
  · exact s.keeps_advance user _ _
  · exact .refl s

/-! ### A user that goes on -/

/-- From one state to another, a user has gone on or left, its transport has taken some bytes, and
nobody else was concerned. -/
structure Continues (s t : System) (user : Nat) (taken : Bytes) : Prop where
  keeps : s.Keeps t
  others : ∀ other, other ≠ user → t.role? other = s.role? other
  sent : ∀ role, s.role? user = some role → taken <+: role.unsent s.credentials
  own : ∀ role', t.role? user = some role' → ∃ role, s.role? user = some role ∧
    role'.dial = role.dial ∧ taken ++ role'.unsent s.credentials <+: role.unsent s.credentials

theorem Continues.refl (s : System) (user : Nat) : s.Continues s user [] where
  keeps := .refl s
  others _ _ := rfl
  sent _ _ := List.nil_prefix
  own role hrole := ⟨role, hrole, rfl, List.prefix_rfl⟩

/-- A user leaves. -/
theorem Continues.left (hkeeps : s.Keeps t) (hothers : ∀ other, other ≠ user →
      t.role? other = s.role? other) (hnone : t.role? user = none)
    (htaken : ∀ role, s.role? user = some role → taken <+: role.unsent s.credentials) :
    s.Continues t user taken where
  keeps := hkeeps
  others := hothers
  sent := htaken
  own role' hrole' := by cases hnone.symm.trans hrole'

/-- A user takes another role on its transport. -/
theorem Continues.assigned (hrole : s.role? user = some role) {role' : Role}
    (hdial : role'.dial = role.dial)
    (hunsent : taken ++ role'.unsent s.credentials <+: role.unsent s.credentials) :
    s.Continues (s.assign user role') user taken where
  keeps := s.keeps_assign user role'
  others _ hother := role?_assign_of_ne hother s role'
  sent other hother := by
    cases hrole.symm.trans hother
    exact (List.prefix_append _ _).trans hunsent
  own other hother := by
    rw [role?_assign_self] at hother
    cases hother
    exact ⟨role, hrole, hdial, hunsent⟩

/-- A user goes on after its transport has taken bytes. -/
theorem Continues.trans (h : s.Continues t user taken) (h' : t.Continues u user []) :
    s.Continues u user taken where
  keeps := h.keeps.trans h'.keeps
  others other hother := (h'.others other hother).trans (h.others other hother)
  sent := h.sent
  own role'' hrole'' := by
    obtain ⟨role', hrole', hdial', hunsent'⟩ := h'.own role'' hrole''
    obtain ⟨role, hrole, hdial, hunsent⟩ := h.own role' hrole'
    rw [h.keeps.credentials, List.nil_append] at hunsent'
    refine ⟨role, hrole, hdial'.trans hdial, List.IsPrefix.trans ?_ hunsent⟩
    exact (List.prefix_append_right_inj taken).2 hunsent'

/-- What happens on the transport of a user. -/
theorem continues_react (hrole : s.role? user = some role) (event : Event) :
    s.Continues (s.react user event).1 user (role.accepted event) := by
  rw [react, hrole]
  cases role with
  | opening dial attempt =>
      have hunsent := attempt.accepted_append_unsent s.credentials event
      have hleft : s.Continues (s.dismiss user s.pool.giveBack) user (attempt.accepted event) := by
        refine .left (s.keeps_giveBack user) (fun _ hother => role?_dismiss_of_ne hother _ _)
          (role?_dismiss_self ..) fun other hother => ?_
        cases hrole.symm.trans hother
        exact (List.prefix_append _ _).trans hunsent
      dsimp only
      cases hstep : attempt.step s.credentials event with
      | waiting attempt' =>
          rw [hstep] at hunsent
          exact .assigned hrole rfl hunsent
      | failed => exact hleft
      | opened =>
          rw [hstep] at hunsent
          rw [proceed]
          split
          · exact hleft
          · exact .assigned hrole rfl hunsent
  | holding session => exact .refl s user
  | calling dial x =>
      have hunsent := x.accepted_append_unsent event
      dsimp only
      cases hstep : x.step event <;> rw [hstep] at hunsent <;> exact .assigned hrole rfl hunsent

theorem continues_giveUp (s : System) (user : Nat) : s.Continues (s.giveUp user) user [] := by
  rw [giveUp]
  split
  · exact .left (s.keeps_giveBack user) (fun _ hother => role?_dismiss_of_ne hother _ _)
      (role?_dismiss_self ..) fun _ _ => List.nil_prefix
  · rename_i hrole
    exact .assigned hrole rfl List.nil_prefix
  · exact .refl s user

theorem continues_release (s : System) (user : Nat) : s.Continues (s.release user) user [] := by
  rw [release]
  split
  · rename_i session hrole
    have hkeeps : s.Keeps (s.dismiss user (s.pool.release session)) := by
      rw [Pool.release]
      split
      · exact s.keeps_giveBack user
      · rename_i hkept
        exact ⟨rfl, rfl, fun hclosed => (hkept (by rw [hclosed, Bool.true_or])).elim⟩
    exact .left hkeeps (fun _ hother => role?_dismiss_of_ne hother _ _) (role?_dismiss_self ..)
      fun _ _ => List.nil_prefix
  · exact .refl s user

/-- Nobody gets a connection from a pool that is closed. -/
theorem react_ne_acquired (hclosed : s.pool.closed = true) (user : Nat) (event : Event)
    (dial : Nat) : (s.react user event).2 ≠ .acquired dial := by
  intro heq
  rw [react] at heq
  split at heq
  · rename_i dial' attempt _
    cases hstep : attempt.step s.credentials event with
    | waiting | failed =>
        rw [hstep] at heq
        cases heq
    | opened =>
        rw [hstep, proceed, if_pos hclosed] at heq
        cases heq
  · rename_i dial' x _
    cases hstep : x.step event <;> rw [hstep] at heq <;> cases heq
  · cases heq

/-! ### What may still be sent -/

/-- Nobody has more to send on a transport than some bytes. -/
def Limited (s : System) (dial : Nat) (bytes : Bytes) : Prop :=
  ∀ user role, s.role? user = some role → role.dial = dial → role.unsent s.credentials <+: bytes

/-- A user has no more to send than what it has to send. -/
theorem Sound.limited (h : s.Sound) (hrole : s.role? user = some role) :
    s.Limited role.dial (role.unsent s.credentials) := by
  intro other role' hother hdial
  by_cases hne : other = user
  · subst hne
    cases hrole.symm.trans hother
    exact List.prefix_rfl
  · exact (h.other_ne hrole hother hne hdial).elim

/-- What is written on a transport is no longer to be sent. -/
theorem Continues.limited (h : s.Continues t user taken) (hsound : s.Sound)
    (hrole : s.role? user = some role) (hlimited : s.Limited dial bytes) :
    ∃ rest, (if role.dial = dial then taken else []) ++ rest = bytes ∧ t.Limited dial rest := by
  by_cases hdial : role.dial = dial
  · subst hdial
    obtain ⟨rest, hrest⟩ := (h.sent role hrole).trans (hlimited user role hrole rfl)
    refine ⟨rest, by rw [if_pos rfl, hrest], fun other role' hrole' hdial' => ?_⟩
    by_cases hne : other = user
    · subst hne
      obtain ⟨role'', hrole'', -, hunsent⟩ := h.own role' hrole'
      cases hrole.symm.trans hrole''
      have hbytes := hunsent.trans (hlimited other role hrole rfl)
      rw [← hrest] at hbytes
      rw [h.keeps.credentials]
      exact (List.prefix_append_right_inj taken).1 hbytes
    · rw [h.others other hne] at hrole'
      exact (hsound.other_ne hrole hrole' hne hdial').elim
  · refine ⟨bytes, by rw [if_neg hdial, List.nil_append], fun other role' hrole' hdial' => ?_⟩
    rw [h.keeps.credentials]
    by_cases hne : other = user
    · subst hne
      obtain ⟨role'', hrole'', hsame, -⟩ := h.own role' hrole'
      cases hrole.symm.trans hrole''
      exact (hdial (hsame.symm.trans hdial')).elim
    · rw [h.others other hne] at hrole'
      exact hlimited other role' hrole' hdial'

end System

end RateLimit.Pool
