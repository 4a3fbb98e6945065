import RateLimit.Proofs.Pool.Books

/-!
# How a user of a pool stands after its turn

Whoever asks a pool for a connection waits for one, holds one, or has nothing.  Whoever waits goes
on waiting, holds a connection at last, or has given it back.  What a user that waits has still to
send only gets less: it is what is left of its command, or of the command that presents the
credentials.

## Main definitions

* `greeting` : the bytes that present credentials to a server.
* `Pool.Role.unsent` : what a user has still to send.
* `Pool.Role.Waits` : a user that waits, and sends nothing but its command or the credentials.
* `Pool.System.Stands` : how a user stands after its turn.

## Main results

* `Attempt.accepted_append_unsent` : what a transport takes is no longer to be sent.
* `Pool.System.stands_acquire`, `Pool.System.stands_react` : how a user stands after its turn.
-/

namespace RateLimit

/-- The bytes that present credentials to a server; there are none without credentials. -/
def greeting : Option Credentials → Bytes
  | none => []
  | some credentials => Command.bytes credentials.command

/-! ### What is still to be sent -/

/-- What a call has still to send. -/
def Exchange.unsent (x : Exchange) : Bytes :=
  match x.awaiting with
  | .write rest => rest
  | _ => []

/-- What a call has still to send, if it has not ended. -/
def Progress.unsent : Progress → Bytes
  | .waiting x => x.unsent
  | .finished _ _ => []

theorem Connection.unsent_poll (c : Connection) (task : Task) : (c.poll task).unsent = [] := by
  rw [poll]
  split
  · rfl
  · rfl
  · cases task <;> rfl

/-- What a transport takes from a call is no longer to be sent. -/
theorem Exchange.accepted_append_unsent (x : Exchange) (event : Event) :
    x.accepted event ++ (x.step event).unsent <+: x.unsent := by
  obtain ⟨c, task, awaiting⟩ := x
  fun_cases step ⟨c, task, awaiting⟩ event with
  | case1 rest hawaiting | case4 rest _ hawaiting | case5 hawaiting | case7 _ hawaiting
  | case9 _ hawaiting | case10 hawaiting | case11 hawaiting =>
      cases hawaiting
      exact List.nil_prefix
  | case2 rest count hawaiting =>
      cases hawaiting
      exact (List.take_append_drop count rest).symm ▸ List.prefix_rfl
  | case3 rest count hawaiting =>
      cases hawaiting
      exact (List.append_nil _).symm ▸ List.take_prefix count rest
  | case6 hawaiting | case8 _ hawaiting =>
      cases hawaiting
      rw [Connection.unsent_poll]
      exact List.nil_prefix
  | case12 _ hwrote =>
      rcases accepted_cases ⟨c, task, awaiting⟩ event with hnone | ⟨rest, count, hrest, hcount⟩
      · rw [hnone]
        exact List.prefix_rfl
      · exact (hwrote rest count hrest hcount).elim

namespace Attempt

/-- What an attempt has still to send. -/
def unsent (credentials : Option Credentials) : Attempt → Bytes
  | .connecting => greeting credentials
  | .authenticating x => x.unsent

/-- What an attempt has still to send, if it has not ended. -/
def Progress.unsent (credentials : Option Credentials) : Attempt.Progress → Bytes
  | .waiting attempt => attempt.unsent credentials
  | .opened _ | .failed _ => []

theorem unsent_ofRequest (credentials : Option Credentials) (p : RateLimit.Progress) :
    (ofRequest p).unsent credentials = p.unsent := by
  cases p with
  | waiting => rfl
  | finished c result =>
      rw [ofRequest]
      split <;> rfl

/-- What a transport takes from an attempt is no longer to be sent. -/
theorem accepted_append_unsent (credentials : Option Credentials) (attempt : Attempt)
    (event : Event) :
    attempt.accepted event ++ (attempt.step credentials event).unsent credentials <+:
      attempt.unsent credentials := by
  cases attempt with
  | connecting =>
      cases event with
      | connected =>
          cases credentials with
          | none => exact List.prefix_rfl
          | some credentials => exact List.prefix_rfl
      | connectFailed => exact List.nil_prefix
      | _ => exact List.prefix_rfl
  | authenticating x =>
      rw [step, unsent_ofRequest]
      exact x.accepted_append_unsent event

end Attempt

namespace Pool

/-! ### Users that wait -/

namespace Role

/-- What a user has still to send. -/
def unsent (credentials : Option Credentials) : Role → Bytes
  | .opening _ attempt => attempt.unsent credentials
  | .holding _ => []
  | .calling _ x => x.unsent

/-- A user that waits: for a connection, to which it sends nothing but the credentials, or in a
call. -/
inductive Waits (credentials : Option Credentials) : Role → Prop
  | opening (dial : Nat) {attempt : Attempt}
      (h : attempt.unsent credentials <:+: greeting credentials) :
      Waits credentials (.opening dial attempt)
  | calling (dial : Nat) (x : Exchange) : Waits credentials (.calling dial x)

end Role

namespace System

/-- How a user stands after its turn: it waits, has nothing, or holds a connection. -/
inductive Stands (user : Nat) : System × Turn → Prop
  | pending {t : System} {role : Role} (hrole : t.role? user = some role)
      (hwaits : role.Waits t.credentials) : Stands user (t, .pending)
  | dialing {t : System} {role : Role} (hrole : t.role? user = some role)
      (hwaits : role.Waits t.credentials) (dial : Nat) : Stands user (t, .dialing dial)
  | refused {t : System} (hrole : t.role? user = none) (error : Error) :
      Stands user (t, .refused error)
  | acquired {t : System} {session : Session} (hrole : t.role? user = some (.holding session))
      (dial : Nat) : Stands user (t, .acquired dial)
  | ended {t : System} {session : Session} (hrole : t.role? user = some (.holding session))
      (result : Result) : Stands user (t, .ended result)

variable {s : System} {user : Nat} {role : Role} {session : Session}

theorem stands_acquire (hfree : s.role? user = none) : Stands user (s.acquire user) := by
  have hacquires := s.acquires user
  generalize s.acquire user = result at hacquires ⊢
  cases hacquires with
  | closed | exhausted => exact .refused hfree _
  | session => exact .acquired (role?_assign_self ..) _
  | slot => exact .dialing (role?_assign_self ..) (.opening _ List.infix_rfl) _

theorem stands_advance (s : System) (user dial : Nat) (p : RateLimit.Progress) :
    Stands user (s.advance user dial p) := by
  cases p with
  | waiting x => exact .pending (role?_assign_self ..) (.calling dial x)
  | finished => exact .ended (role?_assign_self ..) _

theorem call_of_holding (hrole : s.role? user = some (.holding session)) (call : Call) :
    s.call user call = s.advance user session.dial (session.connection.start call) := by
  rw [System.call, hrole]

theorem stands_react (hrole : s.role? user = some role) (hwaits : role.Waits s.credentials)
    (event : Event) : Stands user (s.react user event) := by
  rw [react, hrole]
  cases hwaits with
  | @opening dial attempt h =>
      have hunsent := attempt.accepted_append_unsent s.credentials event
      dsimp only
      cases hstep : attempt.step s.credentials event with
      | waiting attempt' =>
          rw [hstep] at hunsent
          have hsuffix : attempt'.unsent s.credentials <:+: attempt.unsent s.credentials :=
            (List.suffix_append _ _).isInfix.trans hunsent.isInfix
          exact .pending (role?_assign_self ..) (.opening dial (hsuffix.trans h))
      | failed => exact .refused (role?_dismiss_self ..) _
      | opened =>
          rw [proceed]
          split
          · exact .refused (role?_dismiss_self ..) _
          · exact .acquired (role?_assign_self ..) _
  | calling dial x => exact s.stands_advance user dial _

end System

end Pool

end RateLimit
