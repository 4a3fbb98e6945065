import Mathlib.Logic.Function.Basic
import RateLimit.Network.Host
import RateLimit.Proofs.Command.RoundTrip
import RateLimit.Proofs.Named
import RateLimit.Proofs.Store.Service

/-!
# Requests to a host

Whoever waits for the answer to a request on a connection with a host at rest gets it in three
steps: the host takes the command, answers it when it has been passed on, and sends the answer.
Nothing else changes at the host but what its service has done, and the connection is at rest
again.

## Main definitions

* `Host.view` : the host's ends of all connections.
* `Waiter.Carries` : a waiter that waits for nothing but a request.

## Main results

* `settleWithin_of_event` : one step of a wait.
* `Waiter.Carries.settleWithin` : a request that is answered.
-/

namespace RateLimit

/-! ### Waiting -/

section Settling

variable {S σ N : Type} {waiter : Waiter S N} {network : Network σ} {s : S} {net net' : σ}

/-- A wait goes on with what happens. -/
theorem settleWithin_of_event {dial : Nat} {awaiting : Awaiting} {event : Event}
    (hawaiting : waiter.awaiting? s = some (dial, awaiting))
    (hcue : network.cue net dial awaiting = (.event event, net')) (steps : Nat) (made : List N) :
    settleWithin waiter network (steps + 1) s net made =
      settleWithin waiter network steps (waiter.resume s event).1 net'
        (made ++ (waiter.resume s event).2) := by
  rw [settleWithin, hawaiting]
  dsimp only
  rw [hcue]

/-- A wait goes on when somebody has closed the pool or the store. -/
theorem settleWithin_of_close {dial : Nat} {awaiting : Awaiting}
    (hawaiting : waiter.awaiting? s = some (dial, awaiting))
    (hcue : network.cue net dial awaiting = (.close, net')) (steps : Nat) (made : List N) :
    settleWithin waiter network (steps + 1) s net made =
      settleWithin waiter network steps (waiter.close s).1 net' (made ++ (waiter.close s).2) := by
  rw [settleWithin, hawaiting]
  dsimp only
  rw [hcue]

/-- A wait goes on for ever. -/
theorem settleWithin_of_wait {dial : Nat} {awaiting : Awaiting}
    (hawaiting : waiter.awaiting? s = some (dial, awaiting))
    (hcue : network.cue net dial awaiting = (.wait, net')) (steps : Nat) (made : List N) :
    settleWithin waiter network (steps + 1) s net made = ⟨s, net', made, true⟩ := by
  rw [settleWithin, hawaiting]
  dsimp only
  rw [hcue]

/-- A wait goes on in the same way on networks that give the same answer. -/
theorem settleWithin_congr {dial : Nat} {awaiting : Awaiting}
    (hawaiting : waiter.awaiting? s = some (dial, awaiting))
    (hcue : network.cue net dial awaiting = network.cue net' dial awaiting) (steps : Nat)
    (made : List N) :
    settleWithin waiter network (steps + 1) s net made =
      settleWithin waiter network (steps + 1) s net' made := by
  rw [settleWithin, settleWithin, hawaiting]
  dsimp only
  rw [hcue]

/-- There is nothing to wait for. -/
theorem settleWithin_of_none (h : waiter.awaiting? s = none) (steps : Nat) (made : List N) :
    settleWithin waiter network steps s net made = ⟨s, net, made, false⟩ := by
  cases steps with
  | zero => rw [settleWithin, h, Option.isSome_none]
  | succ steps => rw [settleWithin, h]

end Settling

/-! ### The connections of a host -/

namespace Host

variable {τ : Type} {service : Service τ} {client dial : Nat}

/-- The host's ends of all connections, by client and number. -/
def view (h : Host τ) (connection : Nat × Nat) : Peer :=
  h.peer connection.1 connection.2

theorem peer_eq_view (h : Host τ) (client dial : Nat) :
    h.peer client dial = h.view (client, dial) :=
  rfl

@[simp]
theorem view_setPeer (h : Host τ) (client dial : Nat) (peer : Peer) :
    (h.setPeer client dial peer).view = Function.update h.view (client, dial) peer := by
  funext other
  rw [Function.update_apply, view, Host.peer, setPeer, lookup_cons_filter_ne]
  by_cases hother : other = (client, dial)
  · rw [if_pos hother, if_pos hother]
    rfl
  · rw [if_neg hother, if_neg hother]
    rfl

/-- An end of a connection over which nothing is on the way. -/
def Peer.resting (welcomed : Bool) : Peer :=
  { welcomed }

theorem answer_of_send {state after : τ} {welcomed : Bool} {command : Command} {out : Bytes}
    (h : service.respond state welcomed command = (.send out, after)) :
    answer service (.resting welcomed, state) command = ({ welcomed, outgoing := out }, after) := by
  have h' : service.respond state (Peer.resting welcomed).welcomed command = (.send out, after) := h
  rw [answer, h']
  rfl

theorem answer_of_welcome {state after : τ} {welcomed : Bool} {command : Command} {out : Bytes}
    (h : service.respond state welcomed command = (.welcome out, after)) :
    answer service (.resting welcomed, state) command =
      ({ welcomed := true, outgoing := out }, after) := by
  have h' : service.respond state (Peer.resting welcomed).welcomed command =
      (.welcome out, after) := h
  rw [answer, h']
  rfl

/-- The host takes a command. -/
theorem cue_write (service : Service τ) {h : Host τ} {welcomed : Bool}
    (hpeer : h.view (client, dial) = .resting welcomed) (bytes : Bytes) :
    cue service client h dial (.write bytes) = (.event (.wrote bytes.length),
      h.setPeer client dial { welcomed, incoming := bytes }) := by
  rw [cue, peer_eq_view, hpeer]
  rfl

/-- The host answers a command that has been passed on. -/
theorem cue_flush {h : Host τ} {welcomed welcomed' : Bool} {command : Command} {bytes out : Bytes}
    {state : τ} (hpeer : h.view (client, dial) = { welcomed, incoming := bytes })
    (hbytes : command.encode = .ok bytes)
    (hanswer : answer service (.resting welcomed, h.state) command =
      ({ welcomed := welcomed', outgoing := out }, state)) :
    cue service client h dial .flush = (.event .flushed,
      { h with state }.setPeer client dial { welcomed := welcomed', outgoing := out }) := by
  have hserve : serve service (h.view (client, dial)) h.state =
      ({ welcomed := welcomed', outgoing := out }, state) := by
    rw [hpeer, serve, Command.readAll_encode hbytes]
    exact hanswer
  rw [cue, peer_eq_view, hserve]

/-- The host sends its answer. -/
theorem cue_read (service : Service τ) {h : Host τ} {welcomed : Bool} {out : Bytes}
    (hpeer : h.view (client, dial) = { welcomed, outgoing := out }) (hout : out ≠ []) :
    cue service client h dial .read = (.event (.received out),
      h.setPeer client dial (.resting welcomed)) := by
  rw [cue, peer_eq_view, hpeer]
  dsimp only
  rw [if_pos (by simpa using hout)]
  rfl

end Host

/-! ### Requests -/

/-- A waiter that waits for a request on a transport: it is in a state for each state of the
request, goes on as the request does, and makes only such things known meanwhile. -/
structure Waiter.Carries {S N : Type} (waiter : Waiter S N) (dial : Nat) (state : Exchange → S)
    (Quiet : N → Prop) : Prop where
  awaiting (x : Exchange) : waiter.awaiting? (state x) = some (dial, x.awaiting)
  resume {x x' : Exchange} {event : Event} (h : x.step event = .waiting x') :
    (waiter.resume (state x) event).1 = state x'
  quiet {x x' : Exchange} {event : Event} (h : x.step event = .waiting x') :
    ∀ notice ∈ (waiter.resume (state x) event).2, Quiet notice

/-- A request is answered in three steps.  The waiter then gets the answer, and nothing has changed
at the host but the state of its service, and whether it has accepted the client. -/
theorem Waiter.Carries.settleWithin_request {S N τ : Type} {waiter : Waiter S N} {dial : Nat}
    {state : Exchange → S} {Quiet : N → Prop} (h : waiter.Carries dial state Quiet)
    {service : Service τ} {client : Nat} {host : Host τ} {welcomed welcomed' : Bool}
    {command : Command} {bytes out : Bytes} {after : τ}
    (hpeer : host.view (client, dial) = .resting welcomed) (hbytes : command.encode = .ok bytes)
    (hanswer : Host.answer service (.resting welcomed, host.state) command =
      ({ welcomed := welcomed', outgoing := out }, after)) (hout : out ≠ [])
    (steps : Nat) (made : List N) :
    ∃ host' more, settleWithin waiter (Host.network service client) (steps + 3)
        (state ⟨⟨[], true⟩, .request, .write bytes⟩) host made =
          settleWithin waiter (Host.network service client) steps
            (waiter.resume (state ⟨⟨[], true⟩, .request, .read⟩) (.received out)).1 host'
            (made ++ more ++
              (waiter.resume (state ⟨⟨[], true⟩, .request, .read⟩) (.received out)).2) ∧
      (∀ notice ∈ more, Quiet notice) ∧ host'.state = after ∧
      host'.view = Function.update host.view (client, dial) (.resting welcomed') := by
  have hne : bytes ≠ [] := by
    rintro rfl
    cases command with
    | nil => cases hbytes
    | cons word command => cases hbytes
  have hwrote : Exchange.step ⟨⟨[], true⟩, .request, .write bytes⟩ (.wrote bytes.length) =
      .waiting ⟨⟨[], true⟩, .request, .flush⟩ := Exchange.step_wrote_all hne
  -- The host after each of the three steps.
  let taken := host.setPeer client dial { welcomed, incoming := bytes }
  let answered :=
    { taken with state := after }.setPeer client dial { welcomed := welcomed', outgoing := out }
  let sent := answered.setPeer client dial (.resting welcomed')
  have htaken : taken.view (client, dial) = { welcomed, incoming := bytes } := by
    rw [Host.view_setPeer, Function.update_self]
  have hanswered : answered.view (client, dial) = { welcomed := welcomed', outgoing := out } := by
    rw [Host.view_setPeer, Function.update_self]
  let writing := waiter.resume (state ⟨⟨[], true⟩, .request, .write bytes⟩) (.wrote bytes.length)
  let flushing := waiter.resume (state ⟨⟨[], true⟩, .request, .flush⟩) .flushed
  refine ⟨sent, writing.2 ++ flushing.2, ?_, ?_, rfl, ?_⟩
  · rw [settleWithin_of_event (h.awaiting _) (Host.cue_write service hpeer bytes), h.resume hwrote,
      settleWithin_of_event (h.awaiting _) (Host.cue_flush htaken hbytes hanswer),
      h.resume Exchange.step_flushed,
      settleWithin_of_event (h.awaiting _) (Host.cue_read service hanswered hout),
      List.append_assoc made]
  · intro notice hnotice
    rcases List.mem_append.mp hnotice with hnotice | hnotice
    · exact h.quiet hwrote notice hnotice
    · exact h.quiet Exchange.step_flushed notice hnotice
  · have hstate : ({ taken with state := after } : Host τ).view = taken.view := rfl
    rw [Host.view_setPeer, Host.view_setPeer, hstate, Host.view_setPeer, Function.update_idem,
      Function.update_idem]

end RateLimit
