import RateLimit.Connection.Transport

/-!
# Networks

A network answers everybody who waits for a transport.  It may let the wait go on for ever, and it
may have somebody else close the pool or store meanwhile.  A waiter is settled on a network by
letting the network answer until there is nothing to wait for (`settle`).

## Main definitions

* `Cue` : what a network does next for somebody who waits.
* `Network` : how a network answers.
* `Waiter` : how somebody who waits takes the answers.
* `settle` : waits until there is nothing to wait for.
-/

namespace RateLimit

/-- What a network does next for somebody who waits. -/
inductive Cue
  /-- Something happens on the transport. -/
  | event (event : Event)
  /-- Somebody closes the pool or the store; the wait goes on. -/
  | close
  /-- Nothing, for ever. -/
  | wait
  deriving DecidableEq, Repr

/-- How a network with states of type `σ` answers. -/
structure Network (σ : Type) where
  /-- The answer to somebody who waits on the transport of an attempt with the given number. -/
  cue : σ → Nat → Awaiting → Cue × σ
  /-- A bound on the number of answers that a wait with so many attempts to open a connection can
  take. -/
  patience : σ → Nat → Nat

/-- How somebody who waits takes the answers of a network. -/
structure Waiter (S N : Type) where
  /-- How many attempts to open a connection there can be during the wait. -/
  attempts : S → Nat
  /-- What is waited for, and on which transport. -/
  awaiting? : S → Option (Nat × Awaiting)
  /-- What an event does, and what it makes known. -/
  resume : S → Event → S × List N
  /-- What it does that somebody closes the pool or the store. -/
  close : S → S × List N

/-- How a wait has ended. -/
structure Settled (S σ N : Type) where
  /-- The waiter. -/
  state : S
  /-- The network. -/
  network : σ
  /-- What was made known on the way. -/
  notices : List N
  /-- Whether the network lets the wait go on for ever. -/
  waiting : Bool

/-- Lets the network answer at most so many times, until there is nothing to wait for. -/
def settleWithin {S σ N : Type} (waiter : Waiter S N) (network : Network σ) :
    Nat → S → σ → List N → Settled S σ N
  | 0, s, net, made => ⟨s, net, made, (waiter.awaiting? s).isSome⟩
  | steps + 1, s, net, made =>
      match waiter.awaiting? s with
      | none => ⟨s, net, made, false⟩
      | some (dial, awaiting) =>
          match network.cue net dial awaiting with
          | (.event event, net) =>
              let (s, more) := waiter.resume s event
              settleWithin waiter network steps s net (made ++ more)
          | (.close, net) =>
              let (s, more) := waiter.close s
              settleWithin waiter network steps s net (made ++ more)
          | (.wait, net) => ⟨s, net, made, true⟩

/-- Lets the network answer until there is nothing to wait for. -/
def settle {S σ N : Type} (waiter : Waiter S N) (network : Network σ) (s : S) (net : σ) :
    Settled S σ N :=
  settleWithin waiter network (network.patience net (waiter.attempts s)) s net []

end RateLimit
