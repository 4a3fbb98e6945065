import RateLimit.Network.Playback
import RateLimit.Proofs.Named

/-!
# What a script delivers

A script says what is delivered on a transport: bytes in pieces, failures and waits, up to the end
of the stream.  The end of the stream is final, so that nothing behind it is ever delivered.

## Main definitions

* `Playback.delivered` : the bytes of deliveries.
* `Playback.beforeEnd` : the deliveries up to the end of the stream.

## Main results

* `Playback.peer_setPeer` : what is found where one end of a transport was replaced.
* `Playback.length_reads_lt_patience` : a wait has the patience for all that is delivered.
-/

namespace RateLimit.Playback

/-- The bytes of a delivery. -/
def Read.bytes : Read → Bytes
  | .data bytes => bytes
  | .ended | .failed _ | .wait | .close => []

/-- The bytes of deliveries, one behind the other. -/
def delivered (reads : List Read) : Bytes :=
  reads.flatMap Read.bytes

/-- The deliveries up to the end of the stream. -/
def beforeEnd (reads : List Read) : List Read :=
  reads.takeWhile fun read => read ≠ .ended

variable {reads : List Read} {read : Read}

@[simp]
theorem delivered_cons : delivered (read :: reads) = read.bytes ++ delivered reads :=
  List.flatMap_cons

theorem beforeEnd_cons (h : read ≠ .ended) : beforeEnd (read :: reads) = read :: beforeEnd reads :=
  List.takeWhile_cons_of_pos (by simpa using h)

theorem delivered_append (reads later : List Read) :
    delivered (reads ++ later) = delivered reads ++ delivered later :=
  List.flatMap_append

theorem beforeEnd_append (h : .ended ∉ reads) (later : List Read) :
    beforeEnd (reads ++ later) = reads ++ beforeEnd later :=
  List.takeWhile_append_of_pos fun read hread => by
    simpa using fun heq : read = .ended => h (heq ▸ hread)

/-! ### The ends of transports -/

@[simp]
theorem peer_setPeer (p : Playback) (dial : Nat) (peer : Peer) :
    (p.setPeer dial peer).peer dial = peer := by
  rw [Playback.peer, setPeer, lookup_cons_filter_ne, if_pos rfl]
  rfl

@[simp]
theorem setPeer_setPeer (p : Playback) (dial : Nat) (peer peer' : Peer) :
    (p.setPeer dial peer).setPeer dial peer' = p.setPeer dial peer' := by
  simp [setPeer]

theorem length_reads_le_foldl (peers : List (Nat × Peer)) (dial n : Nat) :
    n + ((peers.lookup dial).getD {}).reads.length ≤
      peers.foldl (fun n entry => n + entry.2.reads.length) n := by
  induction peers generalizing n with
  | nil => exact Nat.le_refl n
  | cons entry peers ih =>
      have hrest := ih (n + entry.2.reads.length)
      rw [List.foldl_cons, List.lookup_cons]
      by_cases hdial : dial = entry.1
      · rw [hdial, beq_self_eq_true, Option.getD_some]
        omega
      · rw [beq_false_of_ne hdial]
        dsimp only
        omega

/-- A wait has the patience for all that is delivered on a transport, and for the end of the
stream. -/
theorem length_reads_lt_patience (p : Playback) (dial attempts : Nat) :
    (p.peer dial).reads.length < p.patience attempts := by
  have hopened := length_reads_le_foldl p.peers dial 0
  rw [Nat.zero_add] at hopened
  rw [patience, Playback.peer]
  omega

end RateLimit.Playback
