import RateLimit.Proofs.Connection.Request
import RateLimit.Proofs.Network.Host
import RateLimit.Proofs.Network.Playback
import RateLimit.Proofs.Reply.Stream
import RateLimit.Scenario.Connection

/-!
# Receiving again and again

A caller that receives replies one after the other gets those that stand in the bytes that were kept
and those that are delivered, in their order.  Whatever happens between two deliveries, nothing is
lost: a call that fails or is given up keeps what has arrived, and the next one goes on from there.
Bytes that are refused are kept too, and nothing is waited for behind them, so every later call
refuses them again.  Where the stream ends, the error says whether a part of a reply is left.

## Main definitions

* `Receives` : how a call to receive a reply ends, and what it leaves.
* `stream` : the bytes that were kept and all those that are still delivered.
* `State.receiving` : calls to receive a reply, one after the other.

## Main results

* `State.receives` : a call to receive a reply, on a network that plays back a script.
* `State.receiving_lossless` : what calls to receive a reply come to.
-/

namespace RateLimit.Scenario.Connection

open Playback

/-! ### One call -/

/-- How a call to receive a reply ends, on a connection with the bytes that were kept and with what
is still delivered on its transport; and the bytes and the deliveries that are left. -/
inductive Receives : Bytes → List Read → Ending Value → Bytes → List Read → Prop
  /-- A reply stands at the front. -/
  | answered {kept rest : Bytes} {reads : List Read} {reply : Reply}
      (h : (Reader.read {} kept).1 = .complete reply rest) :
      Receives kept reads (.returned (.ok (.reply reply))) rest reads
  /-- The bytes are refused. -/
  | refused {kept : Bytes} {reads : List Read} {fault : ProtocolFault}
      (h : (Reader.read {} kept).1 = .invalid fault) :
      Receives kept reads (.returned (.error (.protocol fault))) kept reads
  /-- More bytes are delivered, and the call goes on with them. -/
  | data {kept bytes left : Bytes} {reads later : List Read} {ending : Ending Value}
      (h : (Reader.read {} kept).1 = .needMore)
      (hlater : Receives (kept ++ bytes) reads ending left later) :
      Receives kept (.data bytes :: reads) ending left later
  /-- Somebody closes a pool, and the call goes on. -/
  | close {kept left : Bytes} {reads later : List Read} {ending : Ending Value}
      (h : (Reader.read {} kept).1 = .needMore) (hlater : Receives kept reads ending left later) :
      Receives kept (.close :: reads) ending left later
  /-- The transport fails. -/
  | failed {kept : Bytes} {reads : List Read} {fault : TransportFault}
      (h : (Reader.read {} kept).1 = .needMore) :
      Receives kept (.failed fault :: reads) (.returned (.error (.transport fault))) kept reads
  /-- Nothing happens, and the call is given up. -/
  | givenUp {kept : Bytes} {reads : List Read} (h : (Reader.read {} kept).1 = .needMore) :
      Receives kept (.wait :: reads) .cancelled kept reads
  /-- The stream ends, and nothing is left. -/
  | closed {reads : List Read} (hend : beforeEnd reads = []) :
      Receives [] reads (.returned (.error (.transport .closedByServer))) [] reads
  /-- The stream ends in the middle of a reply. -/
  | cut {kept : Bytes} {reads : List Read} (h : (Reader.read {} kept).1 = .needMore)
      (hkept : kept ≠ []) (hend : beforeEnd reads = []) :
      Receives kept reads (.returned (.error (.protocol .closedInReply))) kept reads

/-- How a call to receive a reply ends that has come so far, and the connection that it leaves. -/
def ending : Progress → Ending Value × RateLimit.Connection
  | .waiting x => (.cancelled, x.connection)
  | .finished c result => (.returned ((Step.call .receive).conclude c result).2.1, c)

/-- What is still delivered on the transport of a connection. -/
def State.reads (s : State) : List Read :=
  (s.network.peer 0).reads

/-- A wait for a reply has ended as a call to receive one does, and the mark is not touched. -/
def Received (c : RateLimit.Connection) (reads : List Read)
    (settled : Settled Progress Playback Unit) : Prop :=
  Receives c.buffer reads (ending settled.state).1 (ending settled.state).2.buffer
      (settled.network.peer 0).reads ∧
    (ending settled.state).2.broken = c.broken

variable {c : RateLimit.Connection} {net : Playback} {reads : List Read}

/-- What a script answers to a call that waits for bytes. -/
theorem exists_cue_read (hreads : (net.peer 0).reads = reads) :
    ∃ net', Playback.network.cue net 0 .read = ((delivery reads).1, net') ∧
      (net'.peer 0).reads = (delivery reads).2 := by
  subst hreads
  exact ⟨_, rfl, by rw [peer_setPeer]⟩

/-- A delivery of no bytes is passed over. -/
theorem cue_read_of_nil (hreads : (net.peer 0).reads = .data [] :: reads) :
    Playback.network.cue net 0 .read =
      Playback.network.cue (net.setPeer 0 { net.peer 0 with reads }) 0 .read := by
  change net.read 0 = (net.setPeer 0 { net.peer 0 with reads }).read 0
  simp only [Playback.read, peer_setPeer, setPeer_setPeer, hreads, delivery]

/-- A call that has ended is not waited for any longer. -/
theorem received_of_finished {left : Bytes} {result : Result} {later : List Read}
    (hlater : (net.peer 0).reads = later)
    (h : Receives c.buffer reads (ending (.finished ⟨left, c.broken⟩ result)).1 left later)
    (steps : Nat) (made : List Unit) :
    Received c reads <|
      settleWithin waiter Playback.network steps (.finished ⟨left, c.broken⟩ result) net made := by
  subst hlater
  rw [settleWithin_of_none rfl]
  exact ⟨h, rfl⟩

/-- What is found among the bytes that were kept is not waited for. -/
theorem received_of_found (hread : (Reader.read {} c.buffer).1 ≠ .needMore)
    (hreads : (net.peer 0).reads = reads) (steps : Nat) (made : List Unit) :
    Received c reads (settleWithin waiter Playback.network steps (c.poll .receive) net made) := by
  cases hfound : (Reader.read {} c.buffer).1 with
  | needMore => exact absurd hfound hread
  | complete reply rest =>
      have hpoll : c.poll .receive = .finished { c with buffer := rest } (.ok (some reply)) := by
        rw [Connection.poll, hfound]
        rfl
      rw [hpoll]
      exact received_of_finished hreads (.answered hfound) steps made
  | invalid fault =>
      rw [Connection.poll_of_invalid hfound]
      exact received_of_finished hreads (.refused hfound) steps made

/-- At the end of the stream a call fails. -/
theorem received_of_ended (hread : (Reader.read {} c.buffer).1 = .needMore)
    (hreads : (net.peer 0).reads = reads) (hend : beforeEnd reads = [])
    (hdelivery : delivery reads = (.event .ended, reads)) (steps : Nat) (made : List Unit) :
    Received c reads <|
      settleWithin waiter Playback.network (steps + 1) (c.poll .receive) net made := by
  obtain ⟨net', hcue, hreads'⟩ := exists_cue_read hreads
  rw [hdelivery] at hcue hreads'
  have hended : (waiter.resume (.waiting ⟨c, .receive, .read⟩) .ended).1 =
      if c.buffer.isEmpty then .finished c (.error (.transport .closedByServer))
        else .finished c (.error (.protocol .closedInReply)) := rfl
  rw [Connection.poll_of_needMore hread, settleWithin_of_event rfl hcue, hended]
  obtain ⟨buffer, broken⟩ := c
  split_ifs with hbuffer
  · obtain rfl : buffer = [] := List.isEmpty_iff.mp hbuffer
    exact received_of_finished hreads' (.closed hend) steps _
  · have hkept : buffer ≠ [] := by simpa using hbuffer
    exact received_of_finished hreads' (.cut hread hkept hend) steps _

/-- A call goes on until it ends, and it does in as many steps as there are deliveries, and one. -/
theorem received_settleWithin (hreads : (net.peer 0).reads = reads) (c : RateLimit.Connection)
    {steps : Nat} (hsteps : reads.length < steps) (made : List Unit) :
    Received c reads (settleWithin waiter Playback.network steps (c.poll .receive) net made) := by
  obtain ⟨steps, rfl⟩ : ∃ n, steps = n + 1 := ⟨steps - 1, by omega⟩
  induction reads generalizing c net steps made with
  | nil =>
      by_cases hread : (Reader.read {} c.buffer).1 = .needMore
      · exact received_of_ended hread hreads rfl rfl steps made
      · exact received_of_found hread hreads _ made
  | cons read reads ih =>
      by_cases hread : (Reader.read {} c.buffer).1 = .needMore
      · obtain ⟨net', hcue, hreads'⟩ := exists_cue_read hreads
        have hlater : reads.length < steps := by simpa using hsteps
        obtain ⟨steps, rfl⟩ : ∃ n, steps = n + 1 := ⟨steps - 1, by omega⟩
        cases read with
        | ended => exact received_of_ended hread hreads rfl rfl _ made
        | data bytes =>
            cases bytes with
            | nil =>
                -- A delivery of no bytes takes no step of the wait, so as many are left.
                let passed := net.setPeer 0 { net.peer 0 with reads }
                have hpassed : (passed.peer 0).reads = reads := by rw [peer_setPeer]
                have hgoes := ih hpassed c made (steps + 1) (by omega)
                rw [Connection.poll_of_needMore hread] at hgoes ⊢
                rw [settleWithin_congr rfl (cue_read_of_nil hreads)]
                exact ⟨.data hread (by rw [List.append_nil]; exact hgoes.1), hgoes.2⟩
            | cons byte bytes =>
                rw [Connection.poll_of_needMore hread, settleWithin_of_event rfl hcue]
                obtain ⟨hreceives, hbroken⟩ :=
                  ih hreads' ⟨c.buffer ++ byte :: bytes, c.broken⟩ (made ++ []) steps hlater
                exact ⟨.data hread hreceives, hbroken⟩
        | failed fault =>
            rw [Connection.poll_of_needMore hread, settleWithin_of_event rfl hcue]
            exact received_of_finished hreads' (.failed hread) _ _
        | wait =>
            rw [Connection.poll_of_needMore hread, settleWithin_of_wait rfl hcue]
            rw [Received, hreads']
            exact ⟨.givenUp hread, rfl⟩
        | close =>
            have hgoes := ih hreads' c (made ++ []) steps hlater
            rw [Connection.poll_of_needMore hread] at hgoes ⊢
            rw [settleWithin_of_close rfl hcue]
            exact ⟨.close hread hgoes.1, hgoes.2⟩
      · exact received_of_found hread hreads _ made

/-- A call to receive a reply is a wait for one. -/
theorem State.exists_settled_receive (s : State) :
    ∃ settled, Received s.connection s.reads settled ∧
      (s.step (.call .receive)).1.ending = (ending settled.state).1 ∧
      (s.step (.call .receive)).2 = ⟨(ending settled.state).2, settled.network⟩ := by
  have hreads : (s.network.cleared.peer 0).reads = s.reads := rfl
  refine ⟨settle waiter Playback.network (s.connection.start .receive) s.network.cleared,
    received_settleWithin hreads s.connection (length_reads_lt_patience _ 0 0) [], ?_⟩
  simp only [State.step, Step.toCall]
  generalize settle waiter Playback.network _ _ = settled
  obtain ⟨x | ⟨c, result⟩, network, made, waiting⟩ := settled <;> exact ⟨rfl, rfl⟩

/-- **A call to receive a reply**, on a network that plays back a script. -/
theorem State.receives (s : State) :
    let next := s.step (.call .receive)
    Receives s.connection.buffer s.reads next.1.ending next.2.connection.buffer next.2.reads ∧
      next.2.connection.broken = s.connection.broken := by
  obtain ⟨settled, hreceived, hending, hnext⟩ := s.exists_settled_receive
  intro next
  rw [hending, hnext]
  exact hreceived

/-! ### What a call leaves -/

/-- The reply that a call has returned, if it has returned one. -/
def reply? : Ending Value → Option Reply
  | .returned (.ok (.reply reply)) => some reply
  | _ => none

/-- The bytes that were kept and all those that are still delivered. -/
def stream (kept : Bytes) (reads : List Read) : Bytes :=
  kept ++ delivered (beforeEnd reads)

/-- All the replies that are still to come. -/
def promised (kept : Bytes) (reads : List Read) : List Reply :=
  (Reader.drain {} (stream kept reads)).replies.map Prod.fst

/-- A bound on the calls that it takes to get them. -/
def toCome (kept : Bytes) (reads : List Read) : Nat :=
  reads.length + (stream kept reads).length

theorem stream_cons (kept : Bytes) {read : Read} (h : read ≠ .ended) (reads : List Read) :
    stream kept (read :: reads) = stream (kept ++ read.bytes) reads := by
  rw [stream, stream, beforeEnd_cons h, delivered_cons, List.append_assoc]

theorem toCome_cons (kept : Bytes) {read : Read} (h : read ≠ .ended) (reads : List Read) :
    toCome kept (read :: reads) = toCome (kept ++ read.bytes) reads + 1 := by
  rw [toCome, toCome, stream_cons kept h, List.length_cons]
  omega

/-- Behind bytes that are refused there is no reply to come. -/
theorem promised_of_invalid {kept : Bytes} {fault : ProtocolFault}
    (h : (Reader.read {} kept).1 = .invalid fault) (reads : List Read) :
    promised kept reads = [] := by
  have hstream : (Reader.read {} (stream kept reads)).1 = .invalid fault := by
    rw [stream, Reader.settles_read {} kept (by simp [h]), h]
    rfl
  rw [promised, Reader.drain_of_invalid hstream, List.map_nil]

/-- At the end of the stream there is no reply to come behind a part of one. -/
theorem promised_of_needMore {kept : Bytes} {reads : List Read}
    (h : (Reader.read {} kept).1 = .needMore) (hend : beforeEnd reads = []) :
    promised kept reads = [] := by
  rw [promised, stream, hend, delivered, List.flatMap_nil, List.append_nil,
    Reader.drain_of_needMore h, List.map_nil]

/-- Replies that are found among the bytes that were kept and those that are delivered next are the
first of those that are to come. -/
theorem promised_append {kept left : Bytes} {passed : List Read} {found : List Reply}
    (hpassed : .ended ∉ passed) (h : Reader.Yields {} (kept ++ delivered passed) found left)
    (later : List Read) : promised kept (passed ++ later) = found ++ promised left later := by
  have hall := (h.append (delivered (beforeEnd later))).replies_drain
  rwa [List.append_assoc, ← delivered_append, ← beforeEnd_append hpassed] at hall

namespace Receives

variable {kept left : Bytes} {reads later : List Read} {ending : Ending Value}

/-- A call passes over deliveries and returns the reply, if it returns one, that stands at the front
of the bytes that were kept and those that are delivered; it leaves the others. -/
theorem exists_passed (h : Receives kept reads ending left later) :
    ∃ passed, reads = passed ++ later ∧ .ended ∉ passed ∧
      Reader.Yields {} (kept ++ delivered passed) (reply? ending).toList left := by
  induction h with
  | answered h =>
      exact ⟨[], rfl, List.not_mem_nil, by simpa [delivered] using .cons h (.nil _)⟩
  | refused | closed | cut =>
      exact ⟨[], rfl, List.not_mem_nil, by simpa [delivered] using .nil _⟩
  | @data kept bytes left reads later ending h hlater ih =>
      obtain ⟨passed, rfl, hpassed, hyields⟩ := ih
      refine ⟨.data bytes :: passed, rfl, by simpa using hpassed, ?_⟩
      rwa [delivered_cons, ← List.append_assoc]
  | close h hlater ih =>
      obtain ⟨passed, rfl, hpassed, hyields⟩ := ih
      exact ⟨.close :: passed, rfl, by simpa using hpassed, hyields⟩
  | @failed _ _ fault =>
      exact ⟨[.failed fault], rfl, by simp, by simpa [delivered, Read.bytes] using .nil _⟩
  | givenUp =>
      exact ⟨[.wait], rfl, by simp, by simpa [delivered, Read.bytes] using .nil _⟩

/-- A call returns the first of the replies that are to come, if it returns one, and leaves the
others. -/
theorem promised_eq (h : Receives kept reads ending left later) :
    promised kept reads = (reply? ending).toList ++ promised left later := by
  obtain ⟨passed, rfl, hpassed, hyields⟩ := h.exists_passed
  exact promised_append hpassed hyields later

/-- A call gets nearer to the replies that are to come, unless there are none. -/
theorem toCome_lt (h : Receives kept reads ending left later) :
    toCome left later < toCome kept reads ∨ promised kept reads = [] := by
  induction h with
  | answered h =>
      have hlength := Reader.length_lt_of_read (Prod.ext h rfl)
      refine .inl ?_
      simp only [toCome, stream, List.length_append]
      omega
  | refused h => exact .inr (promised_of_invalid h _)
  | closed hend => exact .inr (promised_of_needMore rfl hend)
  | cut h _ hend => exact .inr (promised_of_needMore h hend)
  | data _ _ ih =>
      rw [toCome_cons _ Read.noConfusion, promised, stream_cons _ Read.noConfusion]
      exact ih.imp_left Nat.lt_succ_of_lt
  | close _ _ ih =>
      rw [toCome_cons _ Read.noConfusion, promised, stream_cons _ Read.noConfusion, Read.bytes,
        List.append_nil]
      exact ih.imp_left Nat.lt_succ_of_lt
  | failed | givenUp =>
      rw [toCome_cons _ Read.noConfusion, Read.bytes, List.append_nil]
      exact .inl (Nat.lt_succ_self _)

/-- Bytes that are refused stay as they are, and nothing is waited for. -/
theorem eq_of_invalid (h : Receives kept reads ending left later) {fault : ProtocolFault}
    (hread : (Reader.read {} kept).1 = .invalid fault) :
    ending = .returned (.error (.protocol fault)) ∧ left = kept ∧ later = reads := by
  cases h with
  | refused h =>
      obtain rfl : _ = fault := by simpa using h.symm.trans hread
      exact ⟨rfl, rfl, rfl⟩
  | closed => cases hread
  | answered h | data h | close h | failed h | givenUp h | cut h => cases h.symm.trans hread

/-- At the end of the stream a call fails, and the error says whether a part of a reply is left. -/
theorem eq_of_end (h : Receives kept reads ending left later)
    (hread : (Reader.read {} kept).1 = .needMore) (hend : beforeEnd reads = []) :
    ending = .returned (.error
        (if kept = [] then .transport .closedByServer else .protocol .closedInReply)) ∧
      left = kept ∧ later = reads := by
  cases h with
  | answered h | refused h => cases h.symm.trans hread
  | closed => exact ⟨rfl, rfl, rfl⟩
  | cut h hkept => exact ⟨by rw [if_neg hkept], rfl, rfl⟩
  | data | close | failed | givenUp => cases hend

end Receives

/-! ### One call after the other -/

/-- Calls to receive a reply, one after the other. -/
def State.receiving (s : State) (n : Nat) : List Report × State :=
  s.run (List.replicate n (.call .receive))

/-- Every call to receive a reply ends in the same way from now on, and changes nothing. -/
def State.Repeats (s : State) (ending : Ending Value) : Prop :=
  ∀ n, (s.receiving n).1.map Report.ending = List.replicate n ending ∧
    (s.receiving n).2.connection = s.connection ∧ (s.receiving n).2.reads = s.reads

/-- The replies that calls have returned. -/
def replies (reports : List Report) : List Reply :=
  reports.filterMap fun report => reply? report.ending

section

variable (s : State)

theorem State.receiving_succ (n : Nat) :
    s.receiving (n + 1) =
      ((s.step (.call .receive)).1 :: ((s.step (.call .receive)).2.receiving n).1,
        ((s.step (.call .receive)).2.receiving n).2) :=
  rfl

theorem replies_cons (report : Report) (reports : List Report) :
    replies (report :: reports) = (reply? report.ending).toList ++ replies reports := by
  rw [replies, List.filterMap_cons, replies]
  cases reply? report.ending <;> rfl

/-- The replies that calls return are the first of those that stand in the bytes that were kept and
those that were delivered meanwhile; the bytes behind them are kept. -/
theorem State.exists_passed_receiving (n : Nat) :
    ∃ passed, s.reads = passed ++ (s.receiving n).2.reads ∧ .ended ∉ passed ∧
      Reader.Yields {} (s.connection.buffer ++ delivered passed) (replies (s.receiving n).1)
        (s.receiving n).2.connection.buffer := by
  induction n generalizing s with
  | zero => exact ⟨[], rfl, List.not_mem_nil, by simpa [delivered] using .nil _⟩
  | succ n ih =>
      obtain ⟨passed, hreads, hpassed, hyields⟩ := s.receives.1.exists_passed
      obtain ⟨passed', hreads', hpassed', hyields'⟩ := ih (s.step (.call .receive)).2
      refine ⟨passed ++ passed', ?_, by simp [hpassed, hpassed'], ?_⟩
      · rw [hreads, hreads', s.receiving_succ, List.append_assoc]
      · rw [s.receiving_succ, replies_cons, delivered_append, ← List.append_assoc]
        exact (hyields.append _).trans hyields'

theorem State.broken_receiving (n : Nat) :
    (s.receiving n).2.connection.broken = s.connection.broken := by
  induction n generalizing s with
  | zero => rfl
  | succ n ih =>
      rw [s.receiving_succ]
      exact (ih _).trans s.receives.2

/-- The replies that are to come are those that calls return, and those that are to come then. -/
theorem State.promised_receiving (n : Nat) :
    promised s.connection.buffer s.reads =
      replies (s.receiving n).1 ++
        promised (s.receiving n).2.connection.buffer (s.receiving n).2.reads := by
  obtain ⟨passed, hreads, hpassed, hyields⟩ := s.exists_passed_receiving n
  rw [hreads]
  exact promised_append hpassed hyields _

/-- With calls enough, a caller gets all the replies that are to come. -/
theorem State.replies_receiving_of_le {n : Nat} (h : toCome s.connection.buffer s.reads ≤ n) :
    replies (s.receiving n).1 = promised s.connection.buffer s.reads := by
  induction n generalizing s with
  | zero =>
      obtain ⟨-, hstream⟩ := Nat.add_eq_zero_iff.mp (Nat.le_zero.mp h)
      rw [promised, List.eq_nil_of_length_eq_zero hstream, Reader.drain_of_needMore rfl]
      rfl
  | succ n ih =>
      obtain ⟨hreceives, -⟩ := s.receives
      rcases hreceives.toCome_lt with hlt | hnone
      · rw [hreceives.promised_eq, s.receiving_succ, replies_cons, ih _ (by omega)]
      · have hall := s.promised_receiving (n + 1)
        rw [hnone, eq_comm, List.append_eq_nil_iff] at hall
        rw [hall.1, hnone]

/-- A call that can only end in one way, which changes nothing, ends in this way again and again. -/
theorem State.repeats_of_forall {ending : Ending Value}
    (h : ∀ ending' left later, Receives s.connection.buffer s.reads ending' left later →
      ending' = ending ∧ left = s.connection.buffer ∧ later = s.reads) : s.Repeats ending := by
  intro n
  induction n generalizing s with
  | zero => exact ⟨rfl, rfl, rfl⟩
  | succ n ih =>
      obtain ⟨hreceives, hbroken⟩ := s.receives
      obtain ⟨hending, hbuffer, hreads⟩ := h _ _ _ hreceives
      have hconnection : (s.step (.call .receive)).2.connection = s.connection :=
        congrArg₂ RateLimit.Connection.mk hbuffer hbroken
      obtain ⟨hreports, hafter, hlater⟩ := ih (s.step (.call .receive)).2
        (by rw [hconnection, hreads]; exact h)
      rw [s.receiving_succ, List.map_cons, hending, hreports]
      exact ⟨rfl, hafter.trans hconnection, hlater.trans hreads⟩

end

/-- **Receiving loses nothing and can be resumed.**  On a connection with any bytes left unread, and
whatever its transport delivers up to the end of the stream, so many calls to receive a reply return
the first of the replies that stand in the bytes that were left and those that were delivered
meanwhile, in their order; all these bytes are those that spell the replies and those that are then
left on the connection.  Calls enough return all the replies.  The next call goes on from there,
waits only as long as there is no reply, and ends in one of the ways there are; the mark of the
connection stays as it is.  Once bytes are refused, every later call refuses them for the same
reason.  Once the stream has ended and no reply is left, every later call fails, and the error says
whether any bytes are left. -/
theorem State.receiving_lossless (s : State) (n : Nat) :
    let kept := s.connection.buffer
    let (reports, after) := s.receiving n
    let left := after.connection.buffer
    let next := after.step (.call .receive)
    (∃ passed words, s.reads = passed ++ after.reads ∧ .ended ∉ passed ∧
        Reader.Yields {} (kept ++ delivered passed) (replies reports) left ∧
        List.Forall₂ (Reply.Spells Reader.maxDepth) words (replies reports) ∧
        kept ++ delivered passed = words.flatten ++ left) ∧
      (toCome kept s.reads ≤ n →
        replies reports = (Reader.drain {} (stream kept s.reads)).replies.map Prod.fst) ∧
      Receives left after.reads next.1.ending next.2.connection.buffer next.2.reads ∧
      after.connection.broken = s.connection.broken ∧
      (∀ fault, (Reader.read {} left).1 = .invalid fault →
        after.Repeats (.returned (.error (.protocol fault)))) ∧
      ((Reader.read {} left).1 = .needMore → beforeEnd after.reads = [] →
        after.Repeats (.returned (.error
          (if left = [] then .transport .closedByServer else .protocol .closedInReply)))) := by
  obtain ⟨passed, hreads, hpassed, hyields⟩ := s.exists_passed_receiving n
  obtain ⟨words, hwords, hall⟩ := hyields.exists_words
  refine ⟨⟨passed, words, hreads, hpassed, hyields, hwords, hall⟩, s.replies_receiving_of_le,
    (s.receiving n).2.receives.1, s.broken_receiving n, fun fault hread => ?_,
    fun hread hend => ?_⟩
  · exact State.repeats_of_forall _ fun _ _ _ h => h.eq_of_invalid hread
  · exact State.repeats_of_forall _ fun _ _ _ h => h.eq_of_end hread hend

/-- Two replies in pieces, between which a call fails and another is given up: nothing is lost, and
in the end the stream is cut in the middle of a third. -/
example :
    let s : State := ⟨{}, { peers := [(0, { reads := [
      .data (Bytes.ofString "+on"), .failed ⟨"TimedOut", "timed out"⟩,
      .data (Bytes.ofString "e\r\n:"), .wait, .data (Bytes.ofString "2\r\n$")] })] }⟩
    (s.receiving 5).1.map (fun report => reply? report.ending) =
        [none, some (.status "one"), none, some (.integer 2), none] ∧
      (s.receiving 5).2.connection = ⟨Bytes.ofString "$", false⟩ :=
  ⟨rfl, rfl⟩

end RateLimit.Scenario.Connection
