import RateLimit.Proofs.Reply.RoundTrip
import RateLimit.Proofs.Store.Service

/-!
# Every call gets its own answer

Calls share the connections of a pool, one after the other, and any of them may fail or be given
up at any moment.  Still no call is ever answered with what the server said to another: a decision
that is not the one of the failure mode was made from the reply to the command that this very call
sent, for its own key and time.

## Main definitions

* `Store.OwnAnswer` : a decision was made from the answer to the call's own command.

## Main results

* `Store.Tracked.answered` : where the decision of an answered call comes from.
* `Store.Reachable.ownAnswers` : every call gets its own answer, and nothing is outstanding on an
  idle connection.
-/

namespace RateLimit

open Pool (System Turn)

/-- An answer of the script is read off a reply that is no error line. -/
theorem Answer.ofReply?_of_ofResult? {reply : Reply} {a : Answer}
    (h : Answer.ofResult? reply.result = .ok a) : Answer.ofReply? reply = .ok a := by
  have hmap : ∀ r : Except ProtocolFault Answer,
      (r.mapError Error.protocol : Except Error Answer) = .ok a → r = .ok a := by
    intro r hr
    cases r with
    | error => cases hr
    | ok b =>
        cases hr
        rfl
  cases reply with
  | error text => cases h
  | status | integer | bulk | null | array => exact hmap _ h

/-- Whoever is answered by the failure mode learns nothing about the bucket. -/
theorem FailureMode.limit_outcome (mode : FailureMode) : mode.outcome.limit = 0 := by
  cases mode <;> rfl

namespace Store

variable {server : Server} {j : Journal} {s : Store} {name : Nat} {take : Take}

theorem limit_of_mem_failed {other : Nat} {decision : Decision} {key : String} {error : Error}
    (h : .answered other decision ∈ s.failed name key error) : decision.limit = 0 := by
  rcases List.mem_cons.1 h with heq | hmem
  · cases heq
  · cases List.mem_singleton.1 hmem
    exact s.failureMode.limit_outcome

theorem eq_of_decide? {result : Result} {decision : Decision}
    (h : s.decide? result = .ok decision) : ∃ a, Answer.ofResult? result = .ok a ∧
      decision = ⟨s.limits.tokens, a.remaining, a.reset, a.allowed⟩ := by
  rw [decide?] at h
  cases hanswer : Answer.ofResult? result with
  | error =>
      rw [hanswer] at h
      cases h
  | ok a =>
      rw [hanswer] at h
      cases h
      exact ⟨a, rfl, rfl⟩

/-- After a turn at the pool a call is answered with something about its bucket only if its request
has ended. -/
theorem answered_of_mem_follow {wires : Nat → Wire} {ends : Result → Prop} {result : System × Turn}
    (hturn : System.Turned server wires s.order name ends result)
    (htake : s.take? name = some take) {other : Nat} {decision : Decision}
    (hmem : .answered other decision ∈ (s.follow name take result).2)
    (hlimit : decision.limit ≠ 0) :
    other = name ∧ ∃ r, ends r ∧ s.decide? r = .ok decision := by
  cases hturn with
  | pending => cases hmem
  | dialing _ dial => cases List.mem_singleton.1 hmem
  | refused _ _ error =>
      rcases List.mem_cons.1 hmem with heq | hfailed
      · cases heq
      · exact (hlimit (limit_of_mem_failed hfailed)).elim
  | @acquired t ht dial hrole =>
      have horder : s.order name = (s.script.call take.key take.now).bytes := by
        rw [order, htake]
      obtain ⟨t', x, hcall, -⟩ :=
        ht.request hrole ((s.script.encode_call take.key take.now).trans (horder ▸ rfl))
      rw [Store.follow, hcall] at hmem
      cases List.mem_singleton.1 hmem
  | @ended t ht session hrole r hends =>
      rw [notices_follow_ended] at hmem
      rcases List.mem_cons.1 hmem with heq | hmem
      · cases heq
      · split at hmem
        · rename_i decision' hdecide
          cases List.mem_singleton.1 hmem
          exact ⟨rfl, r, hends, hdecide⟩
        · exact (hlimit (limit_of_mem_failed hmem)).elim

/-- A decision was made from what the server answered to the very command that the last call under a
name sent, for the key and the time that its caller asked for. -/
def OwnAnswer (server : Server) (j : Journal) (s : Store) (name : Nat) (decision : Decision) :
    Prop :=
  ∃ key moment now dial i bytes reply answer,
    j.asked name = some ⟨key, moment, some (dial, i)⟩ ∧ moment.nanos? = .ok now ∧
      (s.script.call key now).encode = .ok bytes ∧ (j.wires dial).commands[i]? = some bytes ∧
      server.Answers dial i reply ∧ Answer.ofReply? reply = .ok answer ∧
      decision = ⟨s.limits.tokens, answer.remaining, answer.reset, answer.allowed⟩

/-- A decision that says something about the bucket comes from the answer to the call's own
command. -/
theorem Tracked.answered (h : s.Tracked server j) {action : Action}
    (hallows : ∀ dial, server.Allows dial ((j.record s action).wires dial)) {decision : Decision}
    (hmem : .answered name decision ∈ (s.step action).2) (hlimit : decision.limit ≠ 0) :
    OwnAnswer server j s name decision := by
  cases action with
  | take other key moment =>
      rw [Store.step] at hmem
      split at hmem
      · cases hmem
      · rename_i hfree
        rw [Bool.not_eq_true, Option.isSome_eq_false_iff, Option.isNone_iff_eq_none] at hfree
        rw [begin] at hmem
        split at hmem
        · cases List.mem_singleton.1 hmem
          exact (hlimit rfl).elim
        · split at hmem
          · exact (hlimit (limit_of_mem_failed hmem)).elim
          · rename_i now hnow
            obtain ⟨hturn, -⟩ := (h.ask hfree _).acquire hfree hnow (Function.update_self ..) rfl
            obtain ⟨-, -, hends, -⟩ :=
              answered_of_mem_follow hturn List.lookup_cons_self hmem hlimit
            exact hends.elim
  | event other event =>
      rw [Store.step] at hmem
      cases htake : s.take? other with
      | none =>
          rw [htake] at hmem
          cases hmem
      | some take =>
          rw [htake] at hmem
          rcases List.mem_append.1 hmem with htraffic | hmem
          · obtain ⟨notice, -, heq⟩ := List.mem_map.1 htraffic
            cases heq
          obtain ⟨hturn, -⟩ := h.react htake event hallows
          obtain ⟨rfl, r, hends, hdecide⟩ := answered_of_mem_follow hturn htake hmem hlimit
          obtain ⟨a, hofResult, hdecision⟩ := eq_of_decide? hdecide
          obtain ⟨moment, place, hasked, hnow, hplace⟩ := h.asked name take htake
          cases hends with
          | failed => cases hofResult
          | @answered dial x earlier reply hrole hawaiting hcommands hreply =>
              have hlast := hplace dial x hrole hawaiting
              rw [hcommands, List.length_append, List.length_singleton, Nat.add_sub_cancel] at hlast
              subst hlast
              refine ⟨take.key, moment, take.now, dial, earlier.length, s.order name, reply, a,
                hasked, hnow, ?_, ?_, hreply, Answer.ofReply?_of_ofResult? hofResult, hdecision⟩
              · rw [order, htake]
                exact s.script.encode_call take.key take.now
              · rw [hcommands, List.getElem?_concat_length]
  | giveUp other =>
      rw [Store.step] at hmem
      split at hmem <;> cases hmem
  | close =>
      rw [Store.step] at hmem
      split at hmem <;> cases hmem

/-- **Every call gets its own answer.** Whatever calls, transports and callers do while a server
answers the commands that reach it on each transport in their order, or stops answering: a decision
that is not the one of the failure mode was made from the reply to the very command that was sent
for this call, which carries its own key and time; and every idle connection has nothing in its
buffer and nothing outstanding, that is, nothing is pending, the bytes that were delivered are the
answers to all the commands that were passed on, and each of these is a reply. -/
theorem Reachable.ownAnswers {config : Config} (h : Reachable server config j s) :
    (∀ action, (∀ dial, server.Allows dial ((j.record s action).wires dial)) →
      ∀ name decision, .answered name decision ∈ (s.step action).2 → decision.limit ≠ 0 →
        OwnAnswer server j s name decision) ∧
      ∀ session ∈ s.system.pool.idle,
        let w := j.wires session.dial
        session.connection.buffer = [] ∧ w.pending = [] ∧
          w.delivered = server.stream session.dial w.commands.length ∧
          ∀ i < w.commands.length, ∃ reply, server.Answers session.dial i reply := by
  have htracked := h.tracked
  refine ⟨fun action hallows name decision hmem hlimit =>
    htracked.answered hallows hmem hlimit, fun session hmem => ?_⟩
  have hrest := htracked.system.idle session hmem
  exact ⟨hrest.buffer, hrest.settled.pending, hrest.settled.delivered, hrest.settled.answered⟩

/-- A server that accepts the script and says to the first call that a token was granted and four
are left. -/
theorem ownAnswers_first :
    let config : Config := {
      tokens := 5, interval := .ofNanos 30, ttl := 1, initialSize := 1, maxSize := 1,
      endpoint := some .supplied }
    ∃ (server : Server) (j : Journal) (s : Store) (action : Action),
      s.Reachable server config j ∧
        (∀ dial, server.Allows dial ((j.record s action).wires dial)) ∧
        .answered 1 ⟨5, 4, 90, true⟩ ∈ (s.step action).2 ∧
        OwnAnswer server j s 1 ⟨5, 4, 90, true⟩ := by
  intro config
  let limits : Limits := ⟨5, .ofNanos 30, 1, by decide, by decide, by decide⟩
  let granted : Reply := .array [.integer 4, .integer 90, .integer 1]
  let replies (i : Nat) : Reply := if i = 0 then .status "OK" else granted
  have hread (i : Nat) : (Reader.read {} (replies i).encode).1 = .complete (replies i) [] := by
    have hencodable : (replies i).Encodable ∧ (replies i).depth ≤ Reader.maxDepth := by
      dsimp only [replies]
      split <;> decide
    have hall := Reader.read_encode hencodable.1 hencodable.2 []
    rw [List.append_nil] at hall
    rw [hall]
  let server : Server := ⟨fun _ i => (replies i).encode, fun dial i reply rest h => by
    rw [hread] at h
    cases h
    rfl⟩
  have hlimits : config.limits = .ok limits := by decide
  have hsettings : config.pool = .ok ⟨1, 1, none⟩ := by decide
  have hstatus : server.Answers 0 0 (.status "OK") := hread 0
  obtain ⟨wires, s, hopened, hopen, hpool, hidle, htakes, hs, hlength⟩ :=
    Opening.exists_opened hlimits hsettings hstatus rfl
  have hfree : s.take? 1 = none := by
    rw [take?, htakes]
    rfl
  have hnow : (Moment.after (.ofNanos 7)).nanos? = .ok 7 := by decide +kernel
  have hreply : server.Answers 0 (wires 0).commands.length granted := by
    rw [hlength]
    exact hread 1
  have hanswer : Answer.ofResult? granted.result = .ok ⟨4, 90, true⟩ := by decide
  obtain ⟨j, s', action, hrun, hallows, hmem⟩ :=
    (Reachable.opened hopened).served hopen hpool hidle hfree "key" hnow hreply hanswer
  rw [hs] at hmem
  exact ⟨server, j, s', action, hrun, hallows, hmem,
    hrun.ownAnswers.1 action hallows 1 ⟨5, 4, 90, true⟩ hmem (by decide)⟩

end Store

end RateLimit
