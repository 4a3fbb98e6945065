import RateLimit.Network.Client
import RateLimit.Proofs.Bucket.Level
import RateLimit.Proofs.Connection.Runs
import RateLimit.Proofs.Network.Answers

/-!
# A call on a store that is ready

A store is ready on a server of token buckets if it is open, nobody uses it, and all its idle
connections are at rest at both ends.  A call on such a store is one step of the bucket of its key,
with the limits of the store; the store and the server's ends of its connections are as they were
before.

## Main definitions

* `Verdict.report` : the decision that a store makes of a verdict.
* `Store.Ready` : a store that is ready.

## Main results

* `Store.Ready.takeOn` : a call on a store that is ready.
-/

namespace RateLimit

open Pool (System Turn)

theorem Reply.encode_ne_nil (reply : Reply) : reply.encode ≠ [] := by
  cases reply <;> exact List.cons_ne_nil _ _

/-! ### Lending a connection -/

namespace Pool.System

variable {s : System} {user dial : Nat} {role role' : Role} {idle : List Session}

/-- A connection comes back from a user who holds it. -/
theorem release_assign (s : System) (user : Nat) (session : Session) :
    (s.assign user (.holding session)).release user =
      s.dismiss user (s.pool.release session) := by
  rw [release, role?_assign_self]
  dsimp only
  rw [dismiss, others_assign]
  rfl

/-- A pool that nobody uses is as before when the connection that it lent comes back. -/
theorem release_lent (husers : s.users = []) (hopen : s.pool.closed = false)
    (hidle : s.pool.idle = ⟨dial, {}⟩ :: idle) :
    ((s.withIdle idle).assign user (.holding ⟨dial, {}⟩)).release user = s := by
  obtain ⟨credentials, ⟨maxSize, _, live, closed⟩, users, dialed⟩ := s
  subst husers hidle hopen
  rw [release_assign]
  rfl

end Pool.System

/-! ### Decisions -/

namespace Exchange

/-- A request ends when its reply arrives. -/
theorem step_received_encode {reply : Reply} (h : reply.Encodable)
    (hdepth : reply.depth ≤ Reader.maxDepth) :
    step ⟨⟨[], true⟩, .request, .read⟩ (.received reply.encode) = .finished {} reply.result :=
  step_received (Reader.fst_read_encode h hdepth)

end Exchange

section Verdict

variable {α : Type} [Quantity α]

/-- The decision that a store makes of a verdict: the numbers as 64-bit words, or the answer of the
failure mode if one of them is negative. -/
def Verdict.report (limits : Limits) (mode : FailureMode) (verdict : Verdict α) : Decision :=
  let remaining := Quantity.toInt64 verdict.remaining
  let reset := Quantity.toInt64 verdict.reset
  if remaining < 0 ∨ reset < 0 then mode.outcome
  else ⟨limits.tokens, remaining.toInt.toNat, reset.toInt.toNat, verdict.allowed⟩

/-- A decision has the numbers of the verdict, if these are natural numbers of less than 64 bits. -/
theorem Verdict.report_natCast (limits : Limits) (mode : FailureMode) {remaining reset : Nat}
    (hremaining : remaining < 2 ^ 63) (hreset : reset < 2 ^ 63) (allowed : Bool) :
    (⟨remaining, reset, allowed⟩ : Verdict Rat).report limits mode =
      ⟨limits.tokens, remaining, reset, allowed⟩ := by
  have hword {n : Nat} (h : n < 2 ^ 63) : (Int64.ofNat n).toInt = n := Int64.toInt_ofNat_of_lt h
  rw [report]
  dsimp only
  rw [Quantity.toInt64_natCast hremaining, Quantity.toInt64_natCast hreset, if_neg,
    hword hremaining, hword hreset]
  · rfl
  · simp [Int64.lt_iff_toInt_lt, hword hremaining, hword hreset]

end Verdict

namespace BucketServer

variable {α : Type} [Quantity α]

theorem encodable_verdictReply (verdict : Verdict α) : (verdictReply verdict).Encodable :=
  ⟨show 3 ≤ Reader.maxElements by decide, trivial, trivial, trivial, trivial⟩

theorem depth_verdictReply (verdict : Verdict α) :
    (verdictReply verdict).depth ≤ Reader.maxDepth := by
  change 1 ≤ Reader.maxDepth
  decide

/-- What the answer of the script says: its numbers, unless one of them is negative. -/
theorem ofResult?_verdictReply (verdict : Verdict α) :
    Answer.ofResult? (verdictReply verdict).result =
      let remaining := Quantity.toInt64 verdict.remaining
      let reset := Quantity.toInt64 verdict.reset
      if remaining < 0 then .error (.protocol (.negative remaining))
      else if reset < 0 then .error (.protocol (.negative reset))
      else .ok ⟨remaining.toInt.toNat, reset.toInt.toNat, verdict.allowed⟩ := by
  have hallowed : (Reply.integer (if verdict.allowed then 1 else 0)).natural? =
      .ok (if verdict.allowed then 1 else 0) := by
    cases verdict.allowed <;> rfl
  have hread : Answer.ofReply? (verdictReply verdict) = do
      let remaining ← (Reply.integer (Quantity.toInt64 verdict.remaining)).natural?
      let reset ← (Reply.integer (Quantity.toInt64 verdict.reset)).natural?
      let allowed ← (Reply.integer (if verdict.allowed then 1 else 0)).natural?
      return ⟨remaining, reset, allowed ≠ 0⟩ := rfl
  change (Answer.ofReply? (verdictReply verdict)).mapError Error.protocol = _
  rw [hread, hallowed, Reply.natural?, Reply.natural?]
  dsimp only
  split
  · rfl
  split
  · rfl
  · cases verdict.allowed <;> rfl

end BucketServer

namespace Store

variable {store : Store} {name dial : Nat} {take : Take} {x x' : Exchange} {event : Event}

/-- What a call is answered with, if it is. -/
def Notice.decision? : Notice → Option Decision
  | .answered _ decision => some decision
  | _ => none

theorem findSome?_pool {notices : List Notice}
    (h : ∀ notice ∈ notices, ∃ about, notice = .pool about) :
    notices.findSome? Notice.decision? = none := by
  rw [List.findSome?_eq_none_iff]
  intro notice hnotice
  obtain ⟨about, rfl⟩ := h notice hnotice
  rfl

/-- A call of the script is answered with the decision for its verdict. -/
theorem findSome?_conclude {α : Type} [Quantity α] (store : Store) (name : Nat) (take : Take)
    (verdict : Verdict α) :
    (store.conclude name take (.ended (BucketServer.verdictReply verdict).result)).2.findSome?
      Notice.decision? = some (verdict.report store.limits store.failureMode) := by
  rw [conclude, decide?, BucketServer.ofResult?_verdictReply, Verdict.report]
  dsimp only
  generalize Quantity.toInt64 verdict.remaining = remaining
  generalize Quantity.toInt64 verdict.reset = reset
  by_cases hremaining : remaining < 0
  · rw [if_pos hremaining, if_pos (.inl hremaining)]
    rfl
  by_cases hreset : reset < 0
  · rw [if_neg hremaining, if_pos hreset, if_pos (.inr hreset)]
    rfl
  · rw [if_neg hremaining, if_neg hreset, if_neg (not_or.mpr ⟨hremaining, hreset⟩)]
    rfl

/-! ### A call -/

/-- A store with one call, which is in a request on a connection that the pool has lent. -/
def calling (store : Store) (idle : List Session) (name : Nat) (take : Take) (dial : Nat)
    (x : Exchange) : Store :=
  { store with
    takes := [(name, take)]
    system := (store.system.withIdle idle).assign name (.calling dial x) }

section Calling

variable {idle : List Session}

theorem take?_calling : (store.calling idle name take dial x).take? name = some take :=
  List.lookup_cons_self

theorem role?_calling :
    (store.calling idle name take dial x).system.role? name = some (.calling dial x) :=
  System.role?_assign_self ..

/-- A call begins on the first idle connection. -/
theorem step_take_lent (name : Nat) (hopen : store.closed = false)
    (hpool : store.system.pool.closed = false) {session : Session}
    (hidle : store.system.pool.idle = session :: idle) (htakes : store.takes = []) (key : String)
    {moment : Moment} {now : Nat} (hnow : moment.nanos? = .ok now) :
    store.step (.take name key moment) =
      (store.calling idle name ⟨key, now⟩ session.dial
          ⟨⟨session.connection.buffer, true⟩, .request, .write (store.script.call key now).bytes⟩,
        [.pool (.acquired name session.dial)]) := by
  have hfree : store.take? name = none := by rw [take?, htakes, List.lookup_nil]
  have hstart := session.connection.start_request_eq (store.script.encode_call key now)
  rw [Store.step, if_neg (by simp [hfree]), begin, if_neg (by simp [hopen]), hnow]
  dsimp only
  rw [System.acquire_of_idle hpool hidle, Store.follow]
  dsimp only
  rw [System.call, System.role?_assign_self]
  dsimp only
  rw [hstart, System.advance, System.assign_assign, htakes]
  rfl

/-- A call waits for nothing but its request. -/
theorem carries_calling (store : Store) (idle : List Session) (name : Nat) (take : Take)
    (dial : Nat) : (takeWaiter name).Carries dial (store.calling idle name take dial)
      fun notice => ∃ about, notice = .pool about where
  awaiting x := by
    change ((store.calling idle name take dial x).system.role? name).bind _ = _
    rw [role?_calling]
    rfl
  resume {x x' event} h := by
    change ((store.calling idle name take dial x).step (.event name event)).1 = _
    rw [step_event_of_waiting take?_calling role?_calling h]
    rw [calling, calling, System.assign_assign]
  quiet {x x' event} h := by
    change ∀ notice ∈ ((store.calling idle name take dial x).step (.event name event)).2, _
    rw [Store.step, take?_calling]
    dsimp only
    rw [System.react_of_calling role?_calling, h]
    intro notice hnotice
    rcases List.mem_append.mp hnotice with hnotice | hnotice
    · obtain ⟨about, -, rfl⟩ := List.mem_map.mp hnotice
      exact ⟨about, rfl⟩
    · cases hnotice

/-- A call whose request has ended leaves the store as it was. -/
theorem step_event_finished (name : Nat) (take : Take) (hpool : store.system.pool.closed = false)
    (husers : store.system.users = []) (hidle : store.system.pool.idle = ⟨dial, {}⟩ :: idle)
    (htakes : store.takes = []) {result : Result} (hstep : x.step event = .finished {} result) :
    (store.calling idle name take dial x).step (.event name event) =
      (store, ((store.calling idle name take dial x).system.traffic name event).map .pool ++
        (store.conclude name take (.ended result)).2) := by
  rw [Store.step, take?_calling]
  dsimp only
  rw [System.react_of_calling role?_calling, hstep, System.advance, calling, System.assign_assign]
  refine Prod.ext ?_ rfl
  change forget { store with
    takes := [(name, take)]
    system := ((store.system.withIdle idle).assign name (.holding ⟨dial, {}⟩)).release name } name =
      store
  rw [System.release_lent husers hpool hidle, forget]
  dsimp only
  rw [List.filter_cons_of_neg (by simp), List.filter_nil, ← htakes]

end Calling

/-! ### Stores that are ready -/

/-- A store that is open, that nobody uses, and that is at rest with a server of token buckets,
which knows it as a client under a number and lets it in. -/
structure Ready {α : Type} (host : Host (BucketServer α)) (client : Nat) (store : Store) :
    Prop where
  admits : host.state.admits store.system.credentials
  script : store.script = .ofLimits store.limits
  isOpen : store.closed = false
  pool_open : store.system.pool.closed = false
  users : store.system.users = []
  takes : store.takes = []
  idle_ne_nil : store.system.pool.idle ≠ []
  idle {session : Session} (h : session ∈ store.system.pool.idle) :
    session.connection = {} ∧
      host.view (client, session.dial) = .resting store.system.credentials.isSome

section Ready

variable {α : Type} {host host' : Host (BucketServer α)} {client : Nat}

/-- A store stays ready if the server's ends of its connections are as before. -/
theorem Ready.congr (h : store.Ready host client)
    (hview : ∀ dial, host'.view (client, dial) = host.view (client, dial))
    (hadmits : host'.state.admits store.system.credentials) :
    store.Ready host' client where
  __ := h
  admits := hadmits
  idle hsession := by
    rw [hview]
    exact h.idle hsession

variable [Quantity α] [Add α] [Sub α] [Mul α] [Div α] [LT α] [LE α] [DecidableLT α]
  [DecidableLE α]

/-- A call that has begun on a store that is ready is answered. -/
theorem Ready.settle_calling (h : store.Ready host client) (hmode : host.state.mode = .working)
    {idle : List Session} (hidle : store.system.pool.idle = ⟨dial, {}⟩ :: idle) (name : Nat)
    (key : String) (now : Nat) :
    let (verdict, buckets) := host.state.buckets.take store.limits (Bytes.ofString key) now
    ∃ host' notices, settle (takeWaiter name) (Host.network BucketServer.service client)
        (store.calling idle name ⟨key, now⟩ dial
          ⟨⟨[], true⟩, .request, .write (store.script.call key now).bytes⟩) host =
        ⟨store, host', notices, false⟩ ∧
      notices.findSome? Notice.decision? =
        some (verdict.report store.limits store.failureMode) ∧
      host'.state = { host.state with buckets, runs := host.state.runs + 1 } ∧
      host'.view = host.view := by
  generalize hverdict : host.state.buckets.take store.limits (Bytes.ofString key) now = stepped
  obtain ⟨verdict, buckets⟩ := stepped
  have hpeer := (h.idle (hidle ▸ List.mem_cons_self)).2
  have hanswer := BucketServer.answer_call h.admits hmode store.limits key now
  rw [← h.script, hverdict] at hanswer
  obtain ⟨host', more, hsettled, hquiet, hstate, hview⟩ :=
    (carries_calling store idle name ⟨key, now⟩ dial).settleWithin_request hpeer
      (store.script.encode_call key now) hanswer (BucketServer.verdictReply verdict).encode_ne_nil
      17 []
  -- The store is as it was once the answer has arrived, and then there is nothing to wait for.
  have hfinished := step_event_finished name ⟨key, now⟩ h.pool_open h.users hidle h.takes
    (Exchange.step_received_encode (BucketServer.encodable_verdictReply verdict)
      (BucketServer.depth_verdictReply verdict))
  have hdone : (takeWaiter name).awaiting? store = none := by
    change (store.system.role? name).bind _ = none
    rw [System.role?, h.users]
    rfl
  change settle _ _ _ host = RateLimit.settleWithin _ _ 17 (Store.step _ _).1 _
    ([] ++ more ++ (Store.step _ _).2) at hsettled
  rw [hfinished, settleWithin_of_none hdone, List.nil_append] at hsettled
  refine ⟨host', _, hsettled, ?_, hstate, ?_⟩
  · rw [List.findSome?_append, findSome?_pool hquiet, Option.none_or, List.findSome?_append,
      findSome?_pool (List.forall_mem_map.mpr fun about _ => ⟨about, rfl⟩), Option.none_or,
      findSome?_conclude]
  · rw [hview, ← hpeer, Function.update_eq_self]

/-- **A call on a store that is ready** is one step of the bucket of its key, at the time of the
call and with the limits of the store.  It is answered with the decision for the verdict of that
step, and leaves the store and the server's ends of all connections as they were. -/
theorem Ready.takeOn (h : store.Ready host client) (hmode : host.state.mode = .working)
    (key : String) {moment : Moment} {now : Nat} (hnow : moment.nanos? = .ok now) :
    let (verdict, buckets) := host.state.buckets.take store.limits (Bytes.ofString key) now
    let taken := store.takeOn (Host.network BucketServer.service client) host key moment
    taken.store = store ∧
      taken.decision = some (verdict.report store.limits store.failureMode) ∧
      taken.network.state = { host.state with buckets, runs := host.state.runs + 1 } ∧
      taken.network.view = host.view := by
  obtain ⟨⟨dial, c⟩, idle, hidle⟩ := List.exists_cons_of_ne_nil h.idle_ne_nil
  obtain rfl : c = {} := (h.idle (hidle ▸ List.mem_cons_self)).1
  obtain ⟨host', notices, hsettled, hdecision, hstate, hview⟩ :=
    h.settle_calling hmode hidle 0 key now
  have hbegin := step_take_lent 0 h.isOpen h.pool_open hidle h.takes key hnow
  have hfree : store.take? 0 = none := by rw [take?, h.takes, List.lookup_nil]
  have htaken : store.takeOn (Host.network BucketServer.service client) host key moment =
      ⟨notices.findSome? Notice.decision?, store, host', .pool (.acquired 0 dial) :: notices⟩ := by
    rw [Store.takeOn]
    dsimp only
    rw [hbegin]
    dsimp only
    rw [hsettled, Store.step, hfree]
    rfl
  dsimp only
  rw [htaken]
  exact ⟨rfl, hdecision, hstate, hview⟩

end Ready

end Store

end RateLimit
