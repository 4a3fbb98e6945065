import RateLimit.Proofs.Pool.Lives

/-!
# Credentials come first

Over a transport of a pool with credentials, the command that presents them passes first, and
nothing else passes before a status line has come in reply.  So a connection that is idle, or in the
hands of a user, has got that reply.  A connection that does not get it, in whatever way, is closed
and its slot given back.  Over a transport of a pool without credentials nothing passes but what its
users send.

## Main definitions

* `Wire.Authenticated` : the credentials were presented over a wire, and accepted.
* `Pool.Secured` : how the use of a transport stands to the credentials.
* `Pool.Conveys` : how the use of a transport stands to the commands of its users.
* `Pool.System.Dropped` : a connection that was being opened is closed and its slot given back.

## Main results

* `Pool.Life.secured` : no life of a transport passes over the credentials.
* `Pool.Life.conveys` : without credentials, a transport carries the commands of its users.
* `Pool.System.Balanced.dropped_event`, `Pool.System.Balanced.dropped_giveUp` : a connection whose
  credentials are not accepted.
-/

namespace RateLimit

namespace Wire

/-- If there are credentials, the command that presents them has gone first over a wire, and a
status line stands at the front of what was delivered. -/
def Authenticated : Option Credentials → Wire → Prop
  | none, _ => True
  | some credentials, w => ∃ later text rest,
      w.commands = credentials.command.bytes :: later ∧
        (Reader.read {} w.delivered).1 = .complete (.status text) rest

variable {credentials : Option Credentials} {w : Wire}

theorem Admitted.authenticated (h : w.Admitted credentials) : w.Authenticated credentials := by
  cases h with
  | free => trivial
  | accepted h => exact ⟨[], _, _, h.commands, h.read⟩

/-- What passes later leaves the credentials accepted. -/
theorem Authenticated.after (h : w.Authenticated credentials) (x : Exchange) (event : Event) :
    (w.after x event).Authenticated credentials := by
  cases credentials with
  | none => trivial
  | some presented =>
      obtain ⟨later, text, rest, hcommands, hread⟩ := h
      have hread' : (Reader.read {} (w.delivered ++ x.arrived event)).1 =
          .complete (.status text) (rest ++ x.arrived event) := by
        rw [Reader.settles_read {} w.delivered (by simp [hread]), hread, Reading.extend_complete]
      by_cases hflushes : x.flushes event = true
      · refine ⟨later ++ [w.pending], text, _, ?_, hread'⟩
        rw [Wire.after, if_pos hflushes, if_pos hflushes, hcommands, List.cons_append]
      · refine ⟨later, text, _, ?_, hread'⟩
        rw [Wire.after, if_neg hflushes, if_neg hflushes, hcommands]

end Wire

namespace Pool

variable {credentials : Option Credentials} {allowed : Connection → Call → Prop}
  {role : Option Role} {w : Wire}

/-! ### What has passed before -/

/-- How the use of a transport stands to the credentials. -/
inductive Secured (credentials : Option Credentials) : Option Role → Wire → Prop
  /-- The credentials are being presented. -/
  | opening {dial : Nat} {attempt : Attempt} {w : Wire} (h : attempt.Greets credentials w) :
      Secured credentials (some (.opening dial attempt)) w
  | holding {session : Session} {w : Wire} (h : w.Authenticated credentials) :
      Secured credentials (some (.holding session)) w
  | calling {dial : Nat} {x : Exchange} {w : Wire} (h : w.Authenticated credentials) :
      Secured credentials (some (.calling dial x)) w
  /-- Nobody uses it any more. -/
  | closed {w : Wire} (h : w.Greeted credentials ∨ w.Authenticated credentials) :
      Secured credentials none w

/-- No life of a transport passes over the credentials. -/
theorem Life.secured (h : Life credentials allowed role w) : Secured credentials role w := by
  induction h with
  | dialed => exact .opening .connecting
  | @attempt dial attempt w h event ih =>
      cases ih with
      | opening hgreets =>
          have houtcome := hgreets.outcome event
          generalize attempt.step credentials event = p at houtcome ⊢
          cases houtcome with
          | waiting hgreets => exact .opening hgreets
          | opened hwhole hadmitted => exact .holding hadmitted.authenticated
          | failed error hgreeted => exact .closed (.inl hgreeted)
  | @call session w h call hcall ih =>
      cases ih with
      | holding h => cases session.connection.start call <;> constructor <;> exact h
  | @event dial x w h event ih =>
      cases ih with
      | calling h => cases x.step event <;> constructor <;> exact h.after x event
  | giveUp h ih =>
      cases ih with
      | calling h => exact .holding h
  | closed h ih =>
      cases ih with
      | opening hgreets => exact .closed (.inl hgreets.greeted)
      | holding h => exact .closed (.inr h)
      | calling h => exact .closed (.inr h)

/-! ### What users send -/

/-- The user of a whole connection makes a request with one of some commands. -/
def Orderly (commands : Command → Prop) (c : Connection) (call : Call) : Prop :=
  c.broken = false ∧ ∃ command, commands command ∧ call = .request command

/-- Nothing has gone over a wire but some commands, one after the other, and perhaps the beginning
of another. -/
structure Carries (commands : Command → Prop) (w : Wire) : Prop where
  passed : ∀ bytes ∈ w.commands, ∃ command, commands command ∧ bytes = command.bytes
  pending : w.pending = [] ∨ ∃ command, commands command ∧ w.pending <+: command.bytes

/-- How a wire stands to a request in progress that is to send some bytes. -/
inductive Sending (bytes : Bytes) (w : Wire) : Exchange → Prop
  | writing {c : Connection} {rest : Bytes} (h : w.pending ++ rest = bytes) :
      Sending bytes w ⟨c, .request, .write rest⟩
  | flushing {c : Connection} (h : w.pending = bytes) : Sending bytes w ⟨c, .request, .flush⟩
  | reading {c : Connection} (h : w.pending = []) : Sending bytes w ⟨c, .request, .read⟩

/-- How the use of a transport without credentials stands to the commands of its users. -/
inductive Conveys (commands : Command → Prop) : Option Role → Wire → Prop
  /-- Nothing passes before the transport is open. -/
  | connecting {dial : Nat} : Conveys commands (some (.opening dial .connecting)) {}
  | holding {session : Session} {w : Wire} (hcarries : Carries commands w)
      (hrest : session.connection.broken = false → w.pending = []) :
      Conveys commands (some (.holding session)) w
  | calling {dial : Nat} {x : Exchange} {w : Wire} {command : Command} (hcommand : commands command)
      (hbroken : x.connection.broken = true) (hcarries : Carries commands w)
      (h : Sending command.bytes w x) : Conveys commands (some (.calling dial x)) w
  /-- Nobody uses it any more. -/
  | closed {w : Wire} (hcarries : Carries commands w) : Conveys commands none w

variable {commands : Command → Prop} {command : Command} {x : Exchange} {dial : Nat}

theorem carries_empty (commands : Command → Prop) : Carries commands {} :=
  ⟨fun _ hmem => (List.not_mem_nil hmem).elim, .inl rfl⟩

theorem Sending.task {bytes : Bytes} (h : Sending bytes w x) : x.task = .request := by
  cases h <;> rfl

/-- What a request sends in an event is a part of its command. -/
theorem Carries.after (hcarries : Carries commands w) (hcommand : commands command)
    (h : Sending command.bytes w x) (event : Event) : Carries commands (w.after x event) := by
  cases h with
  | @writing c rest h =>
      have hflushes : Exchange.flushes ⟨c, .request, .write rest⟩ event = false := rfl
      rw [Wire.after, hflushes]
      refine ⟨hcarries.passed, ?_⟩
      rcases Exchange.accepted_cases ⟨c, .request, .write rest⟩ event with
        hnone | ⟨_, count, hrest, rfl⟩
      · rw [hnone]
        exact (List.append_nil w.pending).symm ▸ hcarries.pending
      · cases hrest
        refine .inr ⟨command, hcommand, ?_⟩
        rw [← h]
        exact (List.prefix_append_right_inj _).2 (List.take_prefix count rest)
  | @flushing c h =>
      by_cases hflushes : Exchange.flushes ⟨c, .request, .flush⟩ event = true
      · rw [Wire.after, if_pos hflushes, if_pos hflushes]
        refine ⟨fun bytes hmem => ?_, .inl rfl⟩
        rcases List.mem_append.1 hmem with hold | hnew
        · exact hcarries.passed bytes hold
        · exact ⟨command, hcommand, (List.mem_singleton.1 hnew).trans h⟩
      · rw [Wire.after, if_neg hflushes, if_neg hflushes]
        exact ⟨hcarries.passed, (List.append_nil w.pending).symm ▸ hcarries.pending⟩
  | @reading c h =>
      have hflushes : Exchange.flushes ⟨c, .request, .read⟩ event = false := rfl
      rw [Wire.after, hflushes]
      exact ⟨hcarries.passed, (List.append_nil w.pending).symm ▸ hcarries.pending⟩

/-- A request that has sent its command looks for the reply. -/
theorem Carries.conveys_poll (hcarries : Carries commands w) (hpending : w.pending = [])
    (hcommand : commands command) {c : Connection} (hbroken : c.broken = true) :
    Conveys commands (some ((c.poll .request).role dial)) w := by
  rcases c.poll_request_cases with hwait | ⟨reply, rest, -, hdone⟩ | ⟨fault, hfail⟩
  · rw [hwait]
    exact .calling hcommand hbroken hcarries (.reading hpending)
  · rw [hdone]
    exact .holding hcarries fun _ => hpending
  · rw [hfail]
    exact .holding hcarries fun _ => hpending

/-- A request goes on to send its command and nothing else. -/
theorem Sending.conveys (h : Sending command.bytes w x) (hcommand : commands command)
    (hbroken : x.connection.broken = true) (hcarries : Carries commands w) (event : Event) :
    Conveys commands (some ((x.step event).role dial)) (w.after x event) := by
  have hcarries' := hcarries.after hcommand h event
  have hgoes := Exchange.goes h.task event
  generalize x.step event = p at hgoes ⊢
  cases hgoes with
  | stays haccepted hflushes hread =>
      rw [Wire.after_eq_self haccepted hflushes hread]
      exact .calling hcommand hbroken hcarries h
  | @wrote rest count hawaiting hcount =>
      cases h with
      | @writing c _ h =>
          cases hawaiting
          refine .calling hcommand hbroken hcarries' ?_
          rw [Wire.after_wrote]
          exact .writing (by rw [List.append_assoc, List.take_append_drop, h])
      | flushing | reading => cases hawaiting
  | @written rest count hawaiting hcount =>
      cases h with
      | @writing c _ h =>
          cases hawaiting
          refine .calling hcommand hbroken hcarries' ?_
          rw [Wire.after_wrote, List.take_of_length_le hcount]
          exact .flushing h
      | flushing | reading => cases hawaiting
  | passed hawaiting =>
      cases h with
      | flushing => exact hcarries'.conveys_poll rfl hcommand hbroken
      | writing | reading => cases hawaiting
  | received hawaiting =>
      cases h with
      | reading h =>
          refine hcarries'.conveys_poll ?_ hcommand hbroken
          exact (List.append_nil w.pending).trans h
      | writing | flushing => cases hawaiting
  | failed =>
      refine .holding hcarries' fun hwhole => ?_
      cases hbroken.symm.trans hwhole

/-- Without credentials, a transport carries the commands of its users, and no others. -/
theorem Life.conveys (h : Life none (Orderly commands) role w) : Conveys commands role w := by
  induction h with
  | dialed => exact .connecting
  | attempt h event ih =>
      cases ih with
      | connecting =>
          cases event with
          | connected => exact .holding (carries_empty commands) fun _ => rfl
          | connectFailed => exact .closed (carries_empty commands)
          | _ => exact .connecting
  | @call session w h call hcall ih =>
      obtain ⟨hwhole, command, hcommand, rfl⟩ := hcall
      cases ih with
      | holding hcarries hrest =>
          rw [Connection.start, Connection.transmit]
          cases hencode : command.encode with
          | error => exact .holding hcarries fun _ => hrest hwhole
          | ok bytes =>
              refine .calling hcommand rfl hcarries (.writing ?_)
              rw [hrest hwhole, Command.bytes, hencode, List.nil_append]
  | event h event ih =>
      cases ih with
      | calling hcommand hbroken hcarries h => exact h.conveys hcommand hbroken hcarries event
  | giveUp h ih =>
      cases ih with
      | calling hcommand hbroken hcarries h =>
          refine .holding hcarries fun hwhole => ?_
          cases hbroken.symm.trans hwhole
  | closed h ih =>
      cases ih with
      | connecting => exact .closed (carries_empty commands)
      | holding hcarries => exact .closed hcarries
      | calling _ _ hcarries => exact .closed hcarries

/-! ### Connections that are not opened -/

/-- The request that presents credentials ends with anything but a status line: with an error line
or another reply, with a departure from the protocol, or with a failure of the transport. -/
def Rejected (x : Exchange) (event : Event) : Prop :=
  ∃ c result, x.step event = .finished c result ∧ ∀ text, result ≠ .ok (some (.status text))

/-- A connection whose credentials are not accepted is not opened. -/
theorem Rejected.failed {event : Event} (h : Rejected x event) (credentials : Option Credentials) :
    ∃ error, (Attempt.authenticating x).step credentials event = .failed error := by
  obtain ⟨c, result, hstep, hresult⟩ := h
  rw [Attempt.step, hstep, Attempt.ofRequest, Connection.admit]
  rcases result with error | (- | reply)
  · cases error <;> exact ⟨_, rfl⟩
  · exact ⟨_, rfl⟩
  · cases reply with
    | status text => exact (hresult text rfl).elim
    | error | integer | bulk | null | array => exact ⟨_, rfl⟩

namespace System

variable {s t : System} {user : Nat} {attempt : Attempt}

/-- A user has left that was opening a connection: its transport is closed, its slot is given back,
and nobody else is concerned. -/
structure Dropped (s t : System) (user dial : Nat) : Prop where
  role : t.role? user = none
  transport : dial ∉ t.transports
  slot : t.pool.live + 1 = s.pool.live
  idle : t.pool.idle = s.pool.idle
  others : ∀ other, other ≠ user → t.role? other = s.role? other

theorem Balanced.dropped (h : s.Balanced) {role : Role} (hrole : s.role? user = some role) :
    s.Dropped (s.dismiss user s.pool.giveBack) user role.dial where
  role := role?_dismiss_self ..
  transport := by
    intro hmem
    have hnodup := (perm_dials h.names hrole).nodup_iff.1 h.dials
    refine (List.nodup_cons.1 hnodup).1 ?_
    rcases List.mem_append.1 hmem with hidle | hused
    · exact List.mem_append_left _ hidle
    · obtain ⟨entry, hentry, hdial⟩ := List.mem_map.1 hused
      exact List.mem_append_right _ (List.mem_map.2 ⟨entry, (List.mem_filter.1 hentry).1, hdial⟩)
  slot := by
    have hpos : 0 < s.pool.live := h.sound.live_pos hrole
    change s.pool.live - 1 + 1 = s.pool.live
    omega
  idle := rfl
  others _ hother := role?_dismiss_of_ne hother _ _

theorem react_of_failed (hrole : s.role? user = some (.opening dial attempt)) {event : Event}
    {error : Error} (hfailed : attempt.step s.credentials event = .failed error) :
    s.react user event = (s.dismiss user s.pool.giveBack, .refused error) := by
  rw [react, hrole]
  dsimp only
  rw [hfailed, proceed]

theorem giveUp_of_opening (hrole : s.role? user = some (.opening dial attempt)) :
    s.giveUp user = s.dismiss user s.pool.giveBack := by
  rw [giveUp, hrole]

/-- A connection whose credentials are not accepted is closed, and its slot is given back. -/
theorem Balanced.dropped_event (h : s.Balanced)
    (hrole : s.role? user = some (.opening dial (.authenticating x))) {event : Event}
    (hrejected : Rejected x event) :
    s.Dropped (s.step (.event user event)).1 user dial := by
  obtain ⟨error, hfailed⟩ := hrejected.failed s.credentials
  change s.Dropped (s.react user event).1 user dial
  rw [react_of_failed hrole hfailed]
  exact h.dropped hrole

/-- A connection that is given up while it is being opened is closed, and its slot is given back. -/
theorem Balanced.dropped_giveUp (h : s.Balanced)
    (hrole : s.role? user = some (.opening dial attempt)) :
    s.Dropped (s.step (.giveUp user)).1 user dial := by
  change s.Dropped (s.giveUp user) user dial
  rw [giveUp_of_opening hrole]
  exact h.dropped hrole

end System

/-- A pool is not opened if the credentials are not accepted on one of its first connections, and
drops that connection with those opened before. -/
theorem Opening.failed_of_rejected {o : Opening} (hattempt : o.attempt = .authenticating x)
    {event : Event} (h : Rejected x event) :
    o.dial ∈ o.transports ∧ ∃ error, (o.step event).1 = .failed error o.transports := by
  obtain ⟨error, hfailed⟩ := h.failed o.settings.credentials
  refine ⟨?_, error, ?_⟩
  · rw [Opening.transports, hattempt]
    exact List.mem_cons_self
  · rw [Opening.step, hattempt, hfailed]

/-! ### Pools -/

namespace Opening.Progress

/-- The transports of the connections that are idle or in the hands of users. -/
def established : Progress → List Nat
  | .waiting o => o.opened.map Session.dial
  | .opened s => s.pool.idle.map Session.dial ++
      (s.users.filter fun entry => !entry.2 matches .opening _ _).map fun entry => entry.2.dial
  | .failed _ _ => []

/-- The transports of the connections that are being opened. -/
def opening : Progress → List Nat
  | .waiting o => [o.dial]
  | .opened s =>
      (s.users.filter fun entry => entry.2 matches .opening _ _).map fun entry => entry.2.dial
  | .failed _ _ => []

end Opening.Progress

/-- With credentials, the command that presents them goes first over each transport, once, and
nothing else goes before a status line has come in reply; over those that are established it has
come.  Without credentials, nothing goes over those that are being opened. -/
structure CredentialsFirst (credentials : Option Credentials) (wires : Nat → Wire)
    (established opening : List Nat) : Prop where
  first : ∀ presented, credentials = some presented → ∀ dial,
    (wires dial).Sends presented.command.bytes ∨ (wires dial).Authenticated (some presented)
  established : ∀ presented, credentials = some presented → ∀ dial ∈ established,
    (wires dial).Authenticated (some presented)
  silent : credentials = none → ∀ dial ∈ opening, wires dial = {}

variable {settings : PoolSettings} {wires : Nat → Wire} {progress : Opening.Progress}

/-- What a closed transport has sent. -/
theorem Secured.first {presented : Credentials} (h : Secured (some presented) none w) :
    w.Sends presented.command.bytes ∨ w.Authenticated (some presented) := by
  cases h with
  | closed h =>
      rcases h with hgreeted | hauthenticated
      · cases hgreeted with
        | presented h => exact .inl h
      · exact .inr hauthenticated

theorem Secured.silent {attempt : Attempt}
    (h : Secured none (some (.opening dial attempt)) w) : w = {} := by
  cases h with
  | opening h =>
      cases h with
      | connecting => rfl
      | authenticating h => cases h

theorem Secured.established {role : Role} (h : Secured credentials (some role) w)
    (hrole : ∀ dial attempt, role ≠ .opening dial attempt) : w.Authenticated credentials := by
  cases h with
  | opening => exact (hrole _ _ rfl).elim
  | holding h => exact h
  | calling h => exact h

theorem CredentialsFirst.mono {established established' opening opening' : List Nat}
    (h : CredentialsFirst credentials wires established opening)
    (hestablished : established' ⊆ established) (hopening : opening' ⊆ opening) :
    CredentialsFirst credentials wires established' opening' where
  first := h.first
  established presented hpresented dial hmem :=
    h.established presented hpresented dial (hestablished hmem)
  silent hnone dial hmem := h.silent hnone dial (hopening hmem)

/-- The credentials come first in every run of a pool. -/
theorem Observed.credentialsFirst (h : Observed settings allowed wires progress) :
    CredentialsFirst settings.credentials wires progress.established progress.opening := by
  have hlives := h.lives
  have hall (hclosed : ∀ dial, Life settings.credentials allowed none (wires dial))
      (presented : Credentials) (hpresented : settings.credentials = some presented) (dial : Nat) :
      (wires dial).Sends presented.command.bytes ∨
        (wires dial).Authenticated (some presented) :=
    (hpresented ▸ (hclosed dial).secured).first
  cases hlives with
  | failed hclosed => exact ⟨hall hclosed, fun _ _ _ hmem => (List.not_mem_nil hmem).elim,
      fun _ _ hmem => (List.not_mem_nil hmem).elim⟩
  | @waiting o hsettings hattempt hopened hclosed =>
      refine ⟨hall hclosed, fun presented hpresented dial hmem => ?_, fun hnone dial hmem => ?_⟩
      · obtain ⟨session, hsession, rfl⟩ := List.mem_map.1 hmem
        exact hpresented ▸ (hopened session hsession).secured.established
          fun _ _ => Role.noConfusion
      · obtain rfl := List.mem_singleton.1 hmem
        exact (hnone ▸ hattempt.secured).silent
  | @opened s hs =>
      have hrole {entry : Nat × Role} (hmem : entry ∈ s.users) :
          Life settings.credentials allowed (some entry.2) (wires entry.2.dial) :=
        hs.users entry.1 entry.2 (lookup_of_mem h.system.balanced.names hmem)
      refine ⟨hall hs.all, fun presented hpresented dial hmem => ?_, fun hnone dial hmem => ?_⟩
      · rcases List.mem_append.1 hmem with hidle | hused
        · obtain ⟨session, hsession, rfl⟩ := List.mem_map.1 hidle
          exact hpresented ▸ (hs.idle session hsession).secured.established
            fun _ _ => Role.noConfusion
        · obtain ⟨⟨user, role⟩, hentry, rfl⟩ := List.mem_map.1 hused
          obtain ⟨hentry, hkind⟩ := List.mem_filter.1 hentry
          refine hpresented ▸ (hrole hentry).secured.established fun dial attempt heq => ?_
          cases heq
          cases hkind
      · obtain ⟨⟨user, role⟩, hentry, rfl⟩ := List.mem_map.1 hmem
        obtain ⟨hentry, hkind⟩ := List.mem_filter.1 hentry
        cases role with
        | opening dial attempt => exact (hnone ▸ (hrole hentry).secured).silent
        | holding | calling => cases hkind

/-- Without credentials, nothing goes over the transports of a pool but the commands of its
users. -/
theorem Observed.carries (h : Observed settings (Orderly commands) wires progress)
    (hnone : settings.credentials = none) (dial : Nat) : Carries commands (wires dial) := by
  have hclosed : Life settings.credentials (Orderly commands) none (wires dial) := by
    cases h.lives with
    | waiting _ _ _ hall => exact hall dial
    | opened hs => exact hs.all dial
    | failed hall => exact hall dial
  cases (hnone ▸ hclosed).conveys with
  | closed hcarries => exact hcarries

end Pool

end RateLimit
