import RateLimit.Proofs.Pool.Authentication
import RateLimit.Proofs.Store.Attainable

/-!
# Nothing is sent unauthenticated

Whatever happens to a store is a run of its pool, in which the users of the pool make orderly
requests with commands of the script.  So what is true of every run of a pool is true of the pool of
a store: the credentials come first on every transport, and a connection whose credentials are not
accepted is closed and its slot given back.

## Main definitions

* `Store.Observed` : the runs of stores from the beginning of their opening, with what has passed.
* `Store.OfScript` : the commands that register a script and run it.
* `Store.Uses` : how a store stands to a run of its pool.

## Main results

* `Store.Observed.simulates` : whatever happens to a store is a run of its pool.
* `Store.credentials_first` : nothing is sent unauthenticated.
-/

namespace RateLimit

open Pool (System Turn Role)

/-! ### Connections that change hands -/

namespace Pool.System

/-- Whoever gets a connection in a turn holds it whole. -/
def HandsOver (user : Nat) (result : System × Turn) : Prop :=
  ∀ dial, result.2 = .acquired dial → ∃ session,
    result.1.role? user = some (.holding session) ∧ session.connection.broken = false

variable {s : System} {user : Nat}

theorem Sound.handsOver_acquire (h : s.Sound) (user : Nat) : HandsOver user (s.acquire user) := by
  have hacquires := s.acquires user
  generalize s.acquire user = result at hacquires ⊢
  intro dial hturn
  cases hacquires with
  | closed | exhausted | slot => cases hturn
  | @session session idle hidle =>
      exact ⟨session, role?_assign_self .., h.whole session (hidle ▸ List.mem_cons_self)⟩

theorem Sound.handsOver_react (h : s.Sound) (user : Nat) (event : Event) :
    HandsOver user (s.react user event) := by
  intro dial hturn
  rw [System.react] at hturn ⊢
  rcases hrole : s.role? user with _ | (⟨dial', attempt⟩ | session | ⟨dial', x⟩)
  all_goals simp only [hrole] at hturn ⊢
  · cases hturn
  · cases h.requests user _ hrole with
    | opening _ hattempt =>
        have hrequest := hattempt.step s.credentials event
        generalize attempt.step s.credentials event = p at hrequest hturn ⊢
        cases hrequest with
        | waiting | failed => cases hturn
        | @opened c hwhole =>
            rw [System.proceed] at hturn ⊢
            split at hturn
            · cases hturn
            · rename_i hopen
              rw [if_neg hopen]
              exact ⟨⟨dial', c⟩, role?_assign_self .., hwhole⟩
  · cases hturn
  · cases hstep : x.step event <;> rw [hstep] at hturn <;> cases hturn

end Pool.System

namespace Store

/-! ### Runs -/

/-- What has passed over the transports after an action. -/
def observe (wires : Nat → Wire) (s : Store) : Action → Nat → Wire
  | .event name event =>
      if (s.take? name).isSome then s.system.observe wires name event else wires
  | _ => wires

/-- The runs of stores from the beginning of their opening, by events and actions in any order, with
what has passed over the transports. -/
inductive Observed (config : Config) : (Nat → Wire) → Opening.Progress → Prop
  | start : Observed config (fun _ => {}) (Opening.start config).1
  | opening {wires : Nat → Wire} {o : Opening} (h : Observed config wires (.waiting o))
      (event : Event) : Observed config (o.observe wires event) (o.step event).1
  | use {wires : Nat → Wire} {s : Store} (h : Observed config wires (.opened s))
      (action : Action) : Observed config (s.observe wires action) (.opened (s.step action).1)

/-- A command that registers a script, or runs it. -/
def OfScript (command : Command) : Prop :=
  ∃ script : Script, command = script.register ∨ ∃ key now, command = script.call key now

/-- How a store stands to a run of its pool. -/
inductive Uses : Opening.Progress → Pool.Opening.Progress → Prop
  | pool (plan : Plan) (o : Pool.Opening) : Uses (.waiting (.pool plan o)) (.waiting o)
  | script (plan : Plan) (system : System) : Uses (.waiting (.script plan system)) (.opened system)
  | opened (s : Store) : Uses (.opened s) (.opened s.system)
  | failed (error : Error) (dropped : List Nat) (progress : Pool.Opening.Progress) :
      Uses (.failed error dropped) progress

variable {config : Config} {settings : PoolSettings} {wires : Nat → Wire} {s : Store} {name : Nat}
  {take : Take} {t : System} {progress : Opening.Progress}

/-- A run is one of the opening of a store, or of a store that was opened. -/
theorem Observed.attainable (h : Observed config wires progress) :
    Opening.Attainable config progress ∨ ∃ s, progress = .opened s ∧ s.Attainable config := by
  induction h with
  | start => exact .inl .start
  | opening h event ih =>
      rcases ih with hopening | ⟨s, hopened, -⟩
      · exact .inl (hopening.step event)
      · cases hopened
  | use h action ih =>
      refine .inr ⟨_, rfl, ?_⟩
      rcases ih with hopening | ⟨s, hopened, hs⟩
      · exact .step (.opened hopening) action
      · cases hopened
        exact hs.step action

theorem Observed.sound (h : Observed config wires (.opened s)) : s.Sound := by
  rcases h.attainable with hopening | ⟨s, hopened, hs⟩
  · cases hopening.sound with
    | opened hs => exact hs
  · cases hopened
    exact hs.sound

theorem Observed.opening_sound {o : Opening} (h : Observed config wires (.waiting o)) :
    o.Sound := by
  rcases h.attainable with hopening | ⟨s, hopened, -⟩
  · cases hopening.sound with
    | waiting hs => exact hs
  · cases hopened

/-! ### The run of the pool -/

/-- A run of a pool whose users make orderly requests with commands of a script. -/
abbrev Serves (settings : PoolSettings) (wires : Nat → Wire) (t : System) : Prop :=
  Pool.Observed settings (Pool.Orderly OfScript) wires (.opened t)

/-- An action that is no call is orderly. -/
theorem Serves.act (h : Serves settings wires t) (action : Pool.Action)
    (hcall : ∀ user call, action ≠ .call user call) :
    Serves settings (t.record wires action) (t.step action).1 :=
  h.use action fun user _ call heq => (hcall user call heq).elim

theorem Serves.acquire (h : Serves settings wires t) (hfree : t.role? name = none) :
    Serves settings wires (t.acquire name).1 := by
  have hact := h.act (.acquire name) fun _ _ => Pool.Action.noConfusion
  rw [System.step, hfree] at hact
  exact hact

/-- The user of a whole connection makes a request with a command of a script. -/
theorem Serves.call (h : Serves settings wires t) {command : Command} (hcommand : OfScript command)
    {session : Session} (hrole : t.role? name = some (.holding session))
    (hwhole : session.connection.broken = false) :
    Serves settings wires (t.call name (.request command)).1 := by
  refine h.use (.call name (.request command)) fun user other call heq hother => ?_
  cases heq
  cases hrole.symm.trans hother
  exact ⟨hwhole, command, hcommand, rfl⟩

theorem Serves.release (h : Serves settings wires t) (name : Nat) :
    Serves settings wires (t.release name) :=
  h.act (.release name) fun _ _ => Pool.Action.noConfusion

theorem Serves.conclude (h : Serves settings wires s.system) (turn : Turn) :
    Serves settings wires (s.conclude name take turn).1.system := by
  cases turn with
  | ended => exact h.release name
  | pending | dialing | acquired | refused => exact h

/-- What a call does after its turn is a part of the run of the pool. -/
theorem Serves.follow {result : System × Turn} (h : Serves settings wires result.1)
    (hhands : System.HandsOver name result) (s : Store) (take : Take) :
    Serves settings wires (s.follow name take result).1.system := by
  obtain ⟨t, turn⟩ := result
  cases turn with
  | acquired dial =>
      obtain ⟨session, hrole, hwhole⟩ := hhands dial rfl
      have hcommand : OfScript (s.script.call take.key take.now) :=
        ⟨s.script, .inr ⟨take.key, take.now, rfl⟩⟩
      have hcall := h.call hcommand hrole hwhole
      exact Serves.conclude (s := { s with system := _ }) hcall _
  | pending | dialing | refused | ended =>
      exact Serves.conclude (s := { s with system := t }) h _

/-- Whatever happens to a store is a part of the run of its pool. -/
theorem Serves.step (h : Serves settings wires s.system) (hs : s.Sound) (action : Action) :
    Serves settings (s.observe wires action) (s.step action).1.system := by
  cases action with
  | take name key moment =>
      change Serves settings wires _
      rw [Store.step]
      split
      · exact h
      · rename_i hfree
        rw [Bool.not_eq_true, Option.isSome_eq_false_iff, Option.isNone_iff_eq_none] at hfree
        rw [begin]
        split
        · exact h
        · split
          · exact h
          · exact Serves.follow (h.acquire ((hs.users name).2 hfree))
              (hs.system.handsOver_acquire name) _ _
  | event name event =>
      rw [Store.step, observe]
      cases htake : s.take? name with
      | none => exact h
      | some take =>
          exact Serves.follow
            (h.act (.event name event) fun _ _ => Pool.Action.noConfusion)
            (hs.system.handsOver_react name event) s take
  | giveUp name =>
      change Serves settings wires _
      rw [Store.step]
      split
      · exact h
      · exact Serves.release
          (h.act (.giveUp name) fun _ _ => Pool.Action.noConfusion) name
  | close =>
      change Serves settings wires _
      rw [Store.step]
      split
      · exact h
      · exact h.act .close fun _ _ => Pool.Action.noConfusion

/-! ### The opening of a store -/

namespace Opening

/-- What becomes of the opening of a store goes with the run of its pool. -/
def Simulates (settings : PoolSettings) (wires : Nat → Wire) (progress : Progress) : Prop :=
  ∃ p, Pool.Observed settings (Pool.Orderly OfScript) wires p ∧ Uses progress p

variable {plan : Plan}

theorem simulates_conclude (h : Serves settings wires t) (plan : Plan) (turn : Turn) :
    Simulates settings wires (conclude plan t turn).1 := by
  cases turn with
  | refused error => exact ⟨_, h, .failed _ _ _⟩
  | ended result =>
      rw [conclude]
      split
      · exact ⟨_, h, .failed _ _ _⟩
      · exact ⟨_, h.release user, .opened _⟩
  | pending | dialing | acquired => exact ⟨_, h, .script plan t⟩

theorem simulates_follow {result : System × Turn} (h : Serves settings wires result.1)
    (hhands : System.HandsOver user result) (plan : Plan) :
    Simulates settings wires (follow plan result).1 := by
  obtain ⟨t, turn⟩ := result
  cases turn with
  | acquired dial =>
      obtain ⟨session, hrole, hwhole⟩ := hhands dial rfl
      have hcommand : OfScript plan.script.register := ⟨plan.script, .inl rfl⟩
      exact simulates_conclude (h.call hcommand hrole hwhole) plan _
  | pending | dialing | refused | ended => exact simulates_conclude h plan _

theorem simulates_proceed (hsizes : settings.initialSize ≤ settings.maxSize)
    {after : Pool.Opening.Progress × List Pool.Notice}
    (h : Pool.Observed settings (Pool.Orderly OfScript) wires after.1)
    (hfresh : ∀ t, after.1 = .opened t → t.users = []) (plan : Plan) :
    Simulates settings wires (proceed plan after).1 := by
  obtain ⟨progress, notices⟩ := after
  cases progress with
  | waiting o => exact ⟨_, h, .pool plan o⟩
  | failed error => exact ⟨_, h, .failed _ _ _⟩
  | opened t =>
      have hserves : Serves settings wires t := h
      have hfree : t.role? user = none := by
        rw [System.role?, hfresh t rfl]
        rfl
      exact simulates_follow (hserves.acquire hfree)
        ((hserves.system.sound hsizes).1.handsOver_acquire user) plan

end Opening

/-- Whatever happens to a store is a run of its pool, unless it has failed before it had one. -/
theorem Observed.simulates (h : Observed config wires progress) :
    (∃ settings, config.pool = .ok settings ∧ Opening.Simulates settings wires progress) ∨
      wires = (fun _ => {}) ∧ ∃ error dropped, progress = .failed error dropped := by
  induction h with
  | start =>
      rw [Opening.start]
      split
      · exact .inr ⟨rfl, _, _, rfl⟩
      · split
        · exact .inr ⟨rfl, _, _, rfl⟩
        · rename_i settings hpool
          exact .inl ⟨settings, hpool, Opening.simulates_proceed (Config.pool_sizes hpool) .start
            (fun t ht => (Opening.fresh_of_next ht).users) _⟩
  | @opening wires o h event ih =>
      rcases ih with ⟨settings, hpool, p, hp, huses⟩ | ⟨-, error, dropped, hfailed⟩
      · refine .inl ⟨settings, hpool, ?_⟩
        cases huses with
        | pool plan o =>
            exact Opening.simulates_proceed (Config.pool_sizes hpool) (hp.opening event)
              (fun t ht => (Opening.fresh_of_step ht).users) plan
        | script plan t =>
            have hserves : Serves settings wires t := hp
            exact Opening.simulates_follow
              (hserves.act (.event Opening.user event) fun _ _ => Pool.Action.noConfusion)
              ((hserves.system.sound (Config.pool_sizes hpool)).1.handsOver_react _ event) plan
      · cases hfailed
  | @use wires s h action ih =>
      rcases ih with ⟨settings, hpool, p, hp, huses⟩ | ⟨-, error, dropped, hfailed⟩
      · cases huses with
        | opened => exact .inl ⟨settings, hpool, _, Serves.step hp h.sound action, .opened _⟩
      · cases hfailed

/-! ### Credentials -/

/-- What has become of the pool of a store. -/
def Opening.Progress.pool : Opening.Progress → Pool.Opening.Progress
  | .waiting (.pool _ opening) => .waiting opening
  | .waiting (.script _ system) => .opened system
  | .opened s => .opened s.system
  | .failed error dropped => .failed error dropped

/-- The attempt to open a connection that is in progress while a store is being opened. -/
def Opening.attempt? : Opening → Option Attempt
  | .pool _ opening => some opening.attempt
  | .script _ system =>
      match system.role? user with
      | some (.opening _ attempt) => some attempt
      | _ => none

/-- A store that has failed has no connections; any other has those of its pool. -/
theorem Uses.subset {p : Pool.Opening.Progress} (h : Uses progress p) :
    progress.pool.established ⊆ p.established ∧ progress.pool.opening ⊆ p.opening := by
  cases h with
  | pool | script | opened => exact ⟨List.Subset.refl _, List.Subset.refl _⟩
  | failed => exact ⟨List.nil_subset _, List.nil_subset _⟩

/-- The credentials come first in every run of a store. -/
theorem Observed.credentialsFirst (h : Observed config wires progress) :
    Pool.CredentialsFirst config.credentials wires progress.pool.established
      progress.pool.opening := by
  rcases h.simulates with ⟨settings, hpool, p, hp, huses⟩ | ⟨rfl, error, dropped, rfl⟩
  · rw [← Config.pool_credentials hpool]
    exact hp.credentialsFirst.mono huses.subset.1 huses.subset.2
  · exact {
      first := fun presented _ dial => .inl (Wire.sends_empty _)
      established := fun _ _ _ hmem => (List.not_mem_nil hmem).elim
      silent := fun _ _ hmem => (List.not_mem_nil hmem).elim }

/-- Without credentials, a store sends nothing but commands of its script. -/
theorem Observed.carries (h : Observed config wires progress) (hnone : config.credentials = none)
    (dial : Nat) : Pool.Carries OfScript (wires dial) := by
  rcases h.simulates with ⟨settings, hpool, p, hp, -⟩ | ⟨rfl, -⟩
  · exact hp.carries ((Config.pool_credentials hpool).trans hnone) dial
  · exact Pool.carries_empty _

/-- Whoever uses the pool of a store has a call in progress. -/
theorem Sound.exists_take_of_role (h : s.Sound) {role : Role}
    (hrole : s.system.role? name = some role) : ∃ take, s.take? name = some take :=
  Option.ne_none_iff_exists'.1 fun hnone => by
    cases hrole.symm.trans ((h.users name).2 hnone)

/-- A call whose connection cannot be opened leaves the pool. -/
theorem Sound.system_step_of_failed (h : s.Sound) {dial : Nat} {attempt : Attempt}
    (hrole : s.system.role? name = some (.opening dial attempt)) {event : Event} {error : Error}
    (hfailed : attempt.step s.system.credentials event = .failed error) :
    (s.step (.event name event)).1.system = (s.system.step (.event name event)).1 := by
  obtain ⟨take, htake⟩ := h.exists_take_of_role hrole
  change _ = (s.system.react name event).1
  rw [Store.step, htake, System.react_of_failed hrole hfailed]
  rfl

/-- A call whose caller gives up while its connection is being opened leaves the pool. -/
theorem Sound.system_step_giveUp (h : s.Sound) {dial : Nat} {attempt : Attempt}
    (hrole : s.system.role? name = some (.opening dial attempt)) :
    (s.step (.giveUp name)).1.system = (s.system.step (.giveUp name)).1 := by
  obtain ⟨take, htake⟩ := h.exists_take_of_role hrole
  change _ = s.system.giveUp name
  rw [Store.step, htake, System.giveUp_of_opening hrole]
  change (s.system.dismiss name s.system.pool.giveBack).release name = _
  rw [System.release, System.role?_dismiss_self]

/-- A store is not opened if credentials are not accepted meanwhile, and drops the connection on
which they were presented with those that were opened before. -/
theorem Opening.failed_of_rejected {o : Opening} (hs : o.Sound) {x : Exchange}
    (hattempt : o.attempt? = some (.authenticating x)) {event : Event}
    (h : Pool.Rejected x event) :
    ∃ dial awaiting error, o.awaiting? = some (dial, awaiting) ∧ dial ∈ o.transports ∧
      (o.step event).1 = .failed error o.transports := by
  cases hs with
  | @pool plan opening =>
      obtain ⟨hdial, error, hfailed⟩ :=
        Pool.Opening.failed_of_rejected (Option.some.inj hattempt) h
      refine ⟨_, _, .setup .openPool error, rfl, hdial, ?_⟩
      rw [Opening.step, proceed, hfailed]
      rfl
  | script _ _ _ hrole =>
      rw [attempt?, hrole] at hattempt
      cases hattempt

/-- **Nothing is sent unauthenticated.** In every run of a pool, whatever its users and the
transports do: with credentials, the command that presents them is the first that goes over any
transport, nothing else goes before a status line has come in reply, and that reply has come on
every connection that is idle or in the hands of a user; without credentials, nothing goes over a
transport before its connection is handed out, and if the users make orderly requests with some
commands, nothing goes over any transport but these.  A connection whose credentials get any other
answer, or that is given up meanwhile, is closed and its slot given back; while the pool is being
opened, the opening fails and drops all connections.  All this holds of a store and its pool as
well, and without credentials nothing goes over any transport but the commands of the script. -/
theorem credentials_first :
    (∀ settings wires progress,
      Pool.Observed settings (fun _ _ => True) wires progress →
      Pool.CredentialsFirst settings.credentials wires progress.established progress.opening ∧
        (∀ s user dial x, progress = .opened s →
          s.role? user = some (.opening dial (.authenticating x)) →
          s.Dropped (s.step (.giveUp user)).1 user dial ∧
            ∀ event, Pool.Rejected x event →
              s.Dropped (s.step (.event user event)).1 user dial) ∧
        ∀ o x event, progress = .waiting o → o.attempt = .authenticating x →
          Pool.Rejected x event →
          o.dial ∈ o.transports ∧ ∃ error, (o.step event).1 = .failed error o.transports) ∧
    (∀ settings commands wires progress, settings.credentials = none →
      Pool.Observed settings (Pool.Orderly commands) wires progress →
      ∀ dial, Pool.Carries commands (wires dial)) ∧
    ∀ config wires progress, Observed config wires progress →
      Pool.CredentialsFirst config.credentials wires progress.pool.established
          progress.pool.opening ∧
        (config.credentials = none → ∀ dial, Pool.Carries OfScript (wires dial)) ∧
        (∀ s name dial x, progress = .opened s →
          s.system.role? name = some (.opening dial (.authenticating x)) →
          s.system.Dropped (s.step (.giveUp name)).1.system name dial ∧
            ∀ event, Pool.Rejected x event →
              s.system.Dropped (s.step (.event name event)).1.system name dial) ∧
        ∀ o x event, progress = .waiting o → o.attempt? = some (.authenticating x) →
          Pool.Rejected x event →
          ∃ dial awaiting error, o.awaiting? = some (dial, awaiting) ∧ dial ∈ o.transports ∧
            (o.step event).1 = .failed error o.transports := by
  refine ⟨fun settings wires progress h => ⟨h.credentialsFirst, ?_, ?_⟩,
    fun settings commands wires progress hnone h => h.carries hnone,
    fun config wires progress h => ⟨h.credentialsFirst, h.carries, ?_, ?_⟩⟩
  · rintro s user dial x rfl hrole
    have hs := h.system.balanced
    exact ⟨hs.dropped_giveUp hrole, fun event => hs.dropped_event hrole⟩
  · rintro o x event rfl hattempt hrejected
    exact Pool.Opening.failed_of_rejected hattempt hrejected
  · rintro s name dial x rfl hrole
    have hs := h.sound
    have hbalanced : s.system.Balanced := ⟨_, hs.system⟩
    refine ⟨?_, fun event hrejected => ?_⟩
    · rw [hs.system_step_giveUp hrole]
      exact hbalanced.dropped_giveUp hrole
    · obtain ⟨error, hfailed⟩ := hrejected.failed s.system.credentials
      rw [hs.system_step_of_failed hrole hfailed]
      exact hbalanced.dropped_event hrole hrejected
  · rintro o x event rfl hattempt hrejected
    exact Opening.failed_of_rejected h.opening_sound hattempt hrejected

/-- A pool presents its credentials on the connection that its first user has asked for.  The
transport fails meanwhile, or the user gives up.  Another pool, of a store that is being opened,
presents them on its first connection when the transport fails. -/
theorem credentials_first_rejected :
    let presented : Credentials := ⟨some "user", "secret"⟩
    let opened : System := { credentials := some presented, pool := ⟨1, [], 0, false⟩ }
    let s := ((opened.step (.acquire 1)).1.step (.event 1 .connected)).1
    let x : Exchange := ⟨⟨[], true⟩, .request, .write presented.command.bytes⟩
    let broken : Event := .writeFailed ⟨"BrokenPipe", "broken pipe"⟩
    let config : Config := {
      tokens := 5, interval := .ofNanos 30, ttl := 1, initialSize := 1, maxSize := 1,
      credentials := some presented, endpoint := some .supplied }
    (Pool.Observed ⟨0, 1, some presented⟩ (fun _ _ => True) (fun _ => {}) (.opened s) ∧
      s.role? 1 = some (.opening 0 (.authenticating x)) ∧ Pool.Rejected x broken ∧
      s.pool.live = 1 ∧ s.transports = [0] ∧
      s.Dropped (s.step (.event 1 broken)).1 1 0 ∧ s.Dropped (s.step (.giveUp 1)).1 1 0) ∧
    ∃ o, Observed config (fun _ => {}) (.waiting o) ∧ o.attempt? = some (.authenticating x) ∧
      o.transports = [0] ∧ ∃ error, (o.step broken).1 = .failed error [0] := by
  intro presented opened s x broken config
  have hopened : Pool.Observed ⟨0, 1, some presented⟩ (fun _ _ => True) (fun _ => {})
      (.opened opened) := .start
  have hacquired := hopened.use (.acquire 1) fun _ _ _ _ _ => trivial
  have hs : Pool.Observed ⟨0, 1, some presented⟩ (fun _ _ => True) (fun _ => {}) (.opened s) :=
    hacquired.use (.event 1 .connected) fun _ _ _ _ _ => trivial
  have hrole : s.role? 1 = some (.opening 0 (.authenticating x)) := rfl
  have hrejected : Pool.Rejected x broken := ⟨_, _, rfl, fun _ h => by cases h⟩
  obtain ⟨hpools, -, hstores⟩ := credentials_first
  obtain ⟨-, hdropped, -⟩ := hpools _ _ _ hs
  obtain ⟨hgivenUp, hfailed⟩ := hdropped s 1 0 x rfl hrole
  refine ⟨⟨hs, hrole, hrejected, rfl, rfl, hfailed broken hrejected, hgivenUp⟩, ?_⟩
  let limits : Limits := ⟨5, .ofNanos 30, 1, by decide, by decide, by decide⟩
  let plan : Plan := ⟨limits, .ofLimits limits, .failClosed⟩
  have hlimits : config.limits = .ok limits := by decide
  have hsettings : config.pool = .ok ⟨1, 1, some presented⟩ := by decide
  have hstart : (Opening.start config).1 =
      .waiting (.pool plan ⟨⟨1, 1, some presented⟩, [], .connecting⟩) := by
    rw [Opening.start, hlimits, hsettings]
    rfl
  have hobserved : Observed config (fun _ => {})
      (.waiting (.pool plan ⟨⟨1, 1, some presented⟩, [], .authenticating x⟩)) := by
    have hbegun : Observed config (fun _ => {}) _ := .start
    rw [hstart] at hbegun
    exact hbegun.opening .connected
  obtain ⟨-, -, -, hfails⟩ := hstores _ _ _ hobserved
  obtain ⟨-, -, error, -, -, hdrops⟩ := hfails _ x broken rfl rfl hrejected
  exact ⟨_, hobserved, rfl, rfl, error, hdrops⟩

end Store

end RateLimit
