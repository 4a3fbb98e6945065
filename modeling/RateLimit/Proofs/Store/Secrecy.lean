import Mathlib.Data.Multiset.Defs
import RateLimit.Config.Text
import RateLimit.Proofs.Store.Twins

/-!
# The password influences nothing but the command that presents it

Two clients have the same configuration but for the password, and live through the same: the same
happens on their transports and the same is asked of them, in the same order.  A transport may take
a command in several pieces, and the longer of two commands in more of them; apart from that, what
transports do depends neither on what is written to them nor on how many bytes it is.  Then nothing
that the one makes known or shows differs from what the other does, and what is sent differs in the
last word of the command that presents the credentials at most.  A transport that breaks after so
many bytes tells the longer password from the shorter.

## Main definitions

* `Pool.System.view`, `Store.Opening.Progress.view` : what can be seen of a pool and of a store.
* `Store.Happening`, `Store.Record` : what happens to a store, and what is recorded of it.
* `Store.Record.outline` : what happens to a store, apart from the pieces in which its commands are
  taken.

## Main results

* `Store.password_confined` : the password influences nothing else.
* `Store.not_password_confined` : its length does, on a transport that goes by it.
-/

namespace RateLimit

open Pool (System Role)

variable {pair : Credentials.Pair} {wires wires' : Nat → Wire}

/-! ### What can be seen -/

namespace Pool

/-- The connection that is lent to a user. -/
def Role.lent? : Role → Option Session
  | .opening _ _ => none
  | .holding session => some session
  | .calling dial x => some ⟨dial, x.connection⟩

/-- What can be seen of a pool in use. -/
structure View where
  /-- What the pool tells about itself. -/
  stats : Stats
  /-- Whether the pool is closed for good. -/
  closed : Bool
  /-- How many attempts to open a connection were begun. -/
  dialed : Nat
  /-- The numbers of the transports that are open. -/
  transports : Multiset Nat
  /-- The texts of the connections that nobody uses. -/
  idle : List String
  /-- The texts of the connections that are lent, by the name of the user. -/
  lent : Nat → Option String

/-- What can be seen of a pool in use, if messages give its connections the given numbers. -/
def System.view (number : Nat → String) (s : System) : View where
  stats := s.pool.stats
  closed := s.pool.closed
  dialed := s.dialed
  transports := s.transports
  idle := s.pool.idle.map fun session => session.connection.text (number session.dial)
  lent user := ((s.role? user).bind Role.lent?).map fun session =>
    session.connection.lentText (number session.dial)

theorem Role.Twins.lent?_eq {w w' : Wire} {role role' : Role}
    (h : role.Twins pair w w' role') : role'.lent? = role.lent? := by
  cases h with
  | opening | holding => rfl
  | calling _ h => rw [lent?, lent?, h.connection_eq.1]

namespace System

variable {s s' : System}

/-- The same can be seen of two pools that have come equally far. -/
theorem Twins.view_eq (h : s.Twins pair wires wires' s') (hs : s.Sound)
    (hs' : s'.Sound) (number : Nat → String) : s'.view number = s.view number := by
  have hlent (user : Nat) :
      (s'.role? user).bind Role.lent? = (s.role? user).bind Role.lent? := by
    rcases h.role_cases user with ⟨hnone, hnone'⟩ | ⟨role, role', hrole, hrole', htwins⟩
    · rw [hnone, hnone']
    · rw [hrole, hrole', Option.bind_some, Option.bind_some, htwins.lent?_eq]
  rw [view, view, h.pool, h.dialed, Multiset.coe_eq_coe.2 (h.perm_transports hs hs')]
  simp only [hlent]

end System

end Pool

/-! ### Texts -/

/-- The texts of credentials that differ in the password are the same. -/
theorem Credentials.Pair.map_text_eq (pair : Credentials.Pair) :
    pair.other.map Credentials.text = pair.one.map Credentials.text := by
  have htext (c : Option Credentials) : c.map Credentials.text =
      (c.map Credentials.username).map fun username => Credentials.text ⟨username, ""⟩ := by
    rw [Option.map_map]
    rfl
  rw [htext, htext, pair.username_eq]

theorem Text.optional_credentials (c : Option Credentials) :
    Text.optional Credentials.text c = Text.optional id (c.map Credentials.text) := by
  cases c <;> rfl

theorem PoolSettings.text_eq_of_pair {settings : PoolSettings}
    (h : settings.credentials = pair.one) :
    PoolSettings.text { settings with credentials := pair.other } = settings.text := by
  unfold text
  rw [h, Text.optional_credentials, Text.optional_credentials, pair.map_text_eq]

theorem Config.text_withPassword (c : Config) (password : String) :
    (c.withPassword password).text = c.text := by
  have hcredentials := (c.pair password).map_text_eq
  rw [pair] at hcredentials
  unfold text
  rw [Text.optional_credentials, Text.optional_credentials, hcredentials]
  rfl

namespace Store

/-- What can be seen of a store and of its opening. -/
inductive View
  /-- The connections of the pool are being opened; so many were opened so far. -/
  | opening (opened : Nat) (transports : List Nat)
  /-- The script is being registered. -/
  | registering (pool : Pool.View)
  /-- The store is open, or closed for good. -/
  | opened (limits : Limits) (script : Script) (mode : FailureMode) (closed : Bool)
      (pool : Pool.View)
  /-- The store could not be opened, and these transports were dropped. -/
  | failed (error : Error) (dropped : Multiset Nat)

/-- What can be seen of a store, if messages give its connections the given numbers. -/
def Opening.Progress.view (number : Nat → String) : Opening.Progress → View
  | .waiting (.pool _ opening) => .opening opening.opened.length opening.transports
  | .waiting (.script _ system) => .registering (system.view number)
  | .opened s => .opened s.limits s.script s.failureMode s.closed (s.system.view number)
  | .failed error dropped => .failed error dropped

/-- The same can be seen of two stores that have come equally far. -/
theorem Opening.Progress.Twins.view_eq {progress progress' : Opening.Progress}
    (h : progress.Twins pair wires wires' progress') {config config' : Config}
    (hs : Observed config wires progress) (hs' : Observed config' wires' progress')
    (number : Nat → String) : progress'.view number = progress.view number := by
  cases h with
  | failed error hdropped => rw [view, view, Multiset.coe_eq_coe.2 hdropped]
  | opened h =>
      have hsound := hs.sound.system
      have hsound' := hs'.sound.system
      cases h with
      | mk h => rw [view, view, h.view_eq hsound hsound']
  | waiting h =>
      have hsound := hs.opening_sound
      have hsound' := hs'.opening_sound
      cases h with
      | pool plan h =>
          rw [view, view, h.opened, h.transports_eq]
      | script plan h =>
          cases hsound with
          | script hsound =>
              cases hsound' with
              | script hsound' => rw [view, view, h.view_eq hsound hsound']

/-! ### What happens -/

/-- What happens to a store: on the transport that its opening waits for, or once it is open. -/
inductive Happening
  | event (event : Event)
  | action (action : Action)
  deriving DecidableEq

/-- A happening as it is whatever the length of the commands. -/
def Happening.outline : Happening → Happening
  | .event e => .event e.outline
  | .action a => .action a.outline

/-- Two happenings with the same outline. -/
inductive Happening.Twins : Happening → Happening → Prop
  | event {e e' : Event} (h : e.Twins e') : Twins (.event e) (.event e')
  | action {a a' : Action} (h : a.Twins a') : Twins (.action a) (.action a')

theorem Happening.twins_of_outline_eq {happening happening' : Happening}
    (h : happening.outline = happening'.outline) : happening.Twins happening' := by
  cases happening with
  | event e =>
      cases happening' with
      | event e' => exact .event (Event.twins_of_outline_eq (Happening.event.inj h))
      | action => cases h
  | action a =>
      cases happening' with
      | event => cases h
      | action a' => exact .action (Action.twins_of_outline_eq (Happening.action.inj h))

/-- What is recorded of a store. -/
structure Record where
  /-- What has become of it. -/
  progress : Opening.Progress
  /-- What it has made known, in order. -/
  notices : List Notice
  /-- What has passed over its transports. -/
  wires : Nat → Wire

namespace Record

/-- The record of a store when its opening begins. -/
def begin (config : Config) : Record :=
  ⟨(Opening.start config).1, (Opening.start config).2, fun _ => {}⟩

/-- The record of a store after a happening. -/
def step (r : Record) (happening : Happening) : Record :=
  match r.progress, happening with
  | .waiting o, .event event =>
      ⟨(o.step event).1, r.notices ++ (o.step event).2, o.observe r.wires event⟩
  | .opened s, .action action =>
      ⟨.opened (s.step action).1, r.notices ++ (s.step action).2, s.observe r.wires action⟩
  | _, _ => r

/-- The record of a store after happenings in order. -/
def run (r : Record) (happenings : List Happening) : Record :=
  happenings.foldl step r

/-- Whether a transport takes a part of what is to be written, but not all. -/
def cuts (r : Record) (happening : Happening) : Bool :=
  match r.progress, happening with
  | .waiting o, .event event => o.cuts event
  | .opened s, .action action => s.cuts action
  | _, _ => false

/-- What happens to a store, apart from the pieces in which its commands are taken: of every command
it is told only when it is taken in full, or what fails before. -/
def outline (r : Record) : List Happening → List Happening
  | [] => []
  | happening :: happenings =>
      if r.cuts happening then (r.step happening).outline happenings
      else happening.outline :: (r.step happening).outline happenings

/-- What a store has made known, but for the bytes that its transports take. -/
def told (r : Record) : List Notice :=
  r.notices.filter Notice.told

variable {config config' : Config} {r r' : Record} {happening happening' : Happening}

/-! ### Two records -/

/-- The record of a run of a store. -/
def Observes (config : Config) (r : Record) : Prop :=
  Observed config r.wires r.progress

theorem observes_begin (config : Config) : (begin config).Observes config :=
  .start

theorem Observes.step (h : r.Observes config) (happening : Happening) :
    (r.step happening).Observes config := by
  obtain ⟨progress, notices, wires⟩ := r
  cases progress with
  | waiting o =>
      cases happening with
      | event event => exact Observed.opening h event
      | action => exact h
  | opened s =>
      cases happening with
      | event => exact h
      | action action => exact Observed.use h action
  | failed => exact h

theorem Observes.run (h : r.Observes config) (happenings : List Happening) :
    (r.run happenings).Observes config := by
  induction happenings generalizing r with
  | nil => exact h
  | cons happening happenings ih => exact ih (h.step happening)

/-- Two records of stores that have come equally far. -/
structure Twins (pair : Credentials.Pair) (r r' : Record) : Prop where
  progress : r.progress.Twins pair r.wires r'.wires r'.progress
  told : r'.told = r.told

theorem Twins.swap (h : Twins pair r r') : Twins pair.swap r' r :=
  ⟨h.progress.swap, h.told.symm⟩

theorem filter_told_append {notices notices' later later' : List Notice}
    (h : notices'.filter Notice.told = notices.filter Notice.told)
    (hlater : later'.filter Notice.told = later.filter Notice.told) :
    (notices' ++ later').filter Notice.told = (notices ++ later).filter Notice.told := by
  rw [List.filter_append, List.filter_append, h, hlater]

theorem filter_told_append_of_silent {notices later : List Notice}
    (hlater : later.filter Notice.told = []) :
    (notices ++ later).filter Notice.told = notices.filter Notice.told := by
  rw [List.filter_append, hlater, List.append_nil]

theorem exists_event_of_cuts {s : Store} {action : Action} (h : s.cuts action = true) :
    ∃ name e, action = .event name e := by
  cases action with
  | event name e => exact ⟨name, e, rfl⟩
  | take | giveUp | close => cases h

theorem twins_begin (config : Config) (password : String) :
    Twins (config.pair password) (begin config) (begin (config.withPassword password)) :=
  have h := Opening.advanced_start config password
  ⟨h.progress, h.told⟩

/-- **The same brings both stores equally far**, unless a transport takes a part of a command. -/
theorem Twins.step (h : Twins pair r r') (hs : r.Observes config) (hs' : r'.Observes config')
    (hhappening : happening.Twins happening') (hcuts : r.cuts happening = false)
    (hcuts' : r'.cuts happening' = false) :
    Twins pair (r.step happening) (r'.step happening') := by
  obtain ⟨progress, notices, wires⟩ := r
  obtain ⟨progress', notices', wires'⟩ := r'
  obtain ⟨hprogress, htold⟩ := h
  cases hprogress with
  | waiting h =>
      cases hhappening with
      | event hevent =>
          have hadvanced :=
            h.step (Observed.opening_sound hs) (Observed.opening_sound hs') hevent hcuts hcuts'
          exact ⟨hadvanced.progress, filter_told_append htold hadvanced.told⟩
      | action => exact ⟨.waiting h, htold⟩
  | opened h =>
      cases hhappening with
      | event => exact ⟨.opened h, htold⟩
      | action haction =>
          have hadvanced := h.step (Observed.sound hs) haction hcuts hcuts'
          exact ⟨.opened hadvanced.store, filter_told_append htold hadvanced.told⟩
  | failed error hdropped hwires => exact ⟨.failed error hdropped hwires, htold⟩

/-- **A store whose transport takes a part of a command has come as far as before.** -/
theorem Twins.step_cut (h : Twins pair r r') (hs : r.Observes config)
    (hcuts : r.cuts happening = true) : Twins pair (r.step happening) r' := by
  obtain ⟨progress, notices, wires⟩ := r
  obtain ⟨progress', notices', wires'⟩ := r'
  obtain ⟨hprogress, htold⟩ := h
  cases hprogress with
  | waiting h =>
      cases happening with
      | event e =>
          have hadvanced := h.step_cut (Observed.opening_sound hs) hcuts
          exact ⟨hadvanced.progress,
            htold.trans (filter_told_append_of_silent hadvanced.told.symm).symm⟩
      | action => cases hcuts
  | opened h =>
      cases happening with
      | event => cases hcuts
      | action a =>
          obtain ⟨name, e, rfl⟩ := exists_event_of_cuts hcuts
          have hadvanced := h.step_cut (Observed.sound hs) hcuts
          exact ⟨.opened hadvanced.store,
            htold.trans (filter_told_append_of_silent hadvanced.told.symm).symm⟩
  | failed => cases hcuts

/-! ### Two runs -/

/-- A store to which nothing happens but parts of commands has come as far as before. -/
theorem Twins.run_other (h : Twins pair r r') (hs' : r'.Observes config')
    {happenings' : List Happening} (houtline : r'.outline happenings' = []) :
    Twins pair r (r'.run happenings') := by
  induction happenings' generalizing r' with
  | nil => exact h
  | cons happening' happenings' ih =>
      rw [outline] at houtline
      split at houtline
      · exact ih (h.swap.step_cut hs' ‹_›).swap (hs'.step happening') houtline
      · cases houtline

/-- A store takes parts of commands until the next thing happens that counts. -/
theorem Twins.catch_up (h : Twins pair r r') (hs' : r'.Observes config')
    {happenings' rest : List Happening} {next : Happening}
    (houtline : r'.outline happenings' = next :: rest) :
    ∃ r₁ happening' later, Twins pair r r₁ ∧ r₁.Observes config' ∧ r₁.cuts happening' = false ∧
      happening'.outline = next ∧ (r₁.step happening').outline later = rest ∧
      r'.run happenings' = (r₁.step happening').run later := by
  induction happenings' generalizing r' with
  | nil => cases houtline
  | cons happening' happenings' ih =>
      rw [outline] at houtline
      split at houtline
      · exact ih (h.swap.step_cut hs' ‹_›).swap (hs'.step happening') houtline
      · rename_i hcuts'
        obtain ⟨hnext, hrest⟩ := List.cons.inj houtline
        exact ⟨r', happening', happenings', h, hs', Bool.eq_false_iff.2 hcuts', hnext, hrest, rfl⟩

/-- **Two runs with the same outline come equally far.** -/
theorem Twins.run (h : Twins pair r r') (hs : r.Observes config) (hs' : r'.Observes config')
    {happenings happenings' : List Happening}
    (houtline : r'.outline happenings' = r.outline happenings) :
    Twins pair (r.run happenings) (r'.run happenings') := by
  induction happenings generalizing r r' happenings' with
  | nil => exact h.run_other hs' houtline
  | cons happening happenings ih =>
      rw [outline] at houtline
      split at houtline
      · exact ih (h.step_cut hs ‹_›) (hs.step happening) hs' houtline
      · rename_i hcuts
        obtain ⟨r₁, happening', later, h₁, hs₁, hcuts', hnext, hrest, hrun⟩ :=
          h.catch_up hs' houtline
        rw [hrun]
        exact ih (h₁.step hs hs₁ (Happening.twins_of_outline_eq hnext.symm)
          (Bool.eq_false_iff.2 hcuts) hcuts') (hs.step happening) (hs₁.step happening') hrest

/-- Whatever happens to a store, the same can happen without a part of a command being taken. -/
theorem exists_uncut (r : Record) (happening : Happening) :
    ∃ happening', happening'.outline = happening.outline ∧ r.cuts happening' = false := by
  obtain ⟨progress, notices, wires⟩ := r
  cases progress with
  | waiting o =>
      cases happening with
      | event e =>
          obtain ⟨e', houtline, hcuts⟩ := o.exists_uncut e
          exact ⟨.event e', congrArg Happening.event houtline, hcuts⟩
      | action a => exact ⟨.action a, rfl, rfl⟩
  | opened s =>
      cases happening with
      | event e => exact ⟨.event e, rfl, rfl⟩
      | action a =>
          obtain ⟨a', houtline, hcuts⟩ := s.exists_uncut a
          exact ⟨.action a', congrArg Happening.action houtline, hcuts⟩
  | failed => exact ⟨happening, rfl, rfl⟩

/-- **For every run there is a run of the other store with the same outline.** -/
theorem Twins.exists_outline_eq (h : Twins pair r r') (hs : r.Observes config)
    (hs' : r'.Observes config') (happenings : List Happening) :
    ∃ happenings', r'.outline happenings' = r.outline happenings := by
  induction happenings generalizing r r' with
  | nil => exact ⟨[], rfl⟩
  | cons happening happenings ih =>
      by_cases hcuts : r.cuts happening = true
      · obtain ⟨happenings', houtline⟩ := ih (h.step_cut hs hcuts) (hs.step happening) hs'
        exact ⟨happenings', by rw [houtline, outline, if_pos hcuts]⟩
      · obtain ⟨happening', hnext, hcuts'⟩ := r'.exists_uncut happening
        have htwins := h.step hs hs' (Happening.twins_of_outline_eq hnext.symm)
          (Bool.eq_false_iff.2 hcuts) hcuts'
        obtain ⟨happenings', houtline⟩ :=
          ih htwins (hs.step happening) (hs'.step happening')
        refine ⟨happening' :: happenings', ?_⟩
        rw [outline, outline, if_neg hcuts, if_neg (Bool.eq_false_iff.1 hcuts'), hnext, houtline]

end Record

/-! ### Secrecy -/

/-- **The password influences nothing but the command that presents it.** Whatever happens to a
store, the same can happen to a store with another password; the transports may take the commands
in any other pieces, and of each command counts only that it is taken in full, or what fails
before.  Then both stores make the same known, with the same results, errors, answers
and warnings, and the same can be seen of them at the end: their limits and scripts, their pools
with the open transports, and the texts of all connections, idle and lent.  Over every transport
pass as many commands, which are the same or both present the credentials and differ in their last
word, the password.  The texts of the configurations, of the settings of the pools and of the
credentials are the same as well. -/
theorem password_confined (config : Config) (password : String) (happenings : List Happening) :
    let other := config.withPassword password
    (∃ happenings', (Record.begin other).outline happenings' =
      (Record.begin config).outline happenings) ∧
    (∀ happenings' number, (Record.begin other).outline happenings' =
        (Record.begin config).outline happenings →
      let r := (Record.begin config).run happenings
      let r' := (Record.begin other).run happenings'
      r'.told = r.told ∧ r'.progress.view number = r.progress.view number ∧
        ∀ dial, Wire.Twins (config.pair password) (r.wires dial) (r'.wires dial)) ∧
    other.text = config.text ∧ other.limits = config.limits ∧
    other.pool.map PoolSettings.text = config.pool.map PoolSettings.text ∧
    other.credentials.map Credentials.text = config.credentials.map Credentials.text := by
  intro other
  have hbegin := Record.twins_begin config password
  refine ⟨hbegin.exists_outline_eq (Record.observes_begin config) (Record.observes_begin other)
      happenings,
    fun happenings' number houtline => ?_, config.text_withPassword password, rfl, ?_,
    (config.pair password).map_text_eq⟩
  · have hr := (Record.observes_begin config).run happenings
    have hr' := (Record.observes_begin other).run happenings'
    have htwins := hbegin.run (Record.observes_begin config) (Record.observes_begin other) houtline
    exact ⟨htwins.told, htwins.progress.view_eq hr hr' number, htwins.progress.wire⟩
  · rw [pool_withPassword]
    cases hpool : config.pool with
    | error => rfl
    | ok settings =>
        have hpresents : settings.credentials = (config.pair password).one :=
          Config.pool_credentials hpool
        exact congrArg Except.ok (PoolSettings.text_eq_of_pair hpresents)

/-- A server rejects the passwords of two clients.  The transport of the one takes the credentials
at once, that of the other in two pieces. -/
theorem password_confined_rejected :
    let config : Config := {
      tokens := 5, interval := .ofNanos 30, ttl := 1, initialSize := 1, maxSize := 1,
      credentials := some ⟨some "user", "secret"⟩, endpoint := some .supplied }
    let other := config.withPassword "correct horse"
    let rejected : Happening := .event (.received (Bytes.ofString "-ERR invalid password\r\n"))
    let happenings : List Happening :=
      [.event .connected, .event (.wrote 100), .event .flushed, rejected]
    let happenings' : List Happening :=
      [.event .connected, .event (.wrote 10), .event (.wrote 100), .event .flushed, rejected]
    let r := (Record.begin config).run happenings
    let r' := (Record.begin other).run happenings'
    (Record.begin other).outline happenings' = (Record.begin config).outline happenings ∧
      (r.wires 0).commands = [Command.bytes (.ofTexts ["AUTH", "user", "secret"])] ∧
      (r'.wires 0).commands = [Command.bytes (.ofTexts ["AUTH", "user", "correct horse"])] ∧
      r'.told = r.told ∧ ∀ number, r'.progress.view number = r.progress.view number := by
  intro config other rejected happenings happenings' r r'
  have houtline : (Record.begin other).outline happenings' =
      (Record.begin config).outline happenings := by decide +kernel
  have hcommands :
      (r.wires 0).commands = [Command.bytes (.ofTexts ["AUTH", "user", "secret"])] := by
    decide +kernel
  have hcommands' :
      (r'.wires 0).commands = [Command.bytes (.ofTexts ["AUTH", "user", "correct horse"])] := by
    decide +kernel
  obtain ⟨-, halike, -⟩ := password_confined config "correct horse" happenings
  refine ⟨houtline, hcommands, hcommands', ?_, fun number => ?_⟩
  · exact (halike happenings' (fun _ => "") houtline).1
  · exact (halike happenings' number houtline).2.1

/-- That a transport does not look at the bytes is not enough.  One takes forty bytes and then
breaks, whatever they are: the shorter credentials go through, and the registration of the script
fails, where the longer ones fail themselves.  In both runs the same happens, and what the
connection does not wait for changes nothing. -/
theorem not_password_confined :
    let config : Config := {
      tokens := 5, interval := .ofNanos 30, ttl := 1, initialSize := 1, maxSize := 1,
      credentials := some ⟨some "user", "secret"⟩, endpoint := some .supplied }
    let fault : TransportFault := ⟨"BrokenPipe", "broken pipe"⟩
    let broken : Happening := .event (.writeFailed fault)
    let happenings : List Happening :=
      [.event .connected, .event (.wrote 40), broken, .event .flushed,
        .event (.received (Bytes.ofString "+OK\r\n")), broken]
    let r := (Record.begin config).run happenings
    let r' := (Record.begin (config.withPassword "correct horse")).run happenings
    r.progress = .failed (.setup .prime (.transport fault)) [0] ∧
      r'.progress = .failed (.setup .openPool (.transport fault)) [0] ∧
      r'.told ≠ r.told ∧ (∀ number, r'.progress.view number ≠ r.progress.view number) ∧
      (Error.setup .prime (.transport fault)).message =
        "failed to prime script: Transport error: broken pipe" ∧
      (Error.setup .openPool (.transport fault)).message =
        "failed to setup connection pool: Transport error: broken pipe" := by
  intro config fault broken happenings r r'
  have hprimes : r.progress = .failed (.setup .prime (.transport fault)) [0] := by
    decide +kernel
  have hopens : r'.progress = .failed (.setup .openPool (.transport fault)) [0] := by
    decide +kernel
  have hlength : r'.told.length ≠ r.told.length := by decide +kernel
  refine ⟨hprimes, hopens, fun h => hlength (congrArg List.length h), fun number h => ?_, rfl, rfl⟩
  rw [hprimes, hopens] at h
  cases h

end Store

end RateLimit
