import RateLimit.Proofs.Pool.Twins
import RateLimit.Proofs.Store.Authentication

/-!
# Stores of clients that differ in the password

Two stores are opened from the same configuration but for the password, and the same happens to
both, except that their transports may take a command in other pieces.  Both stores run the same
script for the same calls, which come equally far, and what they make known is the same but for the
bytes that their transports take.

## Main definitions

* `Config.withPassword`, `Config.pair` : another password, and the credentials with and without it.
* `Store.Notice.told` : a notice that is not about the bytes that a transport takes.
* `Store.Twins`, `Store.Opening.Twins` : stores, and stores that are being opened, that have come
  equally far.

## Main results

* `Store.Twins.step`, `Store.Twins.step_cut` : what an action brings two stores to.
* `Store.Opening.Twins.step`, `Store.Opening.Twins.step_cut` : what an event brings two stores to
  that are being opened.
-/

namespace RateLimit

open Pool (System Turn)
open Pool.System (TurnTwins)

/-- The same credentials with another password. -/
def Credentials.withPassword (c : Credentials) (password : String) : Credentials :=
  { c with password }

/-- The same configuration with another password. -/
def Config.withPassword (c : Config) (password : String) : Config :=
  { c with credentials := c.credentials.map (·.withPassword password) }

/-- The credentials of a configuration, and the same with another password. -/
def Config.pair (c : Config) (password : String) : Credentials.Pair where
  one := c.credentials
  other := (c.withPassword password).credentials
  username_eq := by
    rw [withPassword, Option.map_map]
    rfl

namespace Store

/-- A notice that is not about the bytes that a transport takes. -/
def Notice.told : Notice → Bool
  | .pool notice => notice.told
  | _ => true

variable {pair : Credentials.Pair} {wires wires' : Nat → Wire}
  {s s' : Store} {name : Nat} {event event' : Event}

theorem filter_told_map_pool (notices : List Pool.Notice) :
    (notices.map Notice.pool).filter Notice.told =
      (notices.filter Pool.Notice.told).map Notice.pool :=
  List.filter_map

/-- Two stores that have come equally far: they are the same but for their pools, which have come
equally far. -/
inductive Twins (pair : Credentials.Pair) (wires wires' : Nat → Wire) (s : Store) : Store → Prop
  | mk {t : System} (h : s.system.Twins pair wires wires' t) :
      Twins pair wires wires' s { s with system := t }

theorem Twins.swap (h : s.Twins pair wires wires' s') : s'.Twins pair.swap wires' wires s := by
  cases h with
  | @mk t h => exact .mk (s := { s with system := t }) h.swap

/-- What two stores come to that make the same known. -/
structure Advanced (pair : Credentials.Pair)
    (wires wires' : Nat → Wire) (after after' : Store × List Notice) : Prop where
  store : after.1.Twins pair wires wires' after'.1
  told : after'.2.filter Notice.told = after.2.filter Notice.told

/-! ### Calls -/

/-- A call concludes alike in both stores after the same turn. -/
theorem Twins.conclude (h : s.Twins pair wires wires' s') (hs : s.system.Sound)
    (name : Nat) (take : Take) (turn : Turn) :
    Advanced pair wires wires' (s.conclude name take turn) (s'.conclude name take turn) := by
  cases h with
  | mk h =>
      cases turn with
      | ended => exact ⟨.mk (h.release hs name), rfl⟩
      | pending | dialing | acquired | refused => exact ⟨.mk h, rfl⟩

/-- A call goes on alike in both stores after the same turn. -/
theorem Twins.follow (h : s.Twins pair wires wires' s')
    {wires₁ wires₁' : Nat → Wire} {result result' : System × Turn}
    (hturn : TurnTwins pair wires₁ wires₁' result result') (hs : result.1.Sound)
    (hhands : System.HandsOver name result) (take : Take) :
    Advanced pair wires₁ wires₁' (s.follow name take result) (s'.follow name take result') := by
  obtain ⟨t, turn⟩ := result
  obtain ⟨t', turn'⟩ := result'
  obtain ⟨htwins, hsame⟩ := hturn
  obtain rfl : turn' = turn := hsame
  cases h with
  | @mk u _ =>
      -- Nothing but the pool distinguishes the stores, and the turn replaces both pools.
      have hconclude {t t' : System} (htwins : t.Twins pair wires₁ wires₁' t')
          (hs : t.Sound) (turn : Turn) : Advanced pair wires₁ wires₁'
            ({ s with system := t }.conclude name take turn)
            ({ s with system := t' }.conclude name take turn) :=
        Twins.conclude (s := { s with system := t }) (.mk htwins) hs name take turn
      cases turn' with
      | acquired dial =>
          obtain ⟨session, hrole, hwhole⟩ := hhands dial rfl
          let call : Call := .request (s.script.call take.key take.now)
          obtain ⟨hsystem, hsame⟩ :=
            htwins.request hs hrole hwhole (s.script.call take.key take.now)
          have hafter := hconclude hsystem (hs.call name call) (t.call name call).2
          rw [Store.follow, Store.follow]
          dsimp only at hsame ⊢
          rw [hsame]
          exact ⟨hafter.store, congrArg (Notice.pool (.acquired name dial) :: ·) hafter.told⟩
      | pending => exact hconclude htwins hs .pending
      | dialing dial => exact hconclude htwins hs (.dialing dial)
      | refused error => exact hconclude htwins hs (.refused error)
      | ended result => exact hconclude htwins hs (.ended result)

/-- Somebody asks both stores for a token. -/
theorem Twins.begin (h : s.Twins pair wires wires' s') (hs : s.Sound)
    (hfree : s.take? name = none) (key : String) (moment : Moment) :
    Advanced pair wires wires' (s.begin name key moment) (s'.begin name key moment) := by
  cases h with
  | @mk u h =>
      rw [Store.begin, Store.begin]
      dsimp only
      split
      · exact ⟨.mk h, rfl⟩
      · split
        · exact ⟨.mk h, rfl⟩
        · rename_i now hnow
          have hstore : Twins pair wires wires'
              { s with takes := (name, ⟨key, now⟩) :: s.takes }
              { s with system := u, takes := (name, ⟨key, now⟩) :: s.takes } := .mk h
          exact hstore.follow (h.acquire name) (hs.system.acquire ((hs.users name).2 hfree))
            (hs.system.handsOver_acquire name) ⟨key, now⟩

/-! ### Actions -/

/-- Whether the transport of a call takes a part of what the call waits to write, but not all. -/
def cuts (s : Store) : Action → Bool
  | .event name event => s.system.cuts name event
  | _ => false

/-- An action as it is whatever the length of the commands. -/
def Action.outline : Action → Action
  | .event name event => .event name event.outline
  | action => action

/-- Two actions with the same outline. -/
inductive Action.Twins : Action → Action → Prop
  | same (action : Action) (h : ∀ name event, action ≠ .event name event) : Twins action action
  | event (name : Nat) {event event' : Event} (h : event.Twins event') :
      Twins (.event name event) (.event name event')

theorem Action.twins_of_outline_eq {action action' : Action}
    (h : action.outline = action'.outline) : action.Twins action' := by
  cases action with
  | event name event =>
      cases action' with
      | event name' event' =>
          obtain ⟨rfl, hevent⟩ := Action.event.inj h
          exact .event name (Event.twins_of_outline_eq hevent)
      | _ => cases h
  | _ =>
      cases action' <;> cases h
      exact .same _ fun _ _ => Action.noConfusion

/-- Whatever happens, the same can happen without a part of a command being taken. -/
theorem exists_uncut (s : Store) (action : Action) :
    ∃ action', action'.outline = action.outline ∧ s.cuts action' = false := by
  cases action with
  | event name event =>
      obtain ⟨event', houtline, hcuts⟩ := s.system.exists_uncut name event
      exact ⟨.event name event', congrArg (Action.event name) houtline, hcuts⟩
  | take | giveUp | close => exact ⟨_, rfl, rfl⟩

theorem observe_of_ne_event {action : Action} (h : ∀ name event, action ≠ .event name event)
    (wires : Nat → Wire) (s : Store) : s.observe wires action = wires := by
  cases action with
  | event name event => exact (h name event rfl).elim
  | take | giveUp | close => rfl

theorem observe_of_take {take : Take} (htake : s.take? name = some take) (event : Event)
    (wires : Nat → Wire) :
    s.observe wires (.event name event) = s.system.observe wires name event := by
  rw [Store.observe, htake]
  rfl

theorem step_event_of_take {take : Take} (htake : s.take? name = some take) (event : Event) :
    s.step (.event name event) =
      ((s.follow name take (s.system.react name event)).1,
        (s.system.traffic name event).map .pool ++
          (s.follow name take (s.system.react name event)).2) := by
  rw [Store.step, htake]

/-- The same event brings both stores equally far, unless a transport takes a part of a command. -/
theorem Twins.step_event (h : s.Twins pair wires wires' s') (hs : s.Sound)
    (hevent : event.Twins event') (hcuts : s.cuts (.event name event) = false)
    (hcuts' : s'.cuts (.event name event') = false) :
    Advanced pair (s.observe wires (.event name event))
      (s'.observe wires' (.event name event')) (s.step (.event name event))
      (s'.step (.event name event')) := by
  have hstore := h
  cases h with
  | @mk u h =>
      have htake' : take? { s with system := u } name = s.take? name := rfl
      cases htake : s.take? name with
      | none =>
          rw [Store.step, Store.step, Store.observe, Store.observe, htake', htake]
          exact ⟨hstore, rfl⟩
      | some take =>
          have hreacted := h.react hs.system hevent hcuts hcuts'
          have hfollow := hstore.follow hreacted.turn (hs.system.react name event)
            (hs.system.handsOver_react name event) take
          rw [step_event_of_take htake, step_event_of_take (htake'.trans htake),
            observe_of_take htake, observe_of_take (htake'.trans htake)]
          refine ⟨hfollow.store, ?_⟩
          dsimp only
          rw [List.filter_append, List.filter_append, filter_told_map_pool, filter_told_map_pool,
            hreacted.traffic]
          exact congrArg _ hfollow.told

/-- **The same action brings both stores equally far**, unless a transport takes a part of a
command. -/
theorem Twins.step (h : s.Twins pair wires wires' s') (hs : s.Sound)
    {action action' : Action} (haction : action.Twins action') (hcuts : s.cuts action = false)
    (hcuts' : s'.cuts action' = false) :
    Advanced pair (s.observe wires action) (s'.observe wires' action')
      (s.step action) (s'.step action') := by
  cases haction with
  | event name hevent => exact h.step_event hs hevent hcuts hcuts'
  | same _ hother =>
      rw [observe_of_ne_event hother, observe_of_ne_event hother]
      have hstore := h
      cases h with
      | @mk u h =>
          have htake' (name : Nat) : take? { s with system := u } name = s.take? name := rfl
          cases action with
          | event name event => exact (hother name event rfl).elim
          | take name key moment =>
              rw [Store.step, Store.step, htake']
              split
              · exact ⟨hstore, rfl⟩
              · rename_i hfree
                rw [Bool.not_eq_true, Option.isSome_eq_false_iff, Option.isNone_iff_eq_none]
                  at hfree
                exact hstore.begin hs hfree key moment
          | giveUp name =>
              rw [Store.step, Store.step, htake']
              split
              · exact ⟨hstore, rfl⟩
              · exact ⟨.mk ((h.giveUp hs.system name).release (hs.system.giveUp name) name), rfl⟩
          | close =>
              rw [Store.step, Store.step]
              dsimp only
              split
              · exact ⟨hstore, rfl⟩
              · exact ⟨.mk h.close, rfl⟩

/-- A call in progress goes on to wait after a turn that comes to nothing. -/
theorem follow_pending (s : Store) (name : Nat) (take : Take) (t : System) :
    s.follow name take (t, .pending) = ({ s with system := t }, []) := rfl

/-- What a store comes to whose transport takes a part of a command. -/
theorem step_of_cuts {take : Take} (htake : s.take? name = some take)
    (hcuts : s.cuts (.event name event) = true)
    (hpending : (s.system.react name event).2 = .pending) :
    (s.step (.event name event)).1 = { s with system := (s.system.react name event).1 } ∧
      (s.step (.event name event)).2.filter Notice.told = [] := by
  rw [step_event_of_take htake]
  generalize s.system.react name event = result at hpending ⊢
  obtain ⟨t, turn⟩ := result
  obtain rfl : turn = .pending := hpending
  refine ⟨rfl, ?_⟩
  rw [follow_pending, List.append_nil, filter_told_map_pool,
    System.filter_told_traffic_of_cuts hcuts]
  rfl

/-- Whoever writes has a call in progress. -/
theorem Sound.exists_take_of_cuts (hs : s.Sound) (hcuts : s.cuts (.event name event) = true) :
    ∃ take, s.take? name = some take := by
  obtain ⟨role, hrole, -⟩ := (Option.any_eq_true ..).1 hcuts
  exact hs.exists_take_of_role hrole

/-- **A store whose transport takes a part of a command has come as far as before.** -/
theorem Twins.step_cut (h : s.Twins pair wires wires' s') (hs : s.Sound)
    (hcuts : s.cuts (.event name event) = true) :
    Advanced pair (s.observe wires (.event name event)) wires'
      (s.step (.event name event)) (s', []) := by
  obtain ⟨take, htake⟩ := hs.exists_take_of_cuts hcuts
  cases h with
  | @mk u h =>
      obtain ⟨htwins, hpending⟩ := h.react_cut hs.system hcuts
      obtain ⟨hstore, htold⟩ := step_of_cuts htake hcuts hpending
      rw [observe_of_take htake]
      refine ⟨?_, htold.symm⟩
      rw [hstore]
      exact .mk (s := { s with system := (s.system.react name event).1 }) htwins

/-! ### Opening -/

/-- The pool of a configuration with another password. -/
theorem pool_withPassword (config : Config) (password : String) :
    (config.withPassword password).pool = config.pool.map fun settings =>
      { settings with credentials := (config.pair password).other } := by
  rw [Config.pool, Config.pool, Config.withPassword]
  dsimp only
  cases config.endpoint with
  | none => rfl
  | some endpoint =>
      change (if _ then _ else _) = Except.map _ (if _ then _ else _)
      split <;> rfl

namespace Opening

/-- Two stores that are being opened and have come equally far. -/
inductive Twins (pair : Credentials.Pair) (wires wires' : Nat → Wire) : Opening → Opening → Prop
  | pool (plan : Plan) {o o' : Pool.Opening} (h : o.Twins pair wires wires' o') :
      Twins pair wires wires' (.pool plan o) (.pool plan o')
  | script (plan : Plan) {t t' : System} (h : t.Twins pair wires wires' t') :
      Twins pair wires wires' (.script plan t) (.script plan t')

/-- How far the opening of two stores has come, which is equally far. -/
inductive Progress.Twins (pair : Credentials.Pair)
    (wires wires' : Nat → Wire) : Progress → Progress → Prop
  | waiting {o o' : Opening} (h : o.Twins pair wires wires' o') :
      Twins pair wires wires' (.waiting o) (.waiting o')
  | opened {s s' : Store} (h : s.Twins pair wires wires' s') :
      Twins pair wires wires' (.opened s) (.opened s')
  | failed (error : Error) {dropped dropped' : List Nat} (hdropped : dropped'.Perm dropped)
      (hwires : ∀ dial, Wire.Twins pair (wires dial) (wires' dial)) :
      Twins pair wires wires' (.failed error dropped) (.failed error dropped')

theorem Progress.Twins.wire {progress progress' : Progress}
    (h : progress.Twins pair wires wires' progress') (dial : Nat) :
    Wire.Twins pair (wires dial) (wires' dial) := by
  cases h with
  | failed _ _ hwires => exact hwires dial
  | opened h =>
      cases h with
      | mk h => exact h.wires dial
  | waiting h =>
      cases h with
      | pool plan h => exact h.wires dial
      | script plan h => exact h.wires dial

theorem Twins.swap {o o' : Opening} (h : o.Twins pair wires wires' o') :
    o'.Twins pair.swap wires' wires o := by
  cases h with
  | pool plan h => exact .pool plan h.swap
  | script plan h => exact .script plan h.swap

theorem Progress.Twins.swap {progress progress' : Progress}
    (h : progress.Twins pair wires wires' progress') :
    progress'.Twins pair.swap wires' wires progress := by
  cases h with
  | waiting h => exact .waiting h.swap
  | opened h => exact .opened h.swap
  | failed error hdropped hwires =>
      exact .failed error hdropped.symm fun dial => (hwires dial).swap

/-- What two stores come to that are being opened and make the same known. -/
structure Advanced (pair : Credentials.Pair)
    (wires wires' : Nat → Wire) (after after' : Progress × List Notice) : Prop where
  progress : after.1.Twins pair wires wires' after'.1
  told : after'.2.filter Notice.told = after.2.filter Notice.told

variable {plan : Plan} {t t' : System} {o o' : Opening} {turn : Turn}

/-- What is made known before is the same of both. -/
theorem Advanced.after {after after' : Progress × List Notice}
    (h : Advanced pair wires wires' after after') {made made' : List Pool.Notice}
    (hmade : made'.filter Pool.Notice.told = made.filter Pool.Notice.told) :
    Advanced pair wires wires' (after.1, made.map .pool ++ after.2)
      (after'.1, made'.map .pool ++ after'.2) where
  progress := h.progress
  told := by
    dsimp only
    rw [List.filter_append, List.filter_append, filter_told_map_pool, filter_told_map_pool, hmade,
      h.told]

theorem follow_pending (plan : Plan) (t : System) :
    follow plan (t, .pending) = (.waiting (.script plan t), []) := rfl

/-- The opening of both stores goes on alike after the same turn. -/
theorem advanced_conclude (h : t.Twins pair wires wires' t') (hs : t.Sound) (hs' : t'.Sound)
    (plan : Plan) (turn : Turn) :
    Advanced pair wires wires' (conclude plan t turn) (conclude plan t' turn) := by
  cases turn with
  | refused error => exact ⟨.failed _ (h.perm_transports hs hs') h.wires, rfl⟩
  | ended result =>
      rw [conclude, conclude]
      cases plan.script.registered result with
      | error error => exact ⟨.failed _ (h.perm_transports hs hs') h.wires, rfl⟩
      | ok warning => exact ⟨.opened (.mk (h.release hs user)), rfl⟩
  | pending | dialing | acquired => exact ⟨.waiting (.script plan h), rfl⟩

theorem advanced_follow {result result' : System × Turn}
    (hturn : TurnTwins pair wires wires' result result') (hs : result.1.Sound)
    (hs' : result'.1.Sound) (hhands : System.HandsOver user result) (plan : Plan) :
    Advanced pair wires wires' (follow plan result) (follow plan result') := by
  obtain ⟨t, turn⟩ := result
  obtain ⟨t', turn'⟩ := result'
  obtain ⟨htwins, hsame⟩ := hturn
  obtain rfl : turn' = turn := hsame
  cases turn' with
  | acquired dial =>
      obtain ⟨session, hrole, hwhole⟩ := hhands dial rfl
      let call : Call := .request plan.script.register
      obtain ⟨hsystem, hsame⟩ := htwins.request hs hrole hwhole plan.script.register
      have hafter := advanced_conclude hsystem (hs.call user call) (hs'.call user call) plan
        (t.call user call).2
      rw [follow, follow]
      dsimp only at hsame ⊢
      rw [hsame]
      exact ⟨hafter.progress, congrArg (Notice.pool (.acquired user dial) :: ·) hafter.told⟩
  | pending => exact advanced_conclude htwins hs hs' plan .pending
  | dialing dial => exact advanced_conclude htwins hs hs' plan (.dialing dial)
  | refused error => exact advanced_conclude htwins hs hs' plan (.refused error)
  | ended result => exact advanced_conclude htwins hs hs' plan (.ended result)

/-- The opening of both stores goes on alike after their pools have come equally far. -/
theorem advanced_proceed {settings settings' : PoolSettings}
    {after after' : Pool.Opening.Progress × List Pool.Notice}
    (h : Pool.Opening.Advanced pair wires wires' after after')
    (hsound : after.1.Sound settings) (hsound' : after'.1.Sound settings')
    (hfresh : ∀ t, after.1 = .opened t → t.users = []) (plan : Plan) :
    Advanced pair wires wires' (proceed plan after) (proceed plan after') := by
  obtain ⟨progress, made⟩ := after
  obtain ⟨progress', made'⟩ := after'
  obtain ⟨hprogress, hmade⟩ := h
  have htold : (made'.map Notice.pool).filter Notice.told =
      (made.map Notice.pool).filter Notice.told := by
    rw [filter_told_map_pool, filter_told_map_pool, hmade]
  cases hprogress with
  | waiting h => exact ⟨.waiting (.pool plan h), htold⟩
  | failed error dropped hwires => exact ⟨.failed _ (.refl dropped) hwires, htold⟩
  | @opened t t' h =>
      cases hsound with
      | opened hs =>
          cases hsound' with
          | opened hs' =>
              have hfree : t.role? user = none := by
                rw [System.role?, hfresh t rfl]
                rfl
              have hfollow := advanced_follow (h.acquire user) (hs.acquire hfree)
                (hs'.acquire (h.role?_eq_none hfree)) (hs.handsOver_acquire user) plan
              exact hfollow.after hmade

/-- **Both stores begin to open alike.** -/
theorem advanced_start (config : Config) (password : String) :
    Advanced (config.pair password) (fun _ => {}) (fun _ => {}) (start config)
      (start (config.withPassword password)) := by
  have hlimits : (config.withPassword password).limits = config.limits := rfl
  have hmode : (config.withPassword password).failureMode = config.failureMode := rfl
  rw [start, start, hlimits, pool_withPassword, hmode]
  split
  · exact ⟨.failed _ .nil fun _ => Wire.twins_empty _, rfl⟩
  · cases hpool : config.pool with
    | error fault => exact ⟨.failed _ .nil fun _ => Wire.twins_empty _, rfl⟩
    | ok settings =>
        have hpresents : settings.credentials = (config.pair password).one :=
          Config.pool_credentials hpool
        have hsizes := Config.pool_sizes hpool
        exact advanced_proceed (Pool.Opening.advanced_start hpresents)
          (Pool.Opening.start_sound hsizes) (Pool.Opening.start_sound hsizes)
          (fun t ht => (fresh_of_next ht).users) _

/-- Whether the transport that is waited for takes a part of what is to be written, but not all. -/
def cuts : Opening → Event → Bool
  | .pool _ opening, event => opening.attempt.awaiting.cuts event
  | .script _ system, event => system.cuts user event

/-- Whatever happens, the same can happen without a part of a command being taken. -/
theorem exists_uncut (o : Opening) (event : Event) :
    ∃ event', event'.outline = event.outline ∧ o.cuts event' = false := by
  cases o with
  | pool plan opening => exact opening.attempt.awaiting.exists_uncut event
  | script plan system => exact system.exists_uncut user event

/-- **The same event brings both stores equally far**, unless a transport takes a part of a
command. -/
theorem Twins.step (h : o.Twins pair wires wires' o') (hs : o.Sound) (hs' : o'.Sound)
    (hevent : event.Twins event') (hcuts : o.cuts event = false)
    (hcuts' : o'.cuts event' = false) :
    Advanced pair (o.observe wires event) (o'.observe wires' event') (o.step event)
      (o'.step event') := by
  cases h with
  | @pool plan opening opening' h =>
      cases hs with
      | pool hpos hsizes hsound =>
          cases hs' with
          | pool hpos' hsizes' hsound' =>
              exact advanced_proceed (h.step hsound.numbered hevent hcuts hcuts')
                (hsound.step hsizes event) (hsound'.step hsizes' event')
                (fun t ht => (fresh_of_step ht).users) plan
  | @script plan t t' h =>
      cases hs with
      | script hsound =>
          cases hs' with
          | script hsound' =>
              have hreacted := h.react hsound hevent hcuts hcuts'
              have hfollow := advanced_follow hreacted.turn (hsound.react user event)
                (hsound'.react user event') (hsound.handsOver_react user event) plan
              exact hfollow.after hreacted.traffic

/-- **A store whose transport takes a part of a command has come as far as before.** -/
theorem Twins.step_cut (h : o.Twins pair wires wires' o') (hs : o.Sound)
    (hcuts : o.cuts event = true) :
    Advanced pair (o.observe wires event) wires' (o.step event) (.waiting o', []) := by
  cases h with
  | @pool plan opening opening' h =>
      cases hs with
      | pool hpos hsizes hsound =>
          obtain ⟨hprogress, htold⟩ := h.step_cut hsound.numbered hcuts
          rw [Opening.step, observe]
          generalize opening.step event = after at hprogress htold ⊢
          obtain ⟨progress, notices⟩ := after
          cases hprogress with
          | waiting h =>
              refine ⟨.waiting (.pool plan h), ?_⟩
              rw [proceed, filter_told_map_pool, htold]
              rfl
  | @script plan t t' h =>
      cases hs with
      | script hsound =>
          obtain ⟨htwins, hpending⟩ := h.react_cut hsound hcuts
          have htold := System.filter_told_traffic_of_cuts hcuts
          rw [Opening.step, observe]
          generalize t.react user event = result at htwins hpending ⊢
          obtain ⟨t₁, turn⟩ := result
          obtain rfl : turn = .pending := hpending
          refine ⟨.waiting (.script plan htwins), ?_⟩
          dsimp only
          rw [follow_pending, List.append_nil, filter_told_map_pool, htold]
          rfl

end Opening

end Store

end RateLimit
