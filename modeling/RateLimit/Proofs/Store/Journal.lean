import RateLimit.Store.Opening
import RateLimit.Proofs.Pool.Wires

/-!
# The journal of a store

Beside a store stands a journal of its run: what has passed over every transport since the store
began to open, what the caller of each call asked for, and where on the transports the command of
the call went.  A run is one that a server can take part in that answers the commands that reach it
on each transport in their order.

## Main definitions

* `Store.Journal`, `Store.Journal.record` : the journal, and what an action adds to it.
* `Store.Reachable` : the stores that runs come to, with their journals.
* `Store.Tracked` : how a store stands to its journal.

## Main results

* `Store.Reachable.tracked` : a store is in step with its journal in every run.
-/

namespace RateLimit

open Pool (System Turn)

theorem Script.encode_call (script : Script) (key : String) (now : Nat) :
    (script.call key now).encode = .ok (script.call key now).bytes := rfl

theorem Script.encode_register (script : Script) :
    script.register.encode = .ok script.register.bytes := rfl

namespace Config

variable {c : Config} {settings : PoolSettings}

/-- A configuration is accepted with the settings of its pool if there is somewhere to connect to
and its sizes fit. -/
theorem pool_eq_ok_iff : c.pool = .ok settings ↔
    c.endpoint.isSome ∧ orDefault 5 c.initialSize ≤ orDefault 100 c.maxSize ∧
      settings = ⟨orDefault 5 c.initialSize, orDefault 100 c.maxSize, c.credentials⟩ := by
  rw [Config.pool]
  cases c.endpoint with
  | none => simp
  | some endpoint =>
      dsimp only
      split
      · rename_i hsizes
        simp [hsizes.not_ge]
      · rename_i hsizes
        simp [Nat.le_of_not_lt hsizes, eq_comm]

theorem pool_sizes (h : c.pool = .ok settings) : settings.initialSize ≤ settings.maxSize := by
  obtain ⟨-, hsizes, rfl⟩ := pool_eq_ok_iff.mp h
  exact hsizes

theorem pool_initialSize_pos (h : c.pool = .ok settings) : 0 < settings.initialSize := by
  obtain ⟨-, -, rfl⟩ := pool_eq_ok_iff.mp h
  exact orDefault_pos (by decide)

theorem pool_credentials (h : c.pool = .ok settings) : settings.credentials = c.credentials := by
  obtain ⟨-, -, rfl⟩ := pool_eq_ok_iff.mp h
  rfl

end Config

namespace Store

/-- What the caller of a call asked for, and the place of the command that was sent for it: the
number of the transport, and of the command on it. -/
structure Asked where
  key : String
  moment : Moment
  place : Option (Nat × Nat) := none

/-- The journal of a run. -/
structure Journal where
  /-- What has passed over the transports. -/
  wires : Nat → Wire := fun _ => {}
  /-- The last call under each name. -/
  asked : Nat → Option Asked := fun _ => none

/-- A call with the place of its command, if the command is passed on in an event. -/
def Journal.place (j : Journal) (s : Store) (name : Nat) (event : Event) (asked : Asked) : Asked :=
  match s.system.role? name with
  | some (.calling dial x) =>
      if x.flushes event then { asked with place := some (dial, (j.wires dial).commands.length) }
      else asked
  | _ => asked

/-- The journal after an action. -/
def Journal.record (j : Journal) (s : Store) : Action → Journal
  | .take name key moment =>
      if (s.take? name).isSome then j
      else { j with asked := Function.update j.asked name (some { key, moment }) }
  | .event name event =>
      if (s.take? name).isSome then {
        wires := s.system.observe j.wires name event
        asked := Function.update j.asked name ((j.asked name).map (j.place s name event)) }
      else j
  | .giveUp _ | .close => j

/-! ### Runs -/

/-- What has passed over the transports after an event during the opening of a store. -/
def Opening.observe (wires : Nat → Wire) : Opening → Event → Nat → Wire
  | .pool _ opening, event => opening.observe wires event
  | .script _ system, event => system.observe wires user event

/-- How far the opening of a store can come with a server, and what has passed. -/
inductive Opening.Reachable (server : Server) (config : Config) :
    (Nat → Wire) → Opening.Progress → Prop
  | start : Reachable server config (fun _ => {}) (start config).1
  | step {wires : Nat → Wire} {o : Opening} (h : Reachable server config wires (.waiting o))
      (event : Event) (hallows : ∀ dial, server.Allows dial (o.observe wires event dial)) :
      Reachable server config (o.observe wires event) (o.step event).1

/-- The stores that runs with a server come to, by actions in any order, with the journals. -/
inductive Reachable (server : Server) (config : Config) : Journal → Store → Prop
  | opened {wires : Nat → Wire} {s : Store}
      (h : Opening.Reachable server config wires (.opened s)) : Reachable server config { wires } s
  | step {j : Journal} {s : Store} (h : Reachable server config j s) (action : Action)
      (hallows : ∀ dial, server.Allows dial ((j.record s action).wires dial)) :
      Reachable server config (j.record s action) (s.step action).1

/-! ### Opening -/

namespace Opening

variable {server : Server} {wires : Nat → Wire} {plan : Plan}

/-- How a store that is being opened stands to what has passed. -/
inductive Tracked (server : Server) (wires : Nat → Wire) : Opening → Prop
  | pool {plan : Plan} {o : Pool.Opening} (hsizes : o.settings.initialSize ≤ o.settings.maxSize)
      (hsound : (Pool.Opening.Progress.waiting o).Sound o.settings) (h : o.Tracked server wires) :
      Tracked server wires (.pool plan o)
  | script {plan : Plan} {s : System}
      (h : s.Tracked server wires fun _ => plan.script.register.bytes)
      (halone : ∀ other, other ≠ user → s.role? other = none) :
      Tracked server wires (.script plan s)

/-- How far the opening of a store has come, in step with what has passed. -/
inductive Progress.Tracked (server : Server) (wires : Nat → Wire) : Progress → Prop
  | waiting {o : Opening} (h : o.Tracked server wires) : Tracked server wires (.waiting o)
  | opened {s : Store} (h : ∃ order, s.system.Tracked server wires order)
      (hnobody : ∀ user, s.system.role? user = none) (htakes : s.takes = []) :
      Tracked server wires (.opened s)
  | failed (error : Error) (dropped : List Nat) : Tracked server wires (.failed error dropped)

/-- After its turn at the pool, the opening of a store is in step if the pool is. -/
theorem follow_tracked {result : System × Turn} {ends : Result → Prop}
    (h : Pool.System.Turned server wires (fun _ => plan.script.register.bytes) user ends result)
    (halone : ∀ other, other ≠ user → result.1.role? other = none) :
    (follow plan result).1.Tracked server wires := by
  cases h with
  | pending h => exact .waiting (.script h halone)
  | dialing h => exact .waiting (.script h halone)
  | refused => exact .failed _ _
  | @acquired t h dial hrole =>
      obtain ⟨t', x, hcall, ht', -⟩ := h.request hrole plan.script.encode_register
      have halone' : ∀ other, other ≠ user → t'.role? other = none := by
        intro other hother
        have hframe := Pool.System.role?_call_of_ne hother t (.request plan.script.register)
        rw [hcall] at hframe
        exact hframe.trans (halone other hother)
      rw [follow, hcall]
      exact .waiting (.script ht' halone')
  | @ended t h session hrole result hends =>
      change (conclude plan t (.ended result)).1.Tracked server wires
      rw [conclude]
      split
      · exact .failed _ _
      · refine .opened ⟨_, h.release user⟩ ?_ rfl
        intro other
        by_cases hother : other = user
        · rw [hother]
          exact Pool.System.role?_release_self hrole
        · exact (Pool.System.role?_release_of_ne hother t).trans (halone other hother)

theorem proceed_tracked {after : Pool.Opening.Progress × List Pool.Notice} {settings : PoolSettings}
    (hsizes : settings.initialSize ≤ settings.maxSize) (hsound : after.1.Sound settings)
    (h : after.1.Tracked server wires) : (proceed plan after).1.Tracked server wires := by
  obtain ⟨progress, notices⟩ := after
  cases h with
  | failed => exact .failed _ _
  | waiting h =>
      cases hsound with
      | waiting hsettings =>
          subst hsettings
          exact .waiting (.pool hsizes (.waiting rfl ‹_› ‹_› ‹_›) h)
  | @opened s h husers =>
      have hfree : ∀ other, s.role? other = none := fun other => by
        rw [System.role?, husers]
        rfl
      refine follow_tracked ((h _).acquire (hfree user) fun _ => False) fun other hother => ?_
      exact (Pool.System.role?_acquire_of_ne hother s).trans (hfree other)

/-- Whatever goes on while a store is opened, it is in step with what has passed. -/
theorem Reachable.tracked {config : Config} {progress : Progress}
    (h : Reachable server config wires progress) : progress.Tracked server wires := by
  induction h with
  | start =>
      rw [Opening.start]
      split
      · exact .failed _ _
      · split
        · exact .failed _ _
        · rename_i settings hpool
          have hsizes := Config.pool_sizes hpool
          have hsound := Pool.Opening.start_sound hsizes
          exact proceed_tracked hsizes hsound
            (Pool.Opening.next_tracked hsound (fun session hmem => by cases hmem) fun _ _ => rfl)
  | @step wires o h event hallows ih =>
      cases ih with
      | waiting ih =>
          cases ih with
          | @pool plan o hsizes hsound ih =>
              have hsound' := hsound.step hsizes event
              cases hsound with
              | waiting _ hnumbered =>
                  exact proceed_tracked hsizes hsound' (ih.step hnumbered event hsound' (hallows _))
          | @script plan s ih halone =>
              refine follow_tracked (ih.react user event hallows) fun other hother => ?_
              exact (Pool.System.role?_react_of_ne hother s event).trans (halone other hother)

end Opening

/-! ### Calls -/

/-- The bytes of the command for the call that is in progress under a name. -/
def order (s : Store) (name : Nat) : Bytes :=
  match s.take? name with
  | some take => (s.script.call take.key take.now).bytes
  | none => []

/-- How a store stands to its journal. -/
structure Tracked (server : Server) (j : Journal) (s : Store) : Prop where
  system : s.system.Tracked server j.wires s.order
  /-- Only calls in progress use the pool. -/
  users : ∀ name, s.system.role? name ≠ none → s.take? name ≠ none
  /-- A call in progress is the one that was asked for, and if it waits for its answer, its command
  is the last one on its transport. -/
  asked : ∀ name take, s.take? name = some take → ∃ moment place,
    j.asked name = some ⟨take.key, moment, place⟩ ∧ moment.nanos? = .ok take.now ∧
      ∀ dial x, s.system.role? name = some (.calling dial x) → x.awaiting = .read →
        place = some (dial, (j.wires dial).commands.length - 1)

variable {server : Server} {j : Journal} {s : Store} {name : Nat} {take : Take}

theorem take?_cons (s : Store) (name other : Nat) (take : Take) :
    take? { s with takes := (name, take) :: s.takes } other =
      if other = name then some take else s.take? other := by
  by_cases h : other = name
  · rw [if_pos h, h]
    exact List.lookup_cons_self
  · rw [if_neg h, take?, List.lookup_cons, beq_false_of_ne h, take?]

theorem take?_forget (s : Store) (name other : Nat) :
    (s.forget name).take? other = if other = name then none else s.take? other :=
  lookup_filter_ne s.takes name other

/-- Once a call has left the pool it can be forgotten. -/
theorem Tracked.forget (h : s.Tracked server j) (hrole : s.system.role? name = none) :
    (s.forget name).Tracked server j where
  system := by
    refine h.system.congr fun other hother => ?_
    have hne : other ≠ name := by
      rintro rfl
      exact hother hrole
    rw [order, order, take?_forget, if_neg hne]
    rfl
  users := by
    intro other hother
    have hne : other ≠ name := by
      rintro rfl
      exact hother hrole
    rw [take?_forget, if_neg hne]
    exact h.users other hother
  asked := by
    intro other take htake
    rw [take?_forget] at htake
    split at htake
    · cases htake
    · exact h.asked other take htake

/-- A call in progress goes on in the pool without waiting for its answer yet. -/
theorem Tracked.withSystem (h : s.Tracked server j) {t : System}
    (ht : t.Tracked server j.wires s.order) (htake : s.take? name ≠ none)
    (hothers : ∀ other, other ≠ name → t.role? other = s.system.role? other)
    (hname : ∀ dial x, t.role? name = some (.calling dial x) → x.awaiting ≠ .read) :
    Tracked server j { s with system := t } where
  system := ht
  users := by
    intro other hother
    by_cases hne : other = name
    · exact hne ▸ htake
    · exact h.users other (hothers other hne ▸ hother)
  asked := by
    intro other take hother
    obtain ⟨moment, place, hasked, hnanos, hplace⟩ := h.asked other take hother
    refine ⟨moment, place, hasked, hnanos, fun dial x hrole hread => ?_⟩
    by_cases hne : other = name
    · subst hne
      exact (hname dial x hrole hread).elim
    · exact hplace dial x (hothers other hne ▸ hrole) hread

/-- After its turn at the pool, a call goes on in step, or is answered and gone. -/
theorem Tracked.follow {result : System × Turn} {ends : Result → Prop}
    (h : Tracked server j { s with system := result.1 })
    (hturn : System.Turned server j.wires s.order name ends result)
    (htake : s.take? name = some take) : (s.follow name take result).1.Tracked server j := by
  have hsome : s.take? name ≠ none := by simp [htake]
  cases hturn with
  | pending => exact h
  | dialing => exact h
  | refused _ hrole => exact h.forget hrole
  | @acquired t ht dial hrole =>
      have horder : s.order name = (s.script.call take.key take.now).bytes := by
        rw [order, htake]
      obtain ⟨t', x, hcall, ht', hrole', hwrite⟩ :=
        ht.request hrole ((s.script.encode_call take.key take.now).trans (horder ▸ rfl))
      rw [Store.follow, hcall]
      refine h.withSystem ht' hsome (fun other hother => ?_) fun dial' x' hcalling => ?_
      · have hframe := System.role?_call_of_ne hother t
          (.request (s.script.call take.key take.now))
        rwa [hcall] at hframe
      · rw [hrole'] at hcalling
        cases hcalling
        rw [hwrite]
        exact Awaiting.noConfusion
  | @ended t ht session hrole result hends =>
      have hnone : (t.release name).role? name = none := System.role?_release_self hrole
      refine (h.withSystem (ht.release name) hsome (fun other hother => ?_) ?_).forget hnone
      · exact System.role?_release_of_ne hother t
      · intro dial x hcalling
        rw [hnone] at hcalling
        cases hcalling

/-! ### What happens to a store -/

theorem Tracked.role?_eq_none (h : s.Tracked server j) (hfree : s.take? name = none) :
    s.system.role? name = none :=
  Decidable.byContradiction fun hrole => h.users name hrole hfree

/-- A call that is asked for leaves the store in step, also if it never begins. -/
theorem Tracked.ask (h : s.Tracked server j) (hfree : s.take? name = none) (asked : Asked) :
    s.Tracked server { j with asked := Function.update j.asked name (some asked) } where
  system := h.system
  users := h.users
  asked := by
    intro other take hother
    have hne : other ≠ name := by
      rintro rfl
      cases hfree.symm.trans hother
    dsimp only
    rw [Function.update_of_ne hne]
    exact h.asked other take hother

/-- A call that begins asks the pool for a connection. -/
theorem Tracked.acquire (h : s.Tracked server j) (hfree : s.take? name = none) {key : String}
    {moment : Moment} {now : Nat} (hnow : moment.nanos? = .ok now)
    (hasked : j.asked name = some { key, moment }) {s' : Store}
    (hs' : s' = { s with takes := (name, ⟨key, now⟩) :: s.takes }) :
    System.Turned server j.wires s'.order name (fun _ => False) (s.system.acquire name) ∧
      Tracked server j { s' with system := (s.system.acquire name).1 } := by
  subst hs'
  have hrole := h.role?_eq_none hfree
  have hsystem := h.system.congr fun other hother => by
    have hne : other ≠ name := by
      rintro rfl
      exact hother hrole
    change order { s with takes := (name, ⟨key, now⟩) :: s.takes } other = s.order other
    rw [order, take?_cons, if_neg hne, order]
  have hturn := hsystem.acquire hrole fun _ => False
  refine ⟨hturn, hturn.tracked, fun other hother => ?_, fun other take hother => ?_⟩
  · change take? { s with takes := (name, ⟨key, now⟩) :: s.takes } other ≠ none
    rw [take?_cons]
    split
    · exact Option.some_ne_none _
    · rename_i hne
      rw [System.role?_acquire_of_ne hne] at hother
      exact h.users other hother
  · change take? { s with takes := (name, ⟨key, now⟩) :: s.takes } other = some take at hother
    rw [take?_cons] at hother
    split at hother
    · rename_i heq
      cases hother
      subst heq
      refine ⟨moment, none, hasked, hnow, fun dial x hcalling => ?_⟩
      exact (System.role?_acquire_ne_calling hrole dial x hcalling).elim
    · rename_i hne
      obtain ⟨moment', place, hasked', hnow', hplace⟩ := h.asked other take hother
      refine ⟨moment', place, hasked', hnow', fun dial x hcalling => ?_⟩
      exact hplace dial x ((System.role?_acquire_of_ne hne s.system).symm.trans hcalling)

theorem Journal.place_eq (j : Journal) (s : Store) (name : Nat) (event : Event) (asked : Asked) :
    j.place s name event asked = ⟨asked.key, asked.moment, (j.place s name event asked).place⟩ := by
  rw [Journal.place]
  split
  · split <;> rfl
  · rfl

/-- A call that waits for its answer after an event has its command last on its transport. -/
theorem Tracked.place_of_react (h : s.Tracked server j) {asked : Asked} {event : Event}
    (hplace : ∀ dial x, s.system.role? name = some (.calling dial x) → x.awaiting = .read →
      asked.place = some (dial, (j.wires dial).commands.length - 1))
    {dial : Nat} {x' : Exchange}
    (hcalling : (s.system.react name event).1.role? name = some (.calling dial x'))
    (hread : x'.awaiting = .read) :
    (j.place s name event asked).place =
      some (dial, (s.system.observe j.wires name event dial).commands.length - 1) := by
  obtain ⟨x, hrole, hstep⟩ := System.role?_react_eq_calling hcalling
  have htask : x.task = .request := by
    cases h.system.users name _ hrole with
    | calling _ hstage => exact hstage.isRequest.task
  have hwire : s.system.observe j.wires name event dial = (j.wires dial).after x event := by
    rw [System.observe_of_role hrole]
    exact Function.update_self ..
  rw [hwire, Journal.place, hrole, Wire.after]
  dsimp only
  rcases Exchange.awaiting_read_of_step htask hstep hread with hflushes | ⟨hawaiting, hflushes⟩
  · rw [if_pos hflushes, if_pos hflushes, List.length_append, List.length_singleton,
      Nat.add_sub_cancel]
  · rw [hflushes]
    exact hplace dial x hrole hawaiting

/-- An event for a call keeps the store in step. -/
theorem Tracked.react (h : s.Tracked server j) (htake : s.take? name = some take) (event : Event)
    (hallows : ∀ dial, server.Allows dial ((j.record s (.event name event)).wires dial)) :
    System.Turned server (j.record s (.event name event)).wires s.order name
        (System.Ends server j.wires s.order s.system name) (s.system.react name event) ∧
      Tracked server (j.record s (.event name event))
        { s with system := (s.system.react name event).1 } := by
  rw [Journal.record, if_pos (by rw [htake]; rfl)] at hallows ⊢
  have hturn := h.system.react name event hallows
  refine ⟨hturn, hturn.tracked, fun other hother => ?_, fun other take' hother => ?_⟩
  · by_cases hne : other = name
    · rw [hne]
      exact fun hnone => by cases htake.symm.trans hnone
    · exact h.users other (System.role?_react_of_ne hne s.system event ▸ hother)
  · obtain ⟨moment, place, hasked, hnow, hplace⟩ := h.asked other take' hother
    by_cases hne : other = name
    · subst hne
      refine ⟨moment, (j.place s other event ⟨take'.key, moment, place⟩).place, ?_, hnow,
        fun dial x hcalling hread => h.place_of_react hplace hcalling hread⟩
      dsimp only
      rw [Function.update_self, hasked, Option.map_some]
      exact congrArg some (j.place_eq s other event ⟨take'.key, moment, place⟩)
    · refine ⟨moment, place, ?_, hnow, fun dial x hcalling hread => ?_⟩
      · dsimp only
        rw [Function.update_of_ne hne, hasked]
      · have hrole := (System.role?_react_of_ne hne s.system event).symm.trans hcalling
        have hwire := h.system.sound.observe_of_ne hrole hne j.wires event
        change s.system.observe j.wires name event dial = j.wires dial at hwire
        rw [hplace dial x hrole hread]
        dsimp only
        rw [hwire]

/-- Every action keeps a store in step with its journal. -/
theorem Tracked.step (h : s.Tracked server j) (action : Action)
    (hallows : ∀ dial, server.Allows dial ((j.record s action).wires dial)) :
    (s.step action).1.Tracked server (j.record s action) := by
  cases action with
  | take name key moment =>
      by_cases hfree : (s.take? name).isSome
      · rw [Store.step, if_pos hfree, Journal.record, if_pos hfree]
        exact h
      · rw [Store.step, if_neg hfree, Journal.record, if_neg hfree]
        rw [Bool.not_eq_true, Option.isSome_eq_false_iff, Option.isNone_iff_eq_none] at hfree
        rw [begin]
        split
        · exact h.ask hfree _
        · split
          · exact h.ask hfree _
          · rename_i now hnow
            obtain ⟨hturn, hnext⟩ :=
              (h.ask hfree _).acquire hfree hnow (Function.update_self ..) rfl
            exact hnext.follow hturn List.lookup_cons_self
  | event name event =>
      cases htake : s.take? name with
      | none =>
          rw [Store.step, htake, Journal.record, htake]
          exact h
      | some take =>
          obtain ⟨hturn, hnext⟩ := h.react htake event hallows
          rw [Store.step, htake]
          exact hnext.follow hturn htake
  | giveUp name =>
      rw [Store.step]
      cases htake : s.take? name with
      | none => exact h
      | some take =>
          have hnone := System.role?_release_giveUp_self s.system name
          refine (h.withSystem ((h.system.giveUp name).release name) (by rw [htake]; simp)
            (fun other hother => ?_) fun dial x hcalling => ?_).forget hnone
          · exact (System.role?_release_of_ne hother _).trans (System.role?_giveUp_of_ne hother _)
          · cases hnone.symm.trans hcalling
  | close =>
      rw [Store.step]
      split
      · exact h
      · exact ⟨h.system.close, h.users, h.asked⟩

/-- A store is in step with its journal in every run. -/
theorem Reachable.tracked {config : Config} (h : Reachable server config j s) :
    s.Tracked server j := by
  induction h with
  | @opened wires s h =>
      cases h.tracked with
      | opened hsystem hnobody htakes =>
          obtain ⟨order, hsystem⟩ := hsystem
          exact {
            system := hsystem.congr fun name hrole => (hrole (hnobody name)).elim
            users := fun name hrole => (hrole (hnobody name)).elim
            asked := fun name take htake => by
              rw [take?, htakes] at htake
              cases htake }
  | step h action hallows ih => exact ih.step action hallows

end Store

end RateLimit
