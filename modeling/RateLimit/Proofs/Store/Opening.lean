import RateLimit.Proofs.Pool.Dialing
import RateLimit.Proofs.Store.Attainable

/-!
# What the opening of a store drops

The opening of a store ends at once if the configuration is refused.  Otherwise it goes on event by
event; a transport that is open stays open as long as it goes on, and when it fails it drops all
that are open.  So it drops, each once, the transports that were open at any time before.

## Main definitions

* `Config.Refuses` : whether a configuration is refused, and why.
* `Store.Opening.run` : the opening of a store over events in order.
* `Store.Opening.WasOpen` : whether a transport was open at some time.
* `Store.Opening.Progress.Keeps` : what becomes of open transports in one step.

## Main results

* `Store.Opening.run_of_refuses` : a configuration that is refused opens nothing.
* `Store.Opening.Sound.keeps` : open transports stay open in every step that does not fail.
* `Store.Opening.dropped_of_failed` : an opening that fails drops what was open.
-/

namespace RateLimit

open Pool (System Turn Role)

/-- Whether a configuration is refused, with what is wrong with it.  Its limits are resolved first,
and then the settings of its pool. -/
def Config.Refuses (c : Config) (fault : ConfigFault) : Prop :=
  c.limits = .error fault ∨ (∃ limits, c.limits = .ok limits) ∧ c.pool = .error fault

theorem Config.refuses_or_accepts (c : Config) :
    (∃ fault, c.Refuses fault) ∨
      ∃ limits settings, c.limits = .ok limits ∧ c.pool = .ok settings := by
  rcases hlimits : c.limits with fault | limits
  · exact .inl ⟨fault, .inl hlimits⟩
  rcases hpool : c.pool with fault | settings
  · exact .inl ⟨fault, .inr ⟨⟨limits, hlimits⟩, hpool⟩⟩
  · exact .inr ⟨limits, settings, rfl, rfl⟩

namespace Store.Opening

variable {config : Config} {plan : Plan} {settings : PoolSettings}

/-! ### The opening of a store over events -/

/-- The opening of a store over events in order, with what it makes known. -/
def Progress.run : Opening.Progress → List Event → Opening.Progress × List Notice
  | .waiting o, event :: events =>
      let (progress, notices) := o.step event
      let (progress, later) := progress.run events
      (progress, notices ++ later)
  | progress, _ => (progress, [])

/-- The opening of a store from its beginning, over events in order, with all that it makes
known. -/
def run (config : Config) (events : List Event) : Opening.Progress × List Notice :=
  let (progress, notices) := start config
  let (progress, later) := progress.run events
  (progress, notices ++ later)

/-- Whether a transport was open at some time while a store was being opened. -/
def WasOpen (config : Config) (events : List Event) (dial : Nat) : Prop :=
  ∃ before o, before <+: events ∧ (run config before).1 = .waiting o ∧ dial ∈ o.transports

theorem fst_run (config : Config) (events : List Event) :
    (run config events).1 = ((start config).1.run events).1 :=
  rfl

theorem run_nil (progress : Opening.Progress) : progress.run [] = (progress, []) := by
  cases progress <;> rfl

theorem run_waiting_cons (o : Opening) (event : Event) (events : List Event) :
    (Progress.waiting o).run (event :: events) =
      (((o.step event).1.run events).1, (o.step event).2 ++ ((o.step event).1.run events).2) :=
  rfl

theorem run_failed (error : Error) (dropped : List Nat) (events : List Event) :
    (Progress.failed error dropped).run events = (.failed error dropped, []) := by
  cases events <;> rfl

theorem run_opened (s : Store) (events : List Event) :
    (Progress.opened s).run events = (.opened s, []) := by
  cases events <;> rfl

/-- A configuration that is refused ends the opening of a store before it has begun. -/
theorem start_of_refuses {fault : ConfigFault} (h : config.Refuses fault) :
    start config = (.failed (.config fault) [], []) := by
  rcases h with hlimits | ⟨⟨limits, hlimits⟩, hpool⟩
  · rw [start, hlimits]
  · rw [start, hlimits]
    dsimp only
    rw [hpool]

theorem run_of_refuses {fault : ConfigFault} (h : config.Refuses fault) (events : List Event) :
    run config events = (.failed (.config fault) [], []) := by
  rw [run, start_of_refuses h]
  dsimp only
  rw [run_failed]
  rfl

/-! ### What is dropped -/

/-- What becomes of the given transports, which are open, in a step of the opening of a store: they
stay open as long as it goes on, and they and no others are dropped if it fails. -/
inductive Progress.Keeps (dials : List Nat) : Opening.Progress → Prop
  | waiting {o : Opening} (h : dials ⊆ o.transports) : Keeps dials (.waiting o)
  | opened (s : Store) : Keeps dials (.opened s)
  | failed (error : Error) {dropped : List Nat} (h : dropped.Perm dials) :
      Keeps dials (.failed error dropped)

theorem keeps_proceed {after : Pool.Opening.Progress × List Pool.Notice} {dials : List Nat}
    (h : after.1.Keeps dials) (hpos : 0 < settings.initialSize)
    (hfresh : ∀ t, after.1 = .opened t → Fresh settings t) :
    (proceed plan after).1.Keeps dials := by
  obtain ⟨progress, notices⟩ := after
  cases h with
  | waiting h => exact .waiting h
  | failed error => exact .failed _ (.refl dials)
  | @opened t h =>
      have hfresh := hfresh t rfl
      obtain ⟨session, idle, hidle⟩ := List.exists_cons_of_length_pos (hpos.trans_le hfresh.idle)
      rw [proceed]
      dsimp only
      rw [follow_acquire plan hfresh.opened hidle]
      -- The connection that is handed out is the only one that is not idle any more.
      rw [System.transports, hidle, hfresh.users] at h
      refine .waiting fun dial hmem => ?_
      simpa [transports, System.transports, System.withIdle, System.assign, System.others,
        hfresh.users, Role.hasTransport, Role.dial, or_comm] using h hmem

/-- The transports that are open stay open in every step of the opening of a store, unless it fails
and drops them. -/
theorem Sound.keeps {o : Opening} (h : o.Sound) (event : Event) :
    (o.step event).1.Keeps o.transports := by
  cases h with
  | @pool plan o hpos hsizes hsound =>
      exact keeps_proceed (o.keeps_step event) hpos fun t => fresh_of_step
  | @script plan t hsound hopen halone dial x hrole =>
      have hperm (role : Role) (htransport : role.hasTransport = true) (hdial : role.dial = dial) :
          (t.assign user role).transports.Perm t.transports :=
        System.perm_transports_assign hsound.names hrole htransport hdial
      rw [Opening.step, System.react_of_calling hrole]
      dsimp only
      cases x.step event with
      | waiting x' => exact .waiting (hperm (.calling dial x') rfl rfl).symm.subset
      | finished c result =>
          change (conclude plan (t.assign user (.holding ⟨dial, c⟩)) (.ended result)).1.Keeps _
          rw [conclude]
          split
          · exact .failed _ (hperm (.holding ⟨dial, c⟩) rfl rfl)
          · exact .opened _

theorem Attainable.run {progress : Opening.Progress} (h : Attainable config progress)
    (events : List Event) : Attainable config (progress.run events).1 := by
  induction events generalizing progress with
  | nil => rwa [run_nil]
  | cons event events ih =>
      cases progress with
      | waiting o => exact ih (h.step event)
      | opened | failed => exact h

theorem attainable_run (config : Config) (events : List Event) :
    Attainable config (run config events).1 :=
  fst_run config events ▸ Attainable.start.run events

theorem fst_run_concat (progress : Opening.Progress) (events : List Event) (event : Event) :
    (progress.run (events ++ [event])).1 = match (progress.run events).1 with
      | .waiting o => (o.step event).1
      | progress => progress := by
  induction events generalizing progress with
  | nil =>
      cases progress with
      | waiting o => rw [List.nil_append, run_waiting_cons, run_nil, run_nil]
      | opened | failed => rfl
  | cons first events ih =>
      cases progress with
      | waiting o => exact ih (o.step first).1
      | opened | failed => rfl

/-- The opening of a store begins to wait, unless its configuration is refused. -/
theorem start_cases (config : Config) :
    (∃ o, (start config).1 = .waiting o) ∨
      ∃ error, (start config).1 = .failed error [] := by
  rcases config.refuses_or_accepts with ⟨fault, hfault⟩ | ⟨limits, settings, hlimits, hpool⟩
  · exact .inr ⟨_, congrArg Prod.fst (start_of_refuses hfault)⟩
  · have hpos := Config.pool_initialSize_pos hpool
    rw [start, hlimits]
    dsimp only
    rw [hpool]
    dsimp only
    rw [Pool.Opening.start, Pool.Opening.next, List.length_nil, if_pos hpos]
    exact .inl ⟨_, rfl⟩

/-- A transport that was open was so before the last event, or is open behind it. -/
theorem wasOpen_concat_iff (config : Config) (events : List Event) (event : Event) (dial : Nat) :
    WasOpen config (events ++ [event]) dial ↔ WasOpen config events dial ∨
      ∃ o, (run config (events ++ [event])).1 = .waiting o ∧ dial ∈ o.transports := by
  simp only [WasOpen, List.prefix_concat_iff]
  constructor
  · rintro ⟨before, o, rfl | hbefore, hrun, hmem⟩
    · exact .inr ⟨o, hrun, hmem⟩
    · exact .inl ⟨before, o, hbefore, hrun, hmem⟩
  · rintro (⟨before, o, hbefore, hrun, hmem⟩ | ⟨o, hrun, hmem⟩)
    · exact ⟨before, o, .inr hbefore, hrun, hmem⟩
    · exact ⟨_, o, .inl rfl, hrun, hmem⟩

/-- What was open at some time is open as long as the opening of a store goes on, and is dropped if
it fails. -/
theorem wasOpen_iff (config : Config) (events : List Event) (dial : Nat) :
    match (run config events).1 with
    | .waiting o => WasOpen config events dial ↔ dial ∈ o.transports
    | .opened _ => True
    | .failed _ dropped => WasOpen config events dial ↔ dial ∈ dropped := by
  -- From the end, because the opening up to the last event tells what was open before.
  induction events using List.reverseRecOn with
  | nil =>
      rcases start_cases config with ⟨o, hstart⟩ | ⟨error, hstart⟩ <;>
        simp [WasOpen, fst_run, run_nil, hstart]
  | append_singleton events event ih =>
      have hlast := wasOpen_concat_iff config events event dial
      have hsound := (attainable_run config events).sound
      have hstep := fst_run_concat (start config).1 events event
      rw [← fst_run, ← fst_run] at hstep
      generalize (run config events).1 = progress at ih hsound hstep
      cases hsound with
      | opened => rw [hstep]; trivial
      | failed =>
          dsimp only at ih hstep
          rw [hlast, hstep]
          simpa using ih
      | @waiting o hs =>
          have hkeeps := hs.keeps event
          dsimp only at ih hstep
          rw [← hstep] at hkeeps
          generalize (run config (events ++ [event])).1 = next at hkeeps hlast
          cases hkeeps with
          | opened => trivial
          | waiting hsubset =>
              refine hlast.trans ⟨?_, fun hmem => .inr ⟨_, rfl, hmem⟩⟩
              rintro (hopen | ⟨o', heq, hmem⟩)
              · exact hsubset (ih.mp hopen)
              · cases heq
                exact hmem
          | failed error hdropped => simp [hlast, ih, hdropped.mem_iff]

/-- An opening that fails drops every transport that was open, once. -/
theorem dropped_of_failed {events : List Event} {error : Error} {dropped : List Nat}
    (h : (run config events).1 = .failed error dropped) :
    dropped.Nodup ∧ ∀ dial, dial ∈ dropped ↔ WasOpen config events dial := by
  have hsound := (attainable_run config events).sound
  rw [h] at hsound
  cases hsound with
  | failed _ hnodup =>
      refine ⟨hnodup, fun dial => ?_⟩
      have hopen := wasOpen_iff config events dial
      rw [h] at hopen
      exact hopen.symm

end Store.Opening

end RateLimit
