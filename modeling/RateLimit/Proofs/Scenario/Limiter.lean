import RateLimit.Proofs.Bucket.Sharing
import RateLimit.Proofs.Store.Opened
import RateLimit.Scenario.Limiter

/-!
# Stores that share a server

Stores with any configurations are opened on one server of token buckets, and callers ask them for
tokens.  If the server works, the stores are the buckets: every call is one run of the script, with
the limits of its store, on the bucket of its key.

## Main definitions

* `Scenario.Limiter.Accepted` : a configuration that is accepted, with what it resolves to.
* `Scenario.Limiter.Ask` : a call on one of several stores.

## Main results

* `Scenario.Limiter.Ready.step_take` : one call.
* `Scenario.Limiter.openAll_steps` : all calls.
-/

namespace RateLimit.Scenario.Limiter

/-- A configuration that is accepted, with what it resolves to. -/
structure Accepted where
  config : Config
  limits : Limits
  settings : PoolSettings
  limits_eq : config.limits = .ok limits
  settings_eq : config.pool = .ok settings

/-- A call on one of some stores, at a time that a 64-bit word can count. -/
structure Ask (accepted : List Accepted) where
  place : Fin accepted.length
  key : String
  moment : Moment
  /-- The time in nanoseconds since the epoch. -/
  now : Nat
  now_eq : moment.nanos? = .ok now

variable {α : Type} {accepted : List Accepted}

/-- What happens in the scenario. -/
def Ask.change (ask : Ask accepted) : Nat × Change :=
  (ask.place, .take ask.key ask.moment)

/-- What the buckets get to know of a call: its key, the limits of its store, and its time. -/
def Ask.call (ask : Ask accepted) : String × Bucket.Call :=
  (ask.key, ⟨accepted[ask.place].limits, ask.now⟩)

/-- What a call comes to that has got a verdict. -/
def Ask.outcome [Quantity α] (ask : Ask accepted) (verdict : Verdict α) : Outcome :=
  .taken (verdict.report accepted[ask.place].limits accepted[ask.place].config.failureMode)

/-- What calls come to that have got verdicts. -/
def outcomes [Quantity α] (asks : List (Ask accepted)) (verdicts : List (Verdict α)) :
    List (Option Outcome) :=
  List.zipWith (fun ask verdict => some (ask.outcome verdict)) asks verdicts

/-- A call whose verdict has natural numbers of less than 64 bits is answered with them. -/
theorem Ask.outcome_natCast (ask : Ask accepted) {remaining reset : Nat}
    (hremaining : remaining < 2 ^ 63) (hreset : reset < 2 ^ 63) (allowed : Bool) :
    ask.outcome ⟨(remaining : Rat), (reset : Rat), allowed⟩ =
      .taken (some ⟨accepted[ask.place].limits.tokens, remaining, reset, allowed⟩) := by
  rw [outcome, Verdict.report_natCast _ _ hremaining hreset]

section Outcomes

variable [Quantity α] (asks : List (Ask accepted))

theorem outcomes_cons (ask : Ask accepted) (verdict : Verdict α) (verdicts : List (Verdict α)) :
    outcomes (ask :: asks) (verdict :: verdicts) =
      some (ask.outcome verdict) :: outcomes asks verdicts :=
  rfl

theorem callsOn_map_call (key : String) : callsOn key (asks.map Ask.call) =
    (asks.filter fun ask => ask.key = key).map fun ask => ask.call.2 := by
  rw [callsOn, List.filter_map, List.map_map]
  rfl

/-- What the calls on a key come to. -/
theorem answersOn_outcomes (key : String) (verdicts : List (Verdict α)) :
    answersOn key (asks.map Ask.call) (outcomes asks verdicts) =
      outcomes (asks.filter fun ask => ask.key = key)
        (answersOn key (asks.map Ask.call) verdicts) := by
  induction asks generalizing verdicts with
  | nil => rfl
  | cons ask asks ih =>
      cases verdicts with
      | nil => simp [outcomes, answersOn]
      | cons verdict verdicts =>
          rw [outcomes_cons, List.map_cons, Ask.call]
          by_cases hkey : ask.key = key
          · subst hkey
            rw [answersOn_cons_self, answersOn_cons_self, ih, List.filter_cons_of_pos (by simp),
              outcomes_cons]
          · rw [answersOn_cons_of_ne hkey, answersOn_cons_of_ne hkey, ih,
              List.filter_cons_of_neg (by simpa using hkey)]

end Outcomes

/-! ### Stores that are ready -/

/-- The stores of a scenario, one for each configuration, are ready on the server. -/
structure Ready (opened : List Accepted) (s : State α) : Prop where
  length : s.stores.length = opened.length
  store {place : Nat} {accepted : Accepted} (h : opened[place]? = some accepted) :
    ∃ store, s.stores[place]? = some (some store) ∧ store.Ready s.server place ∧
      store.limits = accepted.limits ∧ store.failureMode = accepted.config.failureMode

section Ready

variable {opened : List Accepted} {s : State α} {server : Server α}

/-- Stores stay ready if the server's ends of their connections are as before, and if it lets the
same clients in. -/
theorem Ready.congr (h : Ready opened s)
    (hview : ∀ client dial, client < s.stores.length →
      server.view (client, dial) = s.server.view (client, dial))
    (hadmits : server.state.admits = s.server.state.admits) : Ready opened ⟨s.stores, server⟩ where
  length := h.length
  store hplace := by
    obtain ⟨store, hstore, hready, hrest⟩ := h.store hplace
    have hlt := (List.getElem?_eq_some_iff.mp hstore).1
    exact ⟨store, hstore, hready.congr (fun dial => hview _ dial hlt) (hadmits ▸ hready.admits),
      hrest⟩

/-- One more store is ready. -/
theorem Ready.concat (h : Ready opened s) {accepted : Accepted} {store : RateLimit.Store}
    (hready : store.Ready s.server s.stores.length) (hlimits : store.limits = accepted.limits)
    (hfailure : store.failureMode = accepted.config.failureMode) :
    Ready (opened ++ [accepted]) ⟨s.stores ++ [some store], s.server⟩ where
  length := by rw [List.length_append, List.length_append, h.length]; rfl
  store {place accepted'} hplace := by
    rcases Nat.lt_or_ge place opened.length with hlt | hge
    · rw [List.getElem?_append_left hlt] at hplace
      rw [List.getElem?_append_left (h.length ▸ hlt)]
      exact h.store hplace
    · rw [List.getElem?_append_right hge, List.getElem?_singleton] at hplace
      obtain ⟨hplace, rfl⟩ : place - opened.length = 0 ∧ accepted = accepted' := by
        simpa using hplace
      obtain rfl : place = s.stores.length := by rw [h.length]; omega
      exact ⟨store, List.getElem?_concat_length, hready, hlimits, hfailure⟩

end Ready

variable [Quantity α] [Add α] [Sub α] [Mul α] [Div α] [LT α] [LE α] [DecidableLT α] [DecidableLE α]

/-- A call at a store that is ready is one step of the bucket of its key. -/
theorem Ready.step_take {s : State α} (h : Ready accepted s)
    (hmode : s.server.state.mode = .working) (ask : Ask accepted) :
    let stepped := s.server.state.buckets.take ask.call.2.limits (Bytes.ofString ask.call.1)
      ask.call.2.now
    let told := step s ask.change.1 ask.change.2
    told.1.map Report.outcome = some (ask.outcome stepped.1) ∧ Ready accepted told.2 ∧
      told.2.server.state =
        { s.server.state with buckets := stepped.2, runs := s.server.state.runs + 1 } := by
  intro stepped told
  obtain ⟨store, hstore, hready, hlimits, hfailure⟩ :=
    h.store (List.getElem?_eq_getElem ask.place.isLt)
  let taken := store.takeOn (network ask.place) s.server ask.key ask.moment
  have htaken : taken.store = store ∧
      taken.decision = some (stepped.1.report accepted[ask.place].limits
        accepted[ask.place].config.failureMode) ∧
      taken.network.state =
        { s.server.state with buckets := stepped.2, runs := s.server.state.runs + 1 } ∧
      taken.network.view = s.server.view := by
    have htaken := hready.takeOn hmode ask.key ask.now_eq
    rw [hlimits, hfailure] at htaken
    exact htaken
  obtain ⟨hsame, hdecision, hstate, hview⟩ := htaken
  have htold : told.1.map Report.outcome = some (.taken taken.decision) ∧
      told.2 = ⟨s.stores.set ask.place (some taken.store), taken.network⟩ := by
    change (step s ask.place _).1.map Report.outcome = _ ∧ (step s ask.place _).2 = _
    rw [step, hstore]
    exact ⟨rfl, rfl⟩
  have hstores : s.stores.set ask.place (some taken.store) = s.stores := by
    obtain ⟨hlt, hget⟩ := List.getElem?_eq_some_iff.mp hstore
    rw [hsame, ← hget, List.set_getElem_self]
  rw [htold.1, htold.2, hstores, hdecision]
  exact ⟨rfl, h.congr (fun _ _ _ => congrFun hview _) (by rw [hstate]; rfl), hstate⟩

/-- **Calls on stores that are ready** are steps of the buckets, one for each call. -/
theorem Ready.steps_asks {s : State α} (h : Ready accepted s)
    (hmode : s.server.state.mode = .working) (asks : List (Ask accepted)) :
    let served := s.server.state.buckets.serve (asks.map Ask.call)
    let told := steps s (asks.map Ask.change)
    told.1.map (Option.map Report.outcome) = outcomes asks served.1 ∧
      told.2.server.state =
        { s.server.state with
          buckets := served.2
          runs := s.server.state.runs + asks.length } := by
  induction asks generalizing s with
  | nil => exact ⟨rfl, rfl⟩
  | cons ask asks ih =>
      obtain ⟨houtcome, hready, hstate⟩ := h.step_take hmode ask
      obtain ⟨hrest, hlast⟩ := ih hready (by rw [hstate, hmode])
      rw [hstate] at hrest hlast
      refine ⟨congrArg₂ List.cons houtcome hrest, hlast.trans ?_⟩
      rw [List.length_cons, Nat.add_assoc, Nat.add_comm 1]
      rfl

/-- **Stores are opened** one after the other, each ready on the server as soon as it is open and
from then on.  The state of the server stays as it was. -/
theorem Ready.openAll_append {opened : List Accepted} {s : State α} (h : Ready opened s)
    (hrefusing : s.server.state.refusing = false) (more : List Accepted)
    (hadmits : ∀ accepted ∈ more, s.server.state.admits accepted.config.credentials) :
    Ready (opened ++ more) (openAll (more.map Accepted.config) s).2 ∧
      (openAll (more.map Accepted.config) s).2.server.state = s.server.state := by
  induction more generalizing opened s with
  | nil => exact ⟨(List.append_nil opened).symm ▸ h, rfl⟩
  | cons accepted more ih =>
      obtain ⟨store, server, made, hopened, hready, hlimits, hfailure, hstate, hview⟩ :=
        Store.openOn_ready accepted.limits_eq accepted.settings_eq hrefusing
          (hadmits accepted List.mem_cons_self) s.stores.length
      have hfirst := (h.congr (fun client dial hlt => hview client dial hlt.ne)
        (by rw [hstate])).concat hready hlimits hfailure
      obtain ⟨hrest, hlast⟩ := ih hfirst (by rw [hstate, hrefusing]) (by
        rw [hstate]
        exact fun other hother => hadmits other (List.mem_cons_of_mem _ hother))
      have hall : (openAll ((accepted :: more).map Accepted.config) s).2 =
          (openAll (more.map Accepted.config) ⟨s.stores ++ [some store], server⟩).2 := by
        rw [List.map_cons, openAll]
        dsimp only
        rw [network, hopened]
      rw [hall, hlast]
      exact ⟨List.append_cons .. ▸ hrest, hstate⟩

/-! ### All calls -/

/-- **Stores that share a server are its buckets.** Stores of any configurations are opened on a
server that works and admits them, and callers ask them for tokens, in any order.  Every call is one
run of the script, with the limits of its store, on the bucket of its key and at its time, and it is
answered with what that run reports.  The answers to the calls on a key, and the bucket that they
leave, come from the bucket that they found and from these calls alone, whichever stores were
asked. -/
theorem openAll_steps {server : Server α} (hmode : server.state.mode = .working)
    (hrefusing : server.state.refusing = false)
    (hadmits : ∀ one ∈ accepted, server.state.admits one.config.credentials)
    (asks : List (Ask accepted)) :
    let opened := (openAll (accepted.map Accepted.config) ⟨[], server⟩).2
    let told := steps opened (asks.map Ask.change)
    let answers := told.1.map (Option.map Report.outcome)
    let calls := asks.map Ask.call
    let served := server.state.buckets.serve calls
    answers = outcomes asks served.1 ∧
      told.2.server.state =
        { server.state with
          buckets := served.2
          runs := server.state.runs + asks.length } ∧
      ∀ key,
        let own := asks.filter fun ask => ask.key = key
        let alone := (server.state.buckets.get (Bytes.ofString key)).serve
          (own.map fun ask => ask.call.2)
        answersOn key calls answers = outcomes own alone.1 ∧
          served.2.get (Bytes.ofString key) = alone.2 := by
  have hnone : Ready [] (⟨[], server⟩ : State α) := ⟨rfl, fun hplace => nomatch hplace⟩
  obtain ⟨hready, hstate⟩ := hnone.openAll_append hrefusing accepted hadmits
  obtain ⟨hanswers, hfinal⟩ := hready.steps_asks (by rw [hstate, hmode]) asks
  rw [hstate] at hanswers hfinal
  refine ⟨hanswers, hfinal, fun key => ?_⟩
  have halone := server.state.buckets.serve_key (asks.map Ask.call) key
  rw [callsOn_map_call] at halone
  intro own alone
  rw [show alone = _ from halone, hanswers, answersOn_outcomes]
  exact ⟨rfl, rfl⟩

/-- Two stores on one server: the first gives two tokens in a second and presents credentials, the
second gives one and presents none.  Of four calls at one time three are on one key.  They take its
two tokens through a store each, and the third is denied. -/
theorem openAll_steps_two :
    let app : Credentials := ⟨some "app", "secret"⟩
    let server : Server Rat := { state := { accounts := [app] } }
    let configs : List Config := [
      { tokens := 2, endpoint := some .supplied, credentials := some app },
      { endpoint := some .supplied }]
    let moment : Moment := .after (.ofNanos 50)
    let todo : List (Nat × Change) := [
      (0, .take "k" moment), (1, .take "j" moment), (1, .take "k" moment), (0, .take "k" moment)]
    let told := steps (openAll configs ⟨[], server⟩).2 todo
    told.2.server.state.runs = 4 ∧
      told.1.map (Option.map Report.outcome) = [
        some (.taken (some ⟨2, 1, 500000050, true⟩)),
        some (.taken (some ⟨1, 0, 1000000050, true⟩)),
        some (.taken (some ⟨1, 0, 1000000050, true⟩)),
        some (.taken (some ⟨2, 0, 1000000050, false⟩))] := by
  intro app server configs moment todo
  generalize htold : steps (openAll configs ⟨[], server⟩).2 todo = told
  let double : Limits := ⟨2, .ofSecs 1, 10, by decide, by decide, by decide⟩
  let single : Limits := ⟨1, .ofSecs 1, 10, by decide, by decide, by decide⟩
  obtain ⟨first, hfirst, hdouble⟩ : ∃ accepted : Accepted,
      accepted.config = { tokens := 2, endpoint := some .supplied, credentials := some app } ∧
        accepted.limits = double :=
    ⟨⟨_, double, _, Config.limits_eq_ok rfl (by decide) (by decide),
      Config.pool_eq_ok_iff.mpr ⟨rfl, by decide, rfl⟩⟩, rfl, rfl⟩
  obtain ⟨second, hsecond, hsingle⟩ : ∃ accepted : Accepted,
      accepted.config = { endpoint := some .supplied } ∧ accepted.limits = single :=
    ⟨⟨_, single, _, Config.limits_eq_ok rfl (by decide) (by decide),
      Config.pool_eq_ok_iff.mpr ⟨rfl, by decide, rfl⟩⟩, rfl, rfl⟩
  let ask (place : Fin 2) (key : String) : Ask [first, second] :=
    ⟨place, key, moment, 50, by decide⟩
  have hadmits : ∀ one ∈ [first, second], server.state.admits one.config.credentials := by
    intro one hone
    rcases List.mem_pair.mp hone with rfl | rfl
    · rw [hfirst]
      exact List.mem_singleton_self app
    · rw [hsecond]
      rfl
  let asks := [ask 0 "k", ask 1 "j", ask 1 "k", ask 0 "k"]
  have hconfigs : [first, second].map Accepted.config = configs := by
    rw [List.map_cons, List.map_singleton, hfirst, hsecond]
  have htodo : asks.map Ask.change = todo := rfl
  have hrun := openAll_steps (rfl : server.state.mode = .working) rfl hadmits asks
  rw [hconfigs, htodo] at hrun
  obtain ⟨hanswers, hfinal, -⟩ := hrun
  rw [htold] at hanswers hfinal
  change told.2.server.state.runs = 4 ∧ told.1.map _ = _
  rw [hfinal, hanswers]
  refine ⟨rfl, ?_⟩
  have hcalls : asks.map Ask.call =
      [("k", ⟨double, 50⟩), ("j", ⟨single, 50⟩), ("k", ⟨single, 50⟩), ("k", ⟨double, 50⟩)] := by
    rw [← hdouble, ← hsingle]
    rfl
  have htwo (key : String) : [first, second][(ask 0 key).place].limits.tokens = 2 :=
    congrArg Limits.tokens hdouble
  have hone (key : String) : [first, second][(ask 1 key).place].limits.tokens = 1 :=
    congrArg Limits.tokens hsingle
  rw [hcalls, Buckets.serve_two_keys, outcomes_cons, outcomes_cons, outcomes_cons, outcomes_cons]
  simp (disch := decide) only [Ask.outcome_natCast, htwo, hone]
  rfl

end RateLimit.Scenario.Limiter
