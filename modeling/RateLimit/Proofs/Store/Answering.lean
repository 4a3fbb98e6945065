import RateLimit.Proofs.Store.OwnAnswers
import RateLimit.Proofs.Store.Trails

/-!
# What a call can do and be answered

A call at a time that cannot be counted does nothing, and the failure mode answers it.  Every other
call sends its command once at most, and is answered from the reply if it got a connection, the
command was passed on and a reply came that holds an answer of the script; in every other case the
failure mode answers it.  Nothing is assumed of the transports and of the server, and the call may
be interleaved with all that can happen to the store.

## Main definitions

* `Moment.sinceEpoch` : how far a moment is from the epoch.
* `Store.Told` : how the trail of a call and its answer agree.

## Main results

* `Store.Follows.told` : the trail of a call and its answer agree in every run.
* `Store.answers_of_trail` : what a call can do and be answered.
-/

namespace RateLimit

/-! ### Moments -/

/-- How many nanoseconds a moment is after the epoch. -/
def Moment.sinceEpoch : Moment → Int
  | .after span => span.toNanos
  | .before span => -span.toNanos

theorem Moment.nanos?_eq_error {moment : Moment}
    (h : moment.sinceEpoch < 0 ∨ UInt64.size ≤ moment.sinceEpoch) :
    ∃ fault, moment.nanos? = .error fault := by
  cases moment with
  | after span =>
      have hlate : UInt64.size ≤ span.toNanos := by
        rcases h with hearly | hlate
        · exact (Int.not_lt.2 (Int.natCast_nonneg span.toNanos) hearly).elim
        · exact Int.ofNat_le.1 hlate
      exact ⟨_, if_neg (Nat.not_lt.2 hlate)⟩
  | before span =>
      have hearly : span.toNanos ≠ 0 := by
        have hsize : (0 : Int) < UInt64.size := by decide
        rcases h with hearly | hlate
        · change -(span.toNanos : Int) < 0 at hearly
          omega
        · change (UInt64.size : Int) ≤ -(span.toNanos : Int) at hlate
          omega
      exact ⟨_, if_neg hearly⟩

theorem Moment.nanos?_eq_ok {moment : Moment} {now : Nat} (h : moment.sinceEpoch = now)
    (hlt : now < UInt64.size) : moment.nanos? = .ok now := by
  cases moment with
  | after span =>
      obtain rfl : span.toNanos = now := Int.ofNat.inj h
      exact if_pos hlt
  | before span =>
      have hzero : span.toNanos = 0 ∧ now = 0 := by
        change -(span.toNanos : Int) = now at h
        omega
      obtain ⟨hspan, rfl⟩ := hzero
      exact if_pos hspan

namespace Store

variable {s : Store} {name : Nat} {take : Take} {t : Trail} {action : Action}
  {actions : List Action}

/-- How the trail of a call in a run and its answer agree. -/
structure Told (s : Store) (name : Nat) (take : Take) (t : Trail) (actions : List Action) :
    Prop where
  sends : (s.trail name t actions).Sends s.system.credentials
    (s.script.call take.key take.now).bytes
  /-- A call that got an answer of the script is answered with it. -/
  answered : ∀ a, (s.trail name t actions).Answered (s.script.call take.key take.now).bytes a →
    s.course name actions = .answered ⟨s.limits.tokens, a.remaining, a.reset, a.allowed⟩
  /-- Every other call is answered by the failure mode. -/
  failed : ∀ decision, s.course name actions = .answered decision →
    (∀ a, ¬(s.trail name t actions).Answered (s.script.call take.key take.now).bytes a) →
    decision = s.failureMode.outcome
  /-- The failure mode reports that it answers. -/
  reported : ∀ decision, s.course name actions = .answered decision →
    (s.FallsBack name take.key actions ↔
      ∀ a, ¬(s.trail name t actions).Answered (s.script.call take.key take.now).bytes a)

theorem trail_of_answer (hanswer : s.answer? name action ≠ none) :
    s.trail name t (action :: actions) = s.passed name t action := by
  rw [trail, if_pos (.inr hanswer)]

theorem trail_of_none (hdrop : action ≠ .giveUp name) (hanswer : s.answer? name action = none) :
    s.trail name t (action :: actions) = (s.step action).1.trail name
      ((s.passed name t action).turn ((s.step action).1.system.role? name)) actions := by
  rw [trail, if_neg (by simp [hdrop, hanswer])]

theorem fallsBack_of_answer (hanswer : s.answer? name action ≠ none) (key : String) :
    s.FallsBack name key (action :: actions) ↔
      ∃ error, .warned (.unavailable key error s.failureMode) ∈ (s.step action).2 := by
  rw [FallsBack, if_pos hanswer]

theorem fallsBack_of_none (hdrop : action ≠ .giveUp name) (hanswer : s.answer? name action = none)
    (key : String) :
    s.FallsBack name key (action :: actions) ↔
      (s.step action).1.FallsBack name key actions := by
  rw [FallsBack, if_neg (by simp [hanswer])]
  exact and_iff_right hdrop

/-- A call that goes on is told what it is told later. -/
theorem Told.cons (hdrop : action ≠ .giveUp name) (hanswer : s.answer? name action = none)
    (h : (s.step action).1.Told name take
      ((s.passed name t action).turn ((s.step action).1.system.role? name)) actions) :
    s.Told name take t (action :: actions) := by
  have hretains := s.retains_step action
  have hagrees := s.agrees_step action
  obtain ⟨hsends, hanswered, hfailed, hreported⟩ := h
  rw [hretains.credentials, hretains.script] at hsends
  rw [hretains.script, hagrees.limits] at hanswered
  rw [hretains.script, hagrees.mode] at hfailed
  rw [hretains.script] at hreported
  constructor <;> rw [trail_of_none hdrop hanswer]
  · exact hsends
  · rw [course_of_none hdrop hanswer]
    exact hanswered
  · rw [course_of_none hdrop hanswer]
    exact hfailed
  · rw [course_of_none hdrop hanswer, fallsBack_of_none hdrop hanswer]
    exact hreported

/-- What a call is told in a run that begins with its turn. -/
theorem Turned.told (h : s.Turned name take (s.passed name t action) (s.step action))
    (hdrop : action ≠ .giveUp name)
    (hlater : ∀ t', (s.step action).1.Follows name take t' →
      (s.step action).1.Told name take t' actions) :
    s.Told name take t (action :: actions) := by
  generalize hafter : s.step action = after at h
  cases h with
  | @goes after made hfollows =>
      have hanswer : s.answer? name action = none := by
        rw [answer?, hafter]
        exact findSome?_answer?_pool name made
      refine .cons hdrop hanswer (hlater _ ?_)
      rw [hafter]
      exact hfollows
  | @failed after made error hsends hnone =>
      have hanswer : s.answer? name action = some s.failureMode.outcome := by
        rw [answer?, hafter, List.findSome?_append, findSome?_answer?_pool,
          findSome?_answer?_failed, if_pos rfl, Option.none_or]
      have hsome : s.answer? name action ≠ none := by
        rw [hanswer]
        exact Option.some_ne_none _
      constructor <;> rw [trail_of_answer hsome]
      · exact hsends
      · exact fun a ha => (hnone a ha).elim
      · intro decision hcourse _
        rw [course_of_answer hdrop hanswer] at hcourse
        cases hcourse
        rfl
      · intro decision _
        rw [fallsBack_of_answer hsome, hafter]
        refine iff_of_true ⟨error, List.mem_append_right _ ?_⟩ hnone
        exact List.mem_cons_self
  | @replied after made a hsends ha =>
      have hanswer : s.answer? name action =
          some ⟨s.limits.tokens, a.remaining, a.reset, a.allowed⟩ := by
        rw [answer?, hafter, List.findSome?_append, findSome?_answer?_pool, Option.none_or]
        simp [Notice.answer?]
      have hsome : s.answer? name action ≠ none := by
        rw [hanswer]
        exact Option.some_ne_none _
      constructor <;> rw [trail_of_answer hsome]
      · exact hsends
      · intro a' ha'
        rw [course_of_answer hdrop hanswer, ha.unique ha']
      · exact fun decision _ hnone => (hnone a ha).elim
      · intro decision _
        rw [fallsBack_of_answer hsome, hafter]
        refine iff_of_false ?_ fun hnone => hnone a ha
        rintro ⟨error, hmem⟩
        simp at hmem

/-- What is known of the connection of a call stays as it is. -/
theorem Follows.turn_eq (h : s.Follows name take t) : t.turn (s.system.role? name) = t := by
  cases h with
  | opening h =>
      rw [h.role]
      rfl
  | calling h =>
      rw [h.role]
      rfl

theorem passed_of_ne (hname : action.name? ≠ some name) (s : Store) (t : Trail) :
    s.passed name t action = t := by
  cases action with
  | event other event => exact if_neg fun heq => hname (congrArg some heq)
  | take | giveUp | close => rfl

/-- A call whose caller gives up is not answered. -/
theorem Follows.told_giveUp (h : s.Follows name take t) (actions : List Action) :
    s.Told name take t (.giveUp name :: actions) := by
  have htrail : s.trail name t (.giveUp name :: actions) = t := by
    rw [trail, if_pos (.inl rfl)]
    rfl
  have hcourse (decision : Decision) :
      s.course name (.giveUp name :: actions) ≠ .answered decision := by
    rw [course_giveUp]
    exact Course.noConfusion
  constructor <;> rw [htrail]
  · exact h.sends
  · exact fun a ha => (h.not_answered a ha).elim
  · exact fun decision hanswered => (hcourse decision hanswered).elim
  · exact fun decision hanswered => (hcourse decision hanswered).elim

/-- The trail of a call in progress and its answer agree in every run. -/
theorem Follows.told (h : s.Follows name take t) (actions : List Action) :
    s.Told name take t actions := by
  induction actions generalizing s t with
  | nil =>
      exact {
        sends := h.sends
        answered := fun a ha => (h.not_answered a ha).elim
        failed := fun _ hcourse => by cases hcourse
        reported := fun _ hcourse => by cases hcourse }
  | cons action actions ih =>
      by_cases hname : action.name? = some name
      · cases action with
        | take other key moment =>
            cases hname
            obtain ⟨role, hcall⟩ := h.inProgress
            have hstep := step_take_of_some hcall.take key moment
            have hanswer : s.answer? name (.take name key moment) = none := by
              rw [answer?, hstep]
              rfl
            refine .cons Action.noConfusion hanswer ?_
            rw [hstep]
            exact h.turn_eq.symm ▸ ih h
        | event other event =>
            cases hname
            exact (h.turned_event event).told Action.noConfusion fun _ => ih
        | giveUp other =>
            cases hname
            exact h.told_giveUp actions
        | close => cases hname
      · have hspared := h.spared hname
        refine .cons (fun heq => hname (heq ▸ rfl)) (spares_step hname s).answer ?_
        rw [passed_of_ne hname, hspared.turn_eq]
        exact ih hspared

/-! ### Calls -/

theorem step_take_of_open (hfree : s.take? name = none) (hopen : s.closed = false)
    {moment : Moment} {fault : ConfigFault} (hnow : moment.nanos? = .error fault) (key : String) :
    s.step (.take name key moment) = (s, s.failed name key (.config fault)) := by
  rw [Store.step, if_neg (by rw [hfree]; exact Bool.false_ne_true), begin,
    if_neg (by rw [hopen]; exact Bool.false_ne_true), hnow]

/-- The limit is zero in the answers of the failure mode, and in no others. -/
theorem Told.limit_eq_zero_iff (h : s.Told name take t actions) {decision : Decision}
    (hcourse : s.course name actions = .answered decision) :
    decision.limit = 0 ↔ s.FallsBack name take.key actions := by
  rw [h.reported decision hcourse]
  constructor
  · intro hzero a ha
    cases hcourse.symm.trans (h.answered a ha)
    exact Nat.ne_of_gt s.limits.tokens_pos hzero
  · intro hnone
    rw [h.failed decision hcourse hnone]
    exact s.failureMode.limit_outcome

/-- A call is answered with an answer of the script exactly if it got that answer. -/
theorem Told.course_eq_iff (h : s.Told name take t actions) (a : Answer) :
    s.course name actions = .answered ⟨s.limits.tokens, a.remaining, a.reset, a.allowed⟩ ↔
      (s.trail name t actions).Answered (s.script.call take.key take.now).bytes a := by
  refine ⟨fun hcourse => ?_, h.answered a⟩
  obtain ⟨remaining, reset, allowed⟩ := a
  by_contra hnot
  have hnone (b : Answer) :
      ¬(s.trail name t actions).Answered (s.script.call take.key take.now).bytes b := by
    revert b
    rintro ⟨_, _, _⟩ hother
    cases hcourse.symm.trans (h.answered _ hother)
    exact hnot hother
  have hzero := s.failureMode.limit_outcome
  rw [← h.failed _ hcourse hnone] at hzero
  exact Nat.ne_of_gt s.limits.tokens_pos hzero

/-- **What a call can do and be answered.** Of whatever store somebody asks for a token under a name
that is free, and whatever happens from then on.  A store that is closed denies.  If the moment is
before the epoch, or so late that 64 bits do not hold it, nothing happens but that the failure mode
answers and the failure is reported.  Otherwise what passes on behalf of the call is what presents
the credentials, and the one command that runs the script for the key at that very nanosecond, each
once at most, and the latter only once the call has a connection; the call is answered from an
answer of the script exactly if it got a connection, the command was passed on, and a complete reply
came that holds that answer; and every other answer is that of the failure mode.  The limit in an
answer is zero exactly if the store was closed or the failure mode has answered. -/
theorem answers_of_trail (s : Store) (hfree : s.take? name = none) (key : String)
    (moment : Moment) (later : List Action) :
    let actions := .take name key moment :: later
    let course := s.course name actions
    let trail := s.trail name {} actions
    (s.closed = true → s.step (.take name key moment) = (s, [.answered name ⟨0, 0, 0, false⟩])) ∧
      (s.closed = false → moment.sinceEpoch < 0 ∨ UInt64.size ≤ moment.sinceEpoch →
        ∃ fault, s.step (.take name key moment) =
          (s, [.warned (.unavailable key (.config fault) s.failureMode),
            .answered name s.failureMode.outcome])) ∧
      (s.closed = false → ∀ now : Nat, moment.sinceEpoch = now → now < UInt64.size →
        let command := (Command.ofTexts ["EVAL", s.script.body, "1", key, toString now]).bytes
        trail.Sends s.system.credentials command ∧
          (∀ a : Answer, course = .answered ⟨s.limits.tokens, a.remaining, a.reset, a.allowed⟩ ↔
            trail.Answered command a) ∧
          ∀ decision, course = .answered decision → (∀ a, ¬trail.Answered command a) →
            decision = s.failureMode.outcome) ∧
      ∀ decision, course = .answered decision →
        (decision.limit = 0 ↔ s.closed = true ∨ s.FallsBack name key actions) := by
  intro actions course trail
  have hdrop : Action.take name key moment ≠ .giveUp name := Action.noConfusion
  have htold (hopen : s.closed = false) {now : Nat} (hnow : moment.nanos? = .ok now) :
      s.Told name ⟨key, now⟩ {} actions :=
    (turned_take hfree hopen hnow).told hdrop fun _ h => h.told later
  refine ⟨fun hclosed => step_take_of_closed hclosed hfree key moment, fun hopen houtside => ?_,
    fun hopen now hnow hlt => ?_, fun decision hcourse => ?_⟩
  · obtain ⟨fault, hfault⟩ := Moment.nanos?_eq_error houtside
    exact ⟨fault, step_take_of_open hfree hopen hfault key⟩
  · have h := htold hopen (Moment.nanos?_eq_ok hnow hlt)
    exact ⟨h.sends, h.course_eq_iff, h.failed⟩
  · cases hclosed : s.closed with
    | true =>
        have hanswer : s.answer? name (.take name key moment) = some ⟨0, 0, 0, false⟩ := by
          rw [answer?, step_take_of_closed hclosed hfree]
          simp [Notice.answer?]
        cases (course_of_answer hdrop hanswer).symm.trans hcourse
        exact iff_of_true rfl (.inl rfl)
    | false =>
        rw [or_iff_right Bool.false_ne_true]
        cases hnow : moment.nanos? with
        | ok now => exact (htold hclosed hnow).limit_eq_zero_iff hcourse
        | error fault =>
            have hstep := step_take_of_open hfree hclosed hnow key
            have hanswer : s.answer? name (.take name key moment) = some s.failureMode.outcome := by
              rw [answer?, hstep, findSome?_answer?_failed, if_pos rfl]
            cases (course_of_answer hdrop hanswer).symm.trans hcourse
            refine iff_of_true s.failureMode.limit_outcome ?_
            rw [fallsBack_of_answer (by rw [hanswer]; exact Option.some_ne_none _), hstep]
            exact ⟨_, List.mem_cons_self⟩

/-- A store whose pool has one idle connection is asked for a token seven nanoseconds after the
epoch.  The command goes out and is passed on, and the reply comes that four tokens are left. -/
theorem answers_of_trail_granted :
    let limits : Limits := ⟨5, .ofNanos 30, 1, by decide, by decide, by decide⟩
    let s : Store := {
      limits
      script := .ofLimits limits
      failureMode := .failOpen
      system := { credentials := none, pool := ⟨1, [⟨0, {}⟩], 1, false⟩, dialed := 1 } }
    let command := (Command.ofTexts ["EVAL", s.script.body, "1", "a", toString 7]).bytes
    let actions := [.take 1 "a" (.after (.ofNanos 7)), .event 1 (.wrote command.length),
      .event 1 .flushed, .event 1 (.received (Reply.array
        [.integer 4, .integer 90, .integer 1]).encode)]
    s.take? 1 = none ∧ s.closed = false ∧ (Moment.after (.ofNanos 7)).sinceEpoch = (7 : Nat) ∧
      s.course 1 actions = .answered ⟨5, 4, 90, true⟩ ∧
      (s.trail 1 {} actions).Answered command ⟨4, 90, true⟩ ∧
      (s.trail 1 {} actions).request.commands = [command] ∧
      ¬s.FallsBack 1 "a" actions := by
  intro limits s command actions
  let granted : Reply := .array [.integer 4, .integer 90, .integer 1]
  have hread : (Reader.read {} granted.encode).1 = .complete granted [] :=
    Reader.fst_read_encode (by decide) (by decide)
  have hcalling : (s.step (.take 1 "a" (.after (.ofNanos 7)))).1.InProgress 1 ⟨"a", 7⟩
      (.calling 0 ⟨⟨[], true⟩, .request, .write command⟩) := ⟨rfl, rfl⟩
  have hcourse : s.course 1 actions = .answered ⟨5, 4, 90, true⟩ := by
    rw [course_of_none Action.noConfusion rfl]
    exact hcalling.course_of_reply (List.cons_ne_nil _ _) hread
  obtain ⟨-, -, hanswers, hlimit⟩ := s.answers_of_trail rfl "a" (.after (.ofNanos 7))
    [.event 1 (.wrote command.length), .event 1 .flushed, .event 1 (.received granted.encode)]
  obtain ⟨-, hiff, -⟩ := hanswers rfl 7 rfl (by decide)
  have hanswered : (s.trail 1 {} actions).Answered command ⟨4, 90, true⟩ := (hiff _).1 hcourse
  have hcommands : (s.trail 1 {} actions).request.commands = [command] := by
    obtain ⟨kept, reply, rest, -, hreplied, -⟩ := hanswered
    exact hreplied.commands
  refine ⟨rfl, rfl, rfl, hcourse, hanswered, hcommands, fun hfalls => ?_⟩
  cases (hlimit _ hcourse).2 (.inr hfalls)

end Store

end RateLimit
