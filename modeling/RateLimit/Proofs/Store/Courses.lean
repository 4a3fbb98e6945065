import RateLimit.Proofs.Store.Service

/-!
# The course of a call

A call in progress waits, is given up by its caller, or is answered, once.  Only what happens under
its own name concerns it.  A call that has a connection is answered with what comes of its request,
by the limits and the failure mode of the store and nothing else.

## Main definitions

* `Store.Course`, `Store.course` : how a call in progress fares in a run.
* `Store.Spares` : an action that does not concern a call.
* `Store.Agrees` : two stores with the same limits and failure mode.
* `Store.InProgress` : a call in progress.
* `Store.verdict` : the answer for the end of a request.

## Main results

* `Store.follow_induction` : what a call comes to after its turn.
* `Store.spares_step` : only what happens under its own name concerns a call.
* `Store.course_congr` : the course of a call that has a connection.
-/

namespace RateLimit

open Pool (System Turn)

namespace Store

/-- The name of the call that an action concerns. -/
def Action.name? : Action → Option Nat
  | .take name _ _ | .event name _ | .giveUp name => some name
  | .close => none

/-- The answer to the call under a name that a notice tells. -/
def Notice.answer? (name : Nat) : Notice → Option Decision
  | .answered other decision => if other = name then some decision else none
  | _ => none

/-- The answer that the call under a name gets in an action. -/
def answer? (s : Store) (name : Nat) (action : Action) : Option Decision :=
  (s.step action).2.findSome? (Notice.answer? name)

/-- How a call fares in a run. -/
inductive Course
  /-- It waits. -/
  | waiting
  /-- Its caller has given up. -/
  | dropped
  /-- It is answered. -/
  | answered (decision : Decision)
  deriving DecidableEq

/-- How the call in progress under a name fares in a run. -/
def course (s : Store) (name : Nat) : List Action → Course
  | [] => .waiting
  | action :: actions =>
      if action = .giveUp name then .dropped
      else
        match s.answer? name action with
        | some decision => .answered decision
        | none => (s.step action).1.course name actions

/-- The answer to a call whose request has ended. -/
def verdict (s : Store) (result : Result) : Decision :=
  match s.decide? result with
  | .ok decision => decision
  | .error _ => s.failureMode.outcome

variable {s : Store} {name other dial : Nat} {take : Take} {x x' : Exchange} {event : Event}
  {action : Action} {actions : List Action}

theorem course_of_answer (hdrop : action ≠ .giveUp name) {decision : Decision}
    (hanswer : s.answer? name action = some decision) :
    s.course name (action :: actions) = .answered decision := by
  rw [course, if_neg hdrop, hanswer]

theorem course_of_none (hdrop : action ≠ .giveUp name) (hanswer : s.answer? name action = none) :
    s.course name (action :: actions) = (s.step action).1.course name actions := by
  rw [course, if_neg hdrop, hanswer]

theorem run_cons (s : Store) (action : Action) (actions : List Action) :
    s.run (action :: actions) = (((s.step action).1.run actions).1,
      (s.step action).2 ++ ((s.step action).1.run actions).2) := rfl

theorem course_append (hwaiting : s.course name actions = .waiting) (more : List Action) :
    s.course name (actions ++ more) = (s.run actions).1.course name more := by
  induction actions generalizing s with
  | nil => rfl
  | cons action actions ih =>
      by_cases hdrop : action = .giveUp name
      · rw [course, if_pos hdrop] at hwaiting
        cases hwaiting
      · cases hanswer : s.answer? name action with
        | some decision =>
            rw [course_of_answer hdrop hanswer] at hwaiting
            cases hwaiting
        | none =>
            rw [course_of_none hdrop hanswer] at hwaiting
            rw [List.cons_append, course_of_none hdrop hanswer]
            exact ih hwaiting

/-- After its turn a call is concluded, perhaps once it has a connection and has made its request.
-/
theorem follow_induction {motive : Store × List Notice → Prop} {result : System × Turn}
    (conclude : ∀ t turn, (∀ other, other ≠ name → t.role? other = result.1.role? other) →
      motive (conclude { s with system := t } name take turn))
    (acquired : ∀ after dial, motive after →
      motive (after.1, .pool (.acquired name dial) :: after.2)) :
    motive (s.follow name take result) := by
  obtain ⟨t, turn⟩ := result
  cases turn with
  | acquired dial =>
      exact acquired _ dial <| conclude _ _ fun other hne => System.role?_call_of_ne hne t _
  | pending => exact conclude t .pending fun _ _ => rfl
  | dialing dial => exact conclude t (.dialing dial) fun _ _ => rfl
  | refused error => exact conclude t (.refused error) fun _ _ => rfl
  | ended result => exact conclude t (.ended result) fun _ _ => rfl

/-! ### What does not concern a call -/

/-- A step of a store after which a call is as before and has not been answered. -/
structure Spares (s : Store) (name : Nat) (after : Store × List Notice) : Prop where
  take : after.1.take? name = s.take? name
  role : after.1.system.role? name = s.system.role? name
  answer : after.2.findSome? (Notice.answer? name) = none

theorem findSome?_answer?_pool (name : Nat) (notices : List Pool.Notice) :
    (notices.map Notice.pool).findSome? (Notice.answer? name) = none := by
  rw [List.findSome?_eq_none_iff]
  intro notice hnotice
  obtain ⟨about, -, rfl⟩ := List.mem_map.1 hnotice
  rfl

theorem findSome?_answer?_failed (s : Store) (name other : Nat) (key : String) (error : Error) :
    (s.failed name key error).findSome? (Notice.answer? other) =
      if name = other then some s.failureMode.outcome else none := by
  rw [failed, List.findSome?_cons, List.findSome?_cons]
  by_cases hname : name = other
  · simp [Notice.answer?, hname]
  · simp [Notice.answer?, hname]

theorem findSome?_answer?_ended (s : Store) (name other : Nat) (take : Take) (result : Result) :
    (s.conclude name take (.ended result)).2.findSome? (Notice.answer? other) =
      if name = other then some (s.verdict result) else none := by
  rw [conclude, verdict]
  dsimp only
  rw [List.findSome?_cons]
  cases s.decide? result with
  | ok decision =>
      change List.findSome? (Notice.answer? other) [.answered name decision] = _
      by_cases hname : name = other <;> simp [Notice.answer?, hname]
  | error error => exact s.findSome?_answer?_failed name other take.key error

theorem take?_forget_of_ne (hne : other ≠ name) : (s.forget name).take? other = s.take? other := by
  rw [take?_forget, if_neg hne]

/-- What a call comes to after its turn does not concern the others. -/
theorem spares_conclude (hne : other ≠ name) (s : Store) (take : Take) (turn : Turn) :
    s.Spares other (s.conclude name take turn) := by
  cases turn with
  | pending => exact ⟨rfl, rfl, rfl⟩
  | dialing => exact ⟨rfl, rfl, rfl⟩
  | acquired => exact ⟨rfl, rfl, rfl⟩
  | refused error =>
      refine ⟨take?_forget_of_ne hne, rfl, ?_⟩
      change (s.failed name take.key error).findSome? (Notice.answer? other) = none
      rw [findSome?_answer?_failed, if_neg hne.symm]
  | ended result =>
      refine ⟨take?_forget_of_ne hne, System.role?_release_of_ne hne s.system, ?_⟩
      rw [findSome?_answer?_ended, if_neg hne.symm]

theorem spares_follow (hne : other ≠ name) (s : Store) (take : Take) {result : System × Turn}
    (hrole : result.1.role? other = s.system.role? other) :
    s.Spares other (s.follow name take result) := by
  refine follow_induction (motive := s.Spares other) (fun t turn hothers => ?_)
    fun after dial h => ?_
  · have h := spares_conclude hne { s with system := t } take turn
    exact ⟨h.take, h.role.trans ((hothers other hne).trans hrole), h.answer⟩
  · exact ⟨h.take, h.role, h.answer⟩

/-- **Only what happens under its own name concerns a call.** -/
theorem spares_step (h : action.name? ≠ some name) (s : Store) : s.Spares name (s.step action) := by
  have hnone : s.Spares name (s, []) := ⟨rfl, rfl, rfl⟩
  cases action with
  | take other key moment =>
      have hne : name ≠ other := fun heq => h (congrArg some heq.symm)
      rw [Store.step]
      split
      · exact hnone
      · rw [begin]
        split
        · refine ⟨rfl, rfl, ?_⟩
          simp [Notice.answer?, hne.symm]
        · split
          · refine ⟨rfl, rfl, ?_⟩
            rw [findSome?_answer?_failed, if_neg hne.symm]
          · rename_i now hnow
            have hfollow := spares_follow hne { s with takes := (other, ⟨key, now⟩) :: s.takes }
              ⟨key, now⟩ (System.role?_acquire_of_ne hne s.system)
            refine ⟨hfollow.take.trans ?_, hfollow.role, hfollow.answer⟩
            rw [take?_cons, if_neg hne]
  | event other event =>
      have hne : name ≠ other := fun heq => h (congrArg some heq.symm)
      rw [Store.step]
      split
      · exact hnone
      · rename_i take htake
        have hfollow := spares_follow hne s take (System.role?_react_of_ne hne s.system event)
        refine ⟨hfollow.take, hfollow.role, ?_⟩
        dsimp only
        rw [List.findSome?_append, findSome?_answer?_pool, Option.none_or]
        exact hfollow.answer
  | giveUp other =>
      have hne : name ≠ other := fun heq => h (congrArg some heq.symm)
      rw [Store.step]
      split
      · exact hnone
      · refine ⟨take?_forget_of_ne hne, ?_, rfl⟩
        exact (System.role?_release_of_ne hne _).trans (System.role?_giveUp_of_ne hne s.system)
  | close =>
      rw [Store.step]
      split
      · exact hnone
      · exact ⟨rfl, rfl, rfl⟩

/-- A name that is in use cannot be taken again. -/
theorem step_take_of_some (htake : s.take? name = some take) (key : String) (moment : Moment) :
    s.step (.take name key moment) = (s, []) := by
  rw [Store.step, if_pos (by rw [htake]; rfl)]

theorem course_take (htake : s.take? name = some take) (key : String) (moment : Moment) :
    s.course name (.take name key moment :: actions) = s.course name actions := by
  have hanswer : s.answer? name (.take name key moment) = none := by
    rw [answer?, step_take_of_some htake]
    rfl
  rw [course_of_none Action.noConfusion hanswer, step_take_of_some htake]

theorem course_giveUp (s : Store) (name : Nat) (actions : List Action) :
    s.course name (.giveUp name :: actions) = .dropped := by
  rw [course, if_pos rfl]

theorem course_of_spares (h : action.name? ≠ some name) :
    s.course name (action :: actions) = (s.step action).1.course name actions :=
  course_of_none (fun heq => h (heq ▸ rfl)) (spares_step h s).answer

/-! ### What a store keeps -/

/-- From one store to another the limits and the failure mode have stayed. -/
structure Agrees (s s' : Store) : Prop where
  limits : s'.limits = s.limits
  mode : s'.failureMode = s.failureMode

theorem agrees_conclude (s : Store) (name : Nat) (take : Take) (turn : Turn) :
    s.Agrees (s.conclude name take turn).1 := by
  cases turn <;> exact ⟨rfl, rfl⟩

theorem agrees_follow (s : Store) (name : Nat) (take : Take) (result : System × Turn) :
    s.Agrees (s.follow name take result).1 := by
  refine follow_induction (motive := fun after => s.Agrees after.1) (fun t turn _ => ?_)
    fun _ _ h => h
  have h := agrees_conclude { s with system := t } name take turn
  exact ⟨h.limits, h.mode⟩

theorem agrees_step (s : Store) (action : Action) : s.Agrees (s.step action).1 := by
  cases action with
  | take name key moment =>
      rw [Store.step, begin]
      split
      · exact ⟨rfl, rfl⟩
      · split
        · exact ⟨rfl, rfl⟩
        · split
          · exact ⟨rfl, rfl⟩
          · rename_i now hnow
            have h := agrees_follow { s with takes := (name, ⟨key, now⟩) :: s.takes } name
            exact ⟨(h _ _).limits, (h _ _).mode⟩
  | event name event =>
      rw [Store.step]
      split
      · exact ⟨rfl, rfl⟩
      · exact s.agrees_follow name _ _
  | giveUp name =>
      rw [Store.step]
      split <;> exact ⟨rfl, rfl⟩
  | close =>
      rw [Store.step]
      split <;> exact ⟨rfl, rfl⟩

theorem agrees_run (s : Store) (actions : List Action) : s.Agrees (s.run actions).1 := by
  induction actions generalizing s with
  | nil => exact ⟨rfl, rfl⟩
  | cons action actions ih =>
      have h := ih (s.step action).1
      exact ⟨h.limits.trans (s.agrees_step action).limits, h.mode.trans (s.agrees_step action).mode⟩

theorem Agrees.step {s' : Store} (h : s.Agrees s') (action : Action) :
    (s.step action).1.Agrees (s'.step action).1 where
  limits := (s'.agrees_step action).limits.trans (h.limits.trans (s.agrees_step action).limits.symm)
  mode := (s'.agrees_step action).mode.trans (h.mode.trans (s.agrees_step action).mode.symm)

theorem Agrees.verdict {s' : Store} (h : s.Agrees s') (result : Result) :
    s'.verdict result = s.verdict result := by
  rw [Store.verdict, Store.verdict, decide?, decide?, h.limits, h.mode]

/-! ### A call on its connection -/

/-- A call is in progress, in some role at the pool. -/
structure InProgress (s : Store) (name : Nat) (take : Take) (role : Pool.Role) : Prop where
  take : s.take? name = some take
  role : s.system.role? name = some role

variable {role : Pool.Role}

theorem InProgress.spared (h : s.InProgress name take role) {after : Store × List Notice}
    (hspares : s.Spares name after) : after.1.InProgress name take role :=
  ⟨hspares.take.trans h.take, hspares.role.trans h.role⟩

/-- Closing a store concerns no call in progress. -/
theorem InProgress.close (h : s.InProgress name take role) :
    (s.step .close).1.InProgress name take role :=
  h.spared (spares_step (fun heq => by cases heq) s)

theorem InProgress.answer?_event (h : s.InProgress name take role) (event : Event) :
    s.answer? name (.event name event) =
      (s.follow name take (s.system.react name event)).2.findSome? (Notice.answer? name) := by
  rw [answer?, Store.step, h.take]
  dsimp only
  rw [List.findSome?_append, findSome?_answer?_pool, Option.none_or]

/-- After its turn a call is in progress still, or answered and forgotten. -/
theorem follow_cases (s : Store) (name : Nat) (take : Take) (result : System × Turn) :
    (s.follow name take result).2.findSome? (Notice.answer? name) = none ∧
        (s.follow name take result).1.take? name = s.take? name ∨
      (s.follow name take result).2.findSome? (Notice.answer? name) ≠ none ∧
        (s.follow name take result).1.take? name = none := by
  have hforgotten (s : Store) : (s.forget name).take? name = none := by
    rw [take?_forget, if_pos rfl]
  refine follow_induction
    (motive := fun after =>
      after.2.findSome? (Notice.answer? name) = none ∧ after.1.take? name = s.take? name ∨
        after.2.findSome? (Notice.answer? name) ≠ none ∧ after.1.take? name = none)
    (fun t turn _ => ?_) fun _ _ h => h
  cases turn with
  | pending | dialing | acquired => exact .inl ⟨rfl, rfl⟩
  | refused error =>
      refine .inr ⟨?_, hforgotten _⟩
      change (failed _ name take.key error).findSome? (Notice.answer? name) ≠ none
      rw [findSome?_answer?_failed, if_pos rfl]
      exact Option.some_ne_none _
  | ended result =>
      refine .inr ⟨?_, hforgotten _⟩
      rw [findSome?_answer?_ended, if_pos rfl]
      exact Option.some_ne_none _

/-- A call is in progress as long as its caller waits and it is not answered. -/
theorem InProgress.take?_step (h : s.InProgress name take role) (action : Action) :
    (action = .giveUp name ∨ s.answer? name action ≠ none) ∧
        (s.step action).1.take? name = none ∨
      (action ≠ .giveUp name ∧ s.answer? name action = none) ∧
        (s.step action).1.take? name = some take := by
  by_cases hname : action.name? = some name
  · cases action with
    | take other key moment =>
        cases hname
        rw [answer?, step_take_of_some h.take]
        exact .inr ⟨⟨Action.noConfusion, rfl⟩, h.take⟩
    | event other event =>
        cases hname
        have htake : (s.step (.event name event)).1.take? name =
            (s.follow name take (s.system.react name event)).1.take? name := by
          rw [Store.step, h.take]
        rw [h.answer?_event, htake]
        rcases s.follow_cases name take (s.system.react name event) with
          ⟨hnone, hsame⟩ | ⟨hsome, hgone⟩
        · exact .inr ⟨⟨Action.noConfusion, hnone⟩, hsame.trans h.take⟩
        · exact .inl ⟨.inr hsome, hgone⟩
    | giveUp other =>
        cases hname
        refine .inl ⟨.inl rfl, ?_⟩
        rw [Store.step, h.take]
        dsimp only
        rw [take?_forget, if_pos rfl]
    | close => cases hname
  · have hspares := spares_step hname s
    exact .inr ⟨⟨fun heq => hname (heq ▸ rfl), hspares.answer⟩, hspares.take.trans h.take⟩

/-- A call whose request goes on is not answered, and is in progress still. -/
theorem InProgress.waits (h : s.InProgress name take (.calling dial x))
    (hstep : x.step event = .waiting x') :
    s.answer? name (.event name event) = none ∧
      (s.step (.event name event)).1.InProgress name take (.calling dial x') := by
  refine ⟨?_, ?_⟩
  · rw [h.answer?_event, System.react_of_calling h.role, hstep]
    rfl
  · rw [step_event_of_waiting h.take h.role hstep]
    exact ⟨h.take, System.role?_assign_self ..⟩

/-- A call whose request has ended is answered. -/
theorem InProgress.finishes (h : s.InProgress name take (.calling dial x)) {c : Connection}
    {result : Result} (hstep : x.step event = .finished c result) :
    s.answer? name (.event name event) = some (s.verdict result) := by
  rw [h.answer?_event, System.react_of_calling h.role, hstep]
  exact (findSome?_answer?_ended _ name name take result).trans (if_pos rfl)

/-- A call whose command is taken and passed on is answered with what the reply says. -/
theorem InProgress.course_of_reply {rest data : Bytes} {reply : Reply}
    (h : s.InProgress name take (.calling dial ⟨⟨[], true⟩, .request, .write rest⟩))
    (hrest : rest ≠ []) (hread : (Reader.read {} data).1 = .complete reply []) :
    s.course name [.event name (.wrote rest.length), .event name .flushed,
      .event name (.received data)] = .answered (s.verdict reply.result) := by
  obtain ⟨hwritten, hflushing⟩ := h.waits (Exchange.step_wrote_all hrest)
  obtain ⟨hflushed, hreading⟩ := hflushing.waits Exchange.step_flushed
  have hanswered := hreading.finishes (Exchange.step_received hread)
  rw [course_of_none Action.noConfusion hwritten, course_of_none Action.noConfusion hflushed,
    course_of_answer Action.noConfusion hanswered]
  exact congrArg Course.answered <|
    (s.agrees_run [.event name (.wrote rest.length), .event name .flushed]).verdict reply.result

/-- **The course of a call that has a connection** depends on its request, the limits and the
failure mode, and on nothing else about the store. -/
theorem course_congr {s' : Store} (h : s.InProgress name take (.calling dial x))
    (h' : s'.InProgress name take (.calling dial x)) (hagrees : s.Agrees s')
    (actions : List Action) : s'.course name actions = s.course name actions := by
  induction actions generalizing s s' x with
  | nil => rfl
  | cons action actions ih =>
      by_cases hname : action.name? = some name
      · cases action with
        | take other key moment =>
            cases hname
            rw [course_take h.take, course_take h'.take]
            exact ih h h' hagrees
        | event other event =>
            cases hname
            have hdrop : Action.event name event ≠ .giveUp name := Action.noConfusion
            cases hstep : x.step event with
            | waiting x' =>
                obtain ⟨hanswer, hnext⟩ := h.waits hstep
                obtain ⟨hanswer', hnext'⟩ := h'.waits hstep
                rw [course_of_none hdrop hanswer, course_of_none hdrop hanswer']
                exact ih hnext hnext' (hagrees.step _)
            | finished c result =>
                rw [course_of_answer hdrop (h.finishes hstep),
                  course_of_answer hdrop (h'.finishes hstep), hagrees.verdict]
        | giveUp other =>
            cases hname
            rw [course_giveUp, course_giveUp]
        | close => cases hname
      · have hspares := spares_step hname s
        have hspares' := spares_step hname s'
        rw [course_of_spares hname, course_of_spares hname]
        exact ih (h.spared hspares) (h'.spared hspares') (hagrees.step action)

end Store

end RateLimit
