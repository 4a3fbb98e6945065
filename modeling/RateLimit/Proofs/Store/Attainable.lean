import RateLimit.Proofs.Connection.Runs
import RateLimit.Proofs.Pool.Closing
import RateLimit.Proofs.Store.Journal

/-!
# The books of a store are right

Whatever callers, transports and those who close a store do, the calls in progress are the users of
its pool, each of which waits for a connection or is in the request that runs the script.  The
store is closed exactly if its pool is, and a pool that is closed has no idle connection.

## Main definitions

* `Store.Attainable` : the stores that runs come to, by actions in any order.
* `Store.Sound` : the books of a store agree with those of its pool.
* `Store.Attends` : a call has its turn at the pool.

## Main results

* `Store.Sound.step`, `Store.Attainable.sound` : the books of a store are right in every run.
* `Store.Reachable.attainable` : what runs with a server come to can be attained.
* `Store.Sound.live` : a store that is closed counts its calls in progress.
-/

namespace RateLimit

open Pool (System Turn Role)

namespace Store

/-- How far the opening of a store can come, by events in any order. -/
inductive Opening.Attainable (config : Config) : Opening.Progress → Prop
  | start : Attainable config (start config).1
  | step {o : Opening} (h : Attainable config (.waiting o)) (event : Event) :
      Attainable config (o.step event).1

/-- The stores that runs come to, by actions in any order. -/
inductive Attainable (config : Config) : Store → Prop
  | opened {s : Store} (h : Opening.Attainable config (.opened s)) : Attainable config s
  | step {s : Store} (h : Attainable config s) (action : Action) :
      Attainable config (s.step action).1

/-! ### Books -/

/-- The books of a store agree with those of its pool. -/
structure Sound (s : Store) : Prop where
  system : s.system.Sound
  names : (s.takes.map Prod.fst).Nodup
  /-- The calls in progress are the users of the pool. -/
  users : ∀ name, s.system.role? name = none ↔ s.take? name = none
  waits : ∀ name role, s.system.role? name = some role → role.Waits s.system.credentials
  closed : s.system.pool.closed = s.closed
  idle : s.closed = true → s.system.pool.idle = []

/-- A call in progress has its turn at the pool, which has come to a state in which everybody else
waits. -/
structure Attends (s : Store) (name : Nat) (t : System) : Prop where
  take : s.take? name ≠ none
  system : t.Sound
  names : (s.takes.map Prod.fst).Nodup
  users : ∀ other, other ≠ name → (t.role? other = none ↔ s.take? other = none)
  waits : ∀ other, other ≠ name → ∀ role, t.role? other = some role → role.Waits t.credentials
  closed : t.pool.closed = s.closed
  idle : s.closed = true → t.pool.idle = []

variable {s : Store} {t t' : System} {name : Nat} {take : Take}

theorem Sound.exists_role_of_take (h : s.Sound) (htake : s.take? name = some take) :
    ∃ role, s.system.role? name = some role :=
  Option.ne_none_iff_exists'.1 fun hnone => by
    cases htake.symm.trans ((h.users name).1 hnone)

theorem Sound.attends (h : s.Sound) (htake : s.take? name ≠ none) : s.Attends name s.system where
  __ := h
  take := htake
  users other _ := h.users other
  waits other _ := h.waits other

/-- A call that begins has its turn. -/
theorem Sound.attends_begin (h : s.Sound) (hfree : s.take? name = none) (take : Take) :
    Attends { s with takes := (name, take) :: s.takes } name s.system where
  take := by
    rw [take?_cons, if_pos rfl]
    exact Option.some_ne_none _
  system := h.system
  names := by
    exact List.nodup_cons.2 ⟨lookup_eq_none_iff_notMem.1 hfree, h.names⟩
  users other hne := by
    rw [take?_cons, if_neg hne]
    exact h.users other
  waits other _ := h.waits other
  closed := h.closed
  idle := h.idle

/-- The pool goes on, which concerns nobody else. -/
theorem Attends.step (h : s.Attends name t) (hsound : t'.Sound) (hkeeps : t.Keeps t')
    (hothers : ∀ other, other ≠ name → t'.role? other = t.role? other) : s.Attends name t' where
  take := h.take
  system := hsound
  names := h.names
  users other hne := by
    rw [hothers other hne]
    exact h.users other hne
  waits other hne role hrole := by
    rw [hkeeps.credentials]
    exact h.waits other hne role (hothers other hne ▸ hrole)
  closed := hkeeps.closed.trans h.closed
  idle hclosed := (hkeeps.idle (h.closed.trans hclosed)).trans (h.idle hclosed)

theorem Attends.continues (h : s.Attends name t) {taken : Bytes}
    (hcontinues : t.Continues t' name taken) (hsound : t'.Sound) : s.Attends name t' :=
  h.step hsound hcontinues.keeps hcontinues.others

/-- A call that goes on waiting keeps the books right. -/
theorem Attends.sound (h : s.Attends name t) {role : Pool.Role} (hrole : t.role? name = some role)
    (hwaits : role.Waits t.credentials) : Sound { s with system := t } where
  system := h.system
  names := h.names
  users other := by
    by_cases hne : other = name
    · subst hne
      have htake := h.take
      change t.role? other = none ↔ s.take? other = none
      rw [hrole]
      simp [htake]
    · exact h.users other hne
  waits other role' hrole' := by
    by_cases hne : other = name
    · subst hne
      cases hrole.symm.trans hrole'
      exact hwaits
    · exact h.waits other hne role' hrole'
  closed := h.closed
  idle := h.idle

/-- A call that has left the pool can be forgotten. -/
theorem Attends.forget (h : s.Attends name t) (hrole : t.role? name = none) :
    ({ s with system := t }.forget name).Sound where
  system := h.system
  names := (List.filter_sublist.map _).nodup h.names
  users other := by
    rw [take?_forget]
    by_cases hne : other = name
    · subst hne
      rw [if_pos rfl]
      exact ⟨fun _ => rfl, fun _ => hrole⟩
    · rw [if_neg hne]
      exact h.users other hne
  waits other role hrole' := by
    refine h.waits other (fun heq => ?_) role hrole'
    subst heq
    cases hrole.symm.trans hrole'
  closed := h.closed
  idle := h.idle

theorem Attends.release (h : s.Attends name t) {session : Session}
    (hrole : t.role? name = some (.holding session)) :
    ({ s with system := t.release name }.forget name).Sound :=
  (h.continues (t.continues_release name) (h.system.release name)).forget
    (System.role?_release_self hrole)

/-- After its turn at the pool, a call waits or is gone. -/
theorem Attends.follow {result : System × Turn} (h : s.Attends name result.1)
    (hstands : System.Stands name result) (take : Take) :
    (s.follow name take result).1.Sound := by
  cases hstands with
  | pending hrole hwaits => exact h.sound hrole hwaits
  | dialing hrole hwaits => exact h.sound hrole hwaits
  | refused hrole => exact h.forget hrole
  | ended hrole => exact h.release hrole
  | @acquired t session hrole dial =>
      have hnext : s.Attends name (t.call name (.request (s.script.call take.key take.now))).1 :=
        h.step (h.system.call name _) (t.keeps_call name _) fun other hother =>
          System.role?_call_of_ne hother t _
      rw [Store.follow]
      dsimp only
      rw [System.call_of_holding hrole] at hnext ⊢
      generalize session.connection.start _ = p at hnext ⊢
      cases p with
      | waiting x => exact hnext.sound (System.role?_assign_self ..) (.calling _ x)
      | finished => exact hnext.release (System.role?_assign_self ..)

/-- Every action keeps the books of a store right. -/
theorem Sound.step (h : s.Sound) (action : Action) : (s.step action).1.Sound := by
  cases action with
  | take name key moment =>
      rw [Store.step]
      split
      · exact h
      · rename_i hfree
        rw [Bool.not_eq_true, Option.isSome_eq_false_iff, Option.isNone_iff_eq_none] at hfree
        rw [begin]
        split
        · exact h
        · split
          · exact h
          · rename_i now hnow
            have hrole := (h.users name).2 hfree
            have hattends := (h.attends_begin hfree ⟨key, now⟩).step (h.system.acquire hrole)
              (s.system.keeps_acquire name) fun other hother =>
                System.role?_acquire_of_ne hother s.system
            exact hattends.follow (System.stands_acquire hrole) ⟨key, now⟩
  | event name event =>
      rw [Store.step]
      split
      · exact h
      · rename_i take htake
        have hsome : s.take? name ≠ none := by simp [htake]
        obtain ⟨role, hrole⟩ := h.exists_role_of_take htake
        exact ((h.attends hsome).continues (System.continues_react hrole event)
          (h.system.react name event)).follow
            (System.stands_react hrole (h.waits name role hrole) event) take
  | giveUp name =>
      rw [Store.step]
      split
      · exact h
      · rename_i take htake
        have hsome : s.take? name ≠ none := by simp [htake]
        exact (((h.attends hsome).continues (s.system.continues_giveUp name)
          (h.system.giveUp name)).continues (System.continues_release _ name)
            ((h.system.giveUp name).release name)).forget
              (System.role?_release_giveUp_self s.system name)
  | close =>
      rw [Store.step]
      split
      · exact h
      · rename_i hopen
        have hclose : s.system.close.pool = { s.system.pool with
            closed := true
            live := s.system.pool.live - s.system.pool.idle.length
            idle := [] } := by
          rw [System.close, Pool.close, if_neg (h.closed ▸ hopen)]
        exact {
          system := h.system.close
          names := h.names
          users := h.users
          waits := h.waits
          closed := congrArg Pool.closed hclose
          idle := fun _ => congrArg Pool.idle hclose }

/-! ### Opening -/

namespace Opening

/-- How a store that is being opened uses its pool, which is never empty: once the pool is open, it
is in a call on one of the connections. -/
inductive Sound : Opening → Prop
  | pool {plan : Plan} {o : Pool.Opening} (hpos : 0 < o.settings.initialSize)
      (hsizes : o.settings.initialSize ≤ o.settings.maxSize)
      (hsound : (Pool.Opening.Progress.waiting o).Sound o.settings) : Sound (.pool plan o)
  | script {plan : Plan} {t : System} (hsound : t.Sound) (hopen : t.pool.closed = false)
      (halone : ∀ other, other ≠ user → t.role? other = none) {dial : Nat} {x : Exchange}
      (hrole : t.role? user = some (.calling dial x)) : Sound (.script plan t)

/-- How far the opening of a store has come, with its books right. -/
inductive Progress.Sound : Progress → Prop
  | waiting {o : Opening} (h : o.Sound) : Sound (.waiting o)
  | opened {s : Store} (h : s.Sound) : Sound (.opened s)
  | failed (error : Error) {dropped : List Nat} (hdropped : dropped.Nodup) :
      Sound (.failed error dropped)

variable {plan : Plan}

/-- The store is open once its script is registered and the connection has come back. -/
theorem conclude_sound {session : Session} (hsound : t.Sound) (hopen : t.pool.closed = false)
    (halone : ∀ other, other ≠ user → t.role? other = none)
    (hrole : t.role? user = some (.holding session)) (result : Result) :
    (conclude plan t (.ended result)).1.Sound := by
  have hnobody (name : Nat) : (t.release user).role? name = none := by
    by_cases hname : name = user
    · subst hname
      exact System.role?_release_self hrole
    · exact (System.role?_release_of_ne hname t).trans (halone name hname)
  rw [conclude]
  split
  · exact .failed _ hsound.nodup_transports
  · exact .opened {
      system := hsound.release user
      names := List.nodup_nil
      users := fun name => ⟨fun _ => rfl, fun _ => hnobody name⟩
      waits := fun name role hrole' => by cases (hnobody name).symm.trans hrole'
      closed := (t.continues_release user).keeps.closed.trans hopen
      idle := fun hclosed => by cases hclosed }

/-- The opening goes on as the call does that registers the script. -/
theorem advance_sound {dial : Nat} {role : Role} (hsound : t.Sound) (hopen : t.pool.closed = false)
    (halone : ∀ other, other ≠ user → t.role? other = none) (hrole : t.role? user = some role)
    (hdial : role.dial = dial) (p : RateLimit.Progress) :
    (conclude plan (t.advance user dial p).1 (t.advance user dial p).2).1.Sound := by
  have hsound' {role' : Role} (hdial' : role'.dial = dial) (hrequest : role'.IsRequest) :
      (t.assign user role').Sound := hsound.assign hrole (hdial'.trans hdial.symm) hrequest
  have halone' (role' : Role) (other : Nat) (hother : other ≠ user) :
      (t.assign user role').role? other = none :=
    (System.role?_assign_of_ne hother t role').trans (halone other hother)
  cases p with
  | waiting x =>
      exact .waiting (.script (hsound' rfl (.calling dial x)) hopen (halone' _)
        (System.role?_assign_self ..))
  | finished c result =>
      exact conclude_sound (hsound' rfl (.holding ⟨dial, c⟩)) hopen (halone' _)
        (System.role?_assign_self ..) result

/-- A pool that has just been opened is used by nobody and has its connections. -/
structure Fresh (settings : PoolSettings) (t : System) : Prop where
  users : t.users = []
  opened : t.pool.closed = false
  idle : settings.initialSize ≤ t.pool.idle.length

/-- Once the pool is open, the connection that was opened last is handed out, and the script is
registered on it. -/
theorem follow_acquire (plan : Plan) (hopen : t.pool.closed = false) {session : Session}
    {idle : List Session} (hidle : t.pool.idle = session :: idle) :
    follow plan (t.acquire user) =
      (.waiting (.script plan ((t.withIdle idle).assign user (.calling session.dial
          ⟨⟨session.connection.buffer, true⟩, .request, .write plan.script.register.bytes⟩))),
        [.pool (.acquired user session.dial)]) := by
  rw [System.acquire_of_idle hopen hidle, follow]
  dsimp only
  rw [System.call_of_holding (System.role?_assign_self ..),
    session.connection.start_request_eq plan.script.encode_register, System.advance,
    System.assign_assign]
  rfl

theorem proceed_sound {after : Pool.Opening.Progress × List Pool.Notice} {settings : PoolSettings}
    (hpos : 0 < settings.initialSize) (hsizes : settings.initialSize ≤ settings.maxSize)
    (hsound : after.1.Sound settings)
    (hfresh : ∀ t, after.1 = .opened t → Fresh settings t) : (proceed plan after).1.Sound := by
  obtain ⟨progress, notices⟩ := after
  cases hsound with
  | failed _ hdropped => exact .failed _ hdropped
  | waiting hsettings =>
      subst hsettings
      exact .waiting (.pool hpos hsizes (.waiting rfl ‹_› ‹_› ‹_›))
  | @opened t ht =>
      have hfresh := hfresh t rfl
      have hfree (other : Nat) : t.role? other = none := by
        rw [System.role?, hfresh.users]
        rfl
      obtain ⟨session, idle, hidle⟩ :=
        List.exists_cons_of_length_pos (hpos.trans_le hfresh.idle)
      have hacquired := ht.acquire (hfree user)
      rw [System.acquire_of_idle hfresh.opened hidle] at hacquired
      have hcalling (x : Exchange) :
          ((t.withIdle idle).assign user (.calling session.dial x)).Sound := by
        rw [← System.assign_assign _ _ (.holding session)]
        exact hacquired.assign (System.role?_assign_self ..) rfl (.calling session.dial x)
      rw [proceed]
      dsimp only
      rw [follow_acquire plan hfresh.opened hidle]
      exact .waiting (.script (hcalling _) hfresh.opened
        (fun other hother => (System.role?_assign_of_ne hother _ _).trans (hfree other))
        (System.role?_assign_self ..))

theorem fresh_of_next {settings : PoolSettings} {opened : List Session}
    (h : (Pool.Opening.next settings opened).1 = .opened t) : Fresh settings t := by
  rw [Pool.Opening.next] at h
  split at h
  · cases h
  · cases h
    exact ⟨rfl, rfl, Nat.le_of_not_lt ‹_›⟩

theorem fresh_of_step {o : Pool.Opening} {event : Event} (h : (o.step event).1 = .opened t) :
    Fresh o.settings t := by
  rw [Pool.Opening.step] at h
  dsimp only at h
  split at h
  · cases h
  · cases h
  · exact fresh_of_next h

/-- The books are right however far the opening of a store comes. -/
theorem Attainable.sound {config : Config} {progress : Progress}
    (h : Attainable config progress) : progress.Sound := by
  induction h with
  | start =>
      rw [Opening.start]
      split
      · exact .failed _ List.nodup_nil
      · split
        · exact .failed _ List.nodup_nil
        · rename_i settings hpool
          have hsizes := Config.pool_sizes hpool
          exact proceed_sound (Config.pool_initialSize_pos hpool) hsizes
            (Pool.Opening.start_sound hsizes) fun t => fresh_of_next
  | @step o h event ih =>
      cases ih with
      | waiting ih =>
          cases ih with
          | pool hpos hsizes hsound =>
              exact proceed_sound hpos hsizes (hsound.step hsizes event) fun t => fresh_of_step
          | @script plan t hsound hopen halone dial x hrole =>
              have hturn : (Opening.step (.script plan t) event).1 =
                  (conclude plan (t.advance user dial (x.step event)).1
                    (t.advance user dial (x.step event)).2).1 := by
                rw [Opening.step, System.react_of_calling hrole]
                cases x.step event <;> rfl
              rw [hturn]
              exact advance_sound hsound hopen halone hrole rfl _

end Opening

/-! ### Runs -/

/-- The books of a store are right in every run. -/
theorem Attainable.sound {config : Config} (h : s.Attainable config) : s.Sound := by
  induction h with
  | opened h =>
      cases h.sound with
      | opened h => exact h
  | step h action ih => exact ih.step action

section

variable {server : Server} {config : Config}

theorem Opening.Reachable.attainable {wires : Nat → Wire} {progress : Opening.Progress}
    (h : Opening.Reachable server config wires progress) :
    Opening.Attainable config progress := by
  induction h with
  | start => exact .start
  | step _ event _ ih => exact ih.step event

/-- What runs with a server come to can be attained. -/
theorem Reachable.attainable {j : Journal} (h : Reachable server config j s) :
    s.Attainable config := by
  induction h with
  | opened h => exact .opened h.attainable
  | step _ action _ ih => exact ih.step action

end

/-- The users of the pool are as many as the calls in progress. -/
theorem Sound.length_users (h : s.Sound) : s.system.users.length = s.takes.length := by
  have hnames : (s.system.users.map Prod.fst).Perm (s.takes.map Prod.fst) := by
    refine (List.perm_ext_iff_of_nodup h.system.names h.names).2 fun name => ?_
    exact not_iff_not.1 <|
      lookup_eq_none_iff_notMem.symm.trans ((h.users name).trans lookup_eq_none_iff_notMem)
  simpa using hnames.length_eq

/-- A store that is closed counts the connections of its calls in progress, and no others. -/
theorem Sound.live (h : s.Sound) (hclosed : s.closed = true) :
    s.system.pool.live = s.takes.length := by
  rw [h.system.live_eq, h.idle hclosed, h.length_users, List.length_nil, Nat.zero_add]

/-- A transport that a closed store has open belongs to a call in progress. -/
theorem Sound.exists_role (h : s.Sound) (hclosed : s.closed = true) {dial : Nat}
    (hmem : dial ∈ s.system.transports) :
    ∃ name role, s.system.role? name = some role ∧ role.dial = dial := by
  rw [System.mem_transports h.system.names, h.idle hclosed] at hmem
  rcases hmem with ⟨session, hsession, -⟩ | ⟨name, role, hrole, -, hdial⟩
  · cases hsession
  · exact ⟨name, role, hrole, hdial⟩

/-- A closed store without calls has no open transport. -/
theorem Sound.transports_eq_nil (h : s.Sound) (hclosed : s.closed = true) (htakes : s.takes = []) :
    s.system.transports = [] := by
  refine List.eq_nil_iff_forall_not_mem.2 fun dial hmem => ?_
  obtain ⟨name, role, hrole, -⟩ := h.exists_role hclosed hmem
  have htake : s.take? name = none := by rw [take?, htakes, List.lookup_nil]
  cases hrole.symm.trans ((h.users name).2 htake)

end Store

end RateLimit
