import RateLimit.Proofs.Connection.Runs
import RateLimit.Proofs.Pool.Closing
import RateLimit.Proofs.Pool.Ledger

/-!
# Connections opened one after the other

The first connections of a pool are opened one after the other, each in an attempt of its own that
begins once the one before it has succeeded.  What comes of it can be told attempt by attempt, and
the opening of a pool comes to the same: it stops at the first attempt that fails, it begins no
attempt but these, in their order, and sends nothing on any transport but the credentials.

## Main definitions

* `Pool.Dialing`, `Pool.Dialing.run` : connections opened one after the other, attempt by attempt.
* `Pool.Tells`, `Pool.Announces` : what notices say about transports and attempts.
* `Pool.Opening.further` : the opening of a pool over events in order.

## Main results

* `Pool.Opening.further_eq` : the opening of a pool goes attempt by attempt.
-/

namespace RateLimit.Pool

/-! ### What notices tell -/

theorem dials_append (notices more : List Notice) :
    dials (notices ++ more) = dials notices ++ dials more :=
  List.filterMap_append

/-- Notices tell of nothing but the bytes on one transport. -/
structure Tells (dial : Nat) (bytes : Bytes) (notices : List Notice) : Prop where
  traffic : ∀ notice ∈ notices, notice = .flushed dial ∨ ∃ taken, notice = .wrote dial taken
  written : written dial notices = bytes

/-- Notices tell of attempts to open a connection, numbered one after the other, and of nothing sent
but credentials, once at most on each transport. -/
structure Announces (credentials : Option Credentials) (first bound : Nat)
    (notices : List Notice) : Prop where
  le : first ≤ bound
  dials : dials notices = List.range' first (bound - first)
  silent : ∀ dial, dial < first ∨ bound ≤ dial → written dial notices = []
  greets : ∀ dial, written dial notices <+: greeting credentials
  nobody : ∀ user dial, .acquired user dial ∉ notices

variable {credentials : Option Credentials} {dial first middle bound : Nat} {bytes taken : Bytes}
  {notices more : List Notice}

theorem tells_nil (dial : Nat) : Tells dial [] [] :=
  ⟨fun _ hmem => absurd hmem List.not_mem_nil, rfl⟩

theorem Tells.append (h : Tells dial bytes notices) (hmore : Tells dial taken more) :
    Tells dial (bytes ++ taken) (notices ++ more) where
  traffic notice hmem := (List.mem_append.mp hmem).elim (h.traffic notice) (hmore.traffic notice)
  written := by rw [written_append, h.written, hmore.written]

theorem tells_traffic (role : Role) (event : Event) :
    Tells role.dial (role.accepted event) (role.traffic event) where
  traffic := by
    intro notice hmem
    rw [Role.traffic, List.mem_append] at hmem
    rcases hmem with hmem | hmem
    · split at hmem
      · exact absurd hmem List.not_mem_nil
      · exact .inr ⟨_, List.mem_singleton.mp hmem⟩
    · split at hmem
      · exact .inl (List.mem_singleton.mp hmem)
      · exact absurd hmem List.not_mem_nil
  written := by rw [written_traffic, if_pos rfl]

theorem Tells.dials (h : Tells dial bytes notices) : dials notices = [] := by
  rw [Pool.dials, List.filterMap_eq_nil_iff]
  intro notice hmem
  rcases h.traffic notice hmem with rfl | ⟨taken, rfl⟩ <;> rfl

theorem Tells.written_of_ne (h : Tells dial bytes notices) {other : Nat} (hne : other ≠ dial) :
    Pool.written other notices = [] := by
  rw [Pool.written, List.flatMap_eq_nil_iff]
  intro notice hmem
  rcases h.traffic notice hmem with rfl | ⟨taken, rfl⟩
  · rfl
  · exact if_neg hne.symm

theorem announces_nil (credentials : Option Credentials) (first : Nat) :
    Announces credentials first first [] where
  le := le_rfl
  dials := by rw [Nat.sub_self]; rfl
  silent _ _ := rfl
  greets _ := List.nil_prefix
  nobody _ _ := List.not_mem_nil

/-- One attempt sends the credentials at most. -/
theorem Tells.announces (h : Tells dial bytes notices) (hbytes : bytes <+: greeting credentials) :
    Announces credentials dial (dial + 1) (.dialed dial :: notices) where
  le := Nat.le_succ dial
  dials := by
    change dial :: Pool.dials notices = _
    rw [h.dials, Nat.add_sub_cancel_left]
    rfl
  silent other hother := h.written_of_ne (by omega)
  greets other := by
    change Pool.written other notices <+: _
    by_cases hother : other = dial
    · rw [hother, h.written]
      exact hbytes
    · rw [h.written_of_ne hother]
      exact List.nil_prefix
  nobody user other hmem := by
    rcases List.mem_cons.mp hmem with heq | hmem
    · cases heq
    · rcases h.traffic _ hmem with heq | ⟨taken, heq⟩ <;> cases heq

theorem Announces.trans (h : Announces credentials first middle notices)
    (hmore : Announces credentials middle bound more) :
    Announces credentials first bound (notices ++ more) where
  le := h.le.trans hmore.le
  dials := by
    have hlength : bound - first = (middle - first) + (bound - middle) := by
      have := h.le
      have := hmore.le
      omega
    have hmiddle : first + (middle - first) = middle := Nat.add_sub_cancel' h.le
    rw [dials_append, h.dials, hmore.dials, hlength, ← List.range'_append_1, hmiddle]
  silent dial hdial := by
    have hfirst := h.le
    have hbound := hmore.le
    rw [written_append, h.silent dial (by omega), hmore.silent dial (by omega), List.append_nil]
  greets dial := by
    -- Only one of the two parts can tell of this transport.
    rw [written_append]
    by_cases hdial : dial < middle
    · rw [hmore.silent dial (.inl hdial), List.append_nil]
      exact h.greets dial
    · rw [h.silent dial (.inr (Nat.le_of_not_lt hdial)), List.nil_append]
      exact hmore.greets dial
  nobody user dial hmem :=
    (List.mem_append.mp hmem).elim (h.nobody user dial) (hmore.nobody user dial)

/-! ### Attempt by attempt -/

/-- How it comes out if connections are opened one after the other. -/
inductive Dialing
  /-- Some are open, and the next one is being opened. -/
  | waiting (before : List Session) (attempt : Attempt)
  /-- Some are open, and the next one could not be opened. -/
  | failed (before : List Session) (error : Error)
  /-- All are open, the last one first, and some events are left over. -/
  | opened (sessions : List Session) (left : List Event)

namespace Dialing

/-- Opens as many further connections as are missing, one after the other. -/
def run (credentials : Option Credentials) (before : List Session) : Nat → List Event → Dialing
  | 0, events => .opened before events
  | missing + 1, events =>
      match (Attempt.Progress.waiting .connecting).run credentials events with
      | (.waiting attempt, _, _) => .waiting before attempt
      | (.failed error, _, _) => .failed before error
      | (.opened connection, _, left) =>
          run credentials (⟨before.length, connection⟩ :: before) missing left

/-- How many attempts were begun. -/
def begun : Dialing → Nat
  | .waiting before _ | .failed before _ => before.length + 1
  | .opened sessions _ => sessions.length

/-- How far the opening of a pool has come, with the transports that it drops if it has failed. -/
def progress (settings : PoolSettings) (dropped : List Nat) : Dialing → Opening.Progress
  | .waiting before attempt => .waiting ⟨settings, before, attempt⟩
  | .failed _ error => .failed error dropped
  | .opened sessions _ => .opened {
      credentials := settings.credentials
      pool := { maxSize := settings.maxSize, idle := sessions, live := sessions.length }
      dialed := sessions.length }

/-- The connections that are opened are numbered, and there are as many as were missing; an attempt
that fails, or is in progress, is one of these. -/
inductive Sound (total : Nat) : Dialing → Prop
  | waiting {before : List Session} (attempt : Attempt) (hroom : before.length < total) :
      Sound total (.waiting before attempt)
  | failed {before : List Session} {error : Error} (hroom : before.length < total)
      (herror : error.OfExchange) : Sound total (.failed before error)
  | opened {sessions : List Session} (left : List Event) (hnumbered : Opening.Numbered sessions)
      (hlength : sessions.length = total) : Sound total (.opened sessions left)

theorem sound_run (credentials : Option Credentials) {before : List Session}
    (hbefore : Opening.Numbered before) (missing : Nat) (events : List Event) :
    (run credentials before missing events).Sound (before.length + missing) := by
  induction missing generalizing before events with
  | zero => exact .opened events hbefore rfl
  | succ missing ih =>
      have hroom : before.length < before.length + (missing + 1) := by omega
      have hattempt : ((Attempt.Progress.waiting .connecting).run credentials events).1.IsRequest :=
        Attempt.Progress.IsRequest.run (.waiting .connecting) credentials events
      rw [run]
      split
      · exact .waiting _ hroom
      · rename_i heq
        rw [heq] at hattempt
        cases hattempt with
        | failed herror => exact .failed hroom herror
      · rename_i heq
        rw [heq] at hattempt
        cases hattempt with
        | opened hwhole =>
            have hrest := ih (hbefore.cons hwhole)
            rw [List.length_cons, Nat.add_right_comm] at hrest
            exact hrest _

/-- The connections that are opened from the beginning are as many as asked for. -/
theorem sound_start (credentials : Option Credentials) (total : Nat) (events : List Event) :
    (run credentials [] total events).Sound total := by
  have hnone : Opening.Numbered [] := ⟨rfl, fun _ hmem => absurd hmem List.not_mem_nil⟩
  have hsound := sound_run credentials hnone total events
  rwa [List.length_nil, Nat.zero_add] at hsound

theorem Sound.begun_le {total : Nat} {dialing : Dialing} (h : dialing.Sound total) :
    dialing.begun ≤ total := by
  cases h with
  | waiting _ hroom => exact hroom
  | failed hroom => exact hroom
  | opened _ _ hlength => exact hlength.le

end Dialing

/-! ### The opening of a pool -/

namespace Opening

/-- What becomes of the given transports, which are open: they stay open as long as the opening of a
pool goes on, and once the pool is open, and these and no others are dropped if the opening
fails. -/
inductive Progress.Keeps (dials : List Nat) : Progress → Prop
  | waiting {o : Opening} (h : dials ⊆ o.transports) : Keeps dials (.waiting o)
  | opened {s : System} (h : dials ⊆ s.transports) : Keeps dials (.opened s)
  | failed (error : Error) : Keeps dials (.failed error dials)

/-- An attempt that has its transport keeps it as long as it waits. -/
theorem hasTransport_of_step {credentials : Option Credentials} {attempt attempt' : Attempt}
    {event : Event} (h : attempt.step credentials event = .waiting attempt')
    (htransport : attempt.hasTransport = true) : attempt'.hasTransport = true := by
  cases attempt with
  | connecting => cases htransport
  | authenticating x =>
      rw [Attempt.step] at h
      cases hstep : x.step event with
      | waiting x' =>
          rw [hstep] at h
          cases h
          rfl
      | finished c result =>
          rw [hstep, Attempt.ofRequest] at h
          split at h <;> cases h

theorem keeps_next (settings : PoolSettings) {opened : List Session} {dials : List Nat}
    (h : dials ⊆ opened.map Session.dial) : (next settings opened).1.Keeps dials := by
  rw [next]
  split
  · exact .waiting h
  · exact .opened (List.subset_append_of_subset_left _ h)

/-- A transport that is open stays open in every step that does not fail. -/
theorem keeps_step (o : Opening) (event : Event) : (o.step event).1.Keeps o.transports := by
  have hall : o.transports ⊆ o.dial :: o.opened.map Session.dial := by
    rw [transports]
    split
    · exact List.Subset.refl _
    · exact List.subset_cons_self ..
  rw [step]
  dsimp only
  cases hstep : o.attempt.step o.settings.credentials event with
  | waiting attempt =>
      refine .waiting ?_
      by_cases htransport : o.attempt.hasTransport = true
      · have hkept := hasTransport_of_step hstep htransport
        simp [transports, dial, htransport, hkept]
      · simp [transports, htransport]
  | failed error => exact .failed error
  | opened connection => exact keeps_next _ hall

/-- The opening of a pool over events in order, with what it makes known.  Events after its end are
left over. -/
def Progress.run : Progress → List Event → Progress × List Notice × List Event
  | .waiting o, event :: events =>
      let (progress, notices) := o.step event
      let (progress, later, left) := progress.run events
      (progress, notices ++ later, left)
  | progress, events => (progress, [], events)

theorem run_waiting_cons (o : Opening) (event : Event) (events : List Event) :
    (Progress.waiting o).run (event :: events) =
      (((o.step event).1.run events).1, (o.step event).2 ++ ((o.step event).1.run events).2.1,
        ((o.step event).1.run events).2.2) :=
  rfl

theorem run_opened (s : System) (events : List Event) :
    (Progress.opened s).run events = (.opened s, [], events) := by
  cases events <;> rfl

theorem run_failed (error : Error) (dropped : List Nat) (events : List Event) :
    (Progress.failed error dropped).run events = (.failed error dropped, [], events) := by
  cases events <;> rfl

/-- The opening of a pool goes on to the connections that are missing, over events in order. -/
def further (settings : PoolSettings) (opened : List Session) (events : List Event) :
    Progress × List Notice × List Event :=
  let (progress, notices) := next settings opened
  let (progress, later, left) := progress.run events
  (progress, notices ++ later, left)

/-- The opening of a pool goes on over events as the attempt in progress does, and once that has
opened its connection with the next one. -/
theorem run_waiting (o : Opening) (events : List Event) :
    ∃ traffic dropped,
      Tells o.dial ((Attempt.Progress.waiting o.attempt).run o.settings.credentials events).2.1
        traffic ∧
      (Progress.waiting o).run events =
        match (Attempt.Progress.waiting o.attempt).run o.settings.credentials events with
        | (.waiting attempt, _, _) => (.waiting { o with attempt }, traffic, [])
        | (.failed error, _, left) => (.failed error dropped, traffic, left)
        | (.opened connection, _, left) =>
            let after := further o.settings (⟨o.dial, connection⟩ :: o.opened) left
            (after.1, traffic ++ after.2.1, after.2.2) := by
  induction events generalizing o with
  | nil => exact ⟨[], [], tells_nil o.dial, rfl⟩
  | cons event events ih =>
      have htells := tells_traffic (.opening o.dial o.attempt) event
      rw [run_waiting_cons, Attempt.run_waiting_cons, Opening.step]
      dsimp only
      cases hstep : o.attempt.step o.settings.credentials event with
      | waiting attempt =>
          obtain ⟨traffic, dropped, hmore, hrun⟩ := ih { o with attempt }
          refine ⟨_, dropped, htells.append hmore, ?_⟩
          dsimp only at hrun ⊢
          rw [hrun]
          rcases (Attempt.Progress.waiting attempt).run o.settings.credentials events with
            ⟨attempt' | connection | error, taken, left⟩
          · rfl
          · simp only [List.append_assoc]
            rfl
          · rfl
      | failed error =>
          rw [Attempt.run_failed, run_failed]
          exact ⟨_, _, htells.append (tells_nil o.dial), rfl⟩
      | opened connection =>
          rw [Attempt.run_opened]
          refine ⟨_, [], htells.append (tells_nil o.dial), ?_⟩
          simp only [further, List.append_nil, List.append_assoc]

/-- The opening of a pool goes on with one more attempt.  If that opens its connection, the
credentials have gone over it, and the opening goes on to the next one. -/
theorem further_of_lt {settings : PoolSettings} {opened : List Session}
    (hroom : opened.length < settings.initialSize) (events : List Event) :
    ∃ made dropped, Announces settings.credentials opened.length (opened.length + 1) made ∧
      (∀ connection taken left, (Attempt.Progress.waiting .connecting).run settings.credentials
          events = (.opened connection, taken, left) →
        written opened.length made = greeting settings.credentials) ∧
      further settings opened events =
        match (Attempt.Progress.waiting .connecting).run settings.credentials events with
        | (.waiting attempt, _, _) => (.waiting ⟨settings, opened, attempt⟩, made, [])
        | (.failed error, _, left) => (.failed error dropped, made, left)
        | (.opened connection, _, left) =>
            let after := further settings (⟨opened.length, connection⟩ :: opened) left
            (after.1, made ++ after.2.1, after.2.2) := by
  have hnext : next settings opened =
      (.waiting ⟨settings, opened, .connecting⟩, [.dialed opened.length]) := if_pos hroom
  obtain ⟨traffic, dropped, htells, hrun⟩ := run_waiting ⟨settings, opened, .connecting⟩ events
  dsimp only [dial] at htells hrun
  have hsent := Attempt.taken_append_unsent settings.credentials (.waiting .connecting) events
  have hall := Attempt.Progress.IsRequest.taken_append_unsent (.waiting .connecting)
    settings.credentials events
  refine ⟨.dialed opened.length :: traffic, dropped,
    htells.announces ((List.prefix_append _ _).trans hsent), ?_, ?_⟩
  · intro connection taken left hopened
    rw [hopened] at htells hall
    rcases hall with ⟨error, herror⟩ | htaken
    · cases herror
    · exact htells.written.trans ((List.append_nil taken).symm.trans htaken)
  · rw [further, hnext]
    dsimp only
    rw [hrun]
    rcases (Attempt.Progress.waiting .connecting).run settings.credentials events with
      ⟨attempt | connection | error, taken, left⟩ <;> rfl

/-- **The opening of a pool goes attempt by attempt.** It comes to what the attempts come to, one
after the other, and tells of these and of no others.  Once all connections are open, the
credentials have gone over each of them. -/
theorem further_eq {settings : PoolSettings} {opened : List Session} {missing : Nat}
    (hmissing : opened.length + missing = settings.initialSize) (events : List Event) :
    let dialing := Dialing.run settings.credentials opened missing events
    let after := further settings opened events
    (∃ dropped, after.1 = dialing.progress settings dropped) ∧
      Announces settings.credentials opened.length dialing.begun after.2.1 ∧
      ∀ sessions left, dialing = .opened sessions left → after.2.2 = left ∧
        ∀ dial, opened.length ≤ dial → dial < sessions.length →
          written dial after.2.1 = greeting settings.credentials := by
  induction missing generalizing opened events with
  | zero =>
      have hnext : next settings opened = (.opened _, []) := if_neg (by omega)
      simp only [further, hnext, run_opened]
      refine ⟨⟨[], rfl⟩, announces_nil _ _, fun sessions left heq => ?_⟩
      cases heq
      exact ⟨rfl, fun dial hle hlt => absurd hlt hle.not_gt⟩
  | succ missing ih =>
      have hroom : opened.length < settings.initialSize := by omega
      obtain ⟨made, dropped, hannounces, hgreets, hfurther⟩ := further_of_lt hroom events
      rw [hfurther, Dialing.run]
      generalize (Attempt.Progress.waiting .connecting).run settings.credentials events = result
        at hgreets
      obtain ⟨attempt | connection | error, taken, left⟩ := result
      · exact ⟨⟨[], rfl⟩, hannounces, fun _ _ heq => by cases heq⟩
      · have hrest : (⟨opened.length, connection⟩ :: opened : List Session).length + missing =
            settings.initialSize := by
          rw [List.length_cons]
          omega
        obtain ⟨hprogress, hmore, hopened⟩ := ih hrest left
        refine ⟨hprogress, hannounces.trans hmore, fun sessions left' heq => ?_⟩
        obtain ⟨hleft, hwritten⟩ := hopened sessions left' heq
        refine ⟨hleft, fun dial hle hlt => ?_⟩
        dsimp only
        rw [written_append]
        rcases hle.eq_or_lt with rfl | hlater
        · rw [hgreets connection taken left rfl, hmore.silent _ (.inl (Nat.lt_succ_self _)),
            List.append_nil]
        · rw [hannounces.silent dial (.inr hlater), List.nil_append]
          exact hwritten dial hlater hlt
      · exact ⟨⟨dropped, rfl⟩, hannounces, fun _ _ heq => by cases heq⟩

/-- Nothing is left over as long as the opening of a pool waits. -/
theorem left_eq_nil_of_waiting {progress : Progress} {events : List Event} {o : Opening}
    (h : (progress.run events).1 = .waiting o) : (progress.run events).2.2 = [] := by
  induction events generalizing progress with
  | nil => cases progress <;> rfl
  | cons event events ih =>
      cases progress with
      | waiting => exact ih h
      | opened | failed => cases h

end Opening

end RateLimit.Pool
