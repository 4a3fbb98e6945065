import RateLimit.Proofs.Connection.Twins
import RateLimit.Proofs.Pool.Lives

/-!
# Pools of clients that differ in the password

Two pools are opened with the same settings but for the password, and the same happens to both,
except that their transports may take a command in other pieces.  Their books stay the same, each
user comes equally far in both, and what they make known is the same but for the bytes that their
transports take.

## Main definitions

* `Pool.Notice.told` : a notice that is not about the bytes that a transport takes.
* `Pool.Role.Twins`, `Pool.System.Twins` : users, and pools in use, that have come equally far.
* `Pool.Opening.Twins` : pools that are being opened and have come equally far.

## Main results

* `Pool.System.Twins.react`, `Pool.System.Twins.react_cut` : what an event brings two pools to.
* `Pool.System.Twins.acquire`, `Pool.System.Twins.request`, `Pool.System.Twins.release`,
  `Pool.System.Twins.giveUp`, `Pool.System.Twins.close` : so does whatever else happens.
* `Pool.Opening.Twins.step` : and what happens while they are being opened.
-/

namespace RateLimit

namespace Pool

/-- A notice that is not about the bytes that a transport takes. -/
def Notice.told : Notice → Bool
  | .wrote _ _ => false
  | _ => true

variable {pair : Credentials.Pair}
  {wires wires' wires₁ wires₁' : Nat → Wire} {user dial : Nat} {role role' : Role}
  {event event' : Event}

/-! ### Users -/

namespace Role

/-- Two users that have come equally far, and the wires of their transports. -/
inductive Twins (pair : Credentials.Pair) (w w' : Wire) : Role → Role → Prop
  | opening {dial : Nat} {attempt attempt' : Attempt} (h : attempt.Twins pair w w' attempt') :
      Twins pair w w' (.opening dial attempt) (.opening dial attempt')
  /-- Nothing is left on a wire if the connection is whole. -/
  | holding {session : Session} (h : session.connection.broken = false → w.Quiet w') :
      Twins pair w w' (.holding session) (.holding session)
  | calling {dial : Nat} {message message' : Bytes}
      (hmessage : Bytes.Twins pair message message') {x x' : Exchange}
      (h : Exchange.Twins message message' w w' x x') :
      Twins pair w w' (.calling dial x) (.calling dial x')

/-- Whether the transport of a user takes a part of what the user waits to write, but not all. -/
def cuts (role : Role) (event : Event) : Bool :=
  role.awaiting?.any (·.cuts event)

theorem Twins.swap {w w' : Wire} (h : role.Twins pair w w' role') :
    role'.Twins pair.swap w' w role := by
  cases h with
  | opening h => exact .opening h.swap
  | holding h => exact .holding fun hwhole => (h hwhole).swap
  | calling hmessage h => exact .calling hmessage.swap h.swap

theorem Twins.dial_eq {w w' : Wire} (h : role.Twins pair w w' role') :
    role'.dial = role.dial := by
  cases h <;> rfl

theorem Twins.hasTransport_eq {w w' : Wire} (h : role.Twins pair w w' role') :
    role'.hasTransport = role.hasTransport := by
  cases h with
  | opening h => exact h.hasTransport_eq
  | holding | calling => rfl

theorem filter_told_traffic (role : Role) (event : Event) :
    (role.traffic event).filter Notice.told =
      if role.flushes event then [.flushed role.dial] else [] := by
  rw [traffic, List.filter_append]
  have hwrote : (if (role.accepted event).isEmpty then []
      else [Notice.wrote role.dial (role.accepted event)]).filter Notice.told = [] := by
    split <;> rfl
  rw [hwrote, List.nil_append]
  split <;> rfl

theorem flushes_of_cuts (h : role.cuts event = true) : role.flushes event = false := by
  cases role with
  | opening dial attempt =>
      cases attempt with
      | connecting => rfl
      | authenticating x => exact Exchange.flushes_of_cuts h
  | holding => rfl
  | calling dial x => exact Exchange.flushes_of_cuts h

end Role

/-! ### Pools in use -/

namespace System

/-- Two pools in use that have come equally far, and what has passed over their transports. -/
structure Twins (pair : Credentials.Pair) (wires wires' : Nat → Wire) (s s' : System) : Prop where
  presents : s.credentials = pair.one
  presents' : s'.credentials = pair.other
  pool : s'.pool = s.pool
  dialed : s'.dialed = s.dialed
  users : ∀ user, Option.Rel
    (fun role role' => role.Twins pair (wires role.dial) (wires' role.dial) role')
    (s.role? user) (s'.role? user)
  idle : ∀ session ∈ s.pool.idle, (wires session.dial).Quiet (wires' session.dial)
  unused : ∀ dial, s.dialed ≤ dial → (wires dial).Quiet (wires' dial)
  wires : ∀ dial, Wire.Twins pair (wires dial) (wires' dial)

/-- Two pools after a turn of the same user, which comes to the same. -/
structure TurnTwins (pair : Credentials.Pair)
    (wires wires' : Nat → Wire) (result result' : System × Turn) : Prop where
  system : result.1.Twins pair wires wires' result'.1
  turn : result'.2 = result.2

/-- Whether the transport of a user takes a part of what the user waits to write, but not all. -/
def cuts (s : System) (user : Nat) (event : Event) : Bool :=
  (s.role? user).any (·.cuts event)

/-- From one state to another nothing has changed but the role of a user and the books. -/
structure Moves (user : Nat) (s t : System) : Prop where
  credentials : t.credentials = s.credentials
  dialed : t.dialed = s.dialed
  others : ∀ other, other ≠ user → t.role? other = s.role? other

variable {s s' t t' : System}

theorem moves_refl (user : Nat) (s : System) : s.Moves user s :=
  ⟨rfl, rfl, fun _ _ => rfl⟩

theorem moves_assign (user : Nat) (s : System) (role : Role) : s.Moves user (s.assign user role) :=
  ⟨rfl, rfl, fun _ hother => role?_assign_of_ne hother s role⟩

theorem moves_dismiss (user : Nat) (s : System) (pool : Pool) :
    s.Moves user (s.dismiss user pool) :=
  ⟨rfl, rfl, fun _ hother => role?_dismiss_of_ne hother s pool⟩

/-- Nobody has the name in both pools, or users have it that have come equally far. -/
theorem Twins.role_cases (h : s.Twins pair wires wires' s') (user : Nat) :
    (s.role? user = none ∧ s'.role? user = none) ∨
      ∃ role role', s.role? user = some role ∧ s'.role? user = some role' ∧
        role.Twins pair (wires role.dial) (wires' role.dial) role' := by
  have huser := h.users user
  generalize s.role? user = one at huser ⊢
  generalize s'.role? user = other at huser ⊢
  cases huser with
  | none => exact .inl ⟨rfl, rfl⟩
  | some htwins => exact .inr ⟨_, _, rfl, rfl, htwins⟩

theorem Twins.exists_role (h : s.Twins pair wires wires' s') (hrole : s.role? user = some role) :
    ∃ role', s'.role? user = some role' ∧
      role.Twins pair (wires role.dial) (wires' role.dial) role' := by
  rcases h.role_cases user with ⟨hnone, -⟩ | ⟨role₁, role', hrole₁, hrole', htwins⟩
  · cases hrole.symm.trans hnone
  · cases hrole.symm.trans hrole₁
    exact ⟨role', hrole', htwins⟩

theorem Twins.role?_eq_none (h : s.Twins pair wires wires' s') (hnone : s.role? user = none) :
    s'.role? user = none := by
  rcases h.role_cases user with ⟨-, hnone'⟩ | ⟨role, role', hrole, -⟩
  · exact hnone'
  · cases hrole.symm.trans hnone

/-- Both pools have the same transports open. -/
theorem Twins.perm_transports (h : s.Twins pair wires wires' s') (hs : s.Sound) (hs' : s'.Sound) :
    s'.transports.Perm s.transports := by
  refine (List.perm_ext_iff_of_nodup hs'.nodup_transports hs.nodup_transports).2 fun dial => ?_
  rw [mem_transports hs.names, mem_transports hs'.names, h.pool]
  refine or_congr_right (exists_congr fun user => ?_)
  rcases h.role_cases user with ⟨hnone, hnone'⟩ | ⟨role, role', hrole, hrole', htwins⟩
  · simp [hnone, hnone']
  · simp [hrole, hrole', htwins.dial_eq, htwins.hasTransport_eq]

theorem Twins.swap (h : s.Twins pair wires wires' s') : s'.Twins pair.swap wires' wires s where
  presents := h.presents'
  presents' := h.presents
  pool := h.pool.symm
  dialed := h.dialed.symm
  users := by
    intro user
    rcases h.role_cases user with ⟨hnone, hnone'⟩ | ⟨role, role', hrole, hrole', htwins⟩
    · rw [hnone, hnone']
      exact .none
    · rw [hrole, hrole']
      refine .some ?_
      rw [htwins.dial_eq]
      exact htwins.swap
  idle := fun session hmem => (h.idle session (h.pool ▸ hmem)).swap
  unused := fun dial hdial => (h.unused dial (h.dialed ▸ hdial)).swap
  wires := fun dial => (h.wires dial).swap

/-- A user moves in both pools, and nothing has passed but over its own transports. -/
theorem Twins.move (h : s.Twins pair wires wires' s') (hs : s.Sound)
    (hrole : s.role? user = some role) (hmoves : s.Moves user t) (hmoves' : s'.Moves user t')
    (hwires : ∀ dial, dial ≠ role.dial → wires₁ dial = wires dial)
    (hwires' : ∀ dial, dial ≠ role.dial → wires₁' dial = wires' dial)
    (hwire : Wire.Twins pair (wires₁ role.dial) (wires₁' role.dial))
    (hpool : t'.pool = t.pool)
    (hidle : ∀ session ∈ t.pool.idle, session ∈ s.pool.idle ∨
      (wires₁ session.dial).Quiet (wires₁' session.dial))
    (huser : Option.Rel (fun role role' =>
      role.Twins pair (wires₁ role.dial) (wires₁' role.dial) role')
      (t.role? user) (t'.role? user)) :
    t.Twins pair wires₁ wires₁' t' where
  presents := hmoves.credentials.trans h.presents
  presents' := hmoves'.credentials.trans h.presents'
  pool := hpool
  dialed := hmoves'.dialed.trans (h.dialed.trans hmoves.dialed.symm)
  users := by
    intro other
    by_cases hother : other = user
    · exact hother ▸ huser
    · rw [hmoves.others other hother, hmoves'.others other hother]
      have hothers := h.users other
      generalize hone : s.role? other = one at hothers ⊢
      generalize s'.role? other = two at hothers ⊢
      cases hothers with
      | none => exact .none
      | @some role₁ _ htwins =>
          have hne := hs.other_ne hrole hone hother
          rw [← hwires _ hne, ← hwires' _ hne] at htwins
          exact .some htwins
  idle := by
    intro session hmem
    rcases hidle session hmem with hold | hquiet
    · have hne := hs.idle_ne hrole hold
      rw [hwires _ hne, hwires' _ hne]
      exact h.idle session hold
    · exact hquiet
  unused := by
    intro dial hdial
    rw [hmoves.dialed] at hdial
    have hne : dial ≠ role.dial := Nat.ne_of_gt ((hs.role_lt hrole).trans_le hdial)
    rw [hwires _ hne, hwires' _ hne]
    exact h.unused dial hdial
  wires := by
    intro dial
    by_cases hdial : dial = role.dial
    · exact hdial ▸ hwire
    · rw [hwires _ hdial, hwires' _ hdial]
      exact h.wires dial

/-- A user takes another role in both pools. -/
theorem Twins.assign (h : s.Twins pair wires wires' s') (hs : s.Sound)
    (hrole : s.role? user = some role)
    (hwires : ∀ dial, dial ≠ role.dial → wires₁ dial = wires dial)
    (hwires' : ∀ dial, dial ≠ role.dial → wires₁' dial = wires' dial)
    (hwire : Wire.Twins pair (wires₁ role.dial) (wires₁' role.dial))
    {next next' : Role} (hdial : next.dial = role.dial)
    (hnext : next.Twins pair (wires₁ role.dial) (wires₁' role.dial) next') :
    (s.assign user next).Twins pair wires₁ wires₁' (s'.assign user next') := by
  refine h.move hs hrole (moves_assign ..) (moves_assign ..) hwires hwires' hwire h.pool
    (fun _ => .inl) ?_
  rw [role?_assign_self, role?_assign_self]
  rw [← hdial] at hnext
  exact .some hnext

/-- A user leaves both pools. -/
theorem Twins.dismiss (h : s.Twins pair wires wires' s') (hs : s.Sound)
    (hrole : s.role? user = some role)
    (hwires : ∀ dial, dial ≠ role.dial → wires₁ dial = wires dial)
    (hwires' : ∀ dial, dial ≠ role.dial → wires₁' dial = wires' dial)
    (hwire : Wire.Twins pair (wires₁ role.dial) (wires₁' role.dial)) {pool : Pool}
    (hidle : ∀ session ∈ pool.idle, session ∈ s.pool.idle ∨
      (wires₁ session.dial).Quiet (wires₁' session.dial)) :
    (s.dismiss user pool).Twins pair wires₁ wires₁' (s'.dismiss user pool) := by
  refine h.move hs hrole (moves_dismiss ..) (moves_dismiss ..) hwires hwires' hwire rfl hidle ?_
  rw [role?_dismiss_self, role?_dismiss_self]
  exact .none

/-- Somebody comes to both pools with a connection of its own, and nothing passes. -/
theorem Twins.join (h : s.Twins pair wires wires' s') {pool : Pool} {dialed : Nat}
    (hidle : ∀ session ∈ pool.idle, session ∈ s.pool.idle) (hdialed : s.dialed ≤ dialed)
    (hrole : role.Twins pair (wires role.dial) (wires' role.dial) role) :
    ({ s with pool, dialed }.assign user role).Twins pair wires wires'
      ({ s' with pool, dialed }.assign user role) where
  presents := h.presents
  presents' := h.presents'
  pool := rfl
  dialed := rfl
  users := by
    intro other
    rw [role?_assign, role?_assign]
    split
    · exact .some hrole
    · exact h.users other
  idle := fun session hmem => h.idle session (hidle session hmem)
  unused := fun dial hdial => h.unused dial (Nat.le_trans hdialed hdial)
  wires := h.wires

/-- **Whoever asks for a connection gets the same from both pools.** -/
theorem Twins.acquire (h : s.Twins pair wires wires' s') (user : Nat) :
    TurnTwins pair wires wires' (s.acquire user) (s'.acquire user) := by
  rw [System.acquire, System.acquire, h.pool, h.dialed, Pool.checkout]
  by_cases hclosed : s.pool.closed = true
  · rw [if_pos hclosed]
    exact ⟨h, rfl⟩
  · rw [if_neg hclosed]
    cases hidle : s.pool.idle with
    | cons session idle =>
        refine ⟨h.join (fun other hmem => hidle ▸ List.mem_cons_of_mem session hmem)
          (Nat.le_refl _) (.holding fun _ => ?_), rfl⟩
        exact h.idle session (hidle ▸ List.mem_cons_self)
    | nil =>
        dsimp only
        by_cases hfull : s.pool.maxSize ≤ s.pool.live
        · rw [if_pos hfull]
          exact ⟨h, rfl⟩
        · rw [if_neg hfull]
          exact ⟨h.join (fun _ hmem => hidle ▸ hmem) (Nat.le_succ _)
            (.opening (.connecting (h.unused s.dialed (Nat.le_refl _)))), rfl⟩

/-- Attempts that have come equally far bring both pools equally far. -/
theorem Twins.proceed (h : s.Twins pair wires wires' s') (hs : s.Sound)
    {attempt : Attempt} (hrole : s.role? user = some (.opening dial attempt))
    (hwires : ∀ other, other ≠ dial → wires₁ other = wires other)
    (hwires' : ∀ other, other ≠ dial → wires₁' other = wires' other)
    (hwire : Wire.Twins pair (wires₁ dial) (wires₁' dial)) {p p' : Attempt.Progress}
    (hp : p.Twins pair (wires₁ dial) (wires₁' dial) p') :
    TurnTwins pair wires₁ wires₁' (s.proceed user dial p) (s'.proceed user dial p') := by
  cases hp with
  | waiting htwins => exact ⟨h.assign hs hrole hwires hwires' hwire rfl (.opening htwins), rfl⟩
  | failed error =>
      rw [System.proceed, System.proceed, h.pool]
      exact ⟨h.dismiss hs hrole hwires hwires' hwire fun _ => .inl, rfl⟩
  | opened c hquiet =>
      rw [System.proceed, System.proceed, h.pool]
      split
      · exact ⟨h.dismiss hs hrole hwires hwires' hwire fun _ => .inl, rfl⟩
      · exact ⟨h.assign hs hrole hwires hwires' hwire rfl (.holding fun _ => hquiet), rfl⟩

/-- Requests that have come equally far bring both pools equally far. -/
theorem Twins.advance (h : s.Twins pair wires wires' s') (hs : s.Sound)
    (hrole : s.role? user = some role) {message message' : Bytes}
    (hmessage : Bytes.Twins pair message message')
    (hwires : ∀ other, other ≠ role.dial → wires₁ other = wires other)
    (hwires' : ∀ other, other ≠ role.dial → wires₁' other = wires' other)
    (hwire : Wire.Twins pair (wires₁ role.dial) (wires₁' role.dial))
    {p p' : RateLimit.Progress}
    (hp : p.Twins message message' (wires₁ role.dial) (wires₁' role.dial) p') :
    TurnTwins pair wires₁ wires₁' (s.advance user role.dial p)
      (s'.advance user role.dial p') := by
  cases hp with
  | waiting htwins =>
      exact ⟨h.assign hs hrole hwires hwires' hwire rfl (.calling hmessage htwins), rfl⟩
  | answered rest reply hquiet =>
      exact ⟨h.assign hs hrole hwires hwires' hwire rfl (.holding fun _ => hquiet), rfl⟩
  | failed hbroken error =>
      refine ⟨h.assign hs hrole hwires hwires' hwire rfl (.holding fun hwhole => ?_), rfl⟩
      cases hbroken.symm.trans hwhole

theorem traffic_of_role (hrole : s.role? user = some role) (event : Event) :
    s.traffic user event = role.traffic event := by
  rw [traffic, hrole]

/-- What passes in a call passes over the transport of its user. -/
theorem observe_calling (wires : Nat → Wire) (dial : Nat) (x : Exchange) (event : Event) :
    (Role.calling dial x).observe wires event dial = (wires dial).after x event :=
  Function.update_self ..

/-- The notices about what passes are the same if commands are passed on alike. -/
theorem filter_told_traffic (hrole : s.role? user = some role) (hrole' : s'.role? user = some role')
    (hdial : role'.dial = role.dial) (hflushes : role'.flushes event' = role.flushes event) :
    (s'.traffic user event').filter Notice.told = (s.traffic user event).filter Notice.told := by
  rw [traffic_of_role hrole, traffic_of_role hrole', Role.filter_told_traffic,
    Role.filter_told_traffic, hdial, hflushes]

/-- What the same event brings two pools to. -/
structure Reacted (pair : Credentials.Pair) (wires wires' : Nat → Wire)
    (s s' : System) (user : Nat) (event event' : Event) : Prop where
  turn : TurnTwins pair (s.observe wires user event)
    (s'.observe wires' user event') (s.react user event) (s'.react user event')
  traffic : (s'.traffic user event').filter Notice.told =
    (s.traffic user event).filter Notice.told

/-- **The same event brings both pools equally far**, unless a transport takes a part of a
command. -/
theorem Twins.react (h : s.Twins pair wires wires' s') (hs : s.Sound)
    (hevent : event.Twins event') (hcuts : s.cuts user event = false)
    (hcuts' : s'.cuts user event' = false) :
    Reacted pair wires wires' s s' user event event' := by
  rcases h.role_cases user with ⟨hnone, hnone'⟩ | ⟨role, role', hrole, hrole', htwins⟩
  · constructor
    · rw [System.react, System.react, observe, observe, hnone, hnone']
      exact ⟨h, rfl⟩
    · rw [System.traffic, System.traffic, hnone, hnone']
  · rw [cuts, hrole, Option.any_some] at hcuts
    rw [cuts, hrole', Option.any_some] at hcuts'
    have hwires : ∀ other, other ≠ role.dial → role.observe wires event other = wires other :=
      fun _ hother => Role.observe_of_ne hother
    have hwires' : ∀ other, other ≠ role'.dial → role'.observe wires' event' other = wires' other :=
      fun _ hother => Role.observe_of_ne hother
    rw [htwins.dial_eq] at hwires'
    have hwire := h.wires role.dial
    cases htwins with
    | @opening dial attempt attempt' htwins =>
        dsimp only [Role.dial] at hwires hwires' hwire htwins
        obtain ⟨hprogress, hwire₁, hflushes⟩ := htwins.step hwire hevent hcuts hcuts'
        rw [← observe_opening wires dial, ← observe_opening wires' dial] at hprogress hwire₁
        refine ⟨?_, filter_told_traffic hrole hrole' rfl hflushes⟩
        rw [react_of_opening hrole, react_of_opening hrole', observe_of_role hrole,
          observe_of_role hrole', h.presents, h.presents']
        exact h.proceed hs hrole hwires hwires' hwire₁ hprogress
    | holding =>
        refine ⟨?_, filter_told_traffic hrole hrole' rfl rfl⟩
        rw [System.react, System.react, observe_of_role hrole, observe_of_role hrole', hrole,
          hrole']
        exact ⟨h, rfl⟩
    | @calling dial _ _ hmessage x x' htwins =>
        dsimp only [Role.dial] at hwires hwires' hwire htwins
        obtain ⟨hprogress, hwire₁, hflushes⟩ := htwins.step hmessage hwire hevent hcuts hcuts'
        rw [← observe_calling wires dial, ← observe_calling wires' dial] at hprogress hwire₁
        refine ⟨?_, filter_told_traffic hrole hrole' rfl hflushes⟩
        rw [react_of_calling hrole, react_of_calling hrole', observe_of_role hrole,
          observe_of_role hrole']
        exact h.advance hs hrole hmessage hwires hwires' hwire₁ hprogress

/-! ### Parts of commands -/

/-- Whatever happens, the same can happen without a part of a command being taken. -/
theorem exists_uncut (s : System) (user : Nat) (event : Event) :
    ∃ event', event'.outline = event.outline ∧ s.cuts user event' = false := by
  unfold cuts
  cases s.role? user with
  | none => exact ⟨event, rfl, rfl⟩
  | some role =>
      cases hawaiting : role.awaiting? with
      | none => exact ⟨event, rfl, by rw [Option.any_some, Role.cuts, hawaiting, Option.any_none]⟩
      | some awaiting =>
          obtain ⟨event', houtline, hcuts⟩ := awaiting.exists_uncut event
          exact ⟨event', houtline,
            by rw [Option.any_some, Role.cuts, hawaiting, Option.any_some, hcuts]⟩

theorem filter_told_traffic_of_cuts (hcuts : s.cuts user event = true) :
    (s.traffic user event).filter Notice.told = [] := by
  obtain ⟨role, hrole, hcut⟩ := (Option.any_eq_true ..).1 hcuts
  rw [traffic_of_role hrole, Role.filter_told_traffic, Role.flushes_of_cuts hcut]
  rfl

/-- **A pool in which a command is taken in part has come as far as before.** -/
theorem Twins.react_cut (h : s.Twins pair wires wires' s') (hs : s.Sound)
    (hcuts : s.cuts user event = true) :
    (s.react user event).1.Twins pair (s.observe wires user event) wires' s' ∧
      (s.react user event).2 = .pending := by
  obtain ⟨role, hrole, hcut⟩ := (Option.any_eq_true ..).1 hcuts
  obtain ⟨role', hrole', htwins⟩ := h.exists_role hrole
  have hwires : ∀ other, other ≠ role.dial → role.observe wires event other = wires other :=
    fun _ hother => Role.observe_of_ne hother
  have hwire := h.wires role.dial
  -- The user stands in front of the others afterwards, in this pool and not in the other.
  have hmove {next : Role} (hdial : next.dial = role.dial)
      (hwire₁ : Wire.Twins pair (role.observe wires event role.dial) (wires' role.dial))
      (hnext : next.Twins pair (role.observe wires event role.dial) (wires' role.dial) role') :
      (s.assign user next).Twins pair (role.observe wires event) wires' s' := by
    refine h.move hs hrole (moves_assign ..) (moves_refl ..) hwires (fun _ _ => rfl) hwire₁ h.pool
      (fun _ => .inl) ?_
    rw [role?_assign_self, hrole']
    rw [← hdial] at hnext
    exact .some hnext
  rw [observe_of_role hrole]
  cases htwins with
  | @opening dial attempt attempt' htwins =>
      obtain ⟨attempt₁, hstep, htwins₁, hwire₁⟩ := htwins.cut hwire hcut s.credentials
      dsimp only [Role.dial] at htwins₁ hwire₁
      rw [← observe_opening wires dial] at htwins₁ hwire₁
      rw [react_of_opening hrole, hstep]
      exact ⟨hmove rfl hwire₁ (.opening htwins₁), rfl⟩
  | holding => cases hcut
  | @calling dial _ _ hmessage x x' htwins =>
      obtain ⟨x₁, hstep, htwins₁, hwire₁⟩ := htwins.cut hmessage hwire hcut
      dsimp only [Role.dial] at htwins₁ hwire₁
      rw [← observe_calling wires dial] at htwins₁ hwire₁
      rw [react_of_calling hrole, hstep]
      exact ⟨hmove rfl hwire₁ (.calling hmessage htwins₁), rfl⟩

/-! ### The other things that happen -/

/-- A request on a whole connection that is held begins with the same command in both pools. -/
theorem Twins.request (h : s.Twins pair wires wires' s') (hs : s.Sound)
    {session : Session} (hrole : s.role? user = some (.holding session))
    (hwhole : session.connection.broken = false) (command : Command) :
    TurnTwins pair wires wires' (s.call user (.request command))
      (s'.call user (.request command)) := by
  obtain ⟨role', hrole', htwins⟩ := h.exists_role hrole
  cases htwins with
  | holding hquiet =>
      have hquiet := hquiet hwhole
      rw [call_of_holding hrole, call_of_holding hrole']
      refine h.advance hs hrole (Bytes.twins_command pair command)
        (fun _ _ => rfl) (fun _ _ => rfl) (h.wires _) ?_
      rw [Connection.start, Connection.transmit, Command.bytes]
      cases command.encode with
      | error fault => exact .failed rfl _
      | ok bytes =>
          refine .waiting (.writing rfl ?_ ?_)
          · rw [hquiet.pending, List.nil_append]
          · rw [hquiet.pending', List.nil_append]

theorem Twins.release (h : s.Twins pair wires wires' s') (hs : s.Sound) (user : Nat) :
    (s.release user).Twins pair wires wires' (s'.release user) := by
  rcases h.role_cases user with ⟨hnone, hnone'⟩ | ⟨role, role', hrole, hrole', htwins⟩
  · rw [System.release, System.release, hnone, hnone']
    exact h
  · rw [System.release, System.release, hrole, hrole']
    cases htwins with
    | opening | calling => exact h
    | @holding session hquiet =>
        dsimp only
        rw [h.pool]
        refine h.dismiss hs hrole (fun _ _ => rfl) (fun _ _ => rfl) (h.wires _) fun other hmem => ?_
        rcases s.pool.release_cases session with ⟨-, hgone⟩ | ⟨-, hwhole, hkept⟩
        · rw [hgone] at hmem
          exact .inl hmem
        · rw [hkept] at hmem
          rcases List.mem_cons.1 hmem with rfl | hold
          · exact .inr (hquiet hwhole)
          · exact .inl hold

theorem Twins.giveUp (h : s.Twins pair wires wires' s') (hs : s.Sound)
    (user : Nat) : (s.giveUp user).Twins pair wires wires' (s'.giveUp user) := by
  rcases h.role_cases user with ⟨hnone, hnone'⟩ | ⟨role, role', hrole, hrole', htwins⟩
  · rw [System.giveUp, System.giveUp, hnone, hnone']
    exact h
  · rw [System.giveUp, System.giveUp, hrole, hrole']
    cases htwins with
    | holding => exact h
    | opening =>
        dsimp only
        rw [h.pool]
        exact h.dismiss hs hrole (fun _ _ => rfl) (fun _ _ => rfl) (h.wires _) fun _ => .inl
    | calling hmessage htwins =>
        obtain ⟨hconnection, hbroken⟩ := htwins.connection_eq
        dsimp only
        rw [hconnection]
        exact h.assign hs hrole (fun _ _ => rfl) (fun _ _ => rfl) (h.wires _) rfl
          (.holding fun hwhole => by cases hbroken.symm.trans hwhole)

theorem Twins.close (h : s.Twins pair wires wires' s') :
    s.close.Twins pair wires wires' s'.close where
  presents := h.presents
  presents' := h.presents'
  pool := congrArg Pool.close h.pool
  dialed := h.dialed
  users := h.users
  idle := by
    intro session hmem
    rw [System.close, Pool.close] at hmem
    split at hmem
    · exact h.idle session hmem
    · cases hmem
  unused := h.unused
  wires := h.wires

end System

/-! ### Opening -/

namespace Opening

/-- Two pools that are being opened and have come equally far, and what has passed over their
transports. -/
structure Twins (pair : Credentials.Pair) (wires wires' : Nat → Wire)
    (o o' : Opening) : Prop where
  presents : o.settings.credentials = pair.one
  presents' : o'.settings = { o.settings with credentials := pair.other }
  opened : o'.opened = o.opened
  attempt : o.attempt.Twins pair (wires o.dial) (wires' o.dial) o'.attempt
  idle : ∀ session ∈ o.opened, (wires session.dial).Quiet (wires' session.dial)
  unused : ∀ dial, o.dial < dial → (wires dial).Quiet (wires' dial)
  wires : ∀ dial, Wire.Twins pair (wires dial) (wires' dial)

/-- How far the opening of two pools has come, which is equally far. -/
inductive Progress.Twins (pair : Credentials.Pair) (wires wires' : Nat → Wire) :
    Progress → Progress → Prop
  | waiting {o o' : Opening} (h : o.Twins pair wires wires' o') :
      Twins pair wires wires' (.waiting o) (.waiting o')
  | opened {s s' : System} (h : s.Twins pair wires wires' s') :
      Twins pair wires wires' (.opened s) (.opened s')
  | failed (error : Error) (dropped : List Nat)
      (hwires : ∀ dial, Wire.Twins pair (wires dial) (wires' dial)) :
      Twins pair wires wires' (.failed error dropped) (.failed error dropped)

/-- What the same event brings two pools to that are being opened. -/
structure Advanced (pair : Credentials.Pair) (wires wires' : Nat → Wire)
    (after after' : Progress × List Notice) : Prop where
  progress : after.1.Twins pair wires wires' after'.1
  told : after'.2.filter Notice.told = after.2.filter Notice.told

variable {settings : PoolSettings} {o o' : Opening}

/-- Both pools go on to the next connection, or are open. -/
theorem advanced_next (hpresents : settings.credentials = pair.one) {opened : List Session}
    (hidle : ∀ session ∈ opened, (wires session.dial).Quiet (wires' session.dial))
    (hunused : ∀ dial, opened.length ≤ dial → (wires dial).Quiet (wires' dial))
    (hwires : ∀ dial, Wire.Twins pair (wires dial) (wires' dial)) :
    Advanced pair wires wires' (next settings opened)
      (next { settings with credentials := pair.other } opened) := by
  rw [next, next]
  dsimp only
  split
  · refine ⟨.waiting ?_, rfl⟩
    exact {
      presents := hpresents
      presents' := rfl
      opened := rfl
      attempt := .connecting (hunused _ (Nat.le_refl _))
      idle := hidle
      unused := fun dial hdial => hunused dial (Nat.le_of_lt hdial)
      wires := hwires }
  · refine ⟨.opened ?_, rfl⟩
    exact {
      presents := hpresents
      presents' := rfl
      pool := rfl
      dialed := rfl
      users := fun _ => .none
      idle := hidle
      unused := hunused
      wires := hwires }

theorem advanced_start (hpresents : settings.credentials = pair.one) :
    Advanced pair (fun _ => {}) (fun _ => {}) (start settings)
      (start { settings with credentials := pair.other }) :=
  advanced_next hpresents (fun session hmem => by cases hmem) (fun _ _ => ⟨rfl, rfl⟩) fun _ =>
    Wire.twins_empty pair

/-- Nothing passes over the transports of the connections that are open already. -/
theorem Twins.quiet_of_observe (h : o.Twins pair wires wires' o')
    (hnumbered : Numbered o.opened) {wires₁ wires₁' : Nat → Wire}
    (hwires : ∀ dial, dial ≠ o.dial → wires₁ dial = wires dial)
    (hwires' : ∀ dial, dial ≠ o.dial → wires₁' dial = wires' dial) :
    (∀ session ∈ o.opened, (wires₁ session.dial).Quiet (wires₁' session.dial)) ∧
      ∀ dial, o.dial < dial → (wires₁ dial).Quiet (wires₁' dial) := by
  refine ⟨fun session hmem => ?_, fun dial hdial => ?_⟩
  · have hne : session.dial ≠ o.dial := Nat.ne_of_lt (hnumbered.dial_lt hmem)
    rw [hwires _ hne, hwires' _ hne]
    exact h.idle session hmem
  · have hne : dial ≠ o.dial := Nat.ne_of_gt hdial
    rw [hwires _ hne, hwires' _ hne]
    exact h.unused dial hdial

theorem Twins.dial_eq (h : o.Twins pair wires wires' o') : o'.dial = o.dial :=
  congrArg List.length h.opened

theorem Twins.transports_eq (h : o.Twins pair wires wires' o') : o'.transports = o.transports := by
  rw [transports, transports, h.dial_eq, h.opened, h.attempt.hasTransport_eq]

theorem Twins.swap (h : o.Twins pair wires wires' o') : o'.Twins pair.swap wires' wires o where
  presents := congrArg PoolSettings.credentials h.presents'
  presents' := by
    rw [h.presents']
    change o.settings = { o.settings with credentials := pair.one }
    rw [← h.presents]
  opened := h.opened.symm
  attempt := by
    rw [h.dial_eq]
    exact h.attempt.swap
  idle := fun session hmem => (h.idle session (h.opened ▸ hmem)).swap
  unused := fun dial hdial => (h.unused dial (h.dial_eq ▸ hdial)).swap
  wires := fun dial => (h.wires dial).swap

theorem observe_self (wires : Nat → Wire) (o : Opening) (event : Event) :
    o.observe wires event o.dial = o.attempt.observe (wires o.dial) event :=
  observe_opening wires o.dial o.attempt event

theorem observe_of_ne (o : Opening) (event : Event) (h : dial ≠ o.dial) :
    o.observe wires event dial = wires dial :=
  Role.observe_of_ne h

/-- The wires differ in the password at most if those of the attempt in progress do. -/
theorem Twins.wires_of_observe (h : o.Twins pair wires wires' o')
    (hwires : ∀ dial, dial ≠ o.dial → wires₁ dial = wires dial)
    (hwires' : ∀ dial, dial ≠ o.dial → wires₁' dial = wires' dial)
    (hwire : Wire.Twins pair (wires₁ o.dial) (wires₁' o.dial))
    (dial : Nat) : Wire.Twins pair (wires₁ dial) (wires₁' dial) := by
  by_cases hdial : dial = o.dial
  · exact hdial ▸ hwire
  · rw [hwires _ hdial, hwires' _ hdial]
    exact h.wires dial

/-- **The same event brings both pools equally far**, unless a transport takes a part of the
credentials. -/
theorem Twins.step (h : o.Twins pair wires wires' o') (hnumbered : Numbered o.opened)
    (hevent : event.Twins event') (hcuts : o.attempt.awaiting.cuts event = false)
    (hcuts' : o'.attempt.awaiting.cuts event' = false) :
    Advanced pair (o.observe wires event) (o'.observe wires' event') (o.step event)
      (o'.step event') := by
  have hwires : ∀ dial, dial ≠ o.dial → o.observe wires event dial = wires dial :=
    fun _ => o.observe_of_ne event
  have hwires' : ∀ dial, dial ≠ o.dial → o'.observe wires' event' dial = wires' dial :=
    fun _ hdial => o'.observe_of_ne event' (h.dial_eq ▸ hdial)
  obtain ⟨hprogress, hwire, hflushes⟩ := h.attempt.step (h.wires o.dial) hevent hcuts hcuts'
  have hself := observe_self wires' o' event'
  rw [h.dial_eq] at hself
  rw [← hself, ← observe_self] at hprogress hwire
  have hall := h.wires_of_observe hwires hwires' hwire
  obtain ⟨hidle, hunused⟩ := h.quiet_of_observe hnumbered hwires hwires'
  have htraffic : ((Role.opening o.dial o'.attempt).traffic event').filter Notice.told =
      ((Role.opening o.dial o.attempt).traffic event).filter Notice.told := by
    rw [Role.filter_told_traffic, Role.filter_told_traffic]
    exact congrArg (if · then [Notice.flushed o.dial] else []) hflushes
  have hpresents : o'.settings.credentials = pair.other :=
    congrArg PoolSettings.credentials h.presents'
  rw [Opening.step, Opening.step, h.dial_eq, h.opened, h.presents, hpresents]
  generalize o.attempt.step pair.one event = p at hprogress ⊢
  generalize o'.attempt.step pair.other event' = p' at hprogress ⊢
  cases hprogress with
  | waiting htwins =>
      refine ⟨.waiting ?_, htraffic⟩
      exact {
        presents := h.presents
        presents' := h.presents'
        opened := rfl
        attempt := htwins
        idle := hidle
        unused := hunused
        wires := hall }
  | failed error =>
      rw [h.transports_eq]
      exact ⟨.failed error _ hall, htraffic⟩
  | opened c hquiet =>
      have hidle' : ∀ session ∈ (⟨o.dial, c⟩ : Session) :: o.opened,
          (o.observe wires event session.dial).Quiet (o'.observe wires' event' session.dial) :=
        List.forall_mem_cons.2 ⟨hquiet, hidle⟩
      have hnext := advanced_next h.presents hidle' hunused hall
      rw [← h.presents'] at hnext
      refine ⟨hnext.progress, ?_⟩
      dsimp only
      rw [List.filter_append, List.filter_append, htraffic]
      exact congrArg _ hnext.told

/-- Of a part of the credentials that a transport takes, nothing is told. -/
theorem step_of_cuts (hcuts : o.attempt.awaiting.cuts event = true) {attempt₁ : Attempt}
    (hstep : o.attempt.step o.settings.credentials event = .waiting attempt₁) :
    (o.step event).1 = .waiting { o with attempt := attempt₁ } ∧
      (o.step event).2.filter Notice.told = [] := by
  have hflushes : (Role.opening o.dial o.attempt).flushes event = false :=
    Role.flushes_of_cuts hcuts
  rw [step, hstep]
  dsimp only
  rw [Role.filter_told_traffic, hflushes]
  exact ⟨rfl, rfl⟩

/-- **A pool whose credentials are taken in part has come as far as before.** -/
theorem Twins.step_cut (h : o.Twins pair wires wires' o')
    (hnumbered : Numbered o.opened) (hcuts : o.attempt.awaiting.cuts event = true) :
    (o.step event).1.Twins pair (o.observe wires event) wires' (.waiting o') ∧
      (o.step event).2.filter Notice.told = [] := by
  have hwires : ∀ dial, dial ≠ o.dial → o.observe wires event dial = wires dial :=
    fun _ => o.observe_of_ne event
  obtain ⟨attempt₁, hstep, htwins, hwire⟩ :=
    h.attempt.cut (h.wires o.dial) hcuts o.settings.credentials
  rw [← observe_self] at htwins hwire
  obtain ⟨hidle, hunused⟩ := h.quiet_of_observe hnumbered hwires fun _ _ => rfl
  obtain ⟨hprogress, htold⟩ := step_of_cuts hcuts hstep
  refine ⟨?_, htold⟩
  rw [hprogress]
  exact .waiting {
    presents := h.presents
    presents' := h.presents'
    opened := h.opened
    attempt := htwins
    idle := hidle
    unused := hunused
    wires := h.wires_of_observe hwires (fun _ _ => rfl) hwire }

end Opening

end Pool

end RateLimit
