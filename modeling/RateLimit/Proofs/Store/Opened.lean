import RateLimit.Proofs.Store.Attainable
import RateLimit.Proofs.Store.Ready

/-!
# Opening a store on a server that works

A store that is opened on a server of token buckets that works opens its connections one after the
other, presents the credentials on each of them, and registers its script on the last one.  The
store is then ready, and nothing has changed at the server but its ends of the connections of this
store.

## Main results

* `Store.Opening.settleWithin_connecting` : one more connection.
* `Store.openOn_ready` : a store is opened.
-/

namespace RateLimit

open Pool (System Turn)

theorem Credentials.encode_command (c : Credentials) :
    c.command.encode = .ok c.command.bytes := rfl

/-- A configuration is accepted with the limits that it resolves to. -/
theorem Config.limits_eq_ok {c : Config} {limits : Limits}
    (htokens : limits.tokens = orDefault 1 c.tokens)
    (hinterval : limits.interval = c.resolvedInterval) (httl : limits.ttl = c.resolvedTtl) :
    c.limits = .ok limits := by
  obtain ⟨tokens, interval, ttl, htokens_pos, hinterval_pos, httl_pos⟩ := limits
  subst htokens hinterval httl
  exact dif_pos httl_pos

namespace BucketServer

theorem step_received_acknowledgement :
    Exchange.step ⟨⟨[], true⟩, .request, .read⟩ (.received acknowledgement.encode) =
      .finished {} (.ok (some acknowledgement)) :=
  have hencodable : acknowledgement.Encodable := by decide
  Exchange.step_received_encode hencodable (by decide)

/-- Every script takes an acknowledgement for its registration, if with a warning. -/
theorem registered_acknowledgement (script : Script) :
    ∃ warning, script.registered (.ok (some acknowledgement)) = .ok warning :=
  ⟨_, rfl⟩

end BucketServer

namespace Store.Opening

/-- The server's ends of some connections are at rest. -/
def Rested {α : Type} (host : Host (BucketServer α)) (client : Nat) (settings : PoolSettings)
    (sessions : List Session) : Prop :=
  ∀ session ∈ sessions, session.connection = {} ∧
    host.view (client, session.dial) = .resting settings.credentials.isSome

theorem Rested.cons {α : Type} {host host' : Host (BucketServer α)} {client dial : Nat}
    {settings : PoolSettings} {opened : List Session} (h : Rested host client settings opened)
    (hview : host'.view = Function.update host.view (client, dial)
      (.resting settings.credentials.isSome)) :
    Rested host' client settings (⟨dial, {}⟩ :: opened) := by
  intro session hsession
  rw [hview, Function.update_apply]
  rcases List.mem_cons.mp hsession with rfl | hsession
  · exact ⟨rfl, if_pos rfl⟩
  · refine ⟨(h session hsession).1, ?_⟩
    split
    · rfl
    · exact (h session hsession).2

variable {α : Type} [Quantity α] [Add α] [Sub α] [Mul α] [Div α] [LT α] [LE α] [DecidableLT α]
  [DecidableLE α]

/-- The system of a pool that has just been opened. -/
def pooled (settings : PoolSettings) (sessions : List Session) : System where
  credentials := settings.credentials
  pool := { maxSize := settings.maxSize, idle := sessions, live := sessions.length }
  dialed := sessions.length

section

variable (plan : Plan) (settings : PoolSettings) (opened : List Session) (attempts : Nat)

/-- The opening while a connection is being opened. -/
def connecting (attempt : Attempt) : Progress :=
  .waiting (.pool plan ⟨settings, opened, attempt⟩)

theorem fst_proceed_congr {after after' : Pool.Opening.Progress × List Pool.Notice}
    (h : after.1 = after'.1) : (proceed plan after).1 = (proceed plan after').1 := by
  obtain ⟨progress, made⟩ := after
  obtain ⟨progress', made'⟩ := after'
  obtain rfl : progress = progress' := h
  cases progress <;> rfl

/-- The opening goes on with the attempt. -/
theorem resume_connecting (attempt : Attempt) (event : Event) :
    ((openingWaiter attempts).resume (connecting plan settings opened attempt) event).1 =
      match attempt.step settings.credentials event with
      | .waiting attempt => connecting plan settings opened attempt
      | .failed error =>
          .failed (.setup .openPool error) (Pool.Opening.transports ⟨settings, opened, attempt⟩)
      | .opened connection =>
          (proceed plan
            (Pool.Opening.next settings (⟨opened.length, connection⟩ :: opened))).1 := by
  change (proceed plan (Pool.Opening.step ⟨settings, opened, attempt⟩ event)).1 = _
  rw [Pool.Opening.step]
  dsimp only
  cases attempt.step settings.credentials event with
  | waiting attempt => rfl
  | failed error => rfl
  | opened connection => exact fst_proceed_congr plan rfl

/-- While the credentials are presented, the opening waits for nothing but the request. -/
theorem carries_authenticating : (openingWaiter attempts).Carries opened.length
    (fun x => connecting plan settings opened (.authenticating x)) fun _ => True where
  awaiting _ := rfl
  resume h := by
    rw [resume_connecting, Attempt.step, h]
    rfl
  quiet _ _ _ := trivial

/-- While the script is being registered, the opening waits for nothing but the request. -/
theorem carries_registering (base : System) (dial : Nat) : (openingWaiter attempts).Carries dial
    (fun x => .waiting (.script plan (base.assign user (.calling dial x)))) fun _ => True where
  awaiting x := by
    simp only [openingWaiter, Opening.awaiting?, System.role?_assign_self]
    rfl
  resume {x x' event} h := by
    change ((Opening.script plan (base.assign user (.calling dial x))).step event).1 = _
    rw [step_script_of_waiting (System.role?_assign_self base user _) h, System.assign_assign]
  quiet _ _ _ := trivial

end

/-! ### A connection -/

variable (plan : Plan) (settings : PoolSettings) (opened : List Session) (attempts client : Nat)
  {host : Host (BucketServer α)}

/-- A server that does not refuse connections opens one. -/
theorem settleWithin_connect (hrefusing : host.state.refusing = false) (steps : Nat)
    (made : List Notice) :
    ∃ host' made', settleWithin (openingWaiter attempts) (Host.network BucketServer.service client)
        (steps + 1) (connecting plan settings opened .connecting) host made =
      settleWithin (openingWaiter attempts) (Host.network BucketServer.service client) steps
        ((openingWaiter attempts).resume (connecting plan settings opened .connecting) .connected).1
        host' made' ∧ host'.state = host.state ∧
      host'.view = Function.update host.view (client, opened.length) (.resting false) := by
  let host' : Host (BucketServer α) :=
    { host with attempts := host.attempts + 1 }.setPeer client opened.length {}
  have hcue : (Host.network BucketServer.service client).cue host opened.length .connect =
      (.event .connected, host') := by
    have hrefusal : (BucketServer.service (α := α)).refusal host.state = none := by
      change (if host.state.refusing then _ else none) = none
      rw [hrefusing]
      rfl
    change Host.cue BucketServer.service client host opened.length .connect = _
    rw [Host.cue]
    dsimp only
    rw [hrefusal]
  exact ⟨host', _, settleWithin_of_event rfl hcue steps made, rfl, Host.view_setPeer ..⟩

/-- One more connection is opened, in at most four steps, and identifies itself if the server asks
for that. -/
theorem settleWithin_connecting (hrefusing : host.state.refusing = false)
    (hadmits : host.state.admits settings.credentials) (steps : Nat)
    (made : List Notice) :
    ∃ steps' host' made', settleWithin (openingWaiter attempts)
        (Host.network BucketServer.service client) (steps + 4)
        (connecting plan settings opened .connecting) host made =
      settleWithin (openingWaiter attempts) (Host.network BucketServer.service client) steps'
        (proceed plan (Pool.Opening.next settings (⟨opened.length, {}⟩ :: opened))).1 host' made' ∧
      steps ≤ steps' ∧ host'.state = host.state ∧
      host'.view = Function.update host.view (client, opened.length)
        (.resting settings.credentials.isSome) := by
  obtain ⟨host', made', hconnect, hstate, hview⟩ :=
    settleWithin_connect plan settings opened attempts client hrefusing (steps + 3) made
  rw [hconnect, resume_connecting]
  cases hsettings : settings.credentials with
  | none => exact ⟨steps + 3, host', made', rfl, Nat.le_add_right _ _, hstate, hview⟩
  | some credentials =>
      have hadmits' : host'.state.admits (some credentials) := by
        rw [hstate, ← hsettings]
        exact hadmits
      have hpeer : host'.view (client, opened.length) = .resting false := by
        rw [hview, Function.update_self]
      obtain ⟨host'', more, hsettled, -, hstate', hview'⟩ :=
        (carries_authenticating plan settings opened attempts).settleWithin_request hpeer
          credentials.encode_command (BucketServer.answer_credentials hadmits' false)
          BucketServer.acknowledgement.encode_ne_nil steps made'
      refine ⟨steps, host'', ?_, hsettled.trans ?_, Nat.le_refl _, hstate'.trans hstate, ?_⟩
      rotate_left
      · rw [resume_connecting, Attempt.step, BucketServer.step_received_acknowledgement]
        rfl
      · rw [hview', hview, Function.update_idem]
        rfl

/-! ### All connections -/

variable {settings opened}

/-- The connections that are missing are opened one after the other. -/
theorem settleWithin_missing (missing : Nat)
    (hsize : opened.length + missing + 1 = settings.initialSize)
    (hopened : Rested host client settings opened) (hrefusing : host.state.refusing = false)
    (hadmits : host.state.admits settings.credentials) (steps : Nat)
    (made : List Notice) :
    ∃ sessions steps' host' made', settleWithin (openingWaiter attempts)
        (Host.network BucketServer.service client) (steps + 4 * (missing + 1))
        (connecting plan settings opened .connecting) host made =
      settleWithin (openingWaiter attempts) (Host.network BucketServer.service client) steps'
        (follow plan ((pooled settings sessions).acquire user)).1 host' made' ∧
      steps ≤ steps' ∧ sessions ≠ [] ∧ Rested host' client settings sessions ∧
      host'.state = host.state ∧
      ∀ other dial, other ≠ client → host'.view (other, dial) = host.view (other, dial) := by
  induction missing generalizing opened host steps made with
  | zero =>
      obtain ⟨steps', host', made', hsettled, hsteps, hstate, hview⟩ :=
        settleWithin_connecting plan settings opened attempts client hrefusing hadmits steps
          made
      refine ⟨⟨opened.length, {}⟩ :: opened, steps', host', made', hsettled.trans ?_, hsteps,
        List.cons_ne_nil _ _, hopened.cons hview, hstate, ?_⟩
      · have hall : ¬ (opened.length + 1) < settings.initialSize := by omega
        rw [Pool.Opening.next, List.length_cons, if_neg hall]
        rfl
      · intro other dial hother
        rw [hview, Function.update_of_ne fun heq => hother (congrArg Prod.fst heq)]
  | succ missing ih =>
      obtain ⟨steps₁, host₁, made₁, hsettled, hsteps, hstate, hview⟩ :=
        settleWithin_connecting plan settings opened attempts client hrefusing hadmits
          (steps + 4 * (missing + 1)) made
      obtain ⟨extra, rfl⟩ := Nat.exists_eq_add_of_le hsteps
      have hnext : (proceed plan
          (Pool.Opening.next settings (⟨opened.length, {}⟩ :: opened))).1 =
            connecting plan settings (⟨opened.length, {}⟩ :: opened) .connecting := by
        have hmissing : opened.length + 1 < settings.initialSize := by omega
        rw [Pool.Opening.next, List.length_cons, if_pos hmissing]
        rfl
      rw [hnext, Nat.add_right_comm steps _ extra] at hsettled
      obtain ⟨sessions, steps₂, host₂, made₂, hrest, hsteps₂, hne, hrested, hstate₂, hview₂⟩ :=
        ih (by rw [List.length_cons]; omega) (hopened.cons hview) (hstate ▸ hrefusing)
          (hstate ▸ hadmits) (steps + extra) made₁
      refine ⟨sessions, steps₂, host₂, made₂, hsettled.trans hrest, by omega, hne, hrested,
        hstate₂.trans hstate, ?_⟩
      intro other dial hother
      rw [hview₂ other dial hother, hview,
        Function.update_of_ne fun heq => hother (congrArg Prod.fst heq)]

/-- The script is registered on the connection that was opened last. -/
theorem settleWithin_registering {sessions : List Session} (hne : sessions ≠ [])
    (hsessions : Rested host client settings sessions)
    (hadmits : host.state.admits settings.credentials) (steps : Nat) (made : List Notice) :
    ∃ host' made', settleWithin (openingWaiter attempts)
        (Host.network BucketServer.service client) (steps + 3)
        (follow plan ((pooled settings sessions).acquire user)).1 host made =
      ⟨.opened {
          limits := plan.limits
          script := plan.script
          failureMode := plan.failureMode
          system := pooled settings sessions }, host', made', false⟩ ∧
      host'.state = host.state ∧ host'.view = host.view := by
  obtain ⟨⟨dial, c⟩, idle, rfl⟩ := List.exists_cons_of_ne_nil hne
  obtain ⟨hc, hpeer⟩ := hsessions _ List.mem_cons_self
  obtain rfl : c = {} := hc
  let base := (pooled settings (⟨dial, {}⟩ :: idle)).withIdle idle
  have hfollow : (follow plan ((pooled settings (⟨dial, {}⟩ :: idle)).acquire user)).1 =
      .waiting (.script plan (base.assign user
        (.calling dial ⟨⟨[], true⟩, .request, .write plan.script.register.bytes⟩))) := by
    rw [follow_acquire plan rfl rfl]
  obtain ⟨warning, hregistered⟩ := BucketServer.registered_acknowledgement plan.script
  obtain ⟨host', more, hsettled, -, hstate, hview⟩ :=
    (carries_registering plan attempts base dial).settleWithin_request hpeer
      plan.script.encode_register (BucketServer.answer_register hadmits plan.script)
      BucketServer.acknowledgement.encode_ne_nil steps made
  have hlent : (base.assign user (.holding ⟨dial, {}⟩)).release user =
      pooled settings (⟨dial, {}⟩ :: idle) := System.release_lent rfl rfl rfl
  have hrole := System.role?_assign_self base user
    (.calling dial ⟨⟨[], true⟩, .request, .read⟩)
  have hfinished := step_script_of_finished hrole
    BucketServer.step_received_acknowledgement hregistered
  rw [System.assign_assign, hlent] at hfinished
  change _ = settleWithin _ _ steps ((Opening.script plan _).step _).1 _ _ at hsettled
  rw [hfinished] at hsettled
  refine ⟨host', _, hfollow ▸ hsettled.trans (settleWithin_of_none rfl steps _), hstate, ?_⟩
  rw [hview, ← hpeer, Function.update_eq_self]

/-- The opening of a store ends with the store. -/
theorem settle_connecting (hpos : 0 < settings.initialSize)
    (hrefusing : host.state.refusing = false)
    (hadmits : host.state.admits settings.credentials) :
    ∃ sessions host' made, settle (openingWaiter (settings.initialSize + 1))
        (Host.network BucketServer.service client) (connecting plan settings [] .connecting) host =
      ⟨.opened {
          limits := plan.limits
          script := plan.script
          failureMode := plan.failureMode
          system := pooled settings sessions }, host', made, false⟩ ∧
      sessions ≠ [] ∧ Rested host' client settings sessions ∧ host'.state = host.state ∧
      ∀ other dial, other ≠ client → host'.view (other, dial) = host.view (other, dial) := by
  obtain ⟨missing, hmissing⟩ := Nat.exists_eq_add_of_lt hpos
  rw [Nat.zero_add] at hmissing
  -- The patience of the network exceeds the steps that the connections can take by enough for the
  -- registration.
  have hpatience : (Host.network BucketServer.service client).patience host
      (settings.initialSize + 1) = 6 * missing + 26 + 4 * (missing + 1) := by
    change 10 * (settings.initialSize + 1 + 1) = _
    omega
  obtain ⟨sessions, steps, host₁, made₁, hconnected, hsteps, hne, hrested, hstate, hview⟩ :=
    settleWithin_missing plan (settings.initialSize + 1) client missing
      (by rw [List.length_nil, Nat.zero_add, hmissing])
      (fun _ hsession => absurd hsession List.not_mem_nil) hrefusing hadmits
      (6 * missing + 26) []
  obtain ⟨extra, rfl⟩ : ∃ extra, steps = extra + 3 := ⟨steps - 3, by omega⟩
  obtain ⟨host₂, made₂, hregistered, hstate₂, hview₂⟩ :=
    settleWithin_registering plan (settings.initialSize + 1) client hne hrested
      (by rw [hstate]; exact hadmits) extra made₁
  have hsettle : settle (openingWaiter (settings.initialSize + 1))
      (Host.network BucketServer.service client) (connecting plan settings [] .connecting) host =
        settleWithin (openingWaiter (settings.initialSize + 1))
          (Host.network BucketServer.service client)
          ((Host.network BucketServer.service client).patience host (settings.initialSize + 1))
          (connecting plan settings [] .connecting) host [] := rfl
  rw [hpatience, hconnected, hregistered] at hsettle
  refine ⟨sessions, host₂, made₂, hsettle, hne, ?_, hstate₂.trans hstate, ?_⟩
  · intro session hsession
    rw [hview₂]
    exact hrested session hsession
  · intro other dial hother
    rw [hview₂, hview other dial hother]

end Store.Opening

/-! ### A store -/

namespace Store

variable {α : Type} [Quantity α] [Add α] [Sub α] [Mul α] [Div α] [LT α] [LE α] [DecidableLT α]
  [DecidableLE α]

/-- **A store is opened.** A configuration that is accepted, with credentials that the server
admits, gives a store that is ready, on a server that accepts connections.  Nothing changes at the
server but its ends of the connections of this store. -/
theorem openOn_ready {host : Host (BucketServer α)} {config : Config} {limits : Limits}
    {settings : PoolSettings} (hlimits : config.limits = .ok limits)
    (hpool : config.pool = .ok settings) (hrefusing : host.state.refusing = false)
    (hadmits : host.state.admits config.credentials) (client : Nat) :
    ∃ store host' made, openOn (Host.network BucketServer.service client) host config =
        ⟨.returned (.ok store), host', made⟩ ∧
      store.Ready host' client ∧ store.limits = limits ∧ store.failureMode = config.failureMode ∧
      host'.state = host.state ∧
      ∀ other dial, other ≠ client → host'.view (other, dial) = host.view (other, dial) := by
  have hpos := Config.pool_initialSize_pos hpool
  have hsettings := Config.pool_credentials hpool
  rw [← hsettings] at hadmits
  let plan : Plan := ⟨limits, .ofLimits limits, config.failureMode⟩
  have hstart : (Opening.start config).1 = Opening.connecting plan settings [] .connecting := by
    rw [Opening.start, hlimits]
    dsimp only
    rw [hpool]
    dsimp only
    rw [Pool.Opening.start, Pool.Opening.next, List.length_nil, if_pos hpos]
    rfl
  obtain ⟨sessions, host', made, hsettle, hne, hrested, hstate, hview⟩ :=
    Opening.settle_connecting plan client hpos hrefusing hadmits
  have hadmits' : host'.state.admits settings.credentials := by
    rw [hstate]
    exact hadmits
  let store : Store := {
    limits
    script := .ofLimits limits
    failureMode := config.failureMode
    system := Opening.pooled settings sessions }
  have hready : store.Ready host' client := {
    admits := hadmits'
    script := rfl
    isOpen := rfl
    pool_open := rfl
    users := rfl
    takes := rfl
    idle_ne_nil := hne
    idle := hrested _ }
  refine ⟨store, host', (Opening.start config).2 ++ made, ?_, hready, rfl, rfl, hstate, hview⟩
  rw [openOn]
  dsimp only
  rw [hpool]
  dsimp only
  rw [hstart, hsettle]

end Store

end RateLimit
