import PlgBooster.Client.RunningProxy
import PlgBooster.Relay.Capacity

/-!
# A proxy, its relays and the time between them

The keepalive task of a proxy first sends thirty seconds after the start, a relay removes
what it has not seen for longer than its timeout, and datagrams travel in between. Time is
one clock that all parties read. Nothing is lost: the clock does not pass the latest arrival
of a datagram, nor a tick of the keepalive task, nor the latest start of the proxy.

A session at a relay lives because some datagram is always due: one on its way, or the next
keepalive, sent not too long after the relay last saw the client.
-/

namespace PlgBooster.System

open Rust Relay Client

/-- `Duration::from_secs(30)`. -/
def keepaliveInterval : Duration := 30 * 1000000000

/-- A datagram on its way to a relay. -/
structure InFlight where
  datagram : ToRelay
  sentAt : Instant

/-- A running proxy and the ticker of its keepalive task. -/
structure Ticking where
  proxy : RunningProxy
  nextTick : Instant

structure TimedState where
  clock : Instant
  /-- The proxy, once it has started. -/
  boost : Option Ticking
  inFlight : List InFlight
  relays : RelaySocket → RelayState
  /-- Not in the program: when each relay last registered the session. -/
  registeredAt : RelaySocket → Option Instant

inductive TimedEvent where
  | pass (now : Instant)
  | startProxy (mode : ProxyMode)
  | input (input : ProxyInput)
  | tick (later : Instant)
  /-- One of the datagrams in flight gets to its relay. -/
  | arrive (n : Nat) (source : SocketAddr) (sendTo : SendResult)
  /-- Anything else at a relay: requests, traffic of anybody, a cleanup. -/
  | relay (path : RelaySocket) (event : Relay.Event)

/-- The clock reading of a relay's step. -/
def clockReading : Relay.Event → Option Instant
  | .clientDatagram _ _ now _ => some now
  | .gameDatagram _ _ _ => none
  | .register _ _ _ _ now => some now
  | .unregister _ => none
  | .cleanup now => some now

/-- The event registers a session with this token. -/
def registers (token : UInt32) (relay : RelayState) : Relay.Event → Bool
  | .register u gameServerIps gamePorts bind now =>
      u == token && (registerSession relay u gameServerIps gamePorts bind now).2.isOk
  | _ => false

namespace TimedState

def send (state : TimedState) (sent : List ToRelay) : List InFlight :=
  state.inFlight ++ sent.map fun datagram => ⟨datagram, state.clock⟩

/-- One step of one of the relays. -/
def atRelay (session : BoostSession) (state : TimedState) (path : RelaySocket)
    (event : Relay.Event) : TimedState × List (RelaySocket × Outgoing) :=
  let relay := state.relays path
  let result := Relay.step relay event
  ({ state with
      relays := Function.update state.relays path result.1
      registeredAt :=
        if registers session.sessionToken relay event then
          Function.update state.registeredAt path (some state.clock)
        else state.registeredAt },
    result.2.map fun output => (path, output))

end TimedState

def timedStep (session : BoostSession) (state : TimedState) :
    TimedEvent → TimedState × List (RelaySocket × Outgoing)
  | .pass now => ({ state with clock := now }, [])
  | .startProxy mode =>
      match RunningProxy.start session mode with
      | none => (state, [])
      | some (proxy, sent) =>
          -- The first tick of the ticker is immediate and is skipped.
          ({ state with
              boost := some ⟨proxy, state.clock + keepaliveInterval⟩
              inFlight := state.send sent }, [])
  | .input input =>
      match state.boost with
      | none => (state, [])
      | some boost =>
          let result := boost.proxy.input state.clock input
          ({ state with
              boost := some ⟨result.1, boost.nextTick⟩
              inFlight := state.send result.2 }, [])
  | .tick later =>
      match state.boost with
      | none => (state, [])
      | some boost =>
          let result := boost.proxy.sendKeepalive state.clock later
          ({ state with
              boost := some ⟨result.1, boost.nextTick + keepaliveInterval⟩
              inFlight := state.send result.2 }, [])
  | .arrive n source sendTo =>
      match state.inFlight[n]? with
      | none => (state, [])
      | some arrived =>
          { state with inFlight := state.inFlight.eraseIdx n }.atRelay session
            arrived.datagram.via
            (.clientDatagram arrived.datagram.data source state.clock sendTo)
  | .relay path event => state.atRelay session path event

/-- Two relays that have just started, with their limits. -/
def timedStart (maxSessions : RelaySocket → Nat) (sessionTimeout : RelaySocket → Duration) :
    TimedState where
  clock := 0
  boost := none
  inFlight := []
  relays path := Relay.start (maxSessions path) (sessionTimeout path)
  registeredAt _ := none

/-- The longest time from the registration to the start of the proxy, and the longest
delay of a datagram. -/
structure Timing where
  startup : Duration
  delay : Duration

/-- The clock may go on to this time. -/
structure MayPass (session : BoostSession) (timing : Timing) (state : TimedState)
    (now : Instant) : Prop where
  forward : state.clock ≤ now
  delivered : ∀ d ∈ state.inFlight, now ≤ d.sentAt + timing.delay
  ticked : ∀ boost ∈ state.boost, now ≤ boost.nextTick
  started : state.boost.isNone → ∀ path ∈ session.paths,
    ∀ registered ∈ state.registeredAt path, now ≤ registered + timing.startup

/-- The assumptions on a run: no loss, bounded delay, a timely start, exact ticks, one clock. -/
def Timely (session : BoostSession) (timing : Timing) (state : TimedState) : TimedEvent → Prop
  | .pass now => MayPass session timing state now
  | .startProxy _ => state.boost.isNone
  | .tick _ => ∀ boost ∈ state.boost, state.clock = boost.nextTick
  | .relay _ event => ∀ now ∈ clockReading event, now = state.clock
  | _ => True

/-! ## What a relay's step does to one session -/

/-- How the session under a token got to be as it is. -/
inductive SeenAt (relay : RelayState) (event : Relay.Event) (u : UInt32) (info' : SessionInfo) :
    Prop
  | registered (now : registers u relay event = true)
      (time : clockReading event = some info'.lastSeen) (named : info'.sessionToken = u)
  | received (time : clockReading event = some info'.lastSeen) (info : SessionInfo)
      (before : relay.cache.get u = some info) (named : info'.sessionToken = info.sessionToken)
  | unseen (other : registers u relay event = false) (info : SessionInfo)
      (before : relay.cache.get u = some info) (seen : info'.lastSeen = info.lastSeen)
      (named : info'.sessionToken = info.sessionToken)

theorem seenAt_step (relay : RelayState) (event : Relay.Event) {u : UInt32}
    {info' : SessionInfo} (live : (Relay.step relay event).1.cache.get u = some info') :
    SeenAt relay event u info' := by
  cases event with
  | clientDatagram datagram source now sendTo =>
      replace live : (clientListener relay.cache datagram source now sendTo).1.get u =
        some info' := live
      rcases get_clientListener relay.cache datagram source now sendTo u with
        ⟨same, _⟩ | ⟨packet, info, _, _, here, after⟩
      · exact .unseen rfl info' (same.symm.trans live) rfl rfl
      · obtain rfl := Option.some.inj (after.symm.trans live)
        exact .received (by simp [clockReading]) info here (by simp)
  | gameDatagram port datagram sendTo =>
      rcases get_onGameDatagram relay port datagram sendTo u with same | ⟨info, here, after⟩
      · exact .unseen rfl info' (same.symm.trans live) rfl rfl
      · obtain rfl := Option.some.inj (after.symm.trans live)
        exact .unseen rfl info here (by simp) (by simp)
  | register token gameServerIps gamePorts bind now =>
      replace live : (registerSession relay token gameServerIps gamePorts bind now).1.cache.get u =
        some info' := live
      cases registersSession relay token gameServerIps gamePorts bind now with
      | accepted port yields room answer listeners sessions =>
          rw [sessions u] at live
          split_ifs at live with same
          · subst same
            cases live
            exact .registered (by simp [registers, answer, Except.isOk, Except.toBool]) rfl rfl
          · exact .unseen (by simp [registers, Ne.symm same]) info' live rfl rfl
      | refused e answer listeners others kept =>
          exact .unseen (by simp [registers, answer, Except.isOk, Except.toBool]) info'
            (kept u info' live) rfl rfl
  | unregister token =>
      replace live : (relay.cache.unregister token).get u = some info' := live
      rw [SessionCache.get_unregister] at live
      split_ifs at live
      exact .unseen rfl info' live rfl rfl
  | cleanup now =>
      replace live : (relay.cache.cleanupStale now).get u = some info' := live
      rw [SessionCache.cleanupStale, SessionCache.get_foldl_unregister] at live
      split_ifs at live
      exact .unseen rfl info' live rfl rfl

/-- A datagram of its client makes a session seen. -/
theorem lastSeen_arrived {relay : RelayState} {datagram : List UInt8} {source : SocketAddr}
    {now : Instant} {sendTo : SendResult} {u : UInt32} {info' : SessionInfo}
    (mine : sessionIdOf datagram = some u)
    (live : (Relay.step relay (.clientDatagram datagram source now sendTo)).1.cache.get u =
      some info') : info'.lastSeen = now := by
  obtain ⟨packet, parsed, rfl⟩ := Option.map_eq_some_iff.mp mine
  replace live : (clientListener relay.cache datagram source now sendTo).1.get packet.sessionId =
    some info' := live
  rw [(clientListener_spec relay.cache datagram source now sendTo).1] at live
  cases here : relay.cache.get packet.sessionId with
  | none =>
      have nobody : addressee relay.cache datagram = none := by simp [addressee, parsed, here]
      rw [nobody] at live
      cases here.symm.trans live
  | some info =>
      rw [(addressee_eq_some_iff _ _).mpr ⟨parsed, here⟩] at live
      simp only [if_true, Option.some.injEq] at live
      subst live
      simp

/-! ## Some datagram is always due -/

/-- A datagram that will show the client to the relay: one on its way, or the next keepalive.
`sent` is when it leaves. -/
inductive Due (session : BoostSession) (state : TimedState) (path : RelaySocket)
    (sent : Instant) : Prop
  | tick (boost : Ticking) (running : state.boost = some boost) (next : sent = boost.nextTick)
  | arrival (d : InFlight) (flying : d ∈ state.inFlight) (via : d.datagram.via = path)
      (mine : sessionIdOf d.datagram.data = some session.sessionToken) (left : sent = d.sentAt)

/-- What holds of a session that a relay keeps for the proxy. -/
structure Fed (session : BoostSession) (timing : Timing) (state : TimedState)
    (path : RelaySocket) : Prop where
  named : ∀ token info, (state.relays path).cache.get token = some info →
    info.sessionToken = token
  registered : ∀ info, (state.relays path).cache.get session.sessionToken = some info →
    ∃ registered, state.registeredAt path = some registered ∧ registered ≤ info.lastSeen
  past : ∀ registered ∈ state.registeredAt path, registered ≤ state.clock
  due : state.boost.isSome → path ∈ session.paths → ∀ info,
    (state.relays path).cache.get session.sessionToken = some info →
      ∃ sent, Due session state path sent ∧
        sent ≤ info.lastSeen + timing.startup + keepaliveInterval

/-- The invariant of a timely run. -/
structure Timed (session : BoostSession) (timing : Timing) (state : TimedState) : Prop where
  fed : ∀ path, Fed session timing state path
  arriving : ∀ d ∈ state.inFlight, state.clock ≤ d.sentAt + timing.delay
  starting : state.boost.isNone → ∀ path ∈ session.paths,
    ∀ registered ∈ state.registeredAt path, state.clock ≤ registered + timing.startup
  serving : ∀ boost ∈ state.boost, boost.proxy.Serves session
  ticking : ∀ boost ∈ state.boost,
    state.clock ≤ boost.nextTick ∧ boost.nextTick ≤ state.clock + keepaliveInterval

variable {session : BoostSession} {timing : Timing} {state : TimedState}

/-- The next keepalive is soon enough for a session that was just seen. -/
theorem Timed.nextTick_le (timed : Timed session timing state) {boost : Ticking}
    (running : state.boost = some boost) :
    boost.nextTick ≤ state.clock + timing.startup + keepaliveInterval := by
  calc boost.nextTick ≤ state.clock + keepaliveInterval := (timed.ticking boost running).2
    _ ≤ state.clock + timing.startup + keepaliveInterval :=
      Nat.add_le_add_right (Nat.le_add_right _ _) _

/-- No due datagram is late. -/
theorem Timed.clock_le (timed : Timed session timing state) {path : RelaySocket}
    {sent : Instant} (due : Due session state path sent) :
    state.clock ≤ sent + timing.delay := by
  cases due with
  | tick boost running next =>
      subst next
      exact Nat.le_trans (timed.ticking boost running).1 (Nat.le_add_right _ _)
  | arrival d flying via mine left =>
      subst left
      exact timed.arriving d flying

/-- A session of the proxy was seen within the start, one interval and one delay. -/
theorem Timed.clock_le_of_live (timed : Timed session timing state) {path : RelaySocket}
    (served : path ∈ session.paths) {info : SessionInfo}
    (live : (state.relays path).cache.get session.sessionToken = some info) :
    state.clock ≤ info.lastSeen + timing.startup + keepaliveInterval + timing.delay := by
  have fed := timed.fed path
  cases running : state.boost with
  | none =>
      obtain ⟨registered, at_, seen⟩ := fed.registered info live
      have soon := timed.starting (by rw [running]; rfl) path served registered at_
      calc state.clock ≤ registered + timing.startup := soon
        _ ≤ info.lastSeen + timing.startup := Nat.add_le_add_right seen _
        _ ≤ info.lastSeen + timing.startup + keepaliveInterval := Nat.le_add_right _ _
        _ ≤ _ := Nat.le_add_right _ _
  | some boost =>
      obtain ⟨sent, due, soon⟩ := fed.due (by rw [running]; rfl) served info live
      exact Nat.le_trans (timed.clock_le due) (Nat.add_le_add_right soon _)

/-- What is due stays due while the ticker and the datagrams in flight do. -/
theorem Due.mono {state' : TimedState} {path : RelaySocket} {sent : Instant}
    (due : Due session state path sent)
    (ticks : state'.boost.map Ticking.nextTick = state.boost.map Ticking.nextTick)
    (flying : ∀ d ∈ state.inFlight, d ∈ state'.inFlight) : Due session state' path sent := by
  cases due with
  | tick boost running next =>
      rw [running, Option.map_some] at ticks
      obtain ⟨boost', running', same⟩ := Option.map_eq_some_iff.mp ticks
      exact .tick boost' running' (next.trans same.symm)
  | arrival d here via mine left => exact .arrival d (flying d here) via mine left

/-- What holds of a session follows a step that its relay does not take part in. -/
theorem Fed.carry {state' : TimedState} {path : RelaySocket} (fed : Fed session timing state path)
    (relay : state'.relays path = state.relays path)
    (registeredAt : state'.registeredAt path = state.registeredAt path)
    (forward : state.clock ≤ state'.clock)
    (due : state'.boost.isSome → path ∈ session.paths → ∀ info,
      (state.relays path).cache.get session.sessionToken = some info →
        ∃ sent, Due session state' path sent ∧
          sent ≤ info.lastSeen + timing.startup + keepaliveInterval) :
    Fed session timing state' path where
  named := by
    rw [relay]
    exact fed.named
  registered := by
    rw [relay, registeredAt]
    exact fed.registered
  past registered known := by
    rw [registeredAt] at known
    exact Nat.le_trans (fed.past registered known) forward
  due := by
    rw [relay]
    exact due

theorem relays_atRelay (path : RelaySocket) (event : Relay.Event) :
    (state.atRelay session path event).1.relays path =
      (Relay.step (state.relays path) event).1 := Function.update_self ..

/-- A relay's step keeps what holds of its session. -/
theorem Timed.fed_atRelay (timed : Timed session timing state) {path : RelaySocket}
    {event : Relay.Event} (time : ∀ now ∈ clockReading event, now = state.clock) :
    Fed session timing (state.atRelay session path event).1 path := by
  have fed := timed.fed path
  have registeredAt : (state.atRelay session path event).1.registeredAt path =
      if registers session.sessionToken (state.relays path) event then some state.clock
      else state.registeredAt path := by
    simp only [TimedState.atRelay]
    split_ifs
    · exact Function.update_self ..
    · rfl
  constructor
  · intro token info live
    rw [relays_atRelay] at live
    cases seenAt_step (state.relays path) event live with
    | registered now time named => exact named
    | received time info₀ before named => exact named.trans (fed.named token info₀ before)
    | unseen other info₀ before seen named => exact named.trans (fed.named token info₀ before)
  · intro info live
    rw [relays_atRelay] at live
    rw [registeredAt]
    cases seenAt_step (state.relays path) event live with
    | registered now reading named =>
        exact ⟨state.clock, if_pos now, Nat.le_of_eq (time _ reading).symm⟩
    | received reading info₀ before named =>
        have seen : info.lastSeen = state.clock := time _ reading
        split_ifs with again
        · exact ⟨state.clock, rfl, Nat.le_of_eq seen.symm⟩
        · obtain ⟨registered, known, _⟩ := fed.registered info₀ before
          exact ⟨registered, known, seen ▸ fed.past registered known⟩
    | unseen other info₀ before seen named =>
        rw [other, if_neg (by simp), seen]
        exact fed.registered info₀ before
  · intro registered known
    rw [registeredAt] at known
    split_ifs at known
    · exact Nat.le_of_eq (Option.some.inj known).symm
    · exact fed.past registered known
  · intro running served info live
    have still {sent : Instant} (due : Due session state path sent) :
        Due session (state.atRelay session path event).1 path sent :=
      due.mono rfl fun _ flying => flying
    have now (seen : info.lastSeen = state.clock) :
        ∃ sent, Due session (state.atRelay session path event).1 path sent ∧
          sent ≤ info.lastSeen + timing.startup + keepaliveInterval := by
      obtain ⟨boost, ticker⟩ := Option.isSome_iff_exists.mp running
      exact ⟨boost.nextTick, .tick boost ticker rfl, seen ▸ timed.nextTick_le ticker⟩
    rw [relays_atRelay] at live
    cases seenAt_step (state.relays path) event live with
    | registered _ reading named => exact now (time _ reading)
    | received reading info₀ before named => exact now (time _ reading)
    | unseen other info₀ before seen named =>
        obtain ⟨sent, due, soon⟩ := fed.due running served info₀ before
        exact ⟨sent, still due, seen ▸ soon⟩

/-- A step of another relay does not concern this one's session. -/
theorem Fed.atRelay_other {path other : RelaySocket} (fed : Fed session timing state path)
    (apart : path ≠ other) (event : Relay.Event) :
    Fed session timing (state.atRelay session other event).1 path := by
  refine fed.carry ?_ ?_ (Nat.le_refl _) fun running served info live => ?_
  · exact Function.update_of_ne apart ..
  · simp only [TimedState.atRelay]
    split_ifs
    · exact Function.update_of_ne apart ..
    · rfl
  · obtain ⟨sent, due, soon⟩ := fed.due running served info live
    exact ⟨sent, due.mono rfl fun _ flying => flying, soon⟩

theorem Timed.atRelay (timed : Timed session timing state) (path : RelaySocket)
    {event : Relay.Event} (time : ∀ now ∈ clockReading event, now = state.clock) :
    Timed session timing (state.atRelay session path event).1 where
  fed path' := by
    by_cases same : path' = path
    · subst same
      exact timed.fed_atRelay time
    · exact (timed.fed path').atRelay_other same event
  arriving := timed.arriving
  starting idle path' served registered known := by
    simp only [TimedState.atRelay] at known
    split_ifs at known
    · by_cases same : path' = path
      · subst same
        rw [Function.update_self] at known
        obtain rfl := Option.some.inj known
        exact Nat.le_add_right _ _
      · rw [Function.update_of_ne same] at known
        exact timed.starting idle path' served registered known
    · exact timed.starting idle path' served registered known
  serving := timed.serving
  ticking := timed.ticking

/-- A datagram that arrives is no longer due, but it has made its session seen. -/
theorem Timed.arrive (timed : Timed session timing state) {n : Nat} {arrived : InFlight}
    (flying : state.inFlight[n]? = some arrived) (source : SocketAddr) (sendTo : SendResult) :
    Timed session timing (timedStep session state (.arrive n source sendTo)).1 := by
  have time : ∀ now ∈ clockReading (.clientDatagram arrived.datagram.data source state.clock
      sendTo), now = state.clock := by
    intro now reading
    exact (Option.some.inj reading).symm
  have received := timed.atRelay arrived.datagram.via time
  have after : (timedStep session state (.arrive n source sendTo)).1 =
      { (state.atRelay session arrived.datagram.via
          (.clientDatagram arrived.datagram.data source state.clock sendTo)).1 with
        inFlight := state.inFlight.eraseIdx n } := by
    simp only [timedStep, flying]
    rfl
  rw [after]
  refine ⟨fun path => ?_, ?_, received.starting, received.serving, received.ticking⟩
  · refine (received.fed path).carry rfl rfl (Nat.le_refl _) fun running served info live => ?_
    by_cases here : arrived.datagram.via = path ∧
        sessionIdOf arrived.datagram.data = some session.sessionToken
    · obtain ⟨via, mine⟩ := here
      subst via
      rw [relays_atRelay] at live
      obtain ⟨boost, ticker⟩ := Option.isSome_iff_exists.mp running
      refine ⟨boost.nextTick, .tick boost ticker rfl, ?_⟩
      rw [lastSeen_arrived mine live]
      exact received.nextTick_le ticker
    · obtain ⟨sent, due, soon⟩ := (received.fed path).due running served info live
      refine ⟨sent, ?_, soon⟩
      cases due with
      | tick boost ticker next => exact .tick boost ticker next
      | arrival d there via mine left =>
          refine .arrival d ?_ via mine left
          obtain ⟨i, found⟩ := List.mem_iff_getElem?.mp there
          refine List.mem_eraseIdx_iff_getElem?.mpr ⟨i, ?_, found⟩
          rintro rfl
          obtain rfl := Option.some.inj (flying.symm.trans found)
          exact here ⟨via, mine⟩
  · intro d member
    exact timed.arriving d (List.mem_of_mem_eraseIdx member)

/-- The clock goes on only while everything is in time. -/
theorem Timed.pass (timed : Timed session timing state) {now : Instant}
    (may : MayPass session timing state now) :
    Timed session timing (timedStep session state (.pass now)).1 where
  fed path := by
    refine (timed.fed path).carry rfl rfl may.forward fun running served info live => ?_
    obtain ⟨sent, due, soon⟩ := (timed.fed path).due running served info live
    exact ⟨sent, due.mono rfl fun _ flying => flying, soon⟩
  arriving := may.delivered
  starting := may.started
  serving := timed.serving
  ticking boost running :=
    ⟨may.ticked boost running,
      Nat.le_trans (timed.ticking boost running).2 (Nat.add_le_add_right may.forward _)⟩

/-- What the proxy sends now is not late. -/
theorem Timed.arriving_send (timed : Timed session timing state) (sent : List ToRelay) :
    ∀ d ∈ state.send sent, state.clock ≤ d.sentAt + timing.delay := by
  intro d member
  rcases List.mem_append.mp member with here | new
  · exact timed.arriving d here
  · obtain ⟨datagram, _, rfl⟩ := List.mem_map.mp new
    exact Nat.le_add_right _ _

theorem Timed.startProxy (timed : Timed session timing state) (idle : state.boost.isNone = true)
    (mode : ProxyMode) : Timed session timing (timedStep session state (.startProxy mode)).1 := by
  cases started : RunningProxy.start session mode with
  | none =>
      simp only [timedStep, started]
      exact timed
  | some found =>
      obtain ⟨proxy, sent⟩ := found
      simp only [timedStep, started]
      refine ⟨fun path => ?_, timed.arriving_send sent, by simp, ?_, ?_⟩
      · refine (timed.fed path).carry rfl rfl (Nat.le_refl _) fun _ served info live => ?_
        refine ⟨state.clock + keepaliveInterval, .tick _ rfl rfl, ?_⟩
        obtain ⟨registered, known, seen⟩ := (timed.fed path).registered info live
        have soon := timed.starting idle path served registered known
        exact Nat.add_le_add_right (Nat.le_trans soon (Nat.add_le_add_right seen _)) _
      · intro boost running
        obtain rfl := Option.some.inj running
        exact RunningProxy.serves_start started
      · intro boost running
        obtain rfl := Option.some.inj running
        exact ⟨Nat.le_add_right _ _, Nat.le_refl _⟩

theorem Timed.input (timed : Timed session timing state) (input : ProxyInput) :
    Timed session timing (timedStep session state (.input input)).1 := by
  cases running : state.boost with
  | none =>
      simp only [timedStep, running]
      exact timed
  | some boost =>
      simp only [timedStep, running]
      refine ⟨fun path => ?_, timed.arriving_send _, by simp, ?_, ?_⟩
      · refine (timed.fed path).carry rfl rfl (Nat.le_refl _) fun _ served info live => ?_
        obtain ⟨sent, due, soon⟩ := (timed.fed path).due (by simp [running]) served info live
        refine ⟨sent, due.mono (by simp [running]) ?_, soon⟩
        exact fun _ flying => List.mem_append_left _ flying
      · intro boost' running'
        obtain rfl := Option.some.inj running'
        exact RunningProxy.serves_input (timed.serving boost running) state.clock input
      · intro boost' running'
        obtain rfl := Option.some.inj running'
        exact timed.ticking boost running

/-- A tick replaces the next keepalive by one that is on its way. -/
theorem Timed.tick (timed : Timed session timing state)
    (exact_ : ∀ boost ∈ state.boost, state.clock = boost.nextTick) (later : Instant) :
    Timed session timing (timedStep session state (.tick later)).1 := by
  cases running : state.boost with
  | none =>
      simp only [timedStep, running]
      exact timed
  | some boost =>
      have now : state.clock = boost.nextTick := exact_ boost running
      have serves := timed.serving boost running
      simp only [timedStep, running]
      refine ⟨fun path => ?_, timed.arriving_send _, by simp, ?_, ?_⟩
      · refine (timed.fed path).carry rfl rfl (Nat.le_refl _) fun _ served info live => ?_
        obtain ⟨sent, due, soon⟩ := (timed.fed path).due (by simp [running]) served info live
        refine ⟨sent, ?_, soon⟩
        cases due with
        | tick boost' running' next =>
            obtain rfl := Option.some.inj (running.symm.trans running')
            obtain ⟨out, emitted, via, seq, data⟩ :=
              RunningProxy.keepalive_sent serves state.clock later served
            refine .arrival ⟨out, state.clock⟩ ?_ via ?_ (next.trans now.symm)
            · exact List.mem_append_right _ (List.mem_map.mpr ⟨out, emitted, rfl⟩)
            · simp only [data, sessionIdOf, PlgPacket.parse_encode, Option.map_some]
              rfl
        | arrival d flying via mine left =>
            exact .arrival d (List.mem_append_left _ flying) via mine left
      · intro boost' running'
        obtain rfl := Option.some.inj running'
        exact RunningProxy.serves_sendKeepalive serves state.clock later
      · intro boost' running'
        obtain rfl := Option.some.inj running'
        change state.clock ≤ boost.nextTick + keepaliveInterval ∧
          boost.nextTick + keepaliveInterval ≤ state.clock + keepaliveInterval
        rw [now]
        exact ⟨Nat.le_add_right _ _, Nat.le_refl _⟩

theorem timed_step {event : TimedEvent} (timed : Timed session timing state)
    (timely : Timely session timing state event) :
    Timed session timing (timedStep session state event).1 := by
  cases event with
  | pass now => exact timed.pass timely
  | startProxy mode => exact timed.startProxy timely mode
  | input input => exact timed.input input
  | tick later => exact timed.tick timely later
  | arrive n source sendTo =>
      cases flying : state.inFlight[n]? with
      | none =>
          simp only [timedStep, flying]
          exact timed
      | some arrived => exact timed.arrive flying source sendTo
  | relay path event => exact timed.atRelay path timely

theorem timed_start (maxSessions : RelaySocket → Nat) (sessionTimeout : RelaySocket → Duration) :
    Timed session timing (timedStart maxSessions sessionTimeout) where
  fed path := by
    have empty (token : UInt32) :
        ((timedStart maxSessions sessionTimeout).relays path).cache.get token = none := rfl
    refine ⟨fun token info live => ?_, fun info live => ?_, fun registered known => ?_, ?_⟩
    · cases (empty token).symm.trans live
    · cases (empty _).symm.trans live
    · cases known
    · intro running
      cases running
  arriving d member := by cases member
  starting _ path _ registered known := by cases known
  serving boost running := by cases running
  ticking boost running := by cases running

/-! ## No cleanup removes the session -/

/-- A cleanup at one of the proxy's relays leaves its session as it is. -/
def CleanupKeeps (session : BoostSession) (state : TimedState) : TimedEvent → Prop
  | .relay path (.cleanup now) => path ∈ session.paths →
      ∀ info ∈ (state.relays path).cache.get session.sessionToken,
        ((timedStep session state (.relay path (.cleanup now))).1.relays path).cache.get
          session.sessionToken = some info
  | _ => True

theorem sessionTimeout_timedStep (session : BoostSession) (state : TimedState)
    (event : TimedEvent) (path : RelaySocket) :
    ((timedStep session state event).1.relays path).cache.sessionTimeout =
      (state.relays path).cache.sessionTimeout := by
  have atRelay (before : TimedState) (other : RelaySocket) (event : Relay.Event) :
      ((before.atRelay session other event).1.relays path).cache.sessionTimeout =
        (before.relays path).cache.sessionTimeout := by
    by_cases same : path = other
    · subst same
      rw [relays_atRelay]
      exact congrArg Prod.snd (limits_step (before.relays path) event)
    · exact congrArg (fun relay : RelayState => relay.cache.sessionTimeout)
        (Function.update_of_ne same ..)
  cases event with
  | pass now => rfl
  | startProxy mode =>
      simp only [timedStep]
      split <;> rfl
  | input input =>
      simp only [timedStep]
      split <;> rfl
  | tick later =>
      simp only [timedStep]
      split <;> rfl
  | arrive n source sendTo =>
      simp only [timedStep]
      split
      · rfl
      · exact atRelay _ _ _
  | relay other event => exact atRelay state other event

theorem cleanupKeeps_of_timed (timed : Timed session timing state)
    (patient : ∀ path ∈ session.paths, timing.startup + keepaliveInterval + timing.delay <
      (state.relays path).cache.sessionTimeout)
    {event : TimedEvent} (timely : Timely session timing state event) :
    CleanupKeeps session state event := by
  unfold CleanupKeeps
  split
  · next path now =>
      intro served info live
      have clock : now = state.clock := timely now rfl
      have seen := timed.clock_le_of_live served live
      have kept : session.sessionToken ∉ (state.relays path).cache.staleTokens now := by
        rw [SessionCache.mem_staleTokens (timed.fed path).named]
        rintro ⟨info', live', stale⟩
        obtain rfl := Option.some.inj (live'.symm.trans live)
        have unseen : state.clock - info'.lastSeen ≤
            timing.startup + keepaliveInterval + timing.delay := by
          apply Nat.sub_le_iff_le_add'.mpr
          simpa only [Nat.add_assoc] using seen
        rw [clock] at stale
        exact absurd (Nat.lt_trans (patient path served) stale) (Nat.not_lt.mpr unseen)
      change (((state.atRelay session path (.cleanup now)).1.relays path).cache.get _) = _
      rw [relays_atRelay]
      change ((state.relays path).cache.cleanupStale now).get _ = _
      rw [SessionCache.cleanupStale, SessionCache.get_foldl_unregister, if_neg kept]
      exact live
  · trivial

/-- Keepalives keep a boost alive: in a timely run of a proxy that keeps running, no cleanup
at one of its relays removes its session. -/
theorem cleanupKeeps_run (session : BoostSession) (timing : Timing)
    (maxSessions : RelaySocket → Nat) (sessionTimeout : RelaySocket → Duration)
    (patient : ∀ path ∈ session.paths,
      timing.startup + keepaliveInterval + timing.delay < sessionTimeout path)
    {events : List TimedEvent}
    (timely : Machine.Legal (Timely session timing) (timedStep session)
      (timedStart maxSessions sessionTimeout) events) :
    ∀ n event, events[n]? = some event → CleanupKeeps session
      (Machine.run (timedStep session) (timedStart maxSessions sessionTimeout)
        (events.take n)).1 event := by
  rw [← Machine.legal_iff_getElem?]
  let Inv (state : TimedState) : Prop := Timed session timing state ∧
    ∀ path, (state.relays path).cache.sessionTimeout = sessionTimeout path
  have preserved (state : TimedState) (event : TimedEvent) (inv : Inv state)
      (timely : Timely session timing state event) : Inv (timedStep session state event).1 :=
    ⟨timed_step inv.1 timely, fun path =>
      (sessionTimeout_timedStep session state event path).trans (inv.2 path)⟩
  refine Machine.Legal.mono ?_ (Machine.legal_and_invariant Inv preserved
    ⟨timed_start maxSessions sessionTimeout, fun _ => rfl⟩ timely)
  rintro state event ⟨⟨timed, timeouts⟩, timely⟩
  refine cleanupKeeps_of_timed timed (fun path served => ?_) timely
  rw [timeouts path]
  exact patient path served

instance (session : BoostSession) (timing : Timing) (state : TimedState) (now : Instant) :
    Decidable (MayPass session timing state now) :=
  decidable_of_iff
    (state.clock ≤ now ∧ (∀ d ∈ state.inFlight, now ≤ d.sentAt + timing.delay) ∧
      (∀ boost ∈ state.boost, now ≤ boost.nextTick) ∧
      (state.boost.isNone → ∀ path ∈ session.paths,
        ∀ registered ∈ state.registeredAt path, now ≤ registered + timing.startup))
    ⟨fun ⟨forward, delivered, ticked, started⟩ => ⟨forward, delivered, ticked, started⟩,
      fun may => ⟨may.forward, may.delivered, may.ticked, may.started⟩⟩

instance (session : BoostSession) (timing : Timing) (state : TimedState) :
    (event : TimedEvent) → Decidable (Timely session timing state event)
  | .pass now => inferInstanceAs (Decidable (MayPass session timing state now))
  | .startProxy _ => inferInstanceAs (Decidable (state.boost.isNone = true))
  | .input _ => .isTrue trivial
  | .tick _ => inferInstanceAs (Decidable (∀ boost ∈ state.boost, state.clock = boost.nextTick))
  | .arrive _ _ _ => .isTrue trivial
  | .relay _ event =>
      inferInstanceAs (Decidable (∀ now ∈ clockReading event, now = state.clock))

def twoRelays : BoostSession where
  sessionToken := 7
  relayAddr := ⟨.V4 ⟨10, 1, 0, 1⟩, 443⟩
  backupRelayAddr := some ⟨.V4 ⟨10, 1, 0, 2⟩, 443⟩
  multipathEnabled := true

/-- A boost that starts after ten seconds and never carries anything. Its keepalives take
five seconds, and a cleanup runs just before the first one arrives. -/
def idleBoost : List TimedEvent :=
  let second : Duration := 1000000000
  let client : SocketAddr := ⟨.V4 ⟨198, 51, 100, 7⟩, 50000⟩
  [.relay .primary (.register 7 [] [] (.bound 40000) 0),
    .relay .backup (.register 7 [] [] (.bound 41000) 0),
    .pass (10 * second), .startProxy .winDivert, .pass (40 * second), .tick (40 * second),
    .pass (45 * second), .relay .primary (.cleanup (45 * second)), .arrive 0 client .failed,
    .relay .backup (.cleanup (45 * second)), .arrive 0 client .failed]

theorem cleanupKeeps_run_idleBoost :
    (((Machine.run (timedStep twoRelays) (timedStart (fun _ => 8) fun _ => 45000000001)
      idleBoost).1.relays .backup).cache.get 7).map (·.lastSeen) = some 45000000000 ∧
    ∀ n event, idleBoost[n]? = some event → CleanupKeeps twoRelays
      (Machine.run (timedStep twoRelays) (timedStart (fun _ => 8) fun _ => 45000000001)
        (idleBoost.take n)).1 event :=
  ⟨by decide, cleanupKeeps_run twoRelays ⟨10000000000, 5000000000⟩ _ _ (by decide) (by decide)⟩

end PlgBooster.System
