import PlgBooster.Relay.Forwarder
import PlgBooster.Relay.Maps

/-!
# The relay as one machine

The management API, the packet loop, the response listeners and the cleanup task
act on the shared cache. Here each handled request, datagram or tick is one step.
A response listener runs for every socket it was spawned on until it exits, so the
state also records the sockets that are being listened on.
-/

namespace PlgBooster.Relay

open Rust

structure RelayState where
  cache : SessionCache
  /-- The forward sockets of the running response listeners. -/
  listeners : List UdpSocket

/-- The address a session has before its first datagram. -/
def placeholderAddr : SocketAddr := ⟨.V4 ⟨0, 0, 0, 0⟩, 0⟩

/-- The `u16` ports among the strings of a request; the others are skipped. -/
def registeredPorts (gamePorts : List String) : List UInt16 :=
  gamePorts.filterMap fun p => (parseU16 p.toList).toOption

/-- `POST /sessions`. Answers with the local port of the forward socket. -/
def registerSession (state : RelayState) (sessionToken : UInt32) (gameServerIps : List String)
    (gamePorts : List String) (bind : BindResult) (now : Instant) :
    RelayState × Except String UInt16 :=
  let result := state.cache.register sessionToken placeholderAddr gameServerIps
    (registeredPorts gamePorts) bind now
  match result.1 with
  | some port =>
      -- Spawn response listener for this session's forward socket.
      match result.2.get sessionToken with
      | some session =>
          ({ cache := result.2, listeners := session.forwardSocket :: state.listeners }, .ok port)
      | none => ({ state with cache := result.2 }, .ok port)
  | none => ({ state with cache := result.2 }, .error "max sessions reached or socket bind failed")

/-- `DELETE /sessions/{token}`. -/
def unregisterSession (state : RelayState) (token : UInt32) : RelayState :=
  { state with cache := state.cache.unregister token }

/-- What can reach the relay, with the answers of the system in that step. -/
inductive Event where
  | clientDatagram (datagram : List UInt8) (source : SocketAddr) (now : Instant)
      (sendTo : SendResult)
  | gameDatagram (localPort : UInt16) (datagram : List UInt8) (sendTo : SendResult)
  | register (token : UInt32) (gameServerIps : List String) (gamePorts : List String)
      (bind : BindResult) (now : Instant)
  | unregister (token : UInt32)
  | cleanup (now : Instant)
  deriving DecidableEq

/-- A datagram at a forward socket is read by the listener of that socket, if one runs. -/
def onGameDatagram (state : RelayState) (localPort : UInt16) (datagram : List UInt8)
    (sendTo : SendResult) : RelayState × List Outgoing :=
  if ⟨localPort⟩ ∈ state.listeners then
    match responseListener state.cache localPort datagram sendTo with
    | (cache, outputs, .next) => ({ state with cache := cache }, outputs)
    | (cache, outputs, .exit) =>
        ({ cache := cache, listeners := state.listeners.erase ⟨localPort⟩ }, outputs)
  else (state, [])

def step (state : RelayState) : Event → RelayState × List Outgoing
  | .clientDatagram datagram source now sendTo =>
      let result := clientListener state.cache datagram source now sendTo
      ({ state with cache := result.1 }, result.2)
  | .gameDatagram localPort datagram sendTo => onGameDatagram state localPort datagram sendTo
  | .register token gameServerIps gamePorts bind now =>
      ((registerSession state token gameServerIps gamePorts bind now).1, [])
  | .unregister token => (unregisterSession state token, [])
  | .cleanup now => ({ state with cache := state.cache.cleanupStale now }, [])

/-- A relay that has just started. -/
def start (maxSessions : Nat) (sessionTimeout : Duration) : RelayState where
  cache := .new maxSessions sessionTimeout .new
  listeners := []

/-- The system's promise: it never binds a port that a live session still holds. -/
def BindsFreshPort (state : RelayState) : Event → Prop
  | .register token _ _ bind _ => state.cache.FreshPort token bind
  | _ => True

instance (state : RelayState) (event : Event) : Decidable (BindsFreshPort state event) := by
  cases event <;> unfold BindsFreshPort <;> infer_instance

/-- The maps are inverse, and every live session is listened to. -/
structure RelayState.Good (state : RelayState) : Prop where
  inverse : state.cache.Inverse
  listening : ∀ token info, state.cache.get token = some info →
    info.forwardSocket ∈ state.listeners

theorem good_start (maxSessions : Nat) (sessionTimeout : Duration) :
    (start maxSessions sessionTimeout).Good where
  inverse := SessionCache.inverse_new _ _ _
  listening := by simp [start]

/-! ## What each step does to the sessions and the sockets -/

theorem registerSession_cache (state : RelayState) (token : UInt32)
    (gameServerIps gamePorts : List String) (bind : BindResult) (now : Instant) :
    (registerSession state token gameServerIps gamePorts bind now).1.cache =
      (state.cache.register token placeholderAddr gameServerIps (registeredPorts gamePorts)
        bind now).2 := by
  unfold registerSession
  dsimp only
  split
  · split <;> rfl
  · rfl

/-- A registration that succeeds leaves a new session under its token, on the bound
port and listened to; every other session stays. One that fails at most removes the
session under its token. -/
inductive RegistersSession (state : RelayState) (token : UInt32)
    (gameServerIps gamePorts : List String) (bind : BindResult) (now : Instant) : Prop
  | accepted (port : UInt16) (yields : bind = .bound port)
      (room : state.cache.activeCount < state.cache.maxSessions)
      (answer : (registerSession state token gameServerIps gamePorts bind now).2 = .ok port)
      (listeners : (registerSession state token gameServerIps gamePorts bind now).1.listeners =
        ⟨port⟩ :: state.listeners)
      (sessions : ∀ u,
        (registerSession state token gameServerIps gamePorts bind now).1.cache.get u =
          if u = token then
            some (SessionCache.newSession token placeholderAddr gameServerIps
              (registeredPorts gamePorts) ⟨port⟩ now)
          else state.cache.get u)
  | refused (e : String)
      (answer : (registerSession state token gameServerIps gamePorts bind now).2 = .error e)
      (listeners : (registerSession state token gameServerIps gamePorts bind now).1.listeners =
        state.listeners)
      (others : ∀ u, u ≠ token →
        (registerSession state token gameServerIps gamePorts bind now).1.cache.get u =
          state.cache.get u)
      (kept : ∀ u session,
        (registerSession state token gameServerIps gamePorts bind now).1.cache.get u =
            some session → state.cache.get u = some session)

theorem registersSession (state : RelayState) (token : UInt32)
    (gameServerIps gamePorts : List String) (bind : BindResult) (now : Instant) :
    RegistersSession state token gameServerIps gamePorts bind now := by
  have cache := registerSession_cache state token gameServerIps gamePorts bind now
  cases state.cache.registered token placeholderAddr gameServerIps
    (registeredPorts gamePorts) bind now with
  | refused full result =>
      rw [result] at cache
      refine .refused "max sessions reached or socket bind failed" ?_ ?_ ?_ ?_
      · simp [registerSession, result]
      · simp [registerSession, result]
      · intro u other
        rw [cache]
      · intro u session live
        rwa [cache] at live
  | failed unbound room result =>
      rw [result] at cache
      refine .refused "max sessions reached or socket bind failed" ?_ ?_ ?_ ?_
      · simp [registerSession, result]
      · simp [registerSession, result]
      · intro u other
        rw [cache, SessionCache.get_unregister, if_neg other]
      · intro u session live
        rw [cache, SessionCache.get_unregister] at live
        split_ifs at live
        exact live
  | bound port yields room result =>
      rw [result] at cache
      refine .accepted port yields room ?_ ?_ ?_
      · simp [registerSession, result, SessionCache.get_insertSession, SessionCache.newSession]
      · simp [registerSession, result, SessionCache.get_insertSession, SessionCache.newSession]
      · intro u
        rw [cache, SessionCache.get_insertSession, SessionCache.get_unregister]
        by_cases same : u = token <;> simp [same]

/-- A registration is about one token. -/
theorem get_registerSession_of_ne (state : RelayState) {token u : UInt32} (other : u ≠ token)
    (gameServerIps gamePorts : List String) (bind : BindResult) (now : Instant) :
    (registerSession state token gameServerIps gamePorts bind now).1.cache.get u =
      state.cache.get u := by
  cases registersSession state token gameServerIps gamePorts bind now with
  | accepted port yields room answer listeners sessions => rw [sessions u, if_neg other]
  | refused e answer listeners others kept => exact others u other

/-- All that a datagram at a forward socket can do: nothing, but for the end of a listener
without a session, or make one session handle it. -/
inductive Handled (state : RelayState) (port : UInt16) (datagram : List UInt8)
    (sendTo : SendResult) : Prop
  | ignored
      (unowned : ∀ token session, state.cache.tokenByPort port = some token →
        state.cache.get token = some session → (⟨port⟩ : UdpSocket) ∉ state.listeners)
      (cache : (onGameDatagram state port datagram sendTo).1.cache = state.cache)
      (listeners : ∀ socket ∈ state.listeners, socket.localPort ≠ port →
        socket ∈ (onGameDatagram state port datagram sendTo).1.listeners)
      (outputs : (onGameDatagram state port datagram sendTo).2 = [])
  | answered (token : UInt32) (session : SessionInfo)
      (owner : state.cache.tokenByPort port = some token)
      (live : state.cache.get token = some session)
      (sessions : ∀ u, (onGameDatagram state port datagram sendTo).1.cache.get u =
        if u = token then some (session.onResponse token datagram sendTo).1
        else state.cache.get u)
      (ports : ∀ p, (onGameDatagram state port datagram sendTo).1.cache.tokenByPort p =
        state.cache.tokenByPort p)
      (listeners : (onGameDatagram state port datagram sendTo).1.listeners = state.listeners)
      (outputs : (onGameDatagram state port datagram sendTo).2 =
        (session.onResponse token datagram sendTo).2)

theorem handled (state : RelayState) (port : UInt16) (datagram : List UInt8)
    (sendTo : SendResult) : Handled state port datagram sendTo := by
  by_cases listened : (⟨port⟩ : UdpSocket) ∈ state.listeners
  · have spec := responseListener_spec state.cache port datagram sendTo
    -- A listener that finds no session exits.
    have exits (ended : responseListener state.cache port datagram sendTo =
          (state.cache, [], .exit))
        (unowned : ∀ token, state.cache.tokenByPort port = some token →
          state.cache.get token = none) : Handled state port datagram sendTo := by
      refine .ignored ?_ ?_ ?_ ?_
      · intro token session owner live
        rw [unowned token owner] at live
        cases live
      · simp only [onGameDatagram, listened, if_true, ended]
      · intro socket member other
        simp only [onGameDatagram, listened, if_true, ended]
        exact (List.mem_erase_of_ne fun same => other (by rw [same])).mpr member
      · simp only [onGameDatagram, listened, if_true, ended]
    cases owner : state.cache.tokenByPort port with
    | none =>
        simp only [owner] at spec
        exact exits spec fun token named => absurd (owner.symm.trans named) (by simp)
    | some token =>
        cases live : state.cache.get token with
        | none =>
            simp only [owner, live] at spec
            refine exits spec fun token' named => ?_
            obtain rfl := Option.some.inj (owner.symm.trans named)
            exact live
        | some session =>
            simp only [owner, live] at spec
            obtain ⟨sessions, ports, outputs⟩ := spec
            cases result : responseListener state.cache port datagram sendTo with
            | mk cache ended =>
                rw [result] at sessions ports outputs
                obtain rfl : ended = _ := outputs
                have after : onGameDatagram state port datagram sendTo =
                    ({ state with cache := cache },
                      (session.onResponse token datagram sendTo).2) := by
                  simp only [onGameDatagram, listened, if_true, result]
                refine .answered token session owner live ?_ ?_ ?_ ?_
                · rw [after]
                  exact sessions
                · rw [after]
                  exact ports
                · rw [after]
                · rw [after]
  · have idle : onGameDatagram state port datagram sendTo = (state, []) := if_neg listened
    refine .ignored (fun _ _ _ _ => listened) ?_ ?_ ?_
    · rw [idle]
    · intro socket member _
      rw [idle]
      exact member
    · rw [idle]

/-- A datagram at a forward socket at most makes one session handle it. -/
theorem get_onGameDatagram (state : RelayState) (port : UInt16) (datagram : List UInt8)
    (sendTo : SendResult) (u : UInt32) :
    (onGameDatagram state port datagram sendTo).1.cache.get u = state.cache.get u ∨
    ∃ session, state.cache.get u = some session ∧
      (onGameDatagram state port datagram sendTo).1.cache.get u =
        some (session.onResponse u datagram sendTo).1 := by
  cases handled state port datagram sendTo with
  | ignored unowned cache listeners outputs => exact .inl (by rw [cache])
  | answered token session owner live sessions ports listeners outputs =>
      rw [sessions u]
      by_cases same : u = token
      · subst same
        exact .inr ⟨session, live, if_pos rfl⟩
      · exact .inl (if_neg same)

/-- A datagram at the port of a live session is handled by that session. -/
theorem onGameDatagram_of_live {state : RelayState} (good : state.Good) {token : UInt32}
    {session : SessionInfo} (live : state.cache.get token = some session)
    (datagram : List UInt8) (sendTo : SendResult) :
    let port := session.forwardSocket.localPort
    (∀ u, (onGameDatagram state port datagram sendTo).1.cache.get u =
      if u = token then some (session.onResponse token datagram sendTo).1
      else state.cache.get u) ∧
    (∀ p, (onGameDatagram state port datagram sendTo).1.cache.tokenByPort p =
      state.cache.tokenByPort p) ∧
    (onGameDatagram state port datagram sendTo).1.listeners = state.listeners ∧
    (onGameDatagram state port datagram sendTo).2 =
      (session.onResponse token datagram sendTo).2 := by
  intro port
  have owner : state.cache.tokenByPort port = some token := good.inverse.tokenByPort_of_get live
  cases handled state port datagram sendTo with
  | ignored unowned cache listeners outputs =>
      exact absurd (good.listening token session live) (unowned token session owner live)
  | answered token' session' owner' live' sessions ports listeners outputs =>
      obtain rfl := Option.some.inj (owner.symm.trans owner')
      obtain rfl := Option.some.inj (live.symm.trans live')
      exact ⟨sessions, ports, listeners, outputs⟩

/-- A datagram at any other port ends at most a listener that has no session. -/
theorem onGameDatagram_of_not_live {state : RelayState} {port : UInt16}
    (unowned : state.cache.tokenByPort port = none) (datagram : List UInt8)
    (sendTo : SendResult) :
    (onGameDatagram state port datagram sendTo).1.cache = state.cache ∧
    (onGameDatagram state port datagram sendTo).2 = [] ∧
    ∀ socket ∈ state.listeners, socket.localPort ≠ port →
      socket ∈ (onGameDatagram state port datagram sendTo).1.listeners := by
  cases handled state port datagram sendTo with
  | ignored _ cache listeners outputs => exact ⟨cache, outputs, listeners⟩
  | answered token session owner live sessions ports listeners outputs =>
      rw [unowned] at owner
      cases owner

/-! ## Every step keeps the maps inverse and the sessions listened to -/

/-- What the maps' invariant reads from a session. -/
def socketOf (session : SessionInfo) : UInt32 × UdpSocket :=
  (session.sessionToken, session.forwardSocket)

/-- A step that changes neither the maps' keys nor a session's socket keeps `Good`. -/
theorem RelayState.Good.of_sameSockets {state state' : RelayState} (good : state.Good)
    (sockets : ∀ u, (state'.cache.get u).map socketOf = (state.cache.get u).map socketOf)
    (ports : ∀ p, state'.cache.tokenByPort p = state.cache.tokenByPort p)
    (listeners : state'.listeners = state.listeners) : state'.Good := by
  have back {u : UInt32} {info : SessionInfo} (live : state'.cache.get u = some info) :
      ∃ old, state.cache.get u = some old ∧ socketOf old = socketOf info := by
    have same := sockets u
    rw [live, Option.map_some] at same
    exact Option.map_eq_some_iff.mp same.symm
  refine ⟨⟨fun port token => ?_, fun token info live => ?_⟩, fun token info live => ?_⟩
  · rw [ports, good.inverse.ports]
    constructor
    · rintro ⟨info, live, bound⟩
      have same := sockets token
      rw [live, Option.map_some] at same
      obtain ⟨new, live', same'⟩ := Option.map_eq_some_iff.mp same
      have socket : new.forwardSocket = info.forwardSocket := congrArg Prod.snd same'
      exact ⟨new, live', by rw [socket, bound]⟩
    · rintro ⟨info, live, bound⟩
      obtain ⟨old, live', same⟩ := back live
      have socket : old.forwardSocket = info.forwardSocket := congrArg Prod.snd same
      exact ⟨old, live', by rw [socket, bound]⟩
  · obtain ⟨old, live', same⟩ := back live
    exact (congrArg Prod.fst same).symm.trans (good.inverse.tokens token old live')
  · obtain ⟨old, live', same⟩ := back live
    have socket : old.forwardSocket = info.forwardSocket := congrArg Prod.snd same
    rw [listeners, ← socket]
    exact good.listening token old live'

/-- A client's datagram changes no socket. -/
theorem socketOf_clientListener (cache : SessionCache) (datagram : List UInt8)
    (source : SocketAddr) (now : Instant) (sendTo : SendResult) (u : UInt32) :
    ((clientListener cache datagram source now sendTo).1.get u).map socketOf =
      (cache.get u).map socketOf := by
  rcases get_clientListener cache datagram source now sendTo u with
    ⟨same, _⟩ | ⟨packet, session, _, _, live, after⟩
  · rw [same]
  · rw [after, live]
    simp [socketOf]

/-- Nor does a game server's. -/
theorem socketOf_onGameDatagram (state : RelayState) (port : UInt16) (datagram : List UInt8)
    (sendTo : SendResult) (u : UInt32) :
    ((onGameDatagram state port datagram sendTo).1.cache.get u).map socketOf =
      (state.cache.get u).map socketOf := by
  rcases get_onGameDatagram state port datagram sendTo u with same | ⟨session, live, after⟩
  · rw [same]
  · rw [after, live]
    simp [socketOf]

theorem good_clientDatagram {state : RelayState} (good : state.Good) (datagram : List UInt8)
    (source : SocketAddr) (now : Instant) (sendTo : SendResult) :
    (step state (.clientDatagram datagram source now sendTo)).1.Good := by
  exact good.of_sameSockets
    (socketOf_clientListener state.cache datagram source now sendTo)
    (fun p => tokenByPort_clientListener state.cache datagram source now sendTo p) rfl

theorem good_gameDatagram {state : RelayState} (good : state.Good) (port : UInt16)
    (datagram : List UInt8) (sendTo : SendResult) :
    (step state (.gameDatagram port datagram sendTo)).1.Good := by
  change (onGameDatagram state port datagram sendTo).1.Good
  cases owner : state.cache.tokenByPort port with
  | none =>
      obtain ⟨cache, _, listeners⟩ :=
        onGameDatagram_of_not_live owner datagram sendTo
      refine ⟨cache ▸ good.inverse, ?_⟩
      intro token info live
      rw [cache] at live
      refine listeners _ (good.listening token info live) fun same => ?_
      have mine := good.inverse.tokenByPort_of_get live
      rw [same, owner] at mine
      cases mine
  | some token =>
      obtain ⟨session, live, rfl⟩ := (good.inverse.ports port token).mp owner
      obtain ⟨_, ports, listeners, _⟩ := onGameDatagram_of_live good live datagram sendTo
      exact good.of_sameSockets (socketOf_onGameDatagram state _ datagram sendTo) ports listeners

theorem good_register {state : RelayState} (good : state.Good) {token : UInt32}
    {gameServerIps gamePorts : List String} {bind : BindResult} {now : Instant}
    (fresh : state.cache.FreshPort token bind) :
    (registerSession state token gameServerIps gamePorts bind now).1.Good := by
  refine ⟨?_, fun u info live => ?_⟩
  · rw [registerSession_cache]
    exact good.inverse.register _ _ _ _ fresh
  · cases registersSession state token gameServerIps gamePorts bind now with
    | accepted port yields room answer listeners sessions =>
        rw [sessions u] at live
        rw [listeners]
        split_ifs at live with same
        · obtain rfl := Option.some.inj live
          exact List.mem_cons_self
        · exact List.mem_cons_of_mem _ (good.listening u info live)
    | refused e answer listeners others kept =>
        rw [listeners]
        exact good.listening u info (kept u info live)

theorem good_step {state : RelayState} {event : Event} (good : state.Good)
    (fresh : BindsFreshPort state event) : (step state event).1.Good := by
  cases event with
  | clientDatagram datagram source now sendTo =>
      exact good_clientDatagram good datagram source now sendTo
  | gameDatagram port datagram sendTo => exact good_gameDatagram good port datagram sendTo
  | register token gameServerIps gamePorts bind now => exact good_register good fresh
  | unregister token =>
      refine ⟨good.inverse.unregister token, ?_⟩
      intro u info live
      change (state.cache.unregister token).get u = some info at live
      rw [SessionCache.get_unregister] at live
      split_ifs at live
      exact good.listening u info live
  | cleanup now =>
      refine ⟨good.inverse.cleanupStale now, ?_⟩
      intro u info live
      change (state.cache.cleanupStale now).get u = some info at live
      rw [SessionCache.cleanupStale, SessionCache.get_foldl_unregister] at live
      split_ifs at live
      exact good.listening u info live

/-- The states a relay gets to while the system keeps its promise. -/
def Reached (state : RelayState) : Prop :=
  ∃ maxSessions sessionTimeout events,
    Machine.Legal BindsFreshPort step (start maxSessions sessionTimeout) events ∧
      (Machine.run step (start maxSessions sessionTimeout) events).1 = state

theorem Reached.good {state : RelayState} (reached : Reached state) : state.Good := by
  obtain ⟨maxSessions, sessionTimeout, events, legal, rfl⟩ := reached
  exact Machine.run_invariant RelayState.Good (fun _ _ => good_step) (good_start _ _) legal

end PlgBooster.Relay
