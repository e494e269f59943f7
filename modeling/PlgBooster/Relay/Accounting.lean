import PlgBooster.Relay.Counters
import PlgBooster.Relay.Isolation

/-!
# Every session accounts for its own traffic

A session counts packets and bytes in both directions and remembers when its client was last
heard. The account of a token is what a clerk outside the relay would write down: the client
datagrams that named the token and the game datagrams at the port the registration was
answered with, since that registration. The counters of a live session are those of its
account, whatever traffic the other sessions have, and the relay's byte counter is the sum of
what was handed over.
-/

namespace PlgBooster.Relay

open Rust

/-- What was addressed to a session since its registration. -/
structure Account where
  port : UInt16
  /-- When its client was last heard, or when it was registered. -/
  heard : Instant
  /-- The lengths of the client's datagrams. -/
  fromClient : List Nat
  /-- The lengths of the game server's datagrams. -/
  fromGame : List Nat
  deriving DecidableEq

namespace Account

def opened (port : UInt16) (now : Instant) : Account where
  port := port
  heard := now
  fromClient := []
  fromGame := []

def received (account : Account) (now : Instant) (len : Nat) : Account :=
  { account with heard := now, fromClient := len :: account.fromClient }

def answered (account : Account) (len : Nat) : Account :=
  { account with fromGame := len :: account.fromGame }

/-- The counters of the session are those of the account. -/
structure Matches (account : Account) (session : SessionInfo) : Prop where
  port : session.forwardSocket.localPort = account.port
  heard : session.lastSeen = account.heard
  packetsIn : session.packetsIn = account.fromClient.length
  bytesIn : session.bytesIn = account.fromClient.sum
  packetsOut : session.packetsOut = account.fromGame.length
  bytesOut : session.bytesOut =
    HEADER_SIZE * account.fromGame.length + account.fromGame.sum

theorem matches_opened (token : UInt32) (gameServerIps : List String) (gamePorts : List UInt16)
    (port : UInt16) (now : Instant) :
    (opened port now).Matches
      (SessionCache.newSession token placeholderAddr gameServerIps gamePorts ⟨port⟩ now) :=
  ⟨rfl, rfl, rfl, rfl, rfl, rfl⟩

theorem Matches.onPacket {account : Account} {session : SessionInfo}
    (entered : account.Matches session) (packet : PlgPacket) (len : Nat)
    (clientAddr : SocketAddr) (now : Instant) (sendTo : SendResult) :
    (account.received now len).Matches
      (session.onPacket packet len clientAddr now sendTo).1 := by
  -- Apart from the forward target, the session is only touched.
  obtain ⟨target, result⟩ := session.onPacket_frame packet len clientAddr now sendTo
  rw [result]
  obtain ⟨port, heard, packetsIn, bytesIn, packetsOut, bytesOut⟩ := entered
  refine ⟨?_, rfl, ?_, ?_, ?_, ?_⟩
  · rw [SessionInfo.touch_forwardSocket]
    exact port
  all_goals by_cases same : session.clientAddr = clientAddr
  all_goals
    simp [SessionInfo.touch, received, same, packetsIn, bytesIn, packetsOut, bytesOut,
      Nat.add_comm]

theorem Matches.onResponse {account : Account} {session : SessionInfo}
    (entered : account.Matches session) (token : UInt32) (datagram : List UInt8)
    (sendTo : SendResult) :
    (account.answered datagram.length).Matches
      (session.onResponse token datagram sendTo).1 := by
  obtain ⟨port, heard, packetsIn, bytesIn, packetsOut, bytesOut⟩ := entered
  rw [SessionInfo.onResponse_fst]
  refine ⟨port, heard, packetsIn, bytesIn, ?_, ?_⟩
  · simp only [answered, List.length_cons, packetsOut]
  · simp only [answered, List.length_cons, List.sum_cons, bytesOut, Nat.mul_succ]
    omega

end Account

/-- The accounts of all tokens. A client's datagram is entered under the token in its header, a
game server's under every token whose last registration got the port; an accepted registration
opens a new account. -/
def recordAccount (state : RelayState) :
    Event → (UInt32 → Option Account) → UInt32 → Option Account
  | .clientDatagram datagram _ now _, past =>
      match sessionIdOf datagram with
      | some token =>
          Function.update past token ((past token).map fun account =>
            account.received now datagram.length)
      | none => past
  | .gameDatagram port datagram _, past => fun token =>
      (past token).map fun account =>
        if account.port = port then account.answered datagram.length else account
  | .register token gameServerIps gamePorts bind now, past =>
      match (registerSession state token gameServerIps gamePorts bind now).2 with
      | .ok port => Function.update past token (some (.opened port now))
      | .error _ => past
  | _, past => past

/-- The accounts after a run. -/
def accounts (maxSessions : Nat) (sessionTimeout : Duration) (events : List Event) :
    UInt32 → Option Account :=
  Machine.history recordAccount step (start maxSessions sessionTimeout) events fun _ => none

/-- Every live session has an account, and its counters are those of the account. -/
def Accounted (state : RelayState) (past : UInt32 → Option Account) : Prop :=
  ∀ token session, state.cache.get token = some session →
    ∃ account, past token = some account ∧ account.Matches session

section Step

variable {state : RelayState} {past : UInt32 → Option Account}

theorem accounted_clientDatagram (accounted : Accounted state past) (datagram : List UInt8)
    (source : SocketAddr) (now : Instant) (sendTo : SendResult) :
    Accounted (step state (.clientDatagram datagram source now sendTo)).1
      (recordAccount state (.clientDatagram datagram source now sendTo) past) := by
  intro u session live
  rcases get_clientListener state.cache datagram source now sendTo u with
    ⟨same, elsewhere⟩ | ⟨packet, before, addressed, rfl, here, after⟩
  · have live' : state.cache.get u = some session := same.symm.trans live
    obtain ⟨account, found, entered⟩ := accounted u session live'
    refine ⟨account, ?_, entered⟩
    cases parsed : PlgPacket.parse datagram with
    | none => simpa [recordAccount, sessionIdOf, parsed] using found
    | some packet =>
        -- A datagram that names the live session would have been addressed to it.
        have other : u ≠ packet.sessionId := by
          rintro rfl
          apply elsewhere
          rw [(addressee_eq_some_iff _ _).mpr ⟨parsed, live'⟩]
          rfl
        simp only [recordAccount, sessionIdOf, parsed, Option.map_some]
        rw [Function.update_of_ne other]
        exact found
  · obtain rfl := Option.some.inj (after.symm.trans live)
    obtain ⟨account, found, entered⟩ := accounted _ before here
    have parsed := ((addressee_eq_some_iff _ _).mp addressed).1
    refine ⟨account.received now datagram.length, ?_, entered.onPacket _ _ _ _ _⟩
    simp [recordAccount, sessionIdOf, parsed, found]

theorem accounted_gameDatagram (good : state.Good) (accounted : Accounted state past)
    (port : UInt16) (datagram : List UInt8) (sendTo : SendResult) :
    Accounted (step state (.gameDatagram port datagram sendTo)).1
      (recordAccount state (.gameDatagram port datagram sendTo) past) := by
  intro u session live
  change (onGameDatagram state port datagram sendTo).1.cache.get u = some session at live
  -- The old session under the token: it handles the datagram if the port is its own.
  have before : ∃ old, state.cache.get u = some old ∧
      session = if old.forwardSocket.localPort = port then (old.onResponse u datagram sendTo).1
        else old := by
    cases handled state port datagram sendTo with
    | ignored unowned cache listeners outputs =>
        rw [cache] at live
        refine ⟨session, live, (if_neg ?_).symm⟩
        rintro rfl
        exact unowned u session (good.inverse.tokenByPort_of_get live) live
          (good.listening u session live)
    | answered token owned owner here sessions ports listeners outputs =>
        obtain ⟨owned', here', bound⟩ := (good.inverse.ports port token).mp owner
        obtain rfl := Option.some.inj (here.symm.trans here')
        rw [sessions u] at live
        split_ifs at live with same
        · subst same
          exact ⟨owned, here, by rw [if_pos bound, Option.some.inj live]⟩
        · refine ⟨session, live, (if_neg ?_).symm⟩
          intro mine
          exact same (good.inverse.token_unique live here (mine.trans bound.symm))
  obtain ⟨old, here, rfl⟩ := before
  obtain ⟨account, found, entered⟩ := accounted u old here
  simp only [recordAccount, found, Option.map_some, ← entered.port]
  split_ifs
  · exact ⟨_, rfl, entered.onResponse u datagram sendTo⟩
  · exact ⟨_, rfl, entered⟩

theorem accounted_register (accounted : Accounted state past) (token : UInt32)
    (gameServerIps gamePorts : List String) (bind : BindResult) (now : Instant) :
    Accounted (step state (.register token gameServerIps gamePorts bind now)).1
      (recordAccount state (.register token gameServerIps gamePorts bind now) past) := by
  intro u session live
  change (registerSession state token gameServerIps gamePorts bind now).1.cache.get u = _ at live
  cases registersSession state token gameServerIps gamePorts bind now with
  | accepted port yields room answer listeners sessions =>
      rw [sessions u] at live
      simp only [recordAccount, answer]
      split_ifs at live with same
      · obtain rfl := Option.some.inj live
        subst same
        exact ⟨_, Function.update_self .., Account.matches_opened _ _ _ _ _⟩
      · rw [Function.update_of_ne same]
        exact accounted u session live
  | refused e answer listeners others kept =>
      simp only [recordAccount, answer]
      exact accounted u session (kept u session live)

theorem accounted_step (good : state.Good) (event : Event) (accounted : Accounted state past) :
    Accounted (step state event).1 (recordAccount state event past) := by
  cases event with
  | clientDatagram datagram source now sendTo =>
      exact accounted_clientDatagram accounted datagram source now sendTo
  | gameDatagram port datagram sendTo =>
      exact accounted_gameDatagram good accounted port datagram sendTo
  | register token gameServerIps gamePorts bind now =>
      exact accounted_register accounted token gameServerIps gamePorts bind now
  | unregister token =>
      intro u session live
      change (state.cache.unregister token).get u = _ at live
      rw [SessionCache.get_unregister] at live
      split_ifs at live
      exact accounted u session live
  | cleanup now =>
      intro u session live
      change (state.cache.cleanupStale now).get u = _ at live
      rw [SessionCache.cleanupStale, SessionCache.get_foldl_unregister] at live
      split_ifs at live
      exact accounted u session live

end Step

/-- The accounts are kept along a run in which the system keeps its promise about ports. -/
theorem accounted_run {maxSessions : Nat} {sessionTimeout : Duration} {events : List Event}
    (legal : Machine.Legal BindsFreshPort step (start maxSessions sessionTimeout) events) :
    let state := (Machine.run step (start maxSessions sessionTimeout) events).1
    state.Good ∧ Accounted state (accounts maxSessions sessionTimeout events) := by
  refine Machine.run_history_invariant
    (fun state event past (both : state.Good ∧ Accounted state past) fresh =>
      ⟨good_step both.1 fresh, accounted_step both.1 event both.2⟩) ?_ legal
  refine ⟨good_start _ _, ?_⟩
  intro token session live
  simp [start] at live

/-- Two sessions with traffic in both directions; one of them is registered again on the way,
and its port goes to a third. -/
def busySessions : List Event :=
  [.register 7 ["10.0.0.9"] ["27015"] (.bound 40000) 0,
    .register 8 ["10.0.0.9"] ["27015"] (.bound 40001) 1,
    .clientDatagram (PlgPacket.data 7 1 [1, 2]).serialize ⟨.V4 ⟨203, 0, 113, 5⟩, 5000⟩ 2 (.sent 2),
    .gameDatagram 40000 [1, 2, 3] (.sent 13),
    .register 7 ["10.0.0.9"] ["27015"] (.bound 40002) 3,
    .register 9 ["10.0.0.9"] ["27015"] (.bound 40000) 4,
    .gameDatagram 40000 [4] (.sent 11),
    .clientDatagram (PlgPacket.keepalive 7 2).serialize ⟨.V4 ⟨203, 0, 113, 5⟩, 5001⟩ 5 .failed,
    .gameDatagram 40002 [5, 6] .failed]

example : accounts 100 300 busySessions 7 = some ⟨40002, 5, [10], [2]⟩ := by decide

/-! ## The bytes of the whole relay -/

/-- What a datagram handed to a socket adds to the byte counter. The count of a response does
not wait for the result of sending it. -/
def Outgoing.counted : Outgoing → Nat
  | .toGame _ _ _ (.sent bytes) => bytes
  | .toGame _ _ _ .failed => 0
  | .toClient data _ _ => data.length

theorem clientListener_bytes (cache : SessionCache) (datagram : List UInt8)
    (source : SocketAddr) (now : Instant) (sendTo : SendResult) :
    let after := clientListener cache datagram source now sendTo
    after.1.metrics.bytesForwarded =
      cache.metrics.bytesForwarded + (after.2.map Outgoing.counted).sum := by
  cases parsed : PlgPacket.parse datagram with
  | none => simp [clientListener, parsed, Metrics.received, Metrics.dropped]
  | some packet =>
      cases live : cache.get packet.sessionId with
      | none => simp [clientListener, parsed, live, Metrics.received, Metrics.invalid]
      | some session =>
          simp only [clientListener, parsed, SessionCache.get_count, live]
          split_ifs
          · simp [Metrics.received, Metrics.keepalive]
          · split
            · split_ifs <;> simp [Metrics.received, Metrics.dropped]
            · simp [Metrics.received, Metrics.dropped]
          · split
            · simp [Metrics.received, Metrics.dropped]
            · cases sendTo <;>
                simp [Metrics.received, Metrics.dropped, Metrics.forwarded, Outgoing.counted]

theorem step_bytes (state : RelayState) (event : Event) :
    (step state event).1.cache.metrics.bytesForwarded =
      state.cache.metrics.bytesForwarded + ((step state event).2.map Outgoing.counted).sum := by
  -- The maps' operations keep the traffic counters.
  have quiet {cache : SessionCache} (traffic : cache.traffic = state.cache.traffic) :
      cache.metrics.bytesForwarded = state.cache.metrics.bytesForwarded := by
    have same : cache.traffic.bytesForwarded = state.cache.traffic.bytesForwarded := by
      rw [traffic]
    exact same
  cases event with
  | clientDatagram datagram source now sendTo =>
      exact clientListener_bytes state.cache datagram source now sendTo
  | gameDatagram port datagram sendTo =>
      rcases onGameDatagram_counts state port datagram sendTo with
        ⟨_, metrics, silent⟩ | ⟨data, addr, _, metrics, response⟩
      · simp only [step, metrics, silent, List.map_nil, List.sum_nil, Nat.add_zero]
      · simp only [step, metrics, response, Metrics.forwarded, List.map_cons, List.map_nil,
          List.sum_cons, List.sum_nil, Outgoing.counted, Nat.add_zero]
  | register token gameServerIps gamePorts bind now =>
      refine quiet ?_
      change (registerSession state token gameServerIps gamePorts bind now).1.cache.traffic = _
      rw [registerSession_cache]
      exact SessionCache.view_register SessionCache.ignoresMaps_traffic ..
  | unregister token =>
      exact quiet (SessionCache.view_unregister SessionCache.ignoresMaps_traffic ..)
  | cleanup now =>
      exact quiet (SessionCache.view_cleanupStale SessionCache.ignoresMaps_traffic ..)

/-- After any run, the byte counter is the sum of what the game servers' sockets took and of
the responses handed to the main socket. -/
theorem bytesForwarded_run (maxSessions : Nat) (sessionTimeout : Duration)
    (events : List Event) :
    let after := Machine.run step (start maxSessions sessionTimeout) events
    after.1.cache.metrics.bytesForwarded = (after.2.map Outgoing.counted).sum := by
  intro after
  have balance : after.1.cache.metrics.bytesForwarded + 0 =
      (start maxSessions sessionTimeout).cache.metrics.bytesForwarded + 0 + _ :=
    Machine.run_balance (fun state => state.cache.metrics.bytesForwarded) (fun _ => 0)
      (fun state event => step_bytes state event) (start maxSessions sessionTimeout) events
  have unused : (start maxSessions sessionTimeout).cache.metrics.bytesForwarded = 0 := rfl
  have counted : Machine.total (fun s e => ((step s e).2.map Outgoing.counted).sum) step
      (start maxSessions sessionTimeout) events = (after.2.map Outgoing.counted).sum :=
    Machine.total_sum_outputs _ _ events
  omega

end PlgBooster.Relay
