import PlgBooster.Relay.Capacity
import PlgBooster.Relay.Reflection
import PlgBooster.System.Pipe
import PlgBooster.System.Responses

/-!
# The proxy and its relays make a pipe

The client's proxy, with or without multipath, and the relays of its paths, joined by a network
that may lose, repeat and reorder what is sent. All that was ever sent stays with the network,
which hands over a copy of any of it at any time. Registrations, removals and traffic of other
sessions, and cleanups, go on at the relays meanwhile.

As long as nobody else speaks in the session's name, this is a `Pipe`: it emits the same, at
every step of every run.
-/

namespace PlgBooster.System

open Rust Relay Client

structure Channel where
  proxy : UdpProxy
  relays : RelaySocket → RelayState
  /-- The datagrams the proxy has sent on each path, oldest first. -/
  up : RelaySocket → List (List UInt8)
  /-- The datagrams each relay has sent to the proxy, oldest first. -/
  down : RelaySocket → List (List UInt8)

/-- The datagrams that are sent to the proxy's addresses. -/
def arriving (owned : SocketAddr → Bool) (outputs : List Outgoing) : List (List UInt8) :=
  outputs.filterMap fun out => match out with
    | .toClient data addr _ => if owned addr then some data else none
    | .toGame _ _ _ _ => none

/-- The datagrams that leave by the session's forward socket. -/
def leaving (token : UInt32) (relay : RelayState) (path : RelaySocket)
    (outputs : List Outgoing) : List Emitted :=
  outputs.filterMap fun out => match out with
    | .toGame socket payload target result =>
        if (relay.cache.get token).map (·.forwardSocket) = some socket then
          some (.toServer path socket.localPort payload target result)
        else none
    | .toClient _ _ _ => none

/-- A datagram at the socket of a path. There is no task for a backup that is not in use. -/
def receive (proxy : UdpProxy) (datagram : List UInt8) (now : Instant) :
    RelaySocket → UdpProxy × List ToGame
  | .primary => proxy.fromPrimary datagram now
  | .backup =>
      if proxy.backupRelayAddr.isSome then proxy.fromBackup datagram else (proxy, [])

namespace Channel

/-- A task of the proxy has sent datagrams. -/
def sends (channel : Channel) (result : UdpProxy × List ToRelay) : Channel :=
  { channel with
    proxy := result.1
    up := fun path =>
      channel.up path ++ (result.2.filter fun out => out.via = path).map (·.data) }

def relayStep (token : UInt32) (owned : SocketAddr → Bool) (channel : Channel)
    (path : RelaySocket) (event : Relay.Event) : Channel × List Emitted :=
  let relay := channel.relays path
  let result := Relay.step relay event
  ({ channel with
      relays := Function.update channel.relays path result.1
      down := Function.update channel.down path (channel.down path ++ arriving owned result.2) },
    leaving token relay path result.2)

/-- One step, for the session that goes by `token` and whose proxy is reached at the `owned`
addresses. -/
def step (token : UInt32) (owned : SocketAddr → Bool) (channel : Channel) :
    PipeEvent → Channel × List Emitted
  | .game src payload => (channel.sends (channel.proxy.fromGame src payload), [])
  | .keepaliveTick now later => (channel.sends (channel.proxy.sendKeepalive now later), [])
  | .up path n source now sendTo =>
      match (channel.up path)[n]? with
      | some datagram =>
          channel.relayStep token owned path (.clientDatagram datagram source now sendTo)
      | none => (channel, [])
  | .down path n now =>
      match (channel.down path)[n]? with
      | some datagram =>
          let result := receive channel.proxy datagram now path
          ({ channel with proxy := result.1 },
            result.2.map fun out => .toGame out.payload out.addr)
      | none => (channel, [])
  | .relay path event => channel.relayStep token owned path event

end Channel

/-- At a relay, nobody else speaks in the session's name or from the proxy's addresses, the
session is not registered again, and ports are bound once. -/
def Elsewhere (token : UInt32) (owned : SocketAddr → Bool) (relay : RelayState)
    (event : Relay.Event) : Prop :=
  BindsFreshPort relay event ∧
    match event with
    | .clientDatagram datagram source _ _ =>
        sessionIdOf datagram ≠ some token ∧ owned source = false
    | .register u _ _ _ _ => u ≠ token
    | _ => True

/-- What the proxy says reaches the relays from the proxy's addresses. -/
def Private (token : UInt32) (owned : SocketAddr → Bool) (channel : Channel) : PipeEvent → Prop
  | .up _ _ source _ _ => owned source = true
  | .relay path event => Elsewhere token owned (channel.relays path) event
  | _ => True

instance (token : UInt32) (owned : SocketAddr → Bool) (relay : RelayState) :
    ∀ event, Decidable (Elsewhere token owned relay event)
  | .clientDatagram datagram source _ _ => inferInstanceAs (Decidable
      (True ∧ sessionIdOf datagram ≠ some token ∧ owned source = false))
  | .register u ips ports bind now => inferInstanceAs (Decidable
      (BindsFreshPort relay (.register u ips ports bind now) ∧ u ≠ token))
  | .gameDatagram _ _ _ => inferInstanceAs (Decidable (True ∧ True))
  | .unregister _ => inferInstanceAs (Decidable (True ∧ True))
  | .cleanup _ => inferInstanceAs (Decidable (True ∧ True))

instance (token : UInt32) (owned : SocketAddr → Bool) (channel : Channel) :
    ∀ event, Decidable (Private token owned channel event)
  | .up _ _ source _ _ => inferInstanceAs (Decidable (owned source = true))
  | .relay path event =>
      inferInstanceAs (Decidable (Elsewhere token owned (channel.relays path) event))
  | .game _ _ => .isTrue trivial
  | .keepaliveTick _ _ => .isTrue trivial
  | .down _ _ _ => .isTrue trivial

/-! ## The session of a relay as a gate -/

def gateOf (session : SessionInfo) : Gate where
  port := session.forwardSocket.localPort
  whitelist := session.gameServerIps
  client := session.clientAddr
  seen := session.lastSeen
  target := session.forwardTarget

/-- What a packet says to the relay. -/
def messageOf (packet : PlgPacket) : Message :=
  if packet.isKeepalive then .keepalive
  else if packet.isControl then .control (parseControlPayload packet.payload)
  else .data packet.payload

theorem gateOf_onPacket (session : SessionInfo) (packet : PlgPacket) (len : Nat)
    (source : SocketAddr) (now : Instant) (sendTo : SendResult) :
    gateOf (session.onPacket packet len source now sendTo).1 =
        ((gateOf session).hear source now (messageOf packet)).1 ∧
      (session.onPacket packet len source now sendTo).2 =
        (((gateOf session).hear source now (messageOf packet)).2.map fun passed =>
          .toGame session.forwardSocket passed.1 passed.2 sendTo).toList := by
  have touched : gateOf (session.touch source now len) =
      { gateOf session with client := source, seen := now } := by
    simp [gateOf]
  by_cases keepalive : packet.isKeepalive = true
  · simp [SessionInfo.onPacket, messageOf, keepalive, touched, Gate.hear]
  · by_cases control : packet.isControl = true
    · cases requested : parseControlPayload packet.payload with
      | none =>
          simp [SessionInfo.onPacket, messageOf, keepalive, control, requested, touched, Gate.hear]
      | some target =>
          by_cases allowed : target.ip.display ∈ session.gameServerIps
          · simp [SessionInfo.onPacket, messageOf, keepalive, control, requested, Gate.hear,
              allowed, gateOf]
          · simp [SessionInfo.onPacket, messageOf, keepalive, control, requested, Gate.hear,
              allowed, gateOf]
    · cases current : session.forwardTarget with
      | none =>
          simp [SessionInfo.onPacket, messageOf, keepalive, control, current, Gate.hear, gateOf]
      | some target =>
          simp [SessionInfo.onPacket, messageOf, keepalive, control, current, Gate.hear, gateOf]

/-- The proxy's datagrams say the message, whatever number and path they bear. -/
def Says (token : UInt32) (datagram : List UInt8) (message : Message) : Prop :=
  ∃ packet, PlgPacket.parse datagram = some packet ∧ packet.sessionId = token ∧
    messageOf packet = message

/-- No client of another session is at an address of the proxy. -/
def Apart (token : UInt32) (owned : SocketAddr → Bool) (relay : RelayState) : Prop :=
  ∀ u session, relay.cache.get u = some session → u ≠ token →
    session.clientAddr.port ≠ 0 → owned session.clientAddr = false

/-- One relay, and what was sent from it to the proxy, as one end of the pipe. -/
structure AtRelay (token : UInt32) (owned : SocketAddr → Bool) (relay : RelayState)
    (down : List (List UInt8)) (timeout : Duration) (gate : Option Gate)
    (answers : List (List UInt8)) : Prop where
  good : relay.Good
  apart : Apart token owned relay
  timeout : relay.cache.sessionTimeout = timeout
  gate : gate = (relay.cache.get token).map gateOf
  down : down = answers.map fun payload => (responsePacket token payload).encode

section Relay

variable {token : UInt32} {owned : SocketAddr → Bool} {relay : RelayState}
variable {event : Relay.Event}

/-- No step gives another session a client at an address of the proxy. -/
theorem apart_step (apart : Apart token owned relay)
    (sources : ∀ datagram source now sendTo,
      event = .clientDatagram datagram source now sendTo →
        sessionIdOf datagram = some token ∨ owned source = false) :
    Apart token owned (Relay.step relay event).1 := by
  intro u session live other placed
  cases event with
  | clientDatagram datagram source now sendTo =>
      rcases get_clientListener relay.cache datagram source now sendTo u with
        ⟨same, _⟩ | ⟨packet, before, addressed, rfl, _, after⟩
      · exact apart u session (same.symm.trans live) other placed
      · obtain rfl := Option.some.inj (after.symm.trans live)
        rw [SessionInfo.onPacket_clientAddr]
        refine (sources datagram source now sendTo rfl).resolve_left fun named => other ?_
        obtain ⟨parsed, _⟩ := (addressee_eq_some_iff _ _).mp addressed
        simpa [sessionIdOf, parsed] using named
  | gameDatagram port datagram sendTo =>
      rcases get_onGameDatagram relay port datagram sendTo u with same | ⟨before, here, after⟩
      · exact apart u session (same.symm.trans live) other placed
      · obtain rfl := Option.some.inj (after.symm.trans live)
        rw [SessionInfo.onResponse_fst] at placed ⊢
        exact apart u before here other placed
  | register v ips ports bind now =>
      change (registerSession relay v ips ports bind now).1.cache.get u = _ at live
      cases registersSession relay v ips ports bind now with
      | accepted port yields room answer listeners sessions =>
          rw [sessions u] at live
          split_ifs at live
          · -- A new session has the placeholder for its client.
            obtain rfl := Option.some.inj live
            exact absurd rfl placed
          · exact apart u session live other placed
      | refused e answer listeners others kept =>
          exact apart u session (kept u session live) other placed
  | unregister v =>
      change (relay.cache.unregister v).get u = _ at live
      rw [SessionCache.get_unregister] at live
      split_ifs at live
      exact apart u session live other placed
  | cleanup now =>
      change (relay.cache.cleanupStale now).get u = _ at live
      rw [SessionCache.cleanupStale, SessionCache.get_foldl_unregister] at live
      split_ifs at live
      exact apart u session live other placed

theorem arriving_clientDatagram (datagram : List UInt8) (source : SocketAddr) (now : Instant)
    (sendTo : SendResult) :
    arriving owned (Relay.step relay (.clientDatagram datagram source now sendTo)).2 = [] := by
  refine List.filterMap_eq_nil_iff.mpr fun out member => ?_
  obtain ⟨socket, payload, target, rfl⟩ := clientDatagram_outputs _ _ _ _ _ out member
  rfl

/-- A datagram of the proxy is heard at the gate, if it is open. -/
theorem AtRelay.own {down : List (List UInt8)} {timeout : Duration} {gate : Option Gate}
    {answers : List (List UInt8)} (joined : AtRelay token owned relay down timeout gate answers)
    (path : RelaySocket) {datagram : List UInt8} {message : Message}
    (spoken : Says token datagram message) (source : SocketAddr) (now : Instant)
    (sendTo : SendResult) :
    let event : Relay.Event := .clientDatagram datagram source now sendTo
    leaving token relay path (Relay.step relay event).2 =
        (gate.bind fun gate => (gate.hear source now message).2.map fun passed =>
          .toServer path gate.port passed.1 passed.2 sendTo).toList ∧
      AtRelay token owned (Relay.step relay event).1
        (down ++ arriving owned (Relay.step relay event).2) timeout
        (gate.map fun gate => (gate.hear source now message).1) answers := by
  intro event
  obtain ⟨packet, parsed, named, rfl⟩ := spoken
  obtain ⟨good, apart, rfl, rfl, rfl⟩ := joined
  obtain ⟨sessions, outputs⟩ := clientListener_spec relay.cache datagram source now sendTo
  have good' : (Relay.step relay event).1.Good := good_step good trivial
  have apart' : Apart token owned (Relay.step relay event).1 := by
    refine apart_step apart fun _ _ _ _ same => .inl ?_
    obtain ⟨rfl, _⟩ := Relay.Event.clientDatagram.inj same
    simp [sessionIdOf, parsed, named]
  have timeout' : (Relay.step relay event).1.cache.sessionTimeout = relay.cache.sessionTimeout :=
    congrArg Prod.snd (limits_step relay event)
  have nothing : arriving owned (Relay.step relay event).2 = [] := arriving_clientDatagram _ _ _ _
  rw [nothing, List.append_nil]
  cases live : relay.cache.get token with
  | none =>
      have addressed : addressee relay.cache datagram = none := by
        simp [addressee, parsed, named, live]
      simp only [addressed] at sessions outputs
      refine ⟨?_, good', apart', timeout', ?_, rfl⟩
      · simp only [event, Relay.step, outputs]
        rfl
      · simp only [event, Relay.step, sessions, live, Option.map_none]
  | some session =>
      have addressed : addressee relay.cache datagram = some (packet, session) :=
        (addressee_eq_some_iff _ _).mpr ⟨parsed, named ▸ live⟩
      obtain ⟨heard, sent⟩ := gateOf_onPacket session packet datagram.length source now sendTo
      simp only [addressed] at sessions outputs
      refine ⟨?_, good', apart', timeout', ?_, rfl⟩
      · simp only [event, Relay.step, outputs, sent, Option.map_some, Option.bind_some]
        cases passed : ((gateOf session).hear source now (messageOf packet)).2 with
        | none => rfl
        | some passed => simp [leaving, live, gateOf]
      · simp only [event, Relay.step, sessions, named, if_true, Option.map_some, heard]

/-- A server's datagram changes no gate, and goes to the proxy if it is for the session. -/
theorem gameDatagram_gate (good : relay.Good) (apart : Apart token owned relay) (port : UInt16)
    (payload : List UInt8) (sendTo : SendResult) :
    let event : Relay.Event := .gameDatagram port payload sendTo
    arriving owned (Relay.step relay event).2 =
        (((relay.cache.get token).map gateOf).elim [] fun gate =>
          (gate.meet token owned relay.cache.sessionTimeout event).2).map (fun payload =>
            (responsePacket token payload).encode) ∧
      ((Relay.step relay event).1.cache.get token).map gateOf =
        (relay.cache.get token).map gateOf := by
  intro event
  change arriving owned (onGameDatagram relay port payload sendTo).2 = _ ∧
    ((onGameDatagram relay port payload sendTo).1.cache.get token).map gateOf = _
  -- The session answers at its own port only.
  have elsewhere (other : ∀ session, relay.cache.get token = some session →
      session.forwardSocket.localPort ≠ port) :
      ((relay.cache.get token).map gateOf).elim [] (fun gate =>
        (gate.meet token owned relay.cache.sessionTimeout event).2) = [] := by
    cases live : relay.cache.get token with
    | none => rfl
    | some session => simp [event, Gate.meet, gateOf, Ne.symm (other session live)]
  cases handled relay port payload sendTo with
  | ignored unowned cache listeners outputs =>
      rw [outputs, cache, elsewhere]
      · exact ⟨rfl, rfl⟩
      · rintro session live rfl
        exact unowned token session (good.inverse.tokenByPort_of_get live) live
          (good.listening token session live)
  | answered u session owner live sessions ports listeners outputs =>
      obtain ⟨session', live', bound⟩ := (good.inverse.ports port u).mp owner
      obtain rfl := Option.some.inj (live.symm.trans live')
      rw [outputs, sessions token]
      by_cases mine : token = u
      · subst mine
        refine ⟨?_, by simp [live, gateOf]⟩
        by_cases placeholder : session.clientAddr.port = 0
        · simp [SessionInfo.onResponse, placeholder, arriving, live, event, Gate.meet, gateOf]
        · by_cases reached : owned session.clientAddr = true
          · simp [SessionInfo.onResponse, placeholder, arriving, reached, live, event, Gate.meet,
              gateOf, bound, responsePacket]
          · simp [SessionInfo.onResponse, placeholder, arriving, reached, live, event, Gate.meet,
              gateOf]
      · rw [if_neg mine, elsewhere]
        · refine ⟨?_, rfl⟩
          by_cases placeholder : session.clientAddr.port = 0
          · simp [SessionInfo.onResponse, placeholder, arriving]
          · have strange := apart u session live (Ne.symm mine) placeholder
            simp [SessionInfo.onResponse, placeholder, arriving, strange]
        · intro own here same
          exact mine (good.inverse.token_unique here live (same.trans bound.symm))

/-- A step of a relay is to the session what the gate meets, and nothing leaves by its socket. -/
def Meets (token : UInt32) (owned : SocketAddr → Bool) (relay : RelayState) (path : RelaySocket)
    (event : Relay.Event) : Prop :=
  leaving token relay path (Relay.step relay event).2 = [] ∧
    ((relay.cache.get token).map gateOf).bind (fun gate =>
        (gate.meet token owned relay.cache.sessionTimeout event).1) =
      ((Relay.step relay event).1.cache.get token).map gateOf ∧
    arriving owned (Relay.step relay event).2 =
      (((relay.cache.get token).map gateOf).elim [] fun gate =>
        (gate.meet token owned relay.cache.sessionTimeout event).2).map fun payload =>
          (responsePacket token payload).encode

/-- A datagram of another session. -/
theorem meets_clientDatagram (good : relay.Good) (path : RelaySocket) {datagram : List UInt8}
    (foreign : sessionIdOf datagram ≠ some token) (source : SocketAddr) (now : Instant)
    (sendTo : SendResult) :
    Meets token owned relay path (.clientDatagram datagram source now sendTo) := by
  have other : ∀ session, relay.cache.get token = some session →
      concerns token session.forwardSocket.localPort
        (.clientDatagram datagram source now sendTo) = false := by
    intro session _
    simp [concerns, foreign]
  have binds : BindsFreshPort relay (.clientDatagram datagram source now sendTo) := trivial
  obtain ⟨kept, foreignOutputs⟩ := step_elsewhere good _ ⟨binds, trivial⟩ other
  refine ⟨?_, ?_, ?_⟩
  · refine List.filterMap_eq_nil_iff.mpr fun out member => ?_
    obtain ⟨socket, payload, target, rfl⟩ := clientDatagram_outputs _ _ _ _ _ out member
    have strange := foreignOutputs _ member
    refine if_neg fun mine => ?_
    obtain ⟨session, live, same⟩ := Option.map_eq_some_iff.mp mine
    exact strange session live same
  · rw [kept]
    cases relay.cache.get token <;> rfl
  · rw [arriving_clientDatagram]
    cases relay.cache.get token <;> rfl

theorem meets_gameDatagram (good : relay.Good) (apart : Apart token owned relay)
    (path : RelaySocket) (port : UInt16) (payload : List UInt8) (sendTo : SendResult) :
    Meets token owned relay path (.gameDatagram port payload sendTo) := by
  have kept : ((relay.cache.get token).map gateOf).bind (fun gate =>
      (gate.meet token owned relay.cache.sessionTimeout (.gameDatagram port payload sendTo)).1) =
      (relay.cache.get token).map gateOf := by
    cases relay.cache.get token <;> rfl
  obtain ⟨arrives, gates⟩ := gameDatagram_gate good apart port payload sendTo
  refine ⟨?_, kept.trans gates.symm, arrives⟩
  refine List.filterMap_eq_nil_iff.mpr fun out member => ?_
  obtain ⟨u, session, _, _, response⟩ := mem_onGameDatagram member
  obtain ⟨data, _, rfl⟩ := onResponse_outputs u payload sendTo out response
  rfl

theorem meets_register (path : RelaySocket) {u : UInt32} (other : u ≠ token)
    (ips ports : List String) (bind : BindResult) (now : Instant) :
    Meets token owned relay path (.register u ips ports bind now) := by
  refine ⟨rfl, ?_, ?_⟩
  · change _ = ((registerSession relay u ips ports bind now).1.cache.get token).map gateOf
    rw [get_registerSession_of_ne relay (Ne.symm other)]
    cases relay.cache.get token <;> rfl
  · cases relay.cache.get token <;> rfl

/-- A removal closes the gate if it is of the session. -/
theorem meets_unregister (path : RelaySocket) (u : UInt32) :
    Meets token owned relay path (.unregister u) := by
  refine ⟨rfl, ?_, ?_⟩
  · change _ = ((relay.cache.unregister u).get token).map gateOf
    rw [SessionCache.get_unregister]
    cases relay.cache.get token with
    | none => simp
    | some session =>
        by_cases same : u = token
        · simp [Gate.meet, same]
        · simp [Gate.meet, same, Ne.symm same]
  · cases relay.cache.get token <;> rfl

/-- A cleanup closes the gate if the session is stale. -/
theorem meets_cleanup (good : relay.Good) (path : RelaySocket) (now : Instant) :
    Meets token owned relay path (.cleanup now) := by
  refine ⟨rfl, ?_, ?_⟩
  · change _ = ((relay.cache.cleanupStale now).get token).map gateOf
    rw [SessionCache.cleanupStale, SessionCache.get_foldl_unregister]
    cases live : relay.cache.get token with
    | none => simp
    | some session =>
        have stale : token ∈ relay.cache.staleTokens now ↔
            now.durationSince session.lastSeen > relay.cache.sessionTimeout := by
          rw [SessionCache.mem_staleTokens good.inverse.tokens]
          simp [live]
        by_cases old : now.durationSince session.lastSeen > relay.cache.sessionTimeout
        · simp [Gate.meet, gateOf, stale, old]
        · simp [Gate.meet, gateOf, stale, old]
  · cases relay.cache.get token <;> rfl

theorem meets_of_elsewhere (good : relay.Good) (apart : Apart token owned relay)
    (path : RelaySocket) (elsewhere : Elsewhere token owned relay event) :
    Meets token owned relay path event := by
  obtain ⟨_, foreign⟩ := elsewhere
  cases event with
  | clientDatagram datagram source now sendTo =>
      exact meets_clientDatagram good path foreign.1 source now sendTo
  | gameDatagram port payload sendTo => exact meets_gameDatagram good apart path port payload sendTo
  | register u ips ports bind now => exact meets_register path foreign ips ports bind now
  | unregister u => exact meets_unregister path u
  | cleanup now => exact meets_cleanup good path now

/-- Whatever else a relay does is to the session what the gate meets. -/
theorem AtRelay.elsewhere {down : List (List UInt8)} {timeout : Duration} {gate : Option Gate}
    {answers : List (List UInt8)} (joined : AtRelay token owned relay down timeout gate answers)
    (path : RelaySocket) (elsewhere : Elsewhere token owned relay event) :
    leaving token relay path (Relay.step relay event).2 = [] ∧
      AtRelay token owned (Relay.step relay event).1
        (down ++ arriving owned (Relay.step relay event).2) timeout
        (gate.bind fun gate => (gate.meet token owned timeout event).1)
        (answers ++ gate.elim [] fun gate => (gate.meet token owned timeout event).2) := by
  obtain ⟨good, apart, rfl, rfl, rfl⟩ := joined
  have good' : (Relay.step relay event).1.Good := good_step good elsewhere.1
  have apart' : Apart token owned (Relay.step relay event).1 := by
    refine apart_step apart ?_
    rintro datagram source now sendTo rfl
    exact .inr elsewhere.2.2
  have timeout' : (Relay.step relay event).1.cache.sessionTimeout = relay.cache.sessionTimeout :=
    congrArg Prod.snd (limits_step relay event)
  obtain ⟨leaves, gates, arrives⟩ := meets_of_elsewhere good apart path elsewhere
  exact ⟨leaves, good', apart', timeout', gates, by rw [arrives, List.map_append]⟩

end Relay

/-! ## The proxy as the other end -/

/-- The paths a proxy sends on. -/
def pathsOf (proxy : UdpProxy) : List RelaySocket :=
  if proxy.backupRelayAddr.isSome then [.primary, .backup] else [.primary]

/-- The datagrams say the same message once on each path. -/
def Tell (token : UInt32) (proxy : UdpProxy) (message : Message) (sent : List ToRelay) : Prop :=
  ∀ path, List.Forall₂ (Says token) ((sent.filter fun out => out.via = path).map (·.data))
    (if path ∈ pathsOf proxy then [message] else [])

theorem says_encode (packet : PlgPacket) :
    Says packet.sessionId packet.encode (messageOf packet) :=
  ⟨packet, packet.parse_encode, rfl, rfl⟩

section Proxy

variable (proxy : UdpProxy)

/-- A packet to the primary relay, and one to the backup relay if there is one. -/
theorem tell_of_packets (first second : PlgPacket) {message : Message} {sent : List ToRelay}
    (named : first.sessionId = proxy.sessionToken ∧ second.sessionId = proxy.sessionToken)
    (spoken : messageOf first = message ∧ messageOf second = message)
    (shape : sent = ⟨.primary, first.encode, proxy.relayAddr⟩ ::
      (proxy.backupRelayAddr.map fun backup => ⟨.backup, second.encode, backup⟩).toList) :
    Tell proxy.sessionToken proxy message sent := by
  have says₁ := says_encode first
  have says₂ := says_encode second
  rw [named.1, spoken.1] at says₁
  rw [named.2, spoken.2] at says₂
  intro path
  subst shape
  cases backup : proxy.backupRelayAddr with
  | none => cases path <;> simp [pathsOf, backup, says₁]
  | some addr => cases path <;> simp [pathsOf, backup, says₁, says₂]

theorem messageOf_data (token seq : UInt32) (payload : List UInt8) :
    messageOf (.data token seq payload) = .data payload ∧
      messageOf ((PlgPacket.data token seq payload).withMultipath 1) = .data payload := by
  have ⟨keepalive, control⟩ := PlgPacket.flags_data token seq payload
  have ⟨keepalive', control'⟩ := PlgPacket.flags_withMultipath_data token seq payload 1
  simp only [messageOf, keepalive, control, keepalive', control']
  exact ⟨rfl, rfl⟩

theorem fromGame_tells (running : proxy.running = true) (src : SocketAddr)
    (payload : List UInt8) :
    Tell proxy.sessionToken proxy (.data payload) (proxy.fromGame src payload).2 := by
  apply tell_of_packets proxy (.data proxy.sessionToken proxy.seqCounter payload)
    ((PlgPacket.data proxy.sessionToken proxy.seqCounter payload).withMultipath 1)
  · exact ⟨rfl, rfl⟩
  · exact messageOf_data _ _ _
  · simp only [UdpProxy.fromGame, running, UdpProxy.nextSeq]
    cases proxy.backupRelayAddr <;> rfl

theorem sendKeepalive_tells (running : proxy.running = true) (now later : Instant) :
    Tell proxy.sessionToken proxy .keepalive (proxy.sendKeepalive now later).2 := by
  apply tell_of_packets proxy (.keepalive proxy.sessionToken proxy.seqCounter)
    (.keepalive proxy.sessionToken (proxy.seqCounter + 1))
  · exact ⟨rfl, rfl⟩
  · simp [messageOf]
  · simp only [UdpProxy.sendKeepalive, running, UdpProxy.nextSeq]
    cases proxy.backupRelayAddr <;> rfl

theorem sendControl_tells (gameTarget : String) :
    Tell proxy.sessionToken proxy (.control (parseControlPayload (asBytes gameTarget)))
      (proxy.sendControl gameTarget).2 := by
  apply tell_of_packets proxy (.control proxy.sessionToken proxy.seqCounter gameTarget)
    (.control proxy.sessionToken (proxy.seqCounter + 1) gameTarget)
  · exact ⟨rfl, rfl⟩
  · simp only [messageOf, PlgPacket.isKeepalive_control, PlgPacket.isControl_control]
    exact ⟨rfl, rfl⟩
  · simp only [UdpProxy.sendControl, UdpProxy.nextSeq]
    cases proxy.backupRelayAddr <;> rfl

/-- What the sender of a datagram sees of the proxy does not change when one arrives. -/
theorem receive_frame (datagram : List UInt8) (now : Instant) (path : RelaySocket) :
    (receive proxy datagram now path).1.identity = proxy.identity ∧
      (receive proxy datagram now path).1.gameAddr = proxy.gameAddr := by
  cases path with
  | primary =>
      refine ⟨UdpProxy.fromPrimary_identity proxy datagram now, ?_⟩
      simp only [receive, UdpProxy.fromPrimary]
      split_ifs
      · rfl
      · split
        · rfl
        · split_ifs
          · split <;> rfl
          · exact (UdpProxy.deliver_frame _ _).2
  | backup =>
      simp only [receive]
      split_ifs
      · refine ⟨UdpProxy.fromBackup_identity proxy datagram, ?_⟩
        simp only [UdpProxy.fromBackup]
        split_ifs
        · rfl
        · split
          · rfl
          · split_ifs
            · rfl
            · exact (UdpProxy.deliver_frame _ _).2
      · exact ⟨rfl, rfl⟩

/-- A response is for the game, at whatever socket in use it arrives. -/
theorem receive_answer (running : proxy.running = true) (token : UInt32)
    (payload : List UInt8) (now : Instant) (path : RelaySocket) :
    receive proxy (responsePacket token payload).encode now path =
      if path ∈ pathsOf proxy then proxy.deliver (responsePacket token payload)
      else (proxy, []) := by
  have plain : (responsePacket token payload).isKeepalive = false := by
    change (0 &&& FLAG_KEEPALIVE != 0) = false
    decide
  cases path with
  | primary =>
      have served : RelaySocket.primary ∈ pathsOf proxy := by
        unfold pathsOf
        split_ifs <;> simp
      simp [receive, UdpProxy.fromPrimary, running, plain, served]
  | backup =>
      cases backup : proxy.backupRelayAddr <;>
        simp [receive, UdpProxy.fromBackup, running, plain, pathsOf, backup]

/-- The first response is delivered, and no other. -/
theorem deliver_answer (token : UInt32) (payload : List UInt8) (answered : Bool)
    (seen : proxy.seenSeqs = if answered then [0] else []) :
    (proxy.deliver (responsePacket token payload)).1.seenSeqs = [0] ∧
      (proxy.deliver (responsePacket token payload)).2 =
        if answered then []
        else (proxy.gameAddr.map fun addr => (⟨payload, addr⟩ : ToGame)).toList := by
  cases answered with
  | true => simp [UdpProxy.deliver, responsePacket, seen]
  | false =>
      cases known : proxy.gameAddr <;>
        simp [UdpProxy.deliver, responsePacket, seen, known]

end Proxy

/-! ## The refinement -/

/-- The parts of the pipe, in the states of the proxy and the relays. -/
structure Represents (token : UInt32) (owned : SocketAddr → Bool) (channel : Channel)
    (pipe : Pipe) : Prop where
  named : channel.proxy.sessionToken = token
  running : channel.proxy.running = true
  paths : pipe.paths = pathsOf channel.proxy
  game : pipe.game = channel.proxy.gameAddr
  seen : channel.proxy.seenSeqs = if pipe.answered then [0] else []
  said : ∀ path, List.Forall₂ (Says token) (channel.up path) (pipe.said path)
  relays : ∀ path, AtRelay token owned (channel.relays path) (channel.down path)
    (pipe.timeout path) (pipe.gates path) (pipe.answers path)

section Represents

variable {token : UInt32} {owned : SocketAddr → Bool} {channel : Channel} {pipe : Pipe}

theorem pathsOf_of_identity {proxy proxy' : UdpProxy} (same : proxy'.identity = proxy.identity) :
    pathsOf proxy' = pathsOf proxy := by
  simp only [UdpProxy.identity, Prod.mk.injEq] at same
  rw [pathsOf, same.2.2, pathsOf]

/-- A task of the proxy tells the relays something. -/
theorem Represents.sends (represents : Represents token owned channel pipe)
    {result : UdpProxy × List ToRelay} {message : Message}
    (same : result.1.identity = channel.proxy.identity)
    (seen : result.1.seenSeqs = channel.proxy.seenSeqs)
    (told : Tell channel.proxy.sessionToken channel.proxy message result.2) :
    Represents token owned (channel.sends result)
      ({ pipe with game := result.1.gameAddr }.say message) := by
  have paths := pathsOf_of_identity same
  simp only [UdpProxy.identity, Prod.mk.injEq] at same
  refine ⟨same.2.1.trans represents.named, same.1.trans represents.running,
    represents.paths.trans paths.symm, rfl, seen.trans represents.seen, fun path => ?_,
    represents.relays⟩
  have new := told path
  rw [represents.named, ← represents.paths] at new
  have all := List.rel_append (represents.said path) new
  simp only [Pipe.say, Channel.sends]
  split_ifs at all ⊢ with told
  · exact all
  · simpa only [List.append_nil] using all

/-- A step of one relay leaves the other one and the proxy alone. -/
theorem Represents.relayStep (represents : Represents token owned channel pipe)
    (path : RelaySocket) {event : Relay.Event} {gate : Option Gate}
    {answers : List (List UInt8)}
    (joined : AtRelay token owned (Relay.step (channel.relays path) event).1
      (channel.down path ++ arriving owned (Relay.step (channel.relays path) event).2)
      (pipe.timeout path) gate answers) :
    Represents token owned (channel.relayStep token owned path event).1
      { pipe.setGate path gate with
        answers := Function.update pipe.answers path answers } := by
  refine ⟨represents.named, represents.running, represents.paths, represents.game,
    represents.seen, represents.said, fun path' => ?_⟩
  simp only [Channel.relayStep, Pipe.setGate]
  by_cases same : path' = path
  · subst same
    simpa only [Function.update_self] using joined
  · simpa only [Function.update_of_ne same] using represents.relays path'

/-- What is at a place of one list is related to what is there in the other. -/
theorem forall₂_getElem? {α β : Type} {R : α → β → Prop} {as : List α} {bs : List β}
    (related : List.Forall₂ R as bs) (n : Nat) :
    as[n]? = none ∧ bs[n]? = none ∨ ∃ a b, as[n]? = some a ∧ bs[n]? = some b ∧ R a b := by
  induction related generalizing n with
  | nil => exact .inl ⟨rfl, rfl⟩
  | cons head _ ih =>
      cases n with
      | zero => exact .inr ⟨_, _, rfl, rfl, head⟩
      | succ n => exact ih n

/-- The network hands a datagram of the proxy over to its relay. -/
theorem represents_up (represents : Represents token owned channel pipe) (path : RelaySocket)
    (n : Nat) (source : SocketAddr) (now : Instant) (sendTo : SendResult) :
    let event : PipeEvent := .up path n source now sendTo
    Represents token owned (channel.step token owned event).1 (pipe.step token owned event).1 ∧
      (channel.step token owned event).2 = (pipe.step token owned event).2 := by
  intro event
  simp only [event, Channel.step, Pipe.step]
  rcases forall₂_getElem? (represents.said path) n with
    ⟨nothing, nothing'⟩ | ⟨datagram, message, sent, said, spoken⟩
  · simp only [nothing, nothing']
    exact ⟨represents, trivial⟩
  · obtain ⟨leaves, joined⟩ := (represents.relays path).own path spoken source now sendTo
    have next := represents.relayStep path joined
    rw [Function.update_eq_self] at next
    simp only [sent, said]
    cases gate : pipe.gates path with
    | none =>
        rw [gate] at leaves next
        have same : pipe.setGate path none = pipe := by
          rw [Pipe.setGate, ← gate, Function.update_eq_self]
        rw [Option.map_none, same] at next
        exact ⟨next, leaves⟩
    | some gate =>
        rw [gate] at leaves next
        exact ⟨next, leaves⟩

/-- The network hands a response over to the proxy. -/
theorem represents_down (represents : Represents token owned channel pipe) (path : RelaySocket)
    (n : Nat) (now : Instant) :
    let event : PipeEvent := .down path n now
    Represents token owned (channel.step token owned event).1 (pipe.step token owned event).1 ∧
      (channel.step token owned event).2 = (pipe.step token owned event).2 := by
  intro event
  have ⟨named, running, paths, game, seen, said, relays⟩ := represents
  have arrivals : (channel.down path)[n]? = ((pipe.answers path)[n]?).map fun payload =>
      (responsePacket token payload).encode := by
    rw [(relays path).down, List.getElem?_map]
  cases answer : (pipe.answers path)[n]? with
  | none =>
      rw [answer, Option.map_none] at arrivals
      simp only [event, Channel.step, Pipe.step, arrivals, answer]
      exact ⟨represents, trivial⟩
  | some payload =>
      rw [answer, Option.map_some] at arrivals
      obtain ⟨same, known⟩ := receive_frame channel.proxy (responsePacket token payload).encode
        now path
      have kept (answered : Bool)
          (noted : (receive channel.proxy (responsePacket token payload).encode now
            path).1.seenSeqs = if answered then [0] else []) :
          Represents token owned { channel with
              proxy := (receive channel.proxy (responsePacket token payload).encode now path).1 }
            { pipe with answered := answered } := by
        have paths' := pathsOf_of_identity same
        simp only [UdpProxy.identity, Prod.mk.injEq] at same
        exact ⟨same.2.1.trans named, same.1.trans running, paths.trans paths'.symm,
          game.trans known.symm, noted, said, relays⟩
      obtain ⟨noted, delivered⟩ := deliver_answer channel.proxy token payload pipe.answered seen
      have received := receive_answer channel.proxy running token payload now path
      rw [← paths] at received
      simp only [event, Channel.step, Pipe.step, arrivals, answer]
      by_cases served : path ∈ pipe.paths
      · rw [if_pos served] at received
        have next := kept true (by rw [received, noted]; rfl)
        cases first : pipe.answered with
        | true =>
            have same : { pipe with answered := true } = pipe := by rw [← first]
            rw [same] at next
            simp only [served, not_true_eq_false, and_false, if_false]
            exact ⟨next, by simp [received, delivered, first]⟩
        | false =>
            rw [if_pos ⟨served, Bool.false_ne_true⟩]
            refine ⟨next, ?_⟩
            simp only [received, delivered, first, game]
            cases channel.proxy.gameAddr <;> rfl
      · rw [if_neg served] at received
        rw [if_neg fun both => served both.1]
        have next := kept pipe.answered (by rw [received, seen])
        exact ⟨next, by rw [received]; rfl⟩

/-- At each step the channel does what the pipe does. -/
theorem represents_step (represents : Represents token owned channel pipe) (event : PipeEvent)
    (allowed : Private token owned channel event) :
    Represents token owned (channel.step token owned event).1 (pipe.step token owned event).1 ∧
      (channel.step token owned event).2 = (pipe.step token owned event).2 := by
  have running := represents.running
  cases event with
  | game src payload =>
      have ⟨same, seen⟩ := UdpProxy.fromGame_frame channel.proxy src payload
      have sent := represents.sends same seen (fromGame_tells channel.proxy running src payload)
      rw [UdpProxy.fromGame_gameAddr running] at sent
      exact ⟨sent, rfl⟩
  | keepaliveTick now later =>
      have ⟨same, seen, game⟩ := UdpProxy.sendKeepalive_frame channel.proxy now later
      have sent := represents.sends same seen
        (sendKeepalive_tells channel.proxy running now later)
      rw [game, ← represents.game] at sent
      exact ⟨sent, rfl⟩
  | up path n source now sendTo => exact represents_up represents path n source now sendTo
  | down path n now => exact represents_down represents path n now
  | relay path event =>
      obtain ⟨leaves, joined⟩ := (represents.relays path).elsewhere path allowed
      have next := represents.relayStep path joined
      simp only [Channel.step, Pipe.step]
      cases gate : pipe.gates path with
      | none =>
          rw [gate] at next
          have same : { pipe.setGate path none with
              answers := Function.update pipe.answers path (pipe.answers path ++ []) } = pipe := by
            rw [Pipe.setGate, ← gate, Function.update_eq_self, List.append_nil,
              Function.update_eq_self]
          exact ⟨same ▸ next, leaves⟩
      | some gate =>
          rw [gate] at next
          exact ⟨next, leaves⟩

end Represents

/-- The channel as the proxy starts, with the control packets sent. -/
def connect (proxy : UdpProxy) (control : List ToRelay) (relays : RelaySocket → RelayState) :
    Channel where
  proxy := proxy
  relays := relays
  up path := (control.filter fun out => out.via = path).map (·.data)
  down _ := []

/-- A run from the start of a proxy for the session. The relays may have done anything before. -/
structure ChannelRun (token : UInt32) (owned : SocketAddr → Bool) where
  gameTarget : String
  proxy : UdpProxy
  control : List ToRelay
  started : ∃ relayAddr backupRelayAddr localPort multipathEnabled results,
    UdpProxy.start token relayAddr backupRelayAddr gameTarget localPort multipathEnabled results =
      .ok (proxy, control)
  relays : RelaySocket → RelayState
  reached : ∀ path, Reached (relays path)
  apart : ∀ path, Apart token owned (relays path)
  events : List PipeEvent
  isPrivate : Machine.Legal (Private token owned) (Channel.step token owned)
    (connect proxy control relays) events

namespace ChannelRun

variable {token : UInt32} {owned : SocketAddr → Bool} (r : ChannelRun token owned)

def result : Channel × List Emitted :=
  Machine.run (Channel.step token owned) (connect r.proxy r.control r.relays) r.events

/-- The pipe between the game and the servers of the session at the relays. -/
def pipe : Pipe :=
  .opened (pathsOf r.proxy) (parseControlPayload (asBytes r.gameTarget))
    (fun path => (r.relays path).cache.sessionTimeout)
    fun path => ((r.relays path).cache.get token).map gateOf

def pipeResult : Pipe × List Emitted := Machine.run (Pipe.step token owned) r.pipe r.events

theorem represents_connect :
    Represents token owned (connect r.proxy r.control r.relays) r.pipe := by
  obtain ⟨gameTarget, proxy, control, started, relays, reached, apart, events, _⟩ := r
  obtain ⟨relayAddr, backupRelayAddr, localPort, multipathEnabled, results, started⟩ := started
  obtain ⟨actualPort, ok⟩ := UdpProxy.start_eq_ok started
  generalize (if multipathEnabled then backupRelayAddr else none) = backup at ok
  let fresh := UdpProxy.initial token relayAddr backup actualPort
  obtain rfl : proxy = (fresh.sendControl gameTarget).1 := congrArg Prod.fst ok
  obtain rfl : control = (fresh.sendControl gameTarget).2 := congrArg Prod.snd ok
  obtain ⟨identity, seen⟩ := fresh.sendControl_frame gameTarget
  have paths := pathsOf_of_identity identity
  have told : Tell token fresh _ _ := sendControl_tells fresh gameTarget
  simp only [UdpProxy.identity, Prod.mk.injEq] at identity
  refine ⟨identity.2.1, identity.1, rfl, ?_, seen, fun path => ?_, fun path => ?_⟩
  · change none = (fresh.sendControl gameTarget).1.gameAddr
    simp only [UdpProxy.sendControl, UdpProxy.nextSeq]
    split <;> rfl
  · simpa only [connect, pipe, Pipe.opened, paths] using told path
  · exact ⟨(reached path).good, apart path, rfl, rfl, rfl⟩

theorem represents_result :
    Represents token owned r.result.1 r.pipeResult.1 ∧ r.result.2 = r.pipeResult.2 :=
  Machine.run_simulation (Represents token owned)
    (fun _ _ event represents allowed => represents_step represents event allowed)
    r.represents_connect r.isPrivate

/-- Whatever the network does with what is sent, and whatever else the relays do, the proxy and
the relays emit what the pipe emits. -/
theorem refines_pipe : r.result.2 = r.pipeResult.2 := r.represents_result.2

/-- Nothing is made up on the way. What leaves for a server was sent by the game, leaves from
the session's port, and goes to its first target or to one on its whitelist; where the network
keeps the order of a path, it is a subsequence of what the game has sent. The game receives at
most one answer, which a server sent to the session's port. -/
theorem makes_nothing_up :
    (∀ path port payload target result, .toServer path port payload target result ∈ r.result.2 →
      (∃ src, .game src payload ∈ r.events) ∧
        ∃ session, (r.relays path).cache.get token = some session ∧
          port = session.forwardSocket.localPort ∧
          (session.forwardTarget = some target ∨ target.ip.display ∈ session.gameServerIps)) ∧
    (∀ path, (letThrough path r.events).Pairwise (· < ·) →
      (forwardedBy path r.result.2).Sublist (gamePayloads r.events)) ∧
    (deliveredToGame r.result.2).length ≤ 1 ∧
    ∀ payload addr, .toGame payload addr ∈ r.result.2 →
      (∃ sent, .game addr sent ∈ r.events) ∧
        ∃ path session result, (r.relays path).cache.get token = some session ∧
          .relay path (.gameDatagram session.forwardSocket.localPort payload result) ∈
            r.events := by
  have genuine : ∀ out ∈ r.pipeResult.2, Pipe.Genuine r.pipe.gates r.events out :=
    Pipe.genuine_run (Pipe.sourced_opened _ _ _ _ _)
  rw [r.represents_result.2]
  refine ⟨?_, ?_, ?_, ?_⟩
  · intro path port payload target result leaves
    obtain ⟨sent, gate, found, rfl, allowed⟩ := genuine _ leaves
    obtain ⟨session, live, rfl⟩ := Option.map_eq_some_iff.mp found
    exact ⟨sent, session, live, rfl, allowed⟩
  · intro path inOrder
    exact Pipe.forwardedBy_opened _ _ _ _ _ _ r.events path inOrder
  · exact (Nat.le_add_right _ _).trans (Pipe.deliveredToGame_run _ _ _ r.events)
  · intro payload addr arrives
    obtain ⟨heard, path, gate, result, found, answered⟩ := genuine _ arrives
    obtain ⟨session, live, rfl⟩ := Option.map_eq_some_iff.mp found
    exact ⟨heard, path, session, result, live, answered⟩

end ChannelRun

def home : SocketAddr := ⟨.V4 ⟨192, 168, 0, 2⟩, 5000⟩

/-- The backup's network swaps the two datagrams of the game, the primary's repeats the first
one and loses the second. Both relays get an answer, and the session ends at the backup. -/
def repeatedAndSwapped : ChannelRun 7 (fun addr => addr = home) where
  gameTarget := "10.0.0.1:27015"
  proxy := ((UdpProxy.initial 7 ⟨.V4 ⟨203, 0, 113, 1⟩, 443⟩ (some ⟨.V4 ⟨203, 0, 113, 2⟩, 443⟩)
    27015).sendControl "10.0.0.1:27015").1
  control := ((UdpProxy.initial 7 ⟨.V4 ⟨203, 0, 113, 1⟩, 443⟩ (some ⟨.V4 ⟨203, 0, 113, 2⟩, 443⟩)
    27015).sendControl "10.0.0.1:27015").2
  started := ⟨⟨.V4 ⟨203, 0, 113, 1⟩, 443⟩, some ⟨.V4 ⟨203, 0, 113, 2⟩, 443⟩, 27015, true,
    ⟨.ok 27015, .ok (), .ok (), .ok ()⟩, rfl⟩
  relays _ := registeredRelay
  reached _ := ⟨5, 300, [.register 7 ["10.0.0.1"] ["27015"] (.bound 40000) 0], by decide, rfl⟩
  apart _ := by
    intro u session live other
    rw [registeredRelay, get_registerSession_of_ne _ other] at live
    cases live
  events :=
    [.game ⟨.V4 ⟨127, 0, 0, 1⟩, 61000⟩ [1], .game ⟨.V4 ⟨127, 0, 0, 1⟩, 61000⟩ [2],
      .up .primary 1 home 1 (.sent 1), .up .primary 1 home 2 (.sent 1),
      .up .backup 2 home 3 (.sent 1), .up .backup 1 home 4 (.sent 1),
      .relay .primary (.gameDatagram 40000 [8] (.sent 11)),
      .relay .backup (.gameDatagram 40000 [9] (.sent 11)),
      .down .backup 0 5, .down .primary 0 6, .relay .backup (.unregister 7),
      .up .backup 1 home 7 (.sent 1)]
  isPrivate := by decide

example : repeatedAndSwapped.result.2 =
    [.toServer .primary 40000 [1] ⟨.V4 ⟨10, 0, 0, 1⟩, 27015⟩ (.sent 1),
      .toServer .primary 40000 [1] ⟨.V4 ⟨10, 0, 0, 1⟩, 27015⟩ (.sent 1),
      .toServer .backup 40000 [2] ⟨.V4 ⟨10, 0, 0, 1⟩, 27015⟩ (.sent 1),
      .toServer .backup 40000 [1] ⟨.V4 ⟨10, 0, 0, 1⟩, 27015⟩ (.sent 1),
      .toGame [9] ⟨.V4 ⟨127, 0, 0, 1⟩, 61000⟩] := by decide

end PlgBooster.System
