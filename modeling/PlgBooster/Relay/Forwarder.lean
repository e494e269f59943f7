import PlgBooster.Protocol
import PlgBooster.Relay.Session

/-!
# The relay's packet loops

One iteration of `client_listener` and one iteration of a response listener, as
functions from the cache to the cache and the datagrams handed to the sockets.
The result of the iteration's single `send_to` is an argument.

A session sees only the iterations for its own token or its own port. What these
do to it is stated separately as `SessionInfo.onPacket` and `SessionInfo.onResponse`,
which mention neither the maps nor the counters; the spec lemmas at the end connect
the loops to them, and later files reason about sessions through these lemmas.
-/

namespace PlgBooster.Relay

open Rust

/-- The outcome of one `send_to`. -/
inductive SendResult where
  | sent (bytes : Nat)
  | failed
  deriving DecidableEq, Repr

/-- The outcome where only the number of bytes can fail it. -/
def SendResult.ofSize (bytes : Nat) : SendResult :=
  if bytes ≤ MAX_DATAGRAM then .sent bytes else .failed

/-- A datagram the relay hands to one of its sockets, with the outcome. -/
inductive Outgoing where
  /-- Client to game server, through a session's forward socket. -/
  | toGame (socket : UdpSocket) (payload : List UInt8) (target : SocketAddr)
      (result : SendResult)
  /-- Game server to client, through the main socket. -/
  | toClient (data : List UInt8) (addr : SocketAddr) (result : SendResult)
  deriving DecidableEq, Repr

/-- Parse control packet payload: `{dest_ip}:{dest_port}` as UTF-8 string. -/
def parseControlPayload (payload : List UInt8) : Option SocketAddr :=
  match fromUtf8 payload with
  | none => none
  | some s =>
      match splitn2 ':' s.toList with
      | [front, back] =>
          match parseIpAddr front, parseU16 back with
          | some ip, .ok port => some ⟨ip, port⟩
          | _, _ => none
      | _ => none

namespace Metrics

def received (m : Metrics) : Metrics := { m with packetsReceived := m.packetsReceived + 1 }
def dropped (m : Metrics) : Metrics := { m with packetsDropped := m.packetsDropped + 1 }
def invalid (m : Metrics) : Metrics := { m with invalidSessions := m.invalidSessions + 1 }
def keepalive (m : Metrics) : Metrics := { m with keepalives := m.keepalives + 1 }

def forwarded (bytes : Nat) (m : Metrics) : Metrics :=
  { m with
    packetsForwarded := m.packetsForwarded + 1
    bytesForwarded := m.bytesForwarded + bytes }

end Metrics

def SessionCache.count (cache : SessionCache) (update : Metrics → Metrics) : SessionCache :=
  { cache with metrics := update cache.metrics }

/-- Update client address (handles NAT rebinding), last-seen time and counters. -/
def SessionInfo.touch (session : SessionInfo) (clientAddr : SocketAddr) (now : Instant)
    (len : Nat) : SessionInfo :=
  let session :=
    if session.clientAddr ≠ clientAddr then { session with clientAddr := clientAddr } else session
  { session with
    lastSeen := now
    packetsIn := session.packetsIn + 1
    bytesIn := session.bytesIn + len }

/-- One iteration of `client_listener` on a datagram from `clientAddr`. -/
def clientListener (cache : SessionCache) (datagram : List UInt8) (clientAddr : SocketAddr)
    (now : Instant) (sendTo : SendResult) : SessionCache × List Outgoing :=
  let cache := cache.count .received
  match PlgPacket.parse datagram with
  | none => (cache.count .dropped, [])
  | some packet =>
      let token := packet.sessionId
      match cache.get token with
      | none => (cache.count .invalid, [])
      | some session =>
          let session := session.touch clientAddr now datagram.length
          -- Handle keepalive: no forwarding needed.
          if packet.flags &&& FLAG_KEEPALIVE ≠ 0 then
            ((cache.put token session).count .keepalive, [])
          -- Handle control packet: set forward target, if it is an allowed game server.
          else if packet.flags &&& FLAG_CONTROL ≠ 0 then
            match parseControlPayload packet.payload with
            | some target =>
                if target.ip.display ∈ session.gameServerIps then
                  (cache.put token { session with forwardTarget := some target }, [])
                else ((cache.put token session).count .dropped, [])
            | none => ((cache.put token session).count .dropped, [])
          -- Data packet: forward payload to game server.
          else
            let cache := cache.put token session
            match session.forwardTarget with
            | none => (cache.count .dropped, [])
            | some target =>
                let output := .toGame session.forwardSocket packet.payload target sendTo
                match sendTo with
                | .sent bytes => (cache.count (.forwarded bytes), [output])
                | .failed => (cache.count .dropped, [output])

/-- What an iteration of a response listener ends with. -/
inductive Continue where
  | next
  | exit
  deriving DecidableEq, Repr

/-- One iteration of the response listener of the forward socket bound to
`localPort`, on a datagram from a game server. -/
def responseListener (cache : SessionCache) (localPort : UInt16) (datagram : List UInt8)
    (sendTo : SendResult) : SessionCache × List Outgoing × Continue :=
  match cache.tokenByPort localPort with
  | none => (cache, [], .exit)
  | some token =>
      match cache.get token with
      | none => (cache, [], .exit)
      | some session =>
          let session :=
            { session with
              packetsOut := session.packetsOut + 1
              bytesOut := session.bytesOut + (HEADER_SIZE + datagram.length) }
          let cache := cache.put token session
          -- Don't send to placeholder address.
          if session.clientAddr.port = 0 then (cache, [], .next)
          else
            let response : PlgPacket :=
              { sessionId := token, seqNumber := 0, flags := 0, pathId := 0, payload := datagram }
            let data := response.serialize
            (cache.count (.forwarded data.length), [.toClient data session.clientAddr sendTo],
              .next)

/-! ## The loops from the point of view of one session -/

namespace SessionInfo

/-- A packet of this session arrives at the main socket. -/
def onPacket (session : SessionInfo) (packet : PlgPacket) (len : Nat) (clientAddr : SocketAddr)
    (now : Instant) (sendTo : SendResult) : SessionInfo × List Outgoing :=
  let session := session.touch clientAddr now len
  if packet.isKeepalive then (session, [])
  else if packet.isControl then
    match parseControlPayload packet.payload with
    | some target =>
        if target.ip.display ∈ session.gameServerIps then
          ({ session with forwardTarget := some target }, [])
        else (session, [])
    | none => (session, [])
  else
    match session.forwardTarget with
    | none => (session, [])
    | some target => (session, [.toGame session.forwardSocket packet.payload target sendTo])

/-- A datagram arrives at the forward socket of this session. -/
def onResponse (session : SessionInfo) (token : UInt32) (datagram : List UInt8)
    (sendTo : SendResult) : SessionInfo × List Outgoing :=
  let session :=
    { session with
      packetsOut := session.packetsOut + 1
      bytesOut := session.bytesOut + (HEADER_SIZE + datagram.length) }
  let response : PlgPacket :=
    { sessionId := token, seqNumber := 0, flags := 0, pathId := 0, payload := datagram }
  if session.clientAddr.port = 0 then (session, [])
  else (session, [.toClient response.serialize session.clientAddr sendTo])

@[simp] theorem touch_clientAddr (session : SessionInfo) (clientAddr : SocketAddr)
    (now : Instant) (len : Nat) : (session.touch clientAddr now len).clientAddr = clientAddr := by
  by_cases same : session.clientAddr = clientAddr <;> simp [touch, same]

@[simp] theorem touch_forwardTarget (session : SessionInfo) (clientAddr : SocketAddr)
    (now : Instant) (len : Nat) :
    (session.touch clientAddr now len).forwardTarget = session.forwardTarget := by
  by_cases same : session.clientAddr = clientAddr <;> simp [touch, same]

@[simp] theorem touch_gameServerIps (session : SessionInfo) (clientAddr : SocketAddr)
    (now : Instant) (len : Nat) :
    (session.touch clientAddr now len).gameServerIps = session.gameServerIps := by
  by_cases same : session.clientAddr = clientAddr <;> simp [touch, same]

@[simp] theorem touch_sessionToken (session : SessionInfo) (clientAddr : SocketAddr)
    (now : Instant) (len : Nat) :
    (session.touch clientAddr now len).sessionToken = session.sessionToken := by
  by_cases same : session.clientAddr = clientAddr <;> simp [touch, same]

@[simp] theorem touch_forwardSocket (session : SessionInfo) (clientAddr : SocketAddr)
    (now : Instant) (len : Nat) :
    (session.touch clientAddr now len).forwardSocket = session.forwardSocket := by
  by_cases same : session.clientAddr = clientAddr <;> simp [touch, same]

@[simp] theorem touch_lastSeen (session : SessionInfo) (clientAddr : SocketAddr)
    (now : Instant) (len : Nat) : (session.touch clientAddr now len).lastSeen = now := rfl

section Fields

variable (session : SessionInfo) (packet : PlgPacket) (len : Nat) (clientAddr : SocketAddr)
variable (now : Instant) (sendTo : SendResult) (token : UInt32) (datagram : List UInt8)

/-- A packet changes a touched session at most by a new, whitelisted forward target,
and is sent on only to the current one. -/
inductive HandlesPacket : Prop
  | touched
      (result : session.onPacket packet len clientAddr now sendTo =
        (session.touch clientAddr now len, []))
  | retargeted (target : SocketAddr)
      (requested : parseControlPayload packet.payload = some target)
      (allowed : target.ip.display ∈ session.gameServerIps)
      (result : session.onPacket packet len clientAddr now sendTo =
        ({ session.touch clientAddr now len with forwardTarget := some target }, []))
  | forwarded (target : SocketAddr) (current : session.forwardTarget = some target)
      (result : session.onPacket packet len clientAddr now sendTo =
        (session.touch clientAddr now len,
          [.toGame session.forwardSocket packet.payload target sendTo]))

theorem handlesPacket : session.HandlesPacket packet len clientAddr now sendTo := by
  by_cases keepalive : packet.isKeepalive
  · exact .touched (by simp [onPacket, keepalive])
  · by_cases control : packet.isControl
    · cases requested : parseControlPayload packet.payload with
      | none => exact .touched (by simp [onPacket, keepalive, control, requested])
      | some target =>
          by_cases allowed : target.ip.display ∈ session.gameServerIps
          · exact .retargeted target requested allowed
              (by simp [onPacket, keepalive, control, requested, allowed])
          · exact .touched (by simp [onPacket, keepalive, control, requested, allowed])
    · cases current : session.forwardTarget with
      | none => exact .touched (by simp [onPacket, keepalive, control, current])
      | some target =>
          exact .forwarded target current (by simp [onPacket, keepalive, control, current])

/-- Only the forward target is not as after the touch. -/
theorem onPacket_frame :
    ∃ target, (session.onPacket packet len clientAddr now sendTo).1 =
      { session.touch clientAddr now len with forwardTarget := target } := by
  cases session.handlesPacket packet len clientAddr now sendTo with
  | touched result => exact ⟨(session.touch clientAddr now len).forwardTarget, by rw [result]⟩
  | retargeted target requested allowed result => exact ⟨some target, by rw [result]⟩
  | forwarded target current result =>
      exact ⟨(session.touch clientAddr now len).forwardTarget, by rw [result]⟩

@[simp] theorem onPacket_sessionToken :
    (session.onPacket packet len clientAddr now sendTo).1.sessionToken =
      session.sessionToken := by
  obtain ⟨target, same⟩ := session.onPacket_frame packet len clientAddr now sendTo
  simp [same]

@[simp] theorem onPacket_forwardSocket :
    (session.onPacket packet len clientAddr now sendTo).1.forwardSocket =
      session.forwardSocket := by
  obtain ⟨target, same⟩ := session.onPacket_frame packet len clientAddr now sendTo
  simp [same]

@[simp] theorem onPacket_gameServerIps :
    (session.onPacket packet len clientAddr now sendTo).1.gameServerIps =
      session.gameServerIps := by
  obtain ⟨target, same⟩ := session.onPacket_frame packet len clientAddr now sendTo
  simp [same]

@[simp] theorem onPacket_clientAddr :
    (session.onPacket packet len clientAddr now sendTo).1.clientAddr = clientAddr := by
  obtain ⟨target, same⟩ := session.onPacket_frame packet len clientAddr now sendTo
  simp [same]

@[simp] theorem onPacket_lastSeen :
    (session.onPacket packet len clientAddr now sendTo).1.lastSeen = now := by
  obtain ⟨target, same⟩ := session.onPacket_frame packet len clientAddr now sendTo
  simp [same]

@[simp] theorem onResponse_fst :
    (session.onResponse token datagram sendTo).1 =
      { session with
        packetsOut := session.packetsOut + 1
        bytesOut := session.bytesOut + (HEADER_SIZE + datagram.length) } := by
  by_cases placeholder : session.clientAddr.port = 0 <;> simp [onResponse, placeholder]

end Fields

end SessionInfo

namespace SessionCache

@[simp] theorem get_count (cache : SessionCache) (update : Metrics → Metrics) (token : UInt32) :
    (cache.count update).get token = cache.get token := rfl

@[simp] theorem tokenByPort_count (cache : SessionCache) (update : Metrics → Metrics)
    (port : UInt16) : (cache.count update).tokenByPort port = cache.tokenByPort port := rfl

end SessionCache

section ClientListener

variable (cache : SessionCache) (datagram : List UInt8) (clientAddr : SocketAddr)
variable (now : Instant) (sendTo : SendResult)

/-- The session a datagram is addressed to: the live session named in its header. -/
def addressee : Option (PlgPacket × SessionInfo) := do
  let packet ← PlgPacket.parse datagram
  let session ← cache.get packet.sessionId
  some (packet, session)

theorem addressee_eq_some_iff {packet : PlgPacket} {session : SessionInfo} :
    addressee cache datagram = some (packet, session) ↔
      PlgPacket.parse datagram = some packet ∧ cache.get packet.sessionId = some session := by
  cases parsed : PlgPacket.parse datagram with
  | none => simp [addressee, parsed]
  | some other =>
      cases live : cache.get other.sessionId with
      | none =>
          simp only [addressee, parsed, live, Option.bind_eq_bind, Option.bind_some,
            Option.bind_none, reduceCtorEq, Option.some.injEq, false_iff, not_and]
          rintro rfl
          simp [live]
      | some found =>
          simp only [addressee, parsed, live, Option.bind_eq_bind, Option.bind_some,
            Option.some.injEq, Prod.mk.injEq]
          constructor
          · rintro ⟨rfl, rfl⟩
            exact ⟨rfl, live⟩
          · rintro ⟨rfl, here⟩
            exact ⟨rfl, Option.some.inj (live.symm.trans here)⟩

/-- All that an iteration does to the sessions and the sockets: the addressed
session handles the packet. -/
theorem clientListener_spec :
    (∀ u, (clientListener cache datagram clientAddr now sendTo).1.get u =
      match addressee cache datagram with
      | none => cache.get u
      | some (packet, session) =>
          if u = packet.sessionId then
            some (session.onPacket packet datagram.length clientAddr now sendTo).1
          else cache.get u) ∧
    (clientListener cache datagram clientAddr now sendTo).2 =
      match addressee cache datagram with
      | none => []
      | some (packet, session) =>
          (session.onPacket packet datagram.length clientAddr now sendTo).2 := by
  cases parsed : PlgPacket.parse datagram with
  | none => simp [clientListener, addressee, parsed]
  | some packet =>
      cases live : cache.get packet.sessionId with
      | none => simp [clientListener, addressee, parsed, live]
      | some session =>
          simp only [clientListener, addressee, parsed, live, SessionCache.get_count,
            Option.bind_eq_bind, Option.bind_some, SessionInfo.onPacket, PlgPacket.isKeepalive,
            PlgPacket.isControl, bne_iff_ne]
          split_ifs
          · simp [SessionCache.get_put]
          · split
            · split_ifs <;> simp [SessionCache.get_put]
            · simp [SessionCache.get_put]
          · split
            · simp [SessionCache.get_put]
            · cases sendTo <;> simp [SessionCache.get_put]

/-- An iteration at most makes the addressed session handle the packet. -/
theorem get_clientListener (u : UInt32) :
    ((clientListener cache datagram clientAddr now sendTo).1.get u = cache.get u ∧
      (addressee cache datagram).map (·.1.sessionId) ≠ some u) ∨
    ∃ packet session, addressee cache datagram = some (packet, session) ∧
      packet.sessionId = u ∧ cache.get u = some session ∧
      (clientListener cache datagram clientAddr now sendTo).1.get u =
        some (session.onPacket packet datagram.length clientAddr now sendTo).1 := by
  rw [(clientListener_spec cache datagram clientAddr now sendTo).1 u]
  cases addressed : addressee cache datagram with
  | none => exact .inl ⟨rfl, by simp⟩
  | some found =>
      obtain ⟨packet, session⟩ := found
      have live := ((addressee_eq_some_iff cache datagram).mp addressed).2
      by_cases same : u = packet.sessionId
      · exact .inr ⟨packet, session, rfl, same.symm, same ▸ live, if_pos same⟩
      · exact .inl ⟨if_neg same, by simpa using Ne.symm same⟩

/-- An iteration stores a session and counts, and so it keeps what neither changes. -/
theorem view_clientListener {β : Type} (view : SessionCache → β)
    (put : ∀ cache token session, view (SessionCache.put cache token session) = view cache)
    (count : ∀ cache update, view (SessionCache.count cache update) = view cache) :
    view (clientListener cache datagram clientAddr now sendTo).1 = view cache := by
  cases parsed : PlgPacket.parse datagram with
  | none => simp [clientListener, parsed, count]
  | some packet =>
      cases live : cache.get packet.sessionId with
      | none => simp [clientListener, parsed, live, count]
      | some session =>
          simp only [clientListener, parsed, SessionCache.get_count, live]
          split_ifs
          · simp [put, count]
          · split
            · split_ifs <;> simp [put, count]
            · simp [put, count]
          · split
            · simp [put, count]
            · cases sendTo <;> simp [put, count]

@[simp] theorem tokenByPort_clientListener (port : UInt16) :
    (clientListener cache datagram clientAddr now sendTo).1.tokenByPort port =
      cache.tokenByPort port :=
  view_clientListener cache datagram clientAddr now sendTo (·.tokenByPort port)
    (fun _ _ _ => rfl) fun _ _ => rfl

end ClientListener

/-- All that an iteration of a response listener does to the sessions and the
sockets: the session that owns the port handles the datagram. -/
theorem responseListener_spec (cache : SessionCache) (localPort : UInt16)
    (datagram : List UInt8) (sendTo : SendResult) :
    match cache.tokenByPort localPort with
    | none => responseListener cache localPort datagram sendTo = (cache, [], .exit)
    | some token =>
        match cache.get token with
        | none => responseListener cache localPort datagram sendTo = (cache, [], .exit)
        | some session =>
            (∀ u, (responseListener cache localPort datagram sendTo).1.get u =
              if u = token then some (session.onResponse token datagram sendTo).1
              else cache.get u) ∧
            (∀ port, (responseListener cache localPort datagram sendTo).1.tokenByPort port =
              cache.tokenByPort port) ∧
            (responseListener cache localPort datagram sendTo).2 =
              ((session.onResponse token datagram sendTo).2, .next) := by
  cases owner : cache.tokenByPort localPort with
  | none => simp [responseListener, owner]
  | some token =>
      cases live : cache.get token with
      | none => simp [responseListener, owner, live]
      | some session =>
          by_cases placeholder : session.clientAddr.port = 0
          · simp [responseListener, owner, live, placeholder, SessionCache.get_put,
              SessionInfo.onResponse]
          · simp [responseListener, owner, live, placeholder, SessionCache.get_put,
              SessionInfo.onResponse]

end PlgBooster.Relay
