import PlgBooster.Client.WinDivert
import PlgBooster.System.Profile

/-!
# Captured packets on their way out

The WinDivert proxy names one destination to the relay: that of the first packet it
captures. A session of the relay has one forward target, so every later payload goes there
too. The game is served transparently exactly while it talks to one server, in packets that
leave room for the header.
-/

namespace PlgBooster.System

open Rust Relay Client

/-- Where the game sent a packet. -/
def destination (packet : UdpPacket) : SocketAddr := ⟨.V4 packet.dstIp, packet.dstPort⟩

/-- The packets captured in a run. -/
def capturedData (inputs : List WinDivertProxy.Input) : List (List UInt8) :=
  inputs.filterMap fun i => match i with
    | .captured data _ _ => some data
    | .received _ _ _ _ _ => none
    | .keepaliveTick _ _ => none

/-- The datagrams of a session's client that reach the relay. -/
def clientDatagrams (token : UInt32) (events : List Relay.Event) : List (List UInt8) :=
  events.filterMap fun e => match e with
    | .clientDatagram datagram _ _ _ =>
        if sessionIdOf datagram = some token then some datagram else none
    | _ => none

/-- The payloads sent to game servers, with where they are sent. -/
def forwarded (outputs : List Outgoing) : List (List UInt8 × SocketAddr) :=
  outputs.filterMap fun o => match o with
    | .toGame _ payload target _ => some (payload, target)
    | .toClient _ _ _ => none

/-- A run of the proxy in one session and a run of one of its relays, joined by a network
that keeps the order and loses nothing that can be sent. The session stays registered at the
relay, with the plain address of every destination in its whitelist. -/
structure Interception where
  token : UInt32
  proxy : WinDivertProxy
  path : RelaySocket
  started : ∃ relayAddr backupRelayAddr multipathEnabled,
    proxy = .initial token relayAddr backupRelayAddr multipathEnabled
  connected : proxy.Connected path
  inputs : List WinDivertProxy.Input
  packets : List UdpPacket
  carried : List.Forall₂ Carries (capturedData inputs) packets
  port : UInt16
  gameServerIps : List String
  gamePorts : List String
  registeredAt : Instant
  run : SessionRun token port gameServerIps gamePorts registeredAt
  listed : ∀ packet ∈ packets, packet.dstIp.display ∈ gameServerIps
  delivered : clientDatagrams token run.after =
    (WinDivertProxy.sentVia path (Machine.run WinDivertProxy.step proxy inputs).2).filter sendable

/-- What the relay sends to game servers for the session. -/
def Interception.sent (i : Interception) : List (List UInt8 × SocketAddr) :=
  forwarded i.run.emitted

/-! ## A session and the datagrams of its client -/

variable {token : UInt32} {gameServerIps : List String}

/-- The datagrams of a client, with the forward target before them, and what a session with
the whitelist forwards. -/
inductive Stream (token : UInt32) (gameServerIps : List String) :
    Option SocketAddr → List (List UInt8) → List (List UInt8 × SocketAddr) → Prop
  | nil (target : Option SocketAddr) : Stream token gameServerIps target [] []
  | keepalive {target : Option SocketAddr} (seq : UInt32) {rest : List (List UInt8)}
      {sent : List (List UInt8 × SocketAddr)}
      (later : Stream token gameServerIps target rest sent) :
      Stream token gameServerIps target ((PlgPacket.keepalive token seq).encode :: rest) sent
  | control {target : Option SocketAddr} (seq : UInt32) (packet : UdpPacket)
      (listed : packet.dstIp.display ∈ gameServerIps) {rest : List (List UInt8)}
      {sent : List (List UInt8 × SocketAddr)}
      (later : Stream token gameServerIps (some (destination packet)) rest sent) :
      Stream token gameServerIps target
        ((PlgPacket.control token seq (WinDivertProxy.target packet)).encode :: rest) sent
  | data {target : SocketAddr} {payload : List UInt8} {pkt : PlgPacket}
      (isData : WinDivertProxy.IsData token payload pkt) {rest : List (List UInt8)}
      {sent : List (List UInt8 × SocketAddr)}
      (later : Stream token gameServerIps (some target) rest sent) :
      Stream token gameServerIps (some target) (pkt.encode :: rest) ((payload, target) :: sent)

theorem clientDatagrams_cons (event : Relay.Event) (events : List Relay.Event) :
    clientDatagrams token (event :: events) =
      clientDatagrams token [event] ++ clientDatagrams token events := by
  rw [clientDatagrams, clientDatagrams, clientDatagrams, ← List.filterMap_append]
  rfl

/-- What is not the session's own is no datagram of its client. -/
theorem clientDatagrams_filter (port : UInt16) (events : List Relay.Event) :
    clientDatagrams token (events.filter (concerns token port)) = clientDatagrams token events := by
  rw [clientDatagrams, clientDatagrams, List.filterMap_filter]
  refine List.filterMap_congr fun event _ => ?_
  cases event with
  | clientDatagram datagram source now sendTo =>
      by_cases mine : sessionIdOf datagram = some token <;> simp [concerns, mine]
  | gameDatagram localPort datagram sendTo => simp
  | register u ips ports bind now => simp
  | unregister u => simp
  | cleanup now => simp

theorem forwarded_append (first second : List Outgoing) :
    forwarded (first ++ second) = forwarded first ++ forwarded second := List.filterMap_append

/-- A control packet that names a listed address sets the forward target. -/
theorem onPacket_control {session : SessionInfo} {text : String} {target : SocketAddr}
    (read : parseControlPayload (asBytes text) = some target)
    (listed : target.ip.display ∈ session.gameServerIps) (sessionId seq : UInt32) (len : Nat)
    (source : SocketAddr) (now : Instant) (sendTo : SendResult) :
    session.onPacket (.control sessionId seq text) len source now sendTo =
      ({ session.touch source now len with forwardTarget := some target }, []) := by
  have payload : (PlgPacket.control sessionId seq text).payload = asBytes text := rfl
  simp [SessionInfo.onPacket, payload, read, listed]

/-- A data packet goes to the forward target. -/
theorem onPacket_data {session : SessionInfo} {payload : List UInt8} {pkt : PlgPacket}
    (isData : WinDivertProxy.IsData token payload pkt) {target : SocketAddr}
    (current : session.forwardTarget = some target) (len : Nat) (source : SocketAddr)
    (now : Instant) (sendTo : SendResult) :
    session.onPacket pkt len source now sendTo =
      (session.touch source now len,
        [.toGame session.forwardSocket payload target sendTo]) := by
  obtain ⟨_, rfl, notKeepalive, notControl⟩ := isData
  simp [SessionInfo.onPacket, notKeepalive, notControl, current]

/-- The session forwards what the stream says, whatever the game servers send meanwhile. -/
theorem forwarded_alone {port : UInt16} {events : List Relay.Event}
    (own : ∀ event ∈ events, concerns token port event = true) {session : SessionInfo}
    (whitelist : session.gameServerIps = gameServerIps) {target : Option SocketAddr}
    (current : session.forwardTarget = target) {sent : List (List UInt8 × SocketAddr)}
    (stream : Stream token gameServerIps target (clientDatagrams token events) sent) :
    forwarded (Machine.run (alone token) (some session) events).2 = sent := by
  induction events generalizing session target sent with
  | nil =>
      cases stream
      rfl
  | cons event events ih =>
      obtain ⟨mine, rest⟩ := List.forall_mem_cons.mp own
      rw [clientDatagrams_cons] at stream
      rw [Machine.run_cons, forwarded_append]
      cases event with
      | clientDatagram datagram source now sendTo =>
          have named : sessionIdOf datagram = some token := by simpa [concerns] using mine
          simp only [clientDatagrams, named, if_true, List.filterMap_cons, List.filterMap_nil,
            List.cons_append, List.nil_append] at stream
          change Stream token gameServerIps target (datagram :: clientDatagrams token events) _
            at stream
          cases stream with
          | keepalive seq later =>
              simp only [alone, PlgPacket.parse_encode, SessionInfo.onPacket,
                PlgPacket.isKeepalive_keepalive, if_true]
              exact ih rest (by simp [whitelist]) (by simp [current]) later
          | control seq packet listed later =>
              have read : parseControlPayload (asBytes (WinDivertProxy.target packet)) =
                  some (destination packet) :=
                parseControlPayload_controlTarget packet.dstIp packet.dstPort
              simp only [alone, PlgPacket.parse_encode,
                onPacket_control read (whitelist ▸ listed)]
              exact ih rest (by simp [whitelist]) rfl later
          | data isData later =>
              simp only [alone, PlgPacket.parse_encode, onPacket_data isData current]
              exact congrArg (List.cons _) (ih rest (by simp [whitelist]) (by simp [current]) later)
      | gameDatagram localPort datagram sendTo =>
          have quiet : forwarded (session.onResponse token datagram sendTo).2 = [] := by
            refine List.filterMap_eq_nil_iff.mpr fun o member => ?_
            obtain ⟨data, _, rfl⟩ := onResponse_outputs token datagram sendTo o member
            rfl
          simp only [alone, quiet, List.nil_append]
          exact ih rest (by simp [whitelist]) (by simp [current]) stream
      | register u ips ports bind now => simp [concerns] at mine
      | unregister u => simp [concerns] at mine
      | cleanup now => simp [concerns] at mine

/-! ## What the proxy sends -/

/-- The proxy sends a stream in which all payloads are for the destination of the first
packet. -/
theorem stream_run {proxy : WinDivertProxy} {path : RelaySocket}
    (connected : proxy.Connected path) {inputs : List WinDivertProxy.Input}
    {packets : List UdpPacket} (carried : List.Forall₂ Carries (capturedData inputs) packets)
    (listed : ∀ packet ∈ packets, packet.dstIp.display ∈ gameServerIps)
    {target : Option SocketAddr} {first : SocketAddr}
    (named : proxy.controlSent = true → target = some first)
    (unnamed : proxy.controlSent = false → ∀ packet ∈ packets.head?, destination packet = first) :
    Stream proxy.sessionToken gameServerIps target
      (WinDivertProxy.sentVia path (Machine.run WinDivertProxy.step proxy inputs).2)
      (packets.map fun packet => (packet.payload, first)) := by
  induction inputs generalizing proxy packets target with
  | nil =>
      cases carried
      exact .nil target
  | cons input inputs ih =>
      rw [Machine.run_cons, WinDivertProxy.sentVia, List.filterMap_append]
      change Stream _ _ _ (WinDivertProxy.sentVia path (proxy.step input).2 ++
        WinDivertProxy.sentVia path (Machine.run _ (proxy.step input).1 inputs).2) _
      have connected' (same : (proxy.step input).1.identity = proxy.identity) :
          (proxy.step input).1.Connected path := by
        intro backup
        rw [show (proxy.step input).1.backupRelayAddr = _ from congrArg (·.2.2) same]
        exact connected backup
      have token (same : (proxy.step input).1.identity = proxy.identity) :
          (proxy.step input).1.sessionToken = proxy.sessionToken := congrArg (·.1) same
      cases input with
      | captured data now unlocked =>
          cases carried with
          | @cons _ packet _ packets carries carried =>
              obtain ⟨listedHere, listedLater⟩ := List.forall_mem_cons.mp listed
              obtain ⟨same, sent, control, pkt, encoded, isData, controls⟩ :=
                proxy.capture_udp connected (readPacket_of_carries carries) now unlocked
              have later := ih (connected' same) carried listedLater
                (fun _ => (rfl : some first = some first))
                (fun notSent => absurd (sent.symm.trans notSent) (by decide))
              rw [token same] at later
              change Stream _ _ _
                (WinDivertProxy.sentVia path (proxy.capture data now unlocked).2 ++ _) _
              rw [encoded]
              rcases controls with ⟨rfl, before⟩ | ⟨seq, rfl, notSent⟩
              · obtain rfl := named before
                exact .data isData later
              · obtain rfl := unnamed notSent packet rfl
                exact .control seq packet listedHere (.data isData later)
      | received path' datagram now order unlocked =>
          obtain ⟨same, sent, silent⟩ := proxy.receive_frame path' datagram now order unlocked
          change Stream _ _ _ (WinDivertProxy.sentVia path
            (proxy.receive path' datagram now order unlocked).2 ++ _) _
          rw [silent path, List.nil_append, ← token same]
          exact ih (connected' same) carried listed (fun here => named (sent.symm.trans here))
            (fun here => unnamed (sent.symm.trans here))
      | keepaliveTick now later =>
          obtain ⟨same, sent⟩ := proxy.sendKeepalive_frame now later
          obtain ⟨seq, encoded⟩ := proxy.sentVia_sendKeepalive connected now later
          change Stream _ _ _ (WinDivertProxy.sentVia path (proxy.sendKeepalive now later).2 ++ _) _
          rw [encoded]
          refine .keepalive seq ?_
          rw [← token same]
          exact ih (connected' same) carried listed (fun here => named (sent.symm.trans here))
            (fun here => unnamed (sent.symm.trans here))

/-- What can be sent of a stream forwards the payloads that leave room for the header. -/
theorem Stream.sendable {target : Option SocketAddr} {datagrams : List (List UInt8)}
    {sent : List (List UInt8 × SocketAddr)}
    (stream : Stream token gameServerIps target datagrams sent) :
    Stream token gameServerIps target (datagrams.filter sendable)
      (sent.filter fun out => wrappable out.1) := by
  induction stream with
  | nil target => exact .nil target
  | keepalive seq later ih =>
      rw [List.filter_cons_of_pos (by rw [PlgPacket.sendable_encode]; rfl)]
      exact .keepalive seq ih
  | control seq packet listed later ih =>
      rw [List.filter_cons_of_pos
        (by rw [PlgPacket.sendable_encode]; exact WinDivertProxy.wrappable_target packet)]
      exact .control seq packet listed ih
  | @data target payload pkt isData rest sent later ih =>
      have same : PlgBooster.sendable pkt.encode = wrappable payload := by
        rw [PlgPacket.sendable_encode, isData.2.1]
      rw [List.filter_cons, List.filter_cons, same]
      split
      · exact .data isData ih
      · exact ih

/-- All payloads that can be sent go where the first packet was sent. -/
theorem Interception.sent_eq (i : Interception) {first : SocketAddr}
    (named : ∀ packet ∈ i.packets.head?, destination packet = first) :
    i.sent = (i.packets.filter fun packet => wrappable packet.payload).map fun packet =>
      (packet.payload, first) := by
  obtain ⟨relayAddr, backupRelayAddr, multipathEnabled, started⟩ := i.started
  have token : i.proxy.sessionToken = i.token := by rw [started]; rfl
  have notSent : i.proxy.controlSent = false := by rw [started]; rfl
  let registered := SessionCache.newSession i.token placeholderAddr i.gameServerIps
    (registeredPorts i.gamePorts) ⟨i.port⟩ i.registeredAt
  have stream : Stream i.proxy.sessionToken i.gameServerIps registered.forwardTarget _ _ :=
    stream_run i.connected i.carried i.listed
      (fun sent => absurd (sent.symm.trans notSent) (by decide)) fun _ => named
  have stream := stream.sendable
  rw [List.filter_map] at stream
  rw [token, ← i.delivered, ← clientDatagrams_filter i.port] at stream
  rw [Interception.sent, i.run.emitted_eq.2]
  exact forwarded_alone (fun event member => (List.mem_filter.mp member).2) rfl rfl stream

/-- A packet without options, as the game sends it. -/
def gamePacket (packet : UdpPacket) : List UInt8 :=
  let fields : HeaderFields := ⟨0, 0, 0, 0, 64, 0, [], 0, 0⟩
  ipv4Header 5 fields packet ++ udpHeader fields packet ++ packet.payload

theorem carries_gamePacket (packet : UdpPacket) : Carries (gamePacket packet) packet :=
  ⟨5, ⟨0, 0, 0, 0, 64, 0, [], 0, 0⟩, by decide, by decide, rfl, rfl⟩

/-- The game talks to two servers. -/
def toTwoServers : List UdpPacket :=
  [⟨⟨192, 168, 0, 2⟩, ⟨10, 0, 0, 1⟩, 5000, 27015, [1]⟩,
    ⟨⟨192, 168, 0, 2⟩, ⟨10, 0, 0, 2⟩, 5000, 27015, [2]⟩]

/-- The proxy of session 7 and what it captures from the game. -/
def twoServersProxy : WinDivertProxy := .initial 7 ⟨.V4 ⟨10, 1, 0, 1⟩, 443⟩ none false

def twoServersInputs : List WinDivertProxy.Input :=
  toTwoServers.map fun packet => .captured (gamePacket packet) 0 true

def twoServers : Interception where
  token := 7
  proxy := twoServersProxy
  path := .primary
  started := ⟨_, _, _, rfl⟩
  connected := fun backup => by cases backup
  inputs := twoServersInputs
  packets := toTwoServers
  carried := .cons (carries_gamePacket _) (.cons (carries_gamePacket _) .nil)
  port := 40000
  gameServerIps := ["10.0.0.1", "10.0.0.2"]
  gamePorts := ["27015"]
  registeredAt := 0
  run :=
    { maxSessions := 2
      sessionTimeout := 300
      before := []
      after := (WinDivertProxy.sentVia .primary
        (Machine.run WinDivertProxy.step twoServersProxy twoServersInputs).2).map fun datagram =>
          .clientDatagram datagram ⟨.V4 ⟨192, 168, 0, 2⟩, 6000⟩ 1 (.sent 1)
      undisturbedBefore := by decide
      fresh := by decide
      accepted := by decide
      undisturbedAfter := by decide }
  listed := by decide
  delivered := by decide

end PlgBooster.System
