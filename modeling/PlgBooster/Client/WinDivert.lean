import PlgBooster.Client.PacketBuilder
import PlgBooster.Client.UdpProxy
import PlgBooster.Library.Machine

/-!
# The client's WinDivert proxy

`WinDivertProxy` captures the game's outgoing packets, wraps their payloads for the relay,
and injects what comes back as packets of the game server. The threads and the keepalive
task share their state under locks; one iteration of one of them is one function here.

The maps are association lists. The order in which a map is iterated is unspecified, so it
is an argument where the code iterates one.
-/

namespace PlgBooster.Client

open Rust

/-- Connection key for tracking outbound game connections. -/
structure ConnectionKey where
  localPort : UInt16
  remoteIp : Ipv4Addr
  remotePort : UInt16
  deriving DecidableEq, Repr

structure ConnectionInfo where
  localIp : Ipv4Addr
  lastSeen : Instant
  deriving DecidableEq, Repr

/-- Reverse lookup key: the remote end of a connection. -/
structure ReverseKey where
  remoteIp : Ipv4Addr
  remotePort : UInt16
  deriving DecidableEq, Repr

/-- The entries of the reverse map: the local end of a connection by its remote end. -/
abbrev ReverseEntry := Sigma fun _ : ReverseKey => Ipv4Addr × UInt16

structure WinDivertProxy where
  sessionToken : UInt32
  relayAddr : SocketAddr
  /-- The backup relay, where multipath is active. -/
  backupRelayAddr : Option SocketAddr
  seqCounter : UInt32
  /-- Connection tracking. -/
  connections : AList fun _ : ConnectionKey => ConnectionInfo
  /-- Reverse lookup. -/
  reverseMap : AList fun _ : ReverseKey => Ipv4Addr × UInt16
  /-- The first intercepted destination has been sent as control. -/
  controlSent : Bool
  /-- The sequence numbers each of the receive threads has seen. -/
  seenSeqs : RelaySocket → List UInt32
  /-- The receive thread's own table of sent keepalives. -/
  keepaliveSent : AList fun _ : UInt32 => Instant
  /-- The keepalive task's table. -/
  keepaliveTimes : AList fun _ : UInt32 => Instant
  duplicatesDropped : Nat
  stats : ProxyStats

/-- What the threads hand to the system: a datagram for a relay, or a packet. -/
inductive Emission where
  | send (datagram : ToRelay)
  /-- A captured packet that is put back. -/
  | reinject (data : List UInt8)
  /-- A packet that was built from a response. -/
  | inject (data : List UInt8)
  deriving DecidableEq, Repr

/-- What the capture thread reads from a packet. -/
inductive Captured where
  | tooShort
  | notUdp
  | udp (packet : UdpPacket)
  deriving DecidableEq, Repr

/-- Parse the headers of a captured packet. Every read is within bounds. -/
def readPacket (data : List UInt8) : Captured :=
  if tooShort : data.length < 28 then .tooShort
  else
    let ihl := (data[0] &&& 0x0F).toNat * 4
    if cut : data.length < ihl + 8 then .tooShort
    else if data[9] ≠ 17 then .notUdp
    else
      .udp
        { srcIp := ⟨data[12], data[13], data[14], data[15]⟩
          dstIp := ⟨data[16], data[17], data[18], data[19]⟩
          srcPort := u16FromBeBytes data[ihl] data[ihl + 1]
          dstPort := u16FromBeBytes data[ihl + 2] data[ihl + 3]
          payload := data.drop (ihl + 8) }

theorem ihl_of_first {ihl : Nat} (upper : ihl ≤ 15) :
    (UInt8.ofNat (64 + ihl) &&& 0x0F).toNat = ihl := by
  have all : ∀ n : Fin 16, (UInt8.ofNat (64 + n.val) &&& 0x0F).toNat = n.val := by decide
  exact all ⟨ihl, by omega⟩

/-- The headers of a packet are read where they stand. -/
theorem readPacket_of_carries {data : List UInt8} {packet : UdpPacket}
    (carries : Carries data packet) : readPacket data = .udp packet := by
  obtain ⟨ihl, fields, lower, upper, length, layout⟩ := carries
  have size : data.length = ihl * 4 + 8 + packet.payload.length := by
    rw [layout, List.length_append, List.length_append, length]
    rfl
  have front {i : Nat} {b : UInt8} (inside : i < 20)
      (here : (ipv4Header ihl fields packet)[i]? = some b) :
      ∃ bound : i < data.length, data[i] = b := by
    refine List.getElem?_eq_some_iff.mp ?_
    rw [layout, List.append_assoc, List.getElem?_append_left (by omega), here]
  have behind {i : Nat} {b : UInt8}
      (here : (udpHeader fields packet ++ packet.payload)[i]? = some b) :
      ∃ bound : ihl * 4 + i < data.length, data[ihl * 4 + i] = b := by
    refine List.getElem?_eq_some_iff.mp ?_
    rw [layout, List.append_assoc, ← length, List.getElem?_append_right (by omega),
      Nat.add_sub_cancel_left, here]
  have rest : data.drop (ihl * 4 + 8) = packet.payload := by
    rw [layout]
    exact List.drop_left' (by rw [List.length_append, length]; rfl)
  obtain ⟨_, first⟩ := front (i := 0) (by decide) rfl
  obtain ⟨_, protocol⟩ := front (i := 9) (by decide) rfl
  have long : ¬ data.length < 28 := by omega
  have complete : ¬ data.length < ihl * 4 + 8 := by omega
  -- The addresses stand in the fixed part of the IPv4 header, the ports behind its options.
  obtain ⟨_, s₀⟩ := front (i := 12) (by decide) rfl
  obtain ⟨_, s₁⟩ := front (i := 13) (by decide) rfl
  obtain ⟨_, s₂⟩ := front (i := 14) (by decide) rfl
  obtain ⟨_, s₃⟩ := front (i := 15) (by decide) rfl
  obtain ⟨_, d₀⟩ := front (i := 16) (by decide) rfl
  obtain ⟨_, d₁⟩ := front (i := 17) (by decide) rfl
  obtain ⟨_, d₂⟩ := front (i := 18) (by decide) rfl
  obtain ⟨_, d₃⟩ := front (i := 19) (by decide) rfl
  obtain ⟨_, p₀⟩ := behind (i := 0) rfl
  obtain ⟨_, p₁⟩ := behind (i := 1) rfl
  obtain ⟨_, p₂⟩ := behind (i := 2) rfl
  obtain ⟨_, p₃⟩ := behind (i := 3) rfl
  simp only [Nat.add_zero] at p₀
  simp only [readPacket, dif_neg long, first, ihl_of_first upper, dif_neg complete, protocol,
    rest, s₀, s₁, s₂, s₃, d₀, d₁, d₂, d₃, p₀, p₁, p₂, p₃, u16FromBeBytes_toBeBytes]
  simp

/-- A packet has one reading. -/
theorem Carries.unique {data : List UInt8} {packet packet' : UdpPacket}
    (carries : Carries data packet) (carries' : Carries data packet') : packet = packet' :=
  Captured.udp.inj ((readPacket_of_carries carries).symm.trans (readPacket_of_carries carries'))

namespace WinDivertProxy

/-- The state the threads share at the start. Multipath is active only with a backup relay. -/
def initial (sessionToken : UInt32) (relayAddr : SocketAddr)
    (backupRelayAddr : Option SocketAddr) (multipathEnabled : Bool) : WinDivertProxy :=
  let backup := if multipathEnabled then backupRelayAddr else none
  { sessionToken := sessionToken
    relayAddr := relayAddr
    backupRelayAddr := backup
    seqCounter := 0
    connections := ∅
    reverseMap := ∅
    controlSent := false
    seenSeqs := fun _ => []
    keepaliveSent := ∅
    keepaliveTimes := ∅
    duplicatesDropped := 0
    stats :=
      { packetsSent := 0
        packetsReceived := 0
        bytesSent := 0
        bytesReceived := 0
        lastRtt := none
        multipathEnabled := backup.isSome
        multipathActive := backup.isSome
        duplicatesDropped := 0 } }

/-- `fetch_add(1)`, which wraps around. -/
def nextSeq (proxy : WinDivertProxy) : UInt32 × WinDivertProxy :=
  (proxy.seqCounter, { proxy with seqCounter := proxy.seqCounter + 1 })

/-- The statistics are updated only if nobody holds their lock. -/
def tryUpdate (proxy : WinDivertProxy) (unlocked : Bool) (update : ProxyStats → ProxyStats) :
    WinDivertProxy :=
  if unlocked then { proxy with stats := update proxy.stats } else proxy

/-- Track the connection of a captured packet. -/
def track (proxy : WinDivertProxy) (packet : UdpPacket) (now : Instant) : WinDivertProxy :=
  { proxy with
    connections := proxy.connections.insert ⟨packet.srcPort, packet.dstIp, packet.dstPort⟩
      ⟨packet.srcIp, now⟩
    reverseMap := proxy.reverseMap.insert ⟨packet.dstIp, packet.dstPort⟩
      (packet.srcIp, packet.srcPort) }

/-- `format!("{}:{}", dst_ip, dst_port)`. -/
def target (packet : UdpPacket) : String :=
  packet.dstIp.display ++ ":" ++ toString packet.dstPort.toNat

/-- The control packet leaves room for the header. -/
theorem wrappable_target (packet : UdpPacket) : wrappable (asBytes (target packet)) = true := by
  have ip := packet.dstIp.length_display_le
  have port : (Nat.toDigits 10 packet.dstPort.toNat).length ≤ 5 :=
    Nat.toDigits_length 10 packet.dstPort.toNat 5 (by decide)
      (by have := packet.dstPort.toNat_lt; omega)
  have size := length_asBytes_le (target packet)
  have letters : (target packet).toList =
      packet.dstIp.display.toList ++ ':' :: Nat.toDigits 10 packet.dstPort.toNat := by
    simp [target]
  rw [letters, List.length_append, List.length_cons] at size
  refine wrappable_iff.mpr ?_
  omega

/-- Send control packets on the first intercepted packet. -/
def sendControl (proxy : WinDivertProxy) (packet : UdpPacket) :
    WinDivertProxy × List Emission :=
  if proxy.controlSent then (proxy, [])
  else
    let (seq, proxy) := { proxy with controlSent := true }.nextSeq
    let ctrl := PlgPacket.control proxy.sessionToken seq (target packet)
    let primary : Emission := .send ⟨.primary, ctrl.encode, proxy.relayAddr⟩
    match proxy.backupRelayAddr with
    | none => (proxy, [primary])
    | some backup =>
        let (seq, proxy) := proxy.nextSeq
        let ctrl := PlgPacket.control proxy.sessionToken seq (target packet)
        (proxy, [primary, .send ⟨.backup, ctrl.encode, backup⟩])

/-- Wrap in PLG and send to the relays. -/
def sendData (proxy : WinDivertProxy) (packet : UdpPacket) : WinDivertProxy × List Emission :=
  let (seq, proxy) := proxy.nextSeq
  let pkt := PlgPacket.data proxy.sessionToken seq packet.payload
  let duplicate := match proxy.backupRelayAddr with
    | none => []
    | some backup => [.send ⟨.backup, (pkt.withMultipath 1).encode, backup⟩]
  (proxy, .send ⟨.primary, pkt.encode, proxy.relayAddr⟩ :: duplicate)

/-- The capture thread: a packet that matches the filter. -/
def capture (proxy : WinDivertProxy) (data : List UInt8) (now : Instant) (unlocked : Bool) :
    WinDivertProxy × List Emission :=
  match readPacket data with
  | .tooShort => (proxy, [])
  | .notUdp => (proxy, [.reinject data])
  | .udp packet =>
      let control := (proxy.track packet now).sendControl packet
      let sent := control.1.sendData packet
      -- The packet itself is not put back.
      (sent.1.tryUpdate unlocked fun stats =>
        { stats with
          packetsSent := stats.packetsSent + 1
          bytesSent := stats.bytesSent + packet.payload.length }, control.2 ++ sent.2)

/-- What both receive threads do with a packet that is no keepalive: dedup by sequence
number, and inject it as an answer of the first entry of the reverse map. -/
def deliver (proxy : WinDivertProxy) (path : RelaySocket) (pkt : PlgPacket)
    (order : List ReverseEntry) (unlocked : Bool) : WinDivertProxy × List Emission :=
  if pkt.seqNumber ∈ proxy.seenSeqs path then
    ({ proxy with duplicatesDropped := proxy.duplicatesDropped + 1 }, [])
  else
    let seen := pkt.seqNumber :: proxy.seenSeqs path
    let proxy := { proxy with
      seenSeqs := Function.update proxy.seenSeqs path (if seen.length > 10000 then [] else seen) }
    match order with
    | [] => (proxy, [])
    | ⟨key, localIp, localPort⟩ :: _ =>
        let rawPkt := buildUdpResponse key.remoteIp localIp key.remotePort localPort pkt.payload
        (proxy.tryUpdate unlocked fun stats =>
          { stats with
            packetsReceived := stats.packetsReceived + 1
            bytesReceived := stats.bytesReceived + pkt.payload.length
            duplicatesDropped := proxy.duplicatesDropped }, [.inject rawPkt])

/-- The receive threads: a datagram at the socket of one of the relays. `order` is the order
in which the reverse map is iterated. -/
def receive (proxy : WinDivertProxy) (path : RelaySocket) (datagram : List UInt8) (now : Instant)
    (order : List ReverseEntry) (unlocked : Bool) : WinDivertProxy × List Emission :=
  match PlgPacket.parse datagram with
  | none => (proxy, [])
  | some pkt =>
      if pkt.isKeepalive then
        match path, proxy.keepaliveSent.lookup pkt.seqNumber with
        | .primary, some sentTime =>
            ({ proxy with keepaliveSent := proxy.keepaliveSent.erase pkt.seqNumber }.tryUpdate
              unlocked fun stats => { stats with lastRtt := some (now.durationSince sentTime) }, [])
        | _, _ => (proxy, [])
      else proxy.deliver path pkt order unlocked

/-- The keepalive task, every 30 seconds. -/
def sendKeepalive (proxy : WinDivertProxy) (now later : Instant) :
    WinDivertProxy × List Emission :=
  let (seq, proxy) := proxy.nextSeq
  let pkt := PlgPacket.keepalive proxy.sessionToken seq
  let proxy := { proxy with keepaliveTimes := proxy.keepaliveTimes.insert seq now }
  let primary : Emission := .send ⟨.primary, pkt.encode, proxy.relayAddr⟩
  match proxy.backupRelayAddr with
  | none =>
      ({ proxy with
        keepaliveTimes := UdpProxy.retainRecent proxy.keepaliveTimes later }, [primary])
  | some backup =>
      let (seq, proxy) := proxy.nextSeq
      let pkt := PlgPacket.keepalive proxy.sessionToken seq
      ({ proxy with keepaliveTimes := UdpProxy.retainRecent proxy.keepaliveTimes later },
        [primary, .send ⟨.backup, pkt.encode, backup⟩])

/-- What the threads of a running proxy meet. -/
inductive Input where
  | captured (data : List UInt8) (now : Instant) (unlocked : Bool)
  | received (path : RelaySocket) (datagram : List UInt8) (now : Instant)
      (order : List ReverseEntry) (unlocked : Bool)
  | keepaliveTick (now later : Instant)

def step (proxy : WinDivertProxy) : Input → WinDivertProxy × List Emission
  | .captured data now unlocked => proxy.capture data now unlocked
  | .received path datagram now order unlocked =>
      proxy.receive path datagram now order unlocked
  | .keepaliveTick now later => proxy.sendKeepalive now later

/-! ## What is sent -/

/-- The datagrams for one of the relays, in order. -/
def sentVia (path : RelaySocket) (emissions : List Emission) : List (List UInt8) :=
  emissions.filterMap fun e => match e with
    | .send datagram => if datagram.via = path then some datagram.data else none
    | .reinject _ => none
    | .inject _ => none

/-- A packet that carries a payload of the game. -/
def IsData (sessionToken : UInt32) (payload : List UInt8) (pkt : PlgPacket) : Prop :=
  pkt.sessionId = sessionToken ∧ pkt.payload = payload ∧ pkt.isKeepalive = false ∧
    pkt.isControl = false

/-- The proxy has the relay of the path. -/
def Connected (proxy : WinDivertProxy) (path : RelaySocket) : Prop :=
  path = .backup → proxy.backupRelayAddr.isSome

section Sending

variable (proxy : WinDivertProxy) (packet : UdpPacket)

/-- What stays the same in every iteration. -/
def identity : UInt32 × SocketAddr × Option SocketAddr :=
  (proxy.sessionToken, proxy.relayAddr, proxy.backupRelayAddr)

@[simp] theorem identity_tryUpdate (unlocked : Bool) (update : ProxyStats → ProxyStats) :
    (proxy.tryUpdate unlocked update).identity = proxy.identity := by
  cases unlocked <;> rfl

@[simp] theorem controlSent_tryUpdate (unlocked : Bool) (update : ProxyStats → ProxyStats) :
    (proxy.tryUpdate unlocked update).controlSent = proxy.controlSent := by
  cases unlocked <;> rfl

theorem sendControl_frame :
    (proxy.sendControl packet).1.identity = proxy.identity ∧
      (proxy.sendControl packet).1.controlSent = true := by
  cases sent : proxy.controlSent with
  | true => simp [sendControl, sent]
  | false => cases backup : proxy.backupRelayAddr <;> simp [sendControl, nextSeq, identity, *]

variable {path : RelaySocket} (connected : proxy.Connected path)
include connected

theorem sentVia_sendControl :
    sentVia path (proxy.sendControl packet).2 = [] ∧ proxy.controlSent = true ∨
    ∃ seq, sentVia path (proxy.sendControl packet).2 =
      [(PlgPacket.control proxy.sessionToken seq (target packet)).encode] ∧
        proxy.controlSent = false := by
  cases sent : proxy.controlSent with
  | true => exact .inl ⟨by simp [sendControl, sent, sentVia], rfl⟩
  | false =>
      refine .inr ?_
      cases path with
      | primary =>
          refine ⟨proxy.seqCounter, ?_, rfl⟩
          cases backup : proxy.backupRelayAddr <;>
            simp [sendControl, sent, nextSeq, backup, sentVia]
      | backup =>
          obtain ⟨addr, backup⟩ := Option.isSome_iff_exists.mp (connected rfl)
          exact ⟨proxy.seqCounter + 1, by simp [sendControl, sent, nextSeq, backup, sentVia], rfl⟩

theorem sentVia_sendData :
    ∃ pkt, sentVia path (proxy.sendData packet).2 = [pkt.encode] ∧
      IsData proxy.sessionToken packet.payload pkt := by
  let pkt := PlgPacket.data proxy.sessionToken proxy.seqCounter packet.payload
  cases path with
  | primary =>
      refine ⟨pkt, ?_, rfl, rfl, PlgPacket.flags_data _ _ _⟩
      cases backup : proxy.backupRelayAddr <;> simp [sendData, nextSeq, backup, sentVia, pkt]
  | backup =>
      obtain ⟨addr, backup⟩ := Option.isSome_iff_exists.mp (connected rfl)
      exact ⟨pkt.withMultipath 1, by simp [sendData, nextSeq, backup, sentVia, pkt], rfl, rfl,
        PlgPacket.flags_withMultipath_data _ _ _ _⟩

theorem sentVia_sendKeepalive (now later : Instant) :
    ∃ seq, sentVia path (proxy.sendKeepalive now later).2 =
      [(PlgPacket.keepalive proxy.sessionToken seq).encode] := by
  cases path with
  | primary =>
      refine ⟨proxy.seqCounter, ?_⟩
      cases backup : proxy.backupRelayAddr <;> simp [sendKeepalive, nextSeq, backup, sentVia]
  | backup =>
      obtain ⟨addr, backup⟩ := Option.isSome_iff_exists.mp (connected rfl)
      exact ⟨proxy.seqCounter + 1, by simp [sendKeepalive, nextSeq, backup, sentVia]⟩

end Sending

/-- A captured packet of the game: the first one makes the proxy send control packets, and
each one's payload is sent on. -/
theorem capture_udp (proxy : WinDivertProxy) {path : RelaySocket}
    (connected : proxy.Connected path) {data : List UInt8} {packet : UdpPacket}
    (read : readPacket data = .udp packet) (now : Instant) (unlocked : Bool) :
    (proxy.capture data now unlocked).1.identity = proxy.identity ∧
      (proxy.capture data now unlocked).1.controlSent = true ∧
      ∃ control pkt, sentVia path (proxy.capture data now unlocked).2 = control ++ [pkt.encode] ∧
        IsData proxy.sessionToken packet.payload pkt ∧
        (control = [] ∧ proxy.controlSent = true ∨
          ∃ seq, control =
            [(PlgPacket.control proxy.sessionToken seq (target packet)).encode] ∧
              proxy.controlSent = false) := by
  let tracked := proxy.track packet now
  let control := tracked.sendControl packet
  obtain ⟨same, sent⟩ := tracked.sendControl_frame packet
  have connected' : control.1.Connected path := by
    intro backup
    rw [show control.1.backupRelayAddr = proxy.backupRelayAddr from congrArg (·.2.2) same]
    exact connected backup
  have result : proxy.capture data now unlocked =
      ((control.1.sendData packet).1.tryUpdate unlocked fun stats =>
        { stats with
          packetsSent := stats.packetsSent + 1
          bytesSent := stats.bytesSent + packet.payload.length },
        control.2 ++ (control.1.sendData packet).2) := by
    simp only [capture, read]
    rfl
  obtain ⟨pkt, encoded, isData⟩ := control.1.sentVia_sendData packet connected'
  rw [show control.1.sessionToken = proxy.sessionToken from congrArg (·.1) same] at isData
  rw [result]
  refine ⟨?_, ?_, sentVia path control.2, pkt, ?_, isData, ?_⟩
  · rw [identity_tryUpdate]
    exact same
  · rw [controlSent_tryUpdate]
    exact sent
  · rw [← encoded]
    exact List.filterMap_append
  · exact tracked.sentVia_sendControl packet connected

theorem identity_capture (proxy : WinDivertProxy) (data : List UInt8) (now : Instant)
    (unlocked : Bool) : (proxy.capture data now unlocked).1.identity = proxy.identity := by
  cases read : readPacket data with
  | tooShort => simp only [capture, read]
  | notUdp => simp only [capture, read]
  | udp packet =>
      have primary : proxy.Connected .primary := fun other => nomatch other
      exact (proxy.capture_udp primary read now unlocked).1

theorem sendKeepalive_frame (proxy : WinDivertProxy) (now later : Instant) :
    (proxy.sendKeepalive now later).1.identity = proxy.identity ∧
      (proxy.sendKeepalive now later).1.controlSent = proxy.controlSent := by
  cases backup : proxy.backupRelayAddr <;> simp [sendKeepalive, nextSeq, identity, backup]

/-- What decides how a response is injected. -/
def routing (proxy : WinDivertProxy) :
    (AList fun _ : ReverseKey => Ipv4Addr × UInt16) × (RelaySocket → List UInt32) :=
  (proxy.reverseMap, proxy.seenSeqs)

@[simp] theorem routing_tryUpdate (proxy : WinDivertProxy) (unlocked : Bool)
    (update : ProxyStats → ProxyStats) :
    (proxy.tryUpdate unlocked update).routing = proxy.routing := by
  cases unlocked <;> rfl

theorem routing_sendControl (proxy : WinDivertProxy) (packet : UdpPacket) :
    (proxy.sendControl packet).1.routing = proxy.routing := by
  cases sent : proxy.controlSent with
  | true => simp [sendControl, sent]
  | false => cases backup : proxy.backupRelayAddr <;> simp [sendControl, nextSeq, routing, *]

/-- A captured packet only adds its connection. -/
theorem routing_capture (proxy : WinDivertProxy) {data : List UInt8} {packet : UdpPacket}
    (read : readPacket data = .udp packet) (now : Instant) (unlocked : Bool) :
    (proxy.capture data now unlocked).1.routing = (proxy.track packet now).routing := by
  simp only [capture, read, routing_tryUpdate]
  exact routing_sendControl _ packet

theorem routing_sendKeepalive (proxy : WinDivertProxy) (now later : Instant) :
    (proxy.sendKeepalive now later).1.routing = proxy.routing := by
  cases backup : proxy.backupRelayAddr <;> simp [sendKeepalive, nextSeq, routing, backup]

/-- What is delivered makes the proxy send nothing. -/
theorem deliver_frame (proxy : WinDivertProxy) (path : RelaySocket) (pkt : PlgPacket)
    (order : List ReverseEntry) (unlocked : Bool) :
    (proxy.deliver path pkt order unlocked).1.identity = proxy.identity ∧
      (proxy.deliver path pkt order unlocked).1.controlSent = proxy.controlSent ∧
      ∀ via, sentVia via (proxy.deliver path pkt order unlocked).2 = [] := by
  by_cases seen : pkt.seqNumber ∈ proxy.seenSeqs path
  · rw [deliver, if_pos seen]
    exact ⟨rfl, rfl, fun _ => rfl⟩
  · rw [deliver, if_neg seen]
    cases order with
    | nil => exact ⟨rfl, rfl, fun _ => rfl⟩
    | cons entry rest =>
        exact ⟨identity_tryUpdate _ _ _, controlSent_tryUpdate _ _ _, fun _ => rfl⟩

/-- What is received makes the proxy send nothing. -/
theorem receive_frame (proxy : WinDivertProxy) (path : RelaySocket) (datagram : List UInt8)
    (now : Instant) (order : List ReverseEntry) (unlocked : Bool) :
    (proxy.receive path datagram now order unlocked).1.identity = proxy.identity ∧
      (proxy.receive path datagram now order unlocked).1.controlSent = proxy.controlSent ∧
      ∀ via, sentVia via (proxy.receive path datagram now order unlocked).2 = [] := by
  cases parsed : PlgPacket.parse datagram with
  | none =>
      simp only [receive, parsed]
      exact ⟨trivial, trivial, fun _ => rfl⟩
  | some pkt =>
      simp only [receive, parsed]
      split_ifs with keepalive
      · split
        · exact ⟨identity_tryUpdate _ _ _, controlSent_tryUpdate _ _ _, fun _ => rfl⟩
        · exact ⟨rfl, rfl, fun _ => rfl⟩
      · exact proxy.deliver_frame path pkt order unlocked

end WinDivertProxy

end PlgBooster.Client
