import PlgBooster.Library.Result
import PlgBooster.Protocol
import PlgBooster.Rust.Net
import Mathlib.Data.List.AList

/-!
# The client's UDP proxy

`UdpProxy` listens on a local port for the game and talks to one relay, or to two
when multipath is on. Its tasks share their state under locks; one iteration of a
task is one function here, from the shared state to the shared state and the
datagrams the task sends. A task whose proxy was stopped does nothing.
-/

namespace PlgBooster.Client

open Rust

/-- Statistics for the proxy session. The round-trip time is kept unrounded. -/
structure ProxyStats where
  packetsSent : Nat
  packetsReceived : Nat
  bytesSent : Nat
  bytesReceived : Nat
  lastRtt : Option Duration
  multipathEnabled : Bool
  multipathActive : Bool
  duplicatesDropped : Nat
  deriving DecidableEq, Repr

/-- The sockets a proxy has towards the relays. -/
inductive RelaySocket where
  | primary
  | backup
  deriving DecidableEq, Repr

/-- A datagram handed to one of these sockets. -/
structure ToRelay where
  via : RelaySocket
  data : List UInt8
  addr : SocketAddr
  deriving DecidableEq, Repr

/-- A payload written to the local socket, for the game. -/
structure ToGame where
  payload : List UInt8
  addr : SocketAddr
  deriving DecidableEq, Repr

structure UdpProxy where
  running : Bool
  sessionToken : UInt32
  relayAddr : SocketAddr
  /-- The backup relay, where multipath is active. -/
  backupRelayAddr : Option SocketAddr
  localPort : UInt16
  seqCounter : UInt32
  /-- Shared game address (set by task 1, read by task 2). -/
  gameAddr : Option SocketAddr
  /-- Deduplication: recently seen sequence numbers. -/
  seenSeqs : List UInt32
  /-- Keepalive RTT tracking: sequence number to send time. -/
  keepaliveSent : AList fun _ : UInt32 => Instant
  duplicatesDropped : Nat
  stats : ProxyStats

namespace UdpProxy

/-- `fetch_add(1)`, which wraps around. -/
def nextSeq (proxy : UdpProxy) : UInt32 × UdpProxy :=
  (proxy.seqCounter, { proxy with seqCounter := proxy.seqCounter + 1 })

/-- The answers of the system while a proxy starts; an error is the text of the system. -/
structure StartResults where
  bindLocal : Except String UInt16
  bindRelay : Except String Unit
  bindBackup : Except String Unit
  sendControl : Except String Unit

/-- The state the tasks share at the start. -/
def initial (sessionToken : UInt32) (relayAddr : SocketAddr)
    (backupRelayAddr : Option SocketAddr) (localPort : UInt16) : UdpProxy where
  running := true
  sessionToken := sessionToken
  relayAddr := relayAddr
  backupRelayAddr := backupRelayAddr
  localPort := localPort
  seqCounter := 0
  gameAddr := none
  seenSeqs := []
  keepaliveSent := ∅
  duplicatesDropped := 0
  stats :=
    { packetsSent := 0
      packetsReceived := 0
      bytesSent := 0
      bytesReceived := 0
      lastRtt := none
      multipathEnabled := backupRelayAddr.isSome
      multipathActive := backupRelayAddr.isSome
      duplicatesDropped := 0 }

/-- The control packets that set the forward target on the relays. -/
def sendControl (proxy : UdpProxy) (gameTarget : String) : UdpProxy × List ToRelay :=
  let (seq, proxy) := proxy.nextSeq
  let control := (PlgPacket.control proxy.sessionToken seq gameTarget).encode
  let primary : ToRelay := ⟨.primary, control, proxy.relayAddr⟩
  match proxy.backupRelayAddr with
  | none => (proxy, [primary])
  | some backup =>
      let (seq, proxy) := proxy.nextSeq
      let control := (PlgPacket.control proxy.sessionToken seq gameTarget).encode
      (proxy, [primary, ⟨.backup, control, backup⟩])

/-- Start the UDP proxy. Multipath is active only with a backup relay; of the control
packets only the one to the primary relay has to be sent. -/
def start (sessionToken : UInt32) (relayAddr : SocketAddr)
    (backupRelayAddr : Option SocketAddr) (gameTarget : String) (localPort : UInt16)
    (multipathEnabled : Bool) (results : StartResults) :
    Except String (UdpProxy × List ToRelay) := do
  let localBind := "127.0.0.1:" ++ toString localPort.toNat
  let actualPort ← results.bindLocal.mapError fun e =>
    "Failed to bind local UDP socket on " ++ localBind ++ ": " ++ e
  results.bindRelay.mapError fun e => "Failed to bind relay UDP socket: " ++ e
  let backup := if multipathEnabled then backupRelayAddr else none
  (if backup.isSome then results.bindBackup else .ok ()).mapError fun e =>
    "Failed to bind backup relay UDP socket: " ++ e
  results.sendControl.mapError fun e => "Failed to send control packet: " ++ e
  return (initial sessionToken relayAddr backup actualPort).sendControl gameTarget

/-- Task 1: a datagram of the game is wrapped and sent to the relays. -/
def fromGame (proxy : UdpProxy) (src : SocketAddr) (datagram : List UInt8) :
    UdpProxy × List ToRelay :=
  if !proxy.running then (proxy, [])
  else
    let (seq, proxy) := { proxy with gameAddr := some src }.nextSeq
    let pkt := PlgPacket.data proxy.sessionToken seq datagram
    let duplicate := match proxy.backupRelayAddr with
      | none => []
      | some backup => [⟨.backup, (pkt.withMultipath 1).encode, backup⟩]
    let stats := { proxy.stats with
      packetsSent := proxy.stats.packetsSent + 1
      bytesSent := proxy.stats.bytesSent + datagram.length }
    ({ proxy with stats := stats }, ⟨.primary, pkt.encode, proxy.relayAddr⟩ :: duplicate)

/-- The part tasks 2 and 2b have in common: dedup by sequence number, and forward
the payload to the game. -/
def deliver (proxy : UdpProxy) (pkt : PlgPacket) : UdpProxy × List ToGame :=
  if pkt.seqNumber ∈ proxy.seenSeqs then
    ({ proxy with duplicatesDropped := proxy.duplicatesDropped + 1 }, [])
  else
    let seen := pkt.seqNumber :: proxy.seenSeqs
    -- Limit set size: forget everything when too large.
    let proxy := { proxy with seenSeqs := if seen.length > 10000 then [] else seen }
    match proxy.gameAddr with
    | none => (proxy, [])
    | some addr =>
        let stats := { proxy.stats with
          packetsReceived := proxy.stats.packetsReceived + 1
          bytesReceived := proxy.stats.bytesReceived + pkt.payload.length
          duplicatesDropped := proxy.duplicatesDropped }
        ({ proxy with stats := stats }, [⟨pkt.payload, addr⟩])

/-- Task 2: a datagram at the primary relay socket. A keepalive measures the
round-trip time, everything else is delivered. -/
def fromPrimary (proxy : UdpProxy) (datagram : List UInt8) (now : Instant) :
    UdpProxy × List ToGame :=
  if !proxy.running then (proxy, [])
  else
    match PlgPacket.parse datagram with
    | none => (proxy, [])
    | some pkt =>
        if pkt.isKeepalive then
          match proxy.keepaliveSent.lookup pkt.seqNumber with
          | none => (proxy, [])
          | some sentTime =>
              let stats := { proxy.stats with lastRtt := some (now.durationSince sentTime) }
              ({ proxy with
                keepaliveSent := proxy.keepaliveSent.erase pkt.seqNumber
                stats := stats }, [])
        else proxy.deliver pkt

/-- Task 2b: a datagram at the backup relay socket. -/
def fromBackup (proxy : UdpProxy) (datagram : List UInt8) : UdpProxy × List ToGame :=
  if !proxy.running then (proxy, [])
  else
    match PlgPacket.parse datagram with
    | none => (proxy, [])
    | some pkt => if pkt.isKeepalive then (proxy, []) else proxy.deliver pkt

/-- `ka.retain(|_, t| t.elapsed() < Duration::from_secs(60))`. -/
def retainRecent (sent : AList fun _ : UInt32 => Instant) (now : Instant) :
    AList fun _ : UInt32 => Instant :=
  sent.keys.foldl (fun kept seq =>
    match sent.lookup seq with
    | none => kept
    | some t => if now.durationSince t < 60000000000 then kept else kept.erase seq) sent

/-- Task 3: a keepalive to each relay, every 30 seconds. `now` is read for the
record of the primary keepalive, `later` when old records are dropped. -/
def sendKeepalive (proxy : UdpProxy) (now later : Instant) : UdpProxy × List ToRelay :=
  if !proxy.running then (proxy, [])
  else
    let (seq, proxy) := proxy.nextSeq
    let pkt := PlgPacket.keepalive proxy.sessionToken seq
    let proxy := { proxy with keepaliveSent := proxy.keepaliveSent.insert seq now }
    let primary : ToRelay := ⟨.primary, pkt.encode, proxy.relayAddr⟩
    match proxy.backupRelayAddr with
    | none =>
        ({ proxy with keepaliveSent := retainRecent proxy.keepaliveSent later }, [primary])
    | some backup =>
        let (seq, proxy) := proxy.nextSeq
        let pkt := PlgPacket.keepalive proxy.sessionToken seq
        ({ proxy with keepaliveSent := retainRecent proxy.keepaliveSent later },
          [primary, ⟨.backup, pkt.encode, backup⟩])

/-- Stop the proxy. -/
def stop (proxy : UdpProxy) : UdpProxy := { proxy with running := false }

/-! ## What each task leaves alone -/

/-- The identity of a running proxy, which no task changes. -/
def identity (proxy : UdpProxy) : Bool × UInt32 × Option SocketAddr :=
  (proxy.running, proxy.sessionToken, proxy.backupRelayAddr)

theorem sendControl_frame (proxy : UdpProxy) (gameTarget : String) :
    (proxy.sendControl gameTarget).1.identity = proxy.identity ∧
      (proxy.sendControl gameTarget).1.seenSeqs = proxy.seenSeqs := by
  unfold sendControl
  dsimp only [nextSeq]
  split <;> exact ⟨rfl, rfl⟩

theorem sendControl_outputs (proxy : UdpProxy) (gameTarget : String) :
    ∀ out ∈ (proxy.sendControl gameTarget).2,
      ∃ seq, out.data = (PlgPacket.control proxy.sessionToken seq gameTarget).encode := by
  intro out member
  unfold sendControl at member
  dsimp only [nextSeq] at member
  split at member
  · rw [List.mem_singleton] at member
    subst member
    exact ⟨_, rfl⟩
  · simp only [List.mem_cons, List.not_mem_nil, or_false] at member
    rcases member with rfl | rfl
    · exact ⟨_, rfl⟩
    · exact ⟨_, rfl⟩

theorem sendControl_ne_nil (proxy : UdpProxy) (gameTarget : String) :
    (proxy.sendControl gameTarget).2 ≠ [] := by
  unfold sendControl
  dsimp only [nextSeq]
  split <;> exact List.cons_ne_nil _ _

/-- A proxy that starts is in its initial state but for the control packets sent. -/
theorem start_eq_ok {sessionToken : UInt32} {relayAddr : SocketAddr}
    {backupRelayAddr : Option SocketAddr} {gameTarget : String} {localPort : UInt16}
    {multipathEnabled : Bool} {results : StartResults} {started : UdpProxy × List ToRelay}
    (ok : start sessionToken relayAddr backupRelayAddr gameTarget localPort multipathEnabled
      results = .ok started) :
    ∃ actualPort, started = (initial sessionToken relayAddr
      (if multipathEnabled then backupRelayAddr else none) actualPort).sendControl gameTarget := by
  simp only [start, Result.bind_eq_ok, Result.mapError_eq_ok, Result.pure_eq_ok] at ok
  obtain ⟨actualPort, _, _, _, _, _, _, _, returned⟩ := ok
  exact ⟨actualPort, returned.symm⟩

theorem fromGame_frame (proxy : UdpProxy) (src : SocketAddr) (datagram : List UInt8) :
    (proxy.fromGame src datagram).1.identity = proxy.identity ∧
      (proxy.fromGame src datagram).1.seenSeqs = proxy.seenSeqs := by
  unfold fromGame
  split_ifs <;> exact ⟨rfl, rfl⟩

theorem fromGame_gameAddr {proxy : UdpProxy} (running : proxy.running = true)
    (src : SocketAddr) (datagram : List UInt8) :
    (proxy.fromGame src datagram).1.gameAddr = some src := by
  simp [fromGame, running, nextSeq]

theorem sendKeepalive_frame (proxy : UdpProxy) (now later : Instant) :
    (proxy.sendKeepalive now later).1.identity = proxy.identity ∧
      (proxy.sendKeepalive now later).1.seenSeqs = proxy.seenSeqs ∧
      (proxy.sendKeepalive now later).1.gameAddr = proxy.gameAddr := by
  unfold sendKeepalive
  split_ifs
  · exact ⟨rfl, rfl, rfl⟩
  · dsimp only [nextSeq]
    split <;> exact ⟨rfl, rfl, rfl⟩

theorem deliver_frame (proxy : UdpProxy) (pkt : PlgPacket) :
    (proxy.deliver pkt).1.identity = proxy.identity ∧
      (proxy.deliver pkt).1.gameAddr = proxy.gameAddr := by
  unfold deliver
  split_ifs with seen
  · exact ⟨rfl, rfl⟩
  · dsimp only
    split <;> exact ⟨rfl, rfl⟩

theorem fromPrimary_identity (proxy : UdpProxy) (datagram : List UInt8) (now : Instant) :
    (proxy.fromPrimary datagram now).1.identity = proxy.identity := by
  unfold fromPrimary
  split_ifs
  · rfl
  · split
    · rfl
    · split_ifs
      · split <;> rfl
      · exact (deliver_frame _ _).1

theorem fromBackup_identity (proxy : UdpProxy) (datagram : List UInt8) :
    (proxy.fromBackup datagram).1.identity = proxy.identity := by
  unfold fromBackup
  split_ifs
  · rfl
  · split
    · rfl
    · split_ifs
      · rfl
      · exact (deliver_frame _ _).1

/-- Every datagram the outbound tasks send is a packet of the proxy's session. -/
theorem fromGame_outputs (proxy : UdpProxy) (src : SocketAddr) (datagram : List UInt8) :
    ∀ out ∈ (proxy.fromGame src datagram).2,
      ∃ pkt : PlgPacket, out.data = pkt.encode ∧ pkt.sessionId = proxy.sessionToken := by
  intro out member
  unfold fromGame at member
  split_ifs at member
  · simp at member
  · dsimp only [nextSeq] at member
    rcases List.mem_cons.mp member with rfl | member
    · exact ⟨_, rfl, rfl⟩
    · split at member
      · simp at member
      · rw [List.mem_singleton] at member
        subst member
        exact ⟨_, rfl, rfl⟩

theorem sendKeepalive_outputs (proxy : UdpProxy) (now later : Instant) :
    ∀ out ∈ (proxy.sendKeepalive now later).2,
      ∃ pkt : PlgPacket, out.data = pkt.encode ∧ pkt.sessionId = proxy.sessionToken := by
  intro out member
  unfold sendKeepalive at member
  split_ifs at member
  · simp at member
  · dsimp only [nextSeq] at member
    split at member
    · rw [List.mem_singleton] at member
      subst member
      exact ⟨_, rfl, rfl⟩
    · simp only [List.mem_cons, List.not_mem_nil, or_false] at member
      rcases member with rfl | rfl
      · exact ⟨_, rfl, rfl⟩
      · exact ⟨_, rfl, rfl⟩

end UdpProxy

end PlgBooster.Client
