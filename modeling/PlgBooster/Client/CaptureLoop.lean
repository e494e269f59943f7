import PlgBooster.Client.FilterMeaning
import PlgBooster.Client.WinDivert

/-!
# What the filter captures of the proxy itself

The filter of a profile knows nothing about the relays. The proxy sends its own datagrams from
ordinary sockets, so the filter sees them as well: a relay with an address and a port that the
profile lists gets datagrams that are captured, wrapped and sent again.
-/

namespace PlgBooster.Client

open Rust

namespace WinDivertProxy

/-- `WinDivertProxy::start`, with the filter that the capture thread opens. -/
def start (sessionToken : UInt32) (relayAddr : SocketAddr) (backupRelayAddr : Option SocketAddr)
    (gameServerIps gamePorts : List String) (multipathEnabled : Bool) :
    Except String (String × WinDivertProxy) := do
  let filter ← buildWindivertFilter gameServerIps gamePorts
  return (filter, initial sessionToken relayAddr backupRelayAddr multipathEnabled)

/-- The relays a proxy sends to. -/
def relays (proxy : WinDivertProxy) : List SocketAddr :=
  proxy.relayAddr :: proxy.backupRelayAddr.toList

/-- A datagram of this machine to an address, as the filter sees it. -/
def outboundTo (addr : SocketAddr) : NetworkPacket where
  outbound := true
  dstAddr := addr.ip
  udpDstPort := some addr.port

theorem relays_of_identity {proxy proxy' : WinDivertProxy}
    (same : proxy'.identity = proxy.identity) : proxy'.relays = proxy.relays := by
  obtain ⟨_, addresses⟩ := Prod.mk.inj same
  obtain ⟨relay, backup⟩ := Prod.mk.inj addresses
  rw [relays, relays, relay, backup]

variable (proxy : WinDivertProxy)

theorem relayAddr_mem_relays : proxy.relayAddr ∈ proxy.relays := List.mem_cons_self

variable {proxy} in
theorem mem_relays_of_backup {addr : SocketAddr} (backup : proxy.backupRelayAddr = some addr) :
    addr ∈ proxy.relays :=
  List.mem_cons_of_mem _ (Option.mem_toList.mpr backup)

theorem sendControl_addr (packet : UdpPacket) :
    ∀ datagram, .send datagram ∈ (proxy.sendControl packet).2 → datagram.addr ∈ proxy.relays := by
  intro datagram member
  cases sent : proxy.controlSent with
  | true => simp only [sendControl, sent, if_true, List.not_mem_nil] at member
  | false =>
      cases backup : proxy.backupRelayAddr with
      | none =>
          simp only [sendControl, sent, Bool.false_eq_true, if_false, nextSeq, backup,
            List.mem_singleton, Emission.send.injEq] at member
          rw [member]
          exact proxy.relayAddr_mem_relays
      | some addr =>
          simp only [sendControl, sent, Bool.false_eq_true, if_false, nextSeq, backup,
            List.mem_cons, List.not_mem_nil, or_false, Emission.send.injEq] at member
          rcases member with rfl | rfl
          · exact proxy.relayAddr_mem_relays
          · exact mem_relays_of_backup backup

theorem sendData_addr (packet : UdpPacket) :
    ∀ datagram, .send datagram ∈ (proxy.sendData packet).2 → datagram.addr ∈ proxy.relays := by
  intro datagram member
  cases backup : proxy.backupRelayAddr with
  | none =>
      simp only [sendData, nextSeq, backup, List.mem_singleton, Emission.send.injEq] at member
      rw [member]
      exact proxy.relayAddr_mem_relays
  | some addr =>
      simp only [sendData, nextSeq, backup, List.mem_cons, List.not_mem_nil, or_false,
        Emission.send.injEq] at member
      rcases member with rfl | rfl
      · exact proxy.relayAddr_mem_relays
      · exact mem_relays_of_backup backup

/-- The keepalive task sends to every relay, and to nobody else. -/
theorem sendKeepalive_addr (now later : Instant) (addr : SocketAddr) :
    (∃ datagram, .send datagram ∈ (proxy.sendKeepalive now later).2 ∧ datagram.addr = addr) ↔
      addr ∈ proxy.relays := by
  cases backup : proxy.backupRelayAddr with
  | none => simp [sendKeepalive, nextSeq, relays, backup, eq_comm]
  | some backupAddr => simp [sendKeepalive, nextSeq, relays, backup, eq_comm]

theorem capture_addr (data : List UInt8) (now : Instant) (unlocked : Bool) :
    ∀ datagram, .send datagram ∈ (proxy.capture data now unlocked).2 →
      datagram.addr ∈ proxy.relays := by
  intro datagram member
  cases read : readPacket data with
  | tooShort => simp [capture, read] at member
  | notUdp => simp [capture, read] at member
  | udp packet =>
      have same := ((proxy.track packet now).sendControl_frame packet).1
      simp only [capture, read] at member
      rcases List.mem_append.mp member with control | data
      · exact (proxy.track packet now).sendControl_addr packet datagram control
      · have toRelay := sendData_addr _ packet datagram data
        rwa [relays_of_identity same] at toRelay

theorem receive_addr (path : RelaySocket) (received : List UInt8) (now : Instant)
    (order : List ReverseEntry) (unlocked : Bool) (datagram : ToRelay) :
    .send datagram ∉ (proxy.receive path received now order unlocked).2 := by
  intro member
  have none := (proxy.receive_frame path received now order unlocked).2.2 datagram.via
  have sent : datagram.data ∈
      sentVia datagram.via (proxy.receive path received now order unlocked).2 :=
    List.mem_filterMap.mpr ⟨_, member, if_pos rfl⟩
  rw [none] at sent
  cases sent

/-- Every step keeps the relays, and sends to them only. -/
theorem step_relays (input : Input) :
    (proxy.step input).1.relays = proxy.relays ∧
      ∀ emission ∈ (proxy.step input).2, ∀ datagram, emission = .send datagram →
        datagram.addr ∈ proxy.relays := by
  cases input with
  | captured data now unlocked =>
      refine ⟨relays_of_identity (proxy.identity_capture data now unlocked), ?_⟩
      rintro _ member datagram rfl
      exact proxy.capture_addr data now unlocked datagram member
  | received path received now order unlocked =>
      have frame := (proxy.receive_frame path received now order unlocked).1
      refine ⟨relays_of_identity frame, ?_⟩
      rintro _ member datagram rfl
      exact absurd member (proxy.receive_addr path received now order unlocked datagram)
  | keepaliveTick now later =>
      refine ⟨relays_of_identity (proxy.sendKeepalive_frame now later).1, ?_⟩
      rintro _ member datagram rfl
      exact (proxy.sendKeepalive_addr now later datagram.addr).mp ⟨datagram, member, rfl⟩

/-- So a run sends to the relays only. -/
theorem run_relays (inputs : List Input) (datagram : ToRelay)
    (member : .send datagram ∈ (Machine.run step proxy inputs).2) :
    datagram.addr ∈ proxy.relays := by
  have legal : Machine.Legal (fun _ _ => True) step proxy inputs :=
    Machine.legal_of_forall (fun _ _ => trivial) proxy inputs
  refine Machine.run_outputs (fun running => running.relays = proxy.relays)
    (P := fun emission => ∀ datagram, emission = .send datagram → datagram.addr ∈ proxy.relays)
    (fun running input same _ => (running.step_relays input).1.trans same) ?_ rfl legal
    _ member datagram rfl
  intro running input same _ emission emitted
  rw [← same]
  exact (running.step_relays input).2 emission emitted

/-- The backup relay is in use only with multipath. -/
theorem forall_mem_relays_initial (sessionToken : UInt32) (relayAddr : SocketAddr)
    (backupRelayAddr : Option SocketAddr) (multipathEnabled : Bool) (P : SocketAddr → Prop) :
    (∀ addr ∈ (initial sessionToken relayAddr backupRelayAddr multipathEnabled).relays, P addr) ↔
      P relayAddr ∧
        ∀ backup, multipathEnabled = true → backupRelayAddr = some backup → P backup := by
  cases multipathEnabled with
  | false => simp [relays, initial]
  | true => cases backupRelayAddr <;> simp [relays, initial]

/-- None of the datagrams the proxy sends is captured, in no run, exactly if no relay in use is
in the profile. -/
theorem noCaptureLoop_iff {sessionToken : UInt32} {relayAddr : SocketAddr}
    {backupRelayAddr : Option SocketAddr} {gameServerIps gamePorts : List String}
    {multipathEnabled : Bool} {filter : String} {proxy : WinDivertProxy}
    (started : start sessionToken relayAddr backupRelayAddr gameServerIps gamePorts
      multipathEnabled = .ok (filter, proxy)) :
    (∀ inputs datagram, .send datagram ∈ (Machine.run step proxy inputs).2 →
      filterValue filter (outboundTo datagram.addr) ≠ some true) ↔
    ¬ InProfile gameServerIps gamePorts (outboundTo relayAddr) ∧
      ∀ backup, multipathEnabled = true → backupRelayAddr = some backup →
        ¬ InProfile gameServerIps gamePorts (outboundTo backup) := by
  simp only [start, Result.bind_eq_ok, Result.pure_eq_ok] at started
  obtain ⟨text, built, same⟩ := started
  obtain ⟨rfl, rfl⟩ := Prod.mk.inj same
  rw [← forall_mem_relays_initial sessionToken relayAddr backupRelayAddr multipathEnabled
    fun addr => ¬ InProfile gameServerIps gamePorts (outboundTo addr)]
  have captured (addr : SocketAddr) : filterValue text (outboundTo addr) ≠ some true ↔
      ¬ InProfile gameServerIps gamePorts (outboundTo addr) := by
    obtain ⟨value, read, means⟩ := filterValue_iff built (outboundTo addr)
    rw [read, ← means, ne_eq, Option.some_inj]
  simp only [captured]
  constructor
  · intro never addr relay
    obtain ⟨datagram, sent, rfl⟩ := (sendKeepalive_addr _ 0 0 addr).mpr relay
    apply never [.keepaliveTick 0 0] datagram
    rw [Machine.run_cons, Machine.run_nil, List.append_nil]
    exact sent
  · intro outside inputs datagram sent
    exact outside datagram.addr (run_relays _ inputs datagram sent)

/-- For one: a relay outside the listed block. -/
theorem noCaptureLoop_iff_outside :
    ∃ filter proxy, start 7 ⟨.V4 ⟨203, 0, 113, 1⟩, 443⟩ none ["155.133.232.0/23"] ["27015-27050"]
        false = .ok (filter, proxy) ∧
      ((∀ inputs datagram, .send datagram ∈ (Machine.run step proxy inputs).2 →
        filterValue filter (outboundTo datagram.addr) ≠ some true) ↔
      ¬ InProfile ["155.133.232.0/23"] ["27015-27050"]
          (outboundTo ⟨.V4 ⟨203, 0, 113, 1⟩, 443⟩) ∧
        ∀ backup, false = true → none = some backup →
          ¬ InProfile ["155.133.232.0/23"] ["27015-27050"] (outboundTo backup)) :=
  ⟨_, _, rfl, noCaptureLoop_iff rfl⟩

/-- With every address in the profile and the relays' port, the first keepalive is captured. -/
theorem keepalive_captured :
    ∃ filter proxy, start 7 ⟨.V4 ⟨203, 0, 113, 1⟩, 443⟩ none ["0.0.0.0/0"] ["443"] false =
        .ok (filter, proxy) ∧
      ∃ datagram, .send datagram ∈ (Machine.run step proxy [.keepaliveTick 30 30]).2 ∧
        filterValue filter (outboundTo datagram.addr) = some true := by
  refine ⟨"outbound and udp and (ip.DstAddr >= 0.0.0.0 and ip.DstAddr <= 255.255.255.255) and " ++
    "udp.DstPort == 443", _, rfl,
    ⟨.primary, (PlgPacket.keepalive 7 0).encode, ⟨.V4 ⟨203, 0, 113, 1⟩, 443⟩⟩, ?_, ?_⟩
  · exact List.mem_singleton.mpr rfl
  · decide

end WinDivertProxy

end PlgBooster.Client
