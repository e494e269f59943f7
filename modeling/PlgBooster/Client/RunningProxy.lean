import PlgBooster.Client.WinDivert
import PlgBooster.Relay.Isolation

/-!
# A running proxy in either mode

A boost is served by a `UdpProxy` or by a `WinDivertProxy`. To the relays both are a source
of datagrams: those their tasks send when something arrives, and those of the keepalive task.
-/

namespace PlgBooster.Client

open Rust
open Relay (sessionIdOf)

/-- What both proxies are started with. -/
structure BoostSession where
  sessionToken : UInt32
  relayAddr : SocketAddr
  backupRelayAddr : Option SocketAddr
  multipathEnabled : Bool

namespace BoostSession

/-- Multipath is active only with a backup relay. -/
def backup (session : BoostSession) : Option SocketAddr :=
  if session.multipathEnabled then session.backupRelayAddr else none

/-- The relays the proxy talks to. -/
def paths (session : BoostSession) : List RelaySocket :=
  if session.backup.isSome then [.primary, .backup] else [.primary]

theorem backup_isSome {session : BoostSession} (served : .backup ∈ session.paths) :
    session.backup.isSome = true := by
  unfold paths at served
  split_ifs at served with active
  · exact active
  · simp at served

end BoostSession

inductive RunningProxy where
  | udp (proxy : UdpProxy)
  | winDivert (proxy : WinDivertProxy)

/-- The mode, with what only this mode is started with. -/
inductive ProxyMode where
  | udp (gameTarget : String) (localPort : UInt16) (results : UdpProxy.StartResults)
  | winDivert

/-- What the tasks of a proxy meet. The first is for a `UdpProxy` only, the second for a
`WinDivertProxy` only. -/
inductive ProxyInput where
  | fromGame (src : SocketAddr) (datagram : List UInt8)
  | captured (data : List UInt8) (unlocked : Bool)
  | received (path : RelaySocket) (datagram : List UInt8) (order : List ReverseEntry)
      (unlocked : Bool)

/-- The datagrams among what the threads hand to the system. -/
def sends (emissions : List Emission) : List ToRelay :=
  emissions.filterMap fun e => match e with
    | .send datagram => some datagram
    | .reinject _ => none
    | .inject _ => none

namespace RunningProxy

/-- The proxy after its start, with the datagrams it has sent, if it starts. -/
def start (session : BoostSession) : ProxyMode → Option (RunningProxy × List ToRelay)
  | .udp gameTarget localPort results =>
      match UdpProxy.start session.sessionToken session.relayAddr session.backupRelayAddr
        gameTarget localPort session.multipathEnabled results with
      | .ok (proxy, sent) => some (.udp proxy, sent)
      | .error _ => none
  | .winDivert =>
      some (.winDivert (.initial session.sessionToken session.relayAddr session.backupRelayAddr
        session.multipathEnabled), [])

def input (now : Instant) : RunningProxy → ProxyInput → RunningProxy × List ToRelay
  | .udp proxy, .fromGame src datagram =>
      let result := proxy.fromGame src datagram
      (.udp result.1, result.2)
  | .udp proxy, .received .primary datagram _ _ => (.udp (proxy.fromPrimary datagram now).1, [])
  | .udp proxy, .received .backup datagram _ _ => (.udp (proxy.fromBackup datagram).1, [])
  | .winDivert proxy, .captured data unlocked =>
      let result := proxy.capture data now unlocked
      (.winDivert result.1, sends result.2)
  | .winDivert proxy, .received path datagram order unlocked =>
      let result := proxy.receive path datagram now order unlocked
      (.winDivert result.1, sends result.2)
  | proxy, _ => (proxy, [])

/-- The keepalive task after its tick. -/
def sendKeepalive (now later : Instant) : RunningProxy → RunningProxy × List ToRelay
  | .udp proxy =>
      let result := proxy.sendKeepalive now later
      (.udp result.1, result.2)
  | .winDivert proxy =>
      let result := proxy.sendKeepalive now later
      (.winDivert result.1, sends result.2)

/-- The proxy runs and serves this session. -/
def Serves (session : BoostSession) : RunningProxy → Prop
  | .udp proxy => proxy.identity = (true, session.sessionToken, session.backup)
  | .winDivert proxy =>
      proxy.identity = (session.sessionToken, session.relayAddr, session.backup)

variable {session : BoostSession} {proxy : RunningProxy}

theorem serves_start {mode : ProxyMode} {sent : List ToRelay}
    (started : start session mode = some (proxy, sent)) : proxy.Serves session := by
  cases mode with
  | udp gameTarget localPort results =>
      simp only [start] at started
      split at started
      · next ok =>
          obtain ⟨rfl, rfl⟩ := Prod.mk.inj (Option.some.inj started)
          obtain ⟨actualPort, same⟩ := UdpProxy.start_eq_ok ok
          have frame := (UdpProxy.sendControl_frame (UdpProxy.initial session.sessionToken
            session.relayAddr session.backup actualPort) gameTarget).1
          change (UdpProxy.identity _) = _
          rw [(Prod.mk.inj same).1]
          exact frame
      · cases started
  | winDivert =>
      obtain ⟨rfl, rfl⟩ := Prod.mk.inj (Option.some.inj started)
      rfl

/-- What arrives does not stop the proxy. -/
theorem serves_input (serves : proxy.Serves session) (now : Instant) (input : ProxyInput) :
    (proxy.input now input).1.Serves session := by
  cases proxy with
  | udp proxy =>
      cases input with
      | fromGame src datagram => exact (proxy.fromGame_frame src datagram).1.trans serves
      | captured data unlocked => exact serves
      | received path datagram order unlocked =>
          cases path with
          | primary => exact (proxy.fromPrimary_identity datagram now).trans serves
          | backup => exact (proxy.fromBackup_identity datagram).trans serves
  | winDivert proxy =>
      cases input with
      | fromGame src datagram => exact serves
      | captured data unlocked => exact (proxy.identity_capture data now unlocked).trans serves
      | received path datagram order unlocked =>
          exact (proxy.receive_frame path datagram now order unlocked).1.trans serves

theorem serves_sendKeepalive (serves : proxy.Serves session) (now later : Instant) :
    (proxy.sendKeepalive now later).1.Serves session := by
  cases proxy with
  | udp proxy => exact (proxy.sendKeepalive_frame now later).1.trans serves
  | winDivert proxy => exact (proxy.sendKeepalive_frame now later).1.trans serves

/-- A tick of the keepalive task makes the proxy send a keepalive to each relay. -/
theorem keepalive_sent (serves : proxy.Serves session) (now later : Instant)
    {path : RelaySocket} (served : path ∈ session.paths) :
    ∃ out ∈ (proxy.sendKeepalive now later).2, out.via = path ∧
      ∃ seq, out.data = (PlgPacket.keepalive session.sessionToken seq).encode := by
  cases proxy with
  | udp proxy =>
      obtain ⟨running, same⟩ := Prod.mk.inj serves
      obtain ⟨token, backup⟩ := Prod.mk.inj same
      cases path with
      | primary =>
          refine ⟨⟨.primary, (PlgPacket.keepalive session.sessionToken proxy.seqCounter).encode,
            proxy.relayAddr⟩, ?_, rfl, _, rfl⟩
          cases active : proxy.backupRelayAddr <;>
            simp [sendKeepalive, UdpProxy.sendKeepalive, UdpProxy.nextSeq, running, token, active]
      | backup =>
          obtain ⟨addr, active⟩ :=
            Option.isSome_iff_exists.mp (BoostSession.backup_isSome served)
          refine ⟨⟨.backup,
            (PlgPacket.keepalive session.sessionToken (proxy.seqCounter + 1)).encode, addr⟩,
            ?_, rfl, _, rfl⟩
          simp [sendKeepalive, UdpProxy.sendKeepalive, UdpProxy.nextSeq, running, token, backup,
            active]
  | winDivert proxy =>
      obtain ⟨token, same⟩ := Prod.mk.inj serves
      have connected : proxy.Connected path := by
        intro onBackup
        subst onBackup
        rw [show proxy.backupRelayAddr = session.backup from (Prod.mk.inj same).2]
        exact BoostSession.backup_isSome served
      obtain ⟨seq, sent⟩ := proxy.sentVia_sendKeepalive connected now later
      have here : (PlgPacket.keepalive proxy.sessionToken seq).encode ∈
          WinDivertProxy.sentVia path (proxy.sendKeepalive now later).2 := by
        rw [sent]
        exact List.mem_singleton.mpr rfl
      obtain ⟨emission, emitted, via⟩ := List.mem_filterMap.mp here
      cases emission with
      | send out =>
          dsimp only at via
          split_ifs at via with onPath
          refine ⟨out, List.mem_filterMap.mpr ⟨_, emitted, rfl⟩, onPath, seq, ?_⟩
          rw [← token]
          exact Option.some.inj via
      | reinject data => cases via
      | inject data => cases via

end RunningProxy

end PlgBooster.Client
