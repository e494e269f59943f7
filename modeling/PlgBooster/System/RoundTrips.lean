import PlgBooster.System.Keepalives

/-!
# Keepalives are not answered

Both proxies remember when they sent a keepalive to the primary relay, and take a keepalive
from there as its answer, to measure the round-trip time. The relay only notes that it has
seen the client. A WinDivert proxy would not even measure an answer: what its keepalive task
remembers is not the table its receive thread looks into.
-/

namespace PlgBooster.System

open Rust Relay Client

/-- A keepalive of the proxy that gets to the primary relay while its session lives there,
in a timely run. -/
structure KeepaliveArrival where
  session : BoostSession
  timing : Timing
  maxSessions : RelaySocket → Nat
  sessionTimeout : RelaySocket → Duration
  events : List TimedEvent
  timely : Machine.Legal (Timely session timing) (timedStep session)
    (timedStart maxSessions sessionTimeout) events
  seq : UInt32
  relayAddr : SocketAddr
  sentAt : Instant
  n : Nat
  flying : (Machine.run (timedStep session) (timedStart maxSessions sessionTimeout)
      events).1.inFlight[n]? =
    some ⟨⟨.primary, (PlgPacket.keepalive session.sessionToken seq).encode, relayAddr⟩, sentAt⟩
  live : ((((Machine.run (timedStep session) (timedStart maxSessions sessionTimeout)
    events).1.relays .primary).cache.get session.sessionToken).isSome)
  source : SocketAddr
  sendTo : SendResult

namespace KeepaliveArrival

variable (k : KeepaliveArrival)

def before : TimedState :=
  (Machine.run (timedStep k.session) (timedStart k.maxSessions k.sessionTimeout) k.events).1

/-- The state after the arrival, and what the relay sends then. -/
def result : TimedState × List (RelaySocket × Outgoing) :=
  timedStep k.session k.before (.arrive k.n k.source k.sendTo)

/-- The sent keepalives that have no answer yet. -/
def outstanding : RunningProxy → AList fun _ : UInt32 => Instant
  | .udp proxy => proxy.keepaliveSent
  | .winDivert proxy => proxy.keepaliveTimes

def lastRtt : RunningProxy → Option Duration
  | .udp proxy => proxy.stats.lastRtt
  | .winDivert proxy => proxy.stats.lastRtt

/-- The round trip: the relay answers with a keepalive of the same token and number, and a
client that receives it within sixty seconds measures the time. -/
def RoundTrip : Prop :=
  ∃ (reply : PlgPacket) (sent : SendResult),
    k.result.2 = [(.primary, .toClient reply.encode k.source sent)] ∧
    reply.isKeepalive = true ∧ reply.sessionId = k.session.sessionToken ∧
    reply.seqNumber = k.seq ∧
    ∀ later order,
      Machine.Legal (Timely k.session k.timing) (timedStep k.session) k.result.1 later →
      let state := (Machine.run (timedStep k.session) k.result.1 later).1
      state.clock < k.sentAt + 60 * 1000000000 → ∀ boost ∈ state.boost,
        let received := (boost.proxy.input state.clock
          (.received .primary reply.encode order true)).1
        (outstanding received).lookup k.seq = none ∧ (lastRtt received).isSome

/-- The relay's step on the keepalive sends nothing. -/
theorem result_outputs : k.result.2 = [] := by
  have flying : k.before.inFlight[k.n]? = _ := k.flying
  have spec := (clientListener_spec (k.before.relays .primary).cache
    (PlgPacket.keepalive k.session.sessionToken k.seq).encode k.source k.before.clock k.sendTo).2
  have live : ((k.before.relays .primary).cache.get k.session.sessionToken).isSome := k.live
  obtain ⟨info, here⟩ := Option.isSome_iff_exists.mp live
  have addressed : addressee (k.before.relays .primary).cache
      (PlgPacket.keepalive k.session.sessionToken k.seq).encode =
        some (PlgPacket.keepalive k.session.sessionToken k.seq, info) :=
    (addressee_eq_some_iff _ _).mpr ⟨PlgPacket.parse_encode _, here⟩
  rw [addressed] at spec
  simp only [SessionInfo.onPacket, PlgPacket.isKeepalive_keepalive, if_true] at spec
  simp only [result, timedStep, flying, TimedState.atRelay, Relay.step, spec, List.map_nil]

/-- No keepalive makes a round trip. -/
theorem no_roundTrip : k.result.2 = [] ∧ ¬ k.RoundTrip := by
  have silent := k.result_outputs
  refine ⟨silent, ?_⟩
  rintro ⟨reply, sent, outputs, _⟩
  cases silent.symm.trans outputs

end KeepaliveArrival

/-! ## What a WinDivert proxy measures -/

namespace WinDivert

/-- The table the receive thread looks into, and what it has measured. -/
def measured (proxy : WinDivertProxy) : (AList fun _ : UInt32 => Instant) × Option Duration :=
  (proxy.keepaliveSent, proxy.stats.lastRtt)

theorem measured_tryUpdate (proxy : WinDivertProxy) (unlocked : Bool)
    {update : ProxyStats → ProxyStats} (keeps : ∀ stats, (update stats).lastRtt = stats.lastRtt) :
    measured (proxy.tryUpdate unlocked update) = measured proxy := by
  cases unlocked with
  | true => simp [measured, WinDivertProxy.tryUpdate, keeps]
  | false => rfl

theorem measured_sendControl (proxy : WinDivertProxy) (packet : UdpPacket) :
    measured (proxy.sendControl packet).1 = measured proxy := by
  cases sent : proxy.controlSent with
  | true => simp [WinDivertProxy.sendControl, sent]
  | false =>
      cases backup : proxy.backupRelayAddr <;>
        simp [WinDivertProxy.sendControl, WinDivertProxy.nextSeq, measured, *]

theorem measured_capture (proxy : WinDivertProxy) (data : List UInt8) (now : Instant)
    (unlocked : Bool) : measured (proxy.capture data now unlocked).1 = measured proxy := by
  cases read : readPacket data with
  | tooShort => simp only [WinDivertProxy.capture, read]
  | notUdp => simp only [WinDivertProxy.capture, read]
  | udp packet =>
      simp only [WinDivertProxy.capture, read]
      refine Eq.trans (measured_tryUpdate _ unlocked ?_) ?_
      · intro stats
        rfl
      · exact measured_sendControl (proxy.track packet now) packet

theorem measured_sendKeepalive (proxy : WinDivertProxy) (now later : Instant) :
    measured (proxy.sendKeepalive now later).1 = measured proxy := by
  cases backup : proxy.backupRelayAddr <;>
    simp [WinDivertProxy.sendKeepalive, WinDivertProxy.nextSeq, measured, backup]

theorem measured_deliver (proxy : WinDivertProxy) (path : RelaySocket) (pkt : PlgPacket)
    (order : List ReverseEntry) (unlocked : Bool) :
    measured (proxy.deliver path pkt order unlocked).1 = measured proxy := by
  by_cases seen : pkt.seqNumber ∈ proxy.seenSeqs path
  · rw [WinDivertProxy.deliver, if_pos seen]
    rfl
  · rw [WinDivertProxy.deliver, if_neg seen]
    cases order with
    | nil => rfl
    | cons entry rest => exact measured_tryUpdate _ _ fun _ => rfl

/-- While the table is empty, nothing that is received measures anything. -/
theorem measured_step {proxy : WinDivertProxy} (empty : measured proxy = (∅, none))
    (input : WinDivertProxy.Input) : measured (proxy.step input).1 = (∅, none) := by
  cases input with
  | captured data now unlocked => exact (measured_capture proxy data now unlocked).trans empty
  | keepaliveTick now later => exact (measured_sendKeepalive proxy now later).trans empty
  | received path datagram now order unlocked =>
      have table : proxy.keepaliveSent = ∅ := congrArg Prod.fst empty
      simp only [WinDivertProxy.step, WinDivertProxy.receive]
      cases parsed : PlgPacket.parse datagram with
      | none => exact empty
      | some pkt =>
          dsimp only
          split_ifs with keepalive
          · have missing : proxy.keepaliveSent.lookup pkt.seqNumber = none := by
              rw [table]
              rfl
            rw [missing]
            cases path <;> exact empty
          · exact (measured_deliver proxy path pkt order unlocked).trans empty

/-- Whatever a WinDivert proxy receives, it never measures a round-trip time. -/
theorem lastRtt_run (sessionToken : UInt32) (relayAddr : SocketAddr)
    (backupRelayAddr : Option SocketAddr) (multipathEnabled : Bool)
    (inputs : List WinDivertProxy.Input) :
    (Machine.run WinDivertProxy.step
      (.initial sessionToken relayAddr backupRelayAddr multipathEnabled) inputs).1.stats.lastRtt =
        none := by
  have kept : measured (Machine.run WinDivertProxy.step
      (.initial sessionToken relayAddr backupRelayAddr multipathEnabled) inputs).1 = (∅, none) :=
    Machine.run_always (fun proxy => measured proxy = (∅, none))
      (fun _ input empty => measured_step empty input) rfl inputs
  exact congrArg Prod.snd kept

end WinDivert

/-! ## A run in proxy mode -/

/-- A boost in proxy mode, up to its first keepalive. -/
def firstKeepalive : List TimedEvent :=
  [.relay .primary (.register 7 [] [] (.bound 40000) 0),
    .startProxy (.udp "10.0.0.1:27015" 0 ⟨.ok 27015, .ok (), .ok (), .ok ()⟩),
    .arrive 0 ⟨.V4 ⟨198, 51, 100, 7⟩, 50000⟩ .failed, .pass 30000000000, .tick 30000000000]

/-- The keepalive arrives at once. -/
def firstArrival : KeepaliveArrival where
  session := ⟨7, ⟨.V4 ⟨10, 1, 0, 1⟩, 443⟩, none, false⟩
  timing := ⟨0, 0⟩
  maxSessions _ := 8
  sessionTimeout _ := 300000000000
  events := firstKeepalive
  timely := by decide
  seq := 1
  relayAddr := ⟨.V4 ⟨10, 1, 0, 1⟩, 443⟩
  sentAt := 30000000000
  n := 0
  flying := rfl
  live := rfl
  source := ⟨.V4 ⟨198, 51, 100, 7⟩, 50000⟩
  sendTo := .sent 10

theorem firstArrival_unanswered :
    firstArrival.before.boost.map (fun boost =>
        (KeepaliveArrival.outstanding boost.proxy).lookup 1) = some (some 30000000000) ∧
      firstArrival.result.2 = [] ∧ ¬ firstArrival.RoundTrip := by
  refine ⟨rfl, firstArrival.result_outputs, ?_⟩
  rintro ⟨reply, sent, outputs, _⟩
  cases firstArrival.result_outputs.symm.trans outputs

end PlgBooster.System
