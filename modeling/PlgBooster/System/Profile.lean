import PlgBooster.Client.FilterBuilder
import PlgBooster.Relay.Isolation
import PlgBooster.Relay.Whitelist

/-!
# What a game profile means to the client and to the relay

The client reads the entries of a profile as address blocks and captures everything
inside them. The relay gets the same strings as the session's whitelist and compares
them with the display of the address a control packet names. The two agree on a
destination exactly when its plain address is itself an entry.
-/

namespace PlgBooster.System

open Rust Relay Client

/-- The target of the control packet for a captured destination. -/
def controlTarget (dstIp : Ipv4Addr) (dstPort : UInt16) : String :=
  dstIp.display ++ ":" ++ toString dstPort.toNat

/-- A destination whose packets the client captures. -/
structure Destination (profile : Profile) where
  ip : Ipv4Addr
  port : UInt16
  covered : Covers profile.serverIps profile.ports ip port

/-- The relay reads the target back from the control packet. -/
theorem parseControlPayload_controlTarget (ip : Ipv4Addr) (port : UInt16) :
    parseControlPayload (asBytes (controlTarget ip port)) = some ⟨.V4 ip, port⟩ := by
  have noColon : ':' ∉ ip.display.toList := ip.notMem_display (by decide) (by decide)
  have text : (controlTarget ip port).toList =
      ip.display.toList ++ ':' :: Nat.toDigits 10 port.toNat := by
    simp [controlTarget]
  have parts : splitn2 ':' (controlTarget ip port).toList =
      [ip.display.toList, Nat.toDigits 10 port.toNat] := by
    rw [text, splitn2, splitOnce_append noColon]
  simp only [parseControlPayload, fromUtf8_asBytes, parts, parseIpAddr_display, parseU16_display]

/-- Whatever a registered session went through, its whitelist is the registered one
and its target respects it. -/
theorem final_session {token : UInt32} {p : UInt16} {gameServerIps gamePorts : List String}
    {now : Instant} (r : SessionRun token p gameServerIps gamePorts now) :
    ∃ session, r.final.cache.get token = some session ∧
      session.gameServerIps = gameServerIps ∧ session.Allowed := by
  let Keeps (view : Option SessionInfo) : Prop :=
    ∃ session, view = some session ∧ session.gameServerIps = gameServerIps ∧ session.Allowed
  have preserved : ∀ view event, Keeps view → True → Keeps (alone token view event).1 := by
    rintro _ event ⟨session, rfl, listed, allowed⟩ _
    cases event with
    | clientDatagram datagram source now sendTo =>
        cases parsed : PlgPacket.parse datagram with
        | none => exact ⟨session, by simp [alone, parsed], listed, allowed⟩
        | some packet =>
            refine ⟨_, by simp only [alone, parsed]; rfl, ?_, allowed.onPacket _ _ _ _ _⟩
            rw [SessionInfo.onPacket_gameServerIps, listed]
    | gameDatagram localPort datagram sendTo =>
        exact ⟨_, rfl, by simpa using listed, allowed.onResponse _ _ _⟩
    | register token gameServerIps gamePorts bind now => exact ⟨session, rfl, listed, allowed⟩
    | unregister token => exact ⟨session, rfl, listed, allowed⟩
    | cleanup now => exact ⟨session, rfl, listed, allowed⟩
  let registered := SessionCache.newSession token placeholderAddr gameServerIps
    (registeredPorts gamePorts) ⟨p⟩ now
  have legal : Machine.Legal (fun _ _ => True) (alone token) (some registered)
      (r.after.filter (concerns token p)) := Machine.legal_of_forall (fun _ _ => trivial) _ _
  have kept := Machine.run_invariant Keeps preserved
    ⟨registered, rfl, rfl, allowed_newSession _ _ _ _ _ _⟩ legal
  rwa [← r.emitted_eq.1] at kept

/-- After the control packet for the destination, the session forwards to it. -/
def Agrees {token : UInt32} {p : UInt16} {gameServerIps gamePorts : List String}
    {registeredAt : Instant} (r : SessionRun token p gameServerIps gamePorts registeredAt)
    (ip : Ipv4Addr) (port : UInt16) : Prop :=
  ∀ seq source now sendTo,
    ((Relay.step r.final (.clientDatagram
      (PlgPacket.control token seq (controlTarget ip port)).encode source now sendTo)).1.cache.get
        token).map (·.forwardTarget) = some (some ⟨.V4 ip, port⟩)

/-- A control packet sets the target it names, if it names a listed address. -/
theorem forwardTarget_text {token : UInt32} {session : SessionInfo} {relay : RelayState}
    (live : relay.cache.get token = some session) (seq : UInt32) (text : String)
    (source : SocketAddr) (now : Instant) (sendTo : SendResult) :
    ((Relay.step relay (.clientDatagram (PlgPacket.control token seq text).encode source now
      sendTo)).1.cache.get token).map (·.forwardTarget) =
      some (match parseControlPayload (asBytes text) with
        | some target =>
            if target.ip.display ∈ session.gameServerIps then some target
            else session.forwardTarget
        | none => session.forwardTarget) := by
  let packet := PlgPacket.control token seq text
  have addressed : addressee relay.cache packet.encode = some (packet, session) :=
    (addressee_eq_some_iff _ _).mpr ⟨PlgPacket.parse_encode packet, live⟩
  have sessions := (clientListener_spec relay.cache packet.encode source now sendTo).1 token
  rw [addressed] at sessions
  change ((clientListener relay.cache packet.encode source now sendTo).1.get token).map _ = _
  rw [sessions]
  have named : packet.sessionId = token := rfl
  have payload : packet.payload = asBytes text := rfl
  simp only [named, if_true, Option.map_some, SessionInfo.onPacket, payload, packet,
    PlgPacket.isKeepalive_control, PlgPacket.isControl_control,
    SessionInfo.touch_gameServerIps, Bool.false_eq_true, if_false]
  cases parseControlPayload (asBytes text) with
  | none => simp
  | some target =>
      by_cases listed : target.ip.display ∈ session.gameServerIps
      · simp [listed]
      · simp [listed]

/-- What the control packet does to the session. -/
theorem forwardTarget_control {token : UInt32} {session : SessionInfo} {relay : RelayState}
    (live : relay.cache.get token = some session) (seq : UInt32) (ip : Ipv4Addr) (port : UInt16)
    (source : SocketAddr) (now : Instant) (sendTo : SendResult) :
    ((Relay.step relay (.clientDatagram
      (PlgPacket.control token seq (controlTarget ip port)).encode source now sendTo)).1.cache.get
        token).map (·.forwardTarget) =
      some (if ip.display ∈ session.gameServerIps then some ⟨.V4 ip, port⟩
        else session.forwardTarget) := by
  rw [forwardTarget_text live, parseControlPayload_controlTarget]
  rfl

/-- The client's control packet for a captured destination takes effect on the relay if
and only if the plain address of the destination is listed in the profile. -/
theorem agrees_iff (profile : Profile) (destination : Destination profile) {token : UInt32}
    {p : UInt16} {registeredAt : Instant}
    (r : SessionRun token p profile.serverIps profile.ports registeredAt) :
    Agrees r destination.ip destination.port ↔
      destination.ip.display ∈ profile.serverIps := by
  obtain ⟨session, live, listed, allowed⟩ := final_session r
  constructor
  · intro agrees
    by_contra unlisted
    have target := agrees 0 placeholderAddr 0 .failed
    rw [forwardTarget_control live, listed, if_neg unlisted, Option.some.injEq] at target
    -- Only the default target is left, and that is the parse of a listed string.
    obtain ⟨s, member, parsed⟩ := allowed _ target
    have printed : s = destination.ip.display :=
      String.toList_inj.mp (parseIpAddr_eq_V4_iff.mp parsed)
    exact unlisted (printed ▸ listed ▸ member)
  · intro member seq source now sendTo
    rw [forwardTarget_control live, listed, if_pos member]

/-- A block as games list it. -/
def blockProfile : Profile where
  serverIps := ["155.133.232.0/23"]
  ports := ["27015-27050"]
  built := exists_filter (by decide) (by decide)
    (List.forall_mem_singleton.mpr ⟨(⟨155, 133, 232, 0⟩, ⟨155, 133, 233, 255⟩), by decide⟩)
    (List.forall_mem_singleton.mpr ⟨(27015, 27050), by decide⟩)

/-- A server inside the block. -/
def blockServer : Destination blockProfile where
  ip := ⟨155, 133, 232, 1⟩
  port := 27015
  covered := ⟨⟨_, List.mem_singleton.mpr rfl, ⟨155, 133, 232, 0⟩, ⟨155, 133, 233, 255⟩,
      by decide, by decide, by decide⟩,
    ⟨_, List.mem_singleton.mpr rfl, 27015, 27050, by decide, by decide, by decide⟩⟩

/-- The relay with the block as the whitelist of session 7. -/
def blockRun : SessionRun 7 40000 blockProfile.serverIps blockProfile.ports 0 where
  maxSessions := 1
  sessionTimeout := 300
  before := []
  after := []
  undisturbedBefore := by decide
  fresh := by decide
  accepted := by decide
  undisturbedAfter := by decide

theorem blockServer_refused : ¬ Agrees blockRun blockServer.ip blockServer.port := by
  intro agrees
  have target := agrees 1 ⟨.V4 ⟨192, 168, 0, 2⟩, 5000⟩ 1 .failed
  revert target
  decide

end PlgBooster.System
