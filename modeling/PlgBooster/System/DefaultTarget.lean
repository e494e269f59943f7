import PlgBooster.Client.Boost
import PlgBooster.Client.FilterMeaning
import PlgBooster.System.Profile

/-!
# The default target of the localhost proxy

Without an explicit target the client names the first entries of the profile in its control
packet, as they are listed. The relay reads an address and a port there, not a block or a
range, and it has only numbers of the port list for a default of its own.
-/

namespace PlgBooster.System

open Rust Relay Client

/-! ## What the relay reads from the composed text -/

/-- No entry that the client accepts has a colon. -/
theorem notMem_colon_of_cidrToIpRange {cidr : String} {first last : Ipv4Addr}
    (ok : cidrToIpRange cidr = .ok (first, last)) : ':' ∉ cidr.toList := by
  have shown {text : List Char} {ip : Ipv4Addr} (parsed : parseIpv4Addr text = some ip) :
      ':' ∉ text := by
    rw [parseIpv4Addr_eq_some_iff.mp parsed]
    exact ip.notMem_display (by decide) (by decide)
  rcases cidrToIpRange_cases ok with
    ⟨ipStr, lengthStr, net, length, found, parsedIp, parsedLength, _⟩ | ⟨_, parsed, _⟩
  · have number : ':' ∉ lengthStr := by
      obtain ⟨n, read⟩ := parseU32_eq_ok parsedLength
      exact notMem_of_parseUnsigned read (by decide) (by decide)
    rw [eq_of_splitOnce found, List.mem_append, List.mem_cons]
    rintro (inIp | same | inLength)
    · exact shown parsedIp inIp
    · revert same
      decide
    · exact number inLength
  · exact shown parsed

/-- The relay reads the first entry as an address, or not at all. -/
theorem parseIpAddr_of_cidrToIpRange {cidr : String} {first last : Ipv4Addr}
    (ok : cidrToIpRange cidr = .ok (first, last)) :
    parseIpAddr cidr.toList = if '/' ∈ cidr.toList then none else some (.V4 first) := by
  by_cases block : '/' ∈ cidr.toList
  · rw [if_pos block]
    cases parsed : parseIpAddr cidr.toList with
    | none => rfl
    | some ip =>
        cases ip with
        | V4 ip =>
            rw [parseIpAddr_eq_V4_iff.mp parsed] at block
            exact absurd block (ip.notMem_display (by decide) (by decide))
        | V6 ip => exact absurd parsed (parseIpAddr_ne_V6 (notMem_colon_of_cidrToIpRange ok) ip)
  · rw [if_neg block]
    obtain ⟨_, printed⟩ := cidrToIpRange_plain block ok
    exact parseIpAddr_eq_V4_iff.mpr (by rw [printed])

/-- A port that the relay reads is one the client reads as well. -/
theorem parsePortRange_of_parseU16 {portStr : String} {port : UInt16}
    (ok : parseU16 portStr.toList = .ok port) : parsePortRange portStr = .ok (port, port) := by
  obtain ⟨n, read⟩ := parseU16_eq_ok ok
  have single : splitOnce '-' portStr.toList = none := by
    cases split : splitOnce '-' portStr.toList with
    | none => rfl
    | some parts =>
        exact absurd (mem_of_splitOnce split) (notMem_of_parseUnsigned read (by decide) (by decide))
  have untrimmed := trim_eq_self (isWhitespace_of_parseUnsigned read)
  rw [parsePortRange, single]
  simp only [parsePort, untrimmed, ok]
  rfl

/-- The relay reads an accepted pair of entries only if they are an address and a number. -/
theorem parseControlPayload_firstTarget {cidr portStr : String} {first last : Ipv4Addr}
    (ok : cidrToIpRange cidr = .ok (first, last)) :
    parseControlPayload (asBytes (cidr ++ ":" ++ portStr)) =
      if '/' ∈ cidr.toList then none
      else (parseU16 portStr.toList).toOption.map fun port => ⟨.V4 first, port⟩ := by
  have text : (cidr ++ ":" ++ portStr).toList = cidr.toList ++ ':' :: portStr.toList := by simp
  have parts : splitn2 ':' (cidr ++ ":" ++ portStr).toList = [cidr.toList, portStr.toList] := by
    rw [text, splitn2, splitOnce_append (notMem_colon_of_cidrToIpRange ok)]
  simp only [parseControlPayload, fromUtf8_asBytes, parts, parseIpAddr_of_cidrToIpRange ok]
  split_ifs
  · rfl
  · cases parseU16 portStr.toList <;> rfl

/-- The relay's own default is that address with the first number of the port list. -/
theorem defaultForwardTarget_of_cidrToIpRange {cidr : String} {first last : Ipv4Addr}
    (ok : cidrToIpRange cidr = .ok (first, last)) (ips : List String) (ports : List UInt16) :
    defaultForwardTarget (cidr :: ips) ports =
      if '/' ∈ cidr.toList then none else ports.head?.map fun port => ⟨.V4 first, port⟩ := by
  cases ports with
  | nil => simp [defaultForwardTarget]
  | cons port ports =>
      by_cases block : '/' ∈ cidr.toList
      · simp [defaultForwardTarget, parseIpAddr_of_cidrToIpRange ok, block]
      · simp [defaultForwardTarget, parseIpAddr_of_cidrToIpRange ok, block]

/-! ## What becomes of the session -/

/-- A start in proxy mode without an explicit target, after the relay has registered the
session. The API has handed both the same strings, and the client accepts them. -/
structure FallbackStart where
  resp : SessionStartResponse
  accepted : ∃ filter, buildWindivertFilter resp.gameServerIps resp.gamePorts = .ok filter
  args : StartArgs
  unnamed : args.gameServerTarget = none
  relayAddr : SocketAddr
  resolved : resp.relayAddr = .ok relayAddr
  windows : Bool
  outcome : StartOutcome
  proxy : UdpProxy
  opened : openBoost windows resp relayAddr args outcome = .ok (.Proxy proxy)
  sent : List ToRelay
  started : UdpProxy.start resp.sessionToken relayAddr resp.backupRelayAddr
    (args.gameServerTarget.getD (firstTarget resp.gameServerIps resp.gamePorts))
    (args.localPort.getD 27015) resp.multipathEnabled outcome.proxy = .ok (proxy, sent)
  before : RelayState
  bind : BindResult
  registeredAt : Instant
  relay : RelayState
  port : UInt16
  registered : registerSession before resp.sessionToken resp.gameServerIps resp.gamePorts bind
    registeredAt = (relay, .ok port)

namespace FallbackStart

variable (s : FallbackStart)

/-- After the control packet the session forwards to a target inside the first entries. -/
def Usable : Prop :=
  ∀ out ∈ s.sent, ∀ source now sendTo, ∃ ip port,
    ((Relay.step s.relay (.clientDatagram out.data source now sendTo)).1.cache.get
        s.resp.sessionToken).map (·.forwardTarget) = some (some ⟨.V4 ip, port⟩) ∧
      (∀ cidr ∈ s.resp.gameServerIps.head?, ListedIp cidr ip) ∧
      ∀ portStr ∈ s.resp.gamePorts.head?, ListedPort portStr port

/-- The first address entry is not a block, and the first number of the port list lies in the
first port entry. -/
structure PlainFirst (gameServerIps gamePorts : List String) : Prop where
  address : ∀ cidr ∈ gameServerIps.head?, '/' ∉ cidr.toList
  number : ∃ port ∈ (registeredPorts gamePorts).head?,
    ∀ portStr ∈ gamePorts.head?, ListedPort portStr port

/-- Entries without blocks and ranges are such entries. -/
theorem plainFirst_of_number {cidr portStr : String} {port : UInt16} (plain : '/' ∉ cidr.toList)
    (number : parseU16 portStr.toList = .ok port) (ips ports : List String) :
    PlainFirst (cidr :: ips) (portStr :: ports) where
  address := by
    intro entry head
    obtain rfl := Option.some.inj head
    exact plain
  number := by
    refine ⟨port, by simp [registeredPorts, number, Except.toOption], ?_⟩
    intro entry head
    obtain rfl := Option.some.inj head
    exact (mem_portRange_iff (parsePortRange_of_parseU16 number) port).mp
      ⟨UInt16.le_refl port, UInt16.le_refl port⟩

/-- Every datagram of the start is a control packet with the composed text. -/
theorem data_of_mem_sent {out : ToRelay} (member : out ∈ s.sent) :
    ∃ seq, out.data = (PlgPacket.control s.resp.sessionToken seq
      (firstTarget s.resp.gameServerIps s.resp.gamePorts)).encode := by
  obtain ⟨actualPort, same⟩ := UdpProxy.start_eq_ok s.started
  have sent : s.sent = _ := congrArg Prod.snd same
  rw [sent] at member
  obtain ⟨seq, data⟩ := UdpProxy.sendControl_outputs _ _ out member
  rw [s.unnamed] at data
  exact ⟨seq, data⟩

theorem sent_ne_nil : s.sent ≠ [] := by
  obtain ⟨actualPort, same⟩ := UdpProxy.start_eq_ok s.started
  have sent : s.sent = _ := congrArg Prod.snd same
  rw [sent]
  exact UdpProxy.sendControl_ne_nil _ _

/-- The session as the relay has registered it. -/
theorem get_relay : ∃ session, s.relay.cache.get s.resp.sessionToken = some session ∧
    session.gameServerIps = s.resp.gameServerIps ∧
    session.forwardTarget =
      defaultForwardTarget s.resp.gameServerIps (registeredPorts s.resp.gamePorts) := by
  cases registersSession s.before s.resp.sessionToken s.resp.gameServerIps
    s.resp.gamePorts s.bind s.registeredAt with
  | accepted port yields room answer listeners sessions =>
      have here := sessions s.resp.sessionToken
      rw [s.registered, if_pos rfl] at here
      exact ⟨_, here, rfl, rfl⟩
  | refused e answer listeners others kept =>
      rw [s.registered] at answer
      cases answer

/-- The first entries of the two lists, and what the client reads in them. -/
theorem first_entries : ∃ cidr ips portStr ports first last range,
    s.resp.gameServerIps = cidr :: ips ∧ s.resp.gamePorts = portStr :: ports ∧
      cidrToIpRange cidr = .ok (first, last) ∧ parsePortRange portStr = .ok range := by
  obtain ⟨filter, built⟩ := s.accepted
  obtain ⟨someIp, somePort, ips, ranges⟩ := accepted_of_built built
  obtain ⟨cidr, restIps, listedIps⟩ := List.exists_cons_of_ne_nil someIp
  obtain ⟨portStr, restPorts, listedPorts⟩ := List.exists_cons_of_ne_nil somePort
  obtain ⟨⟨first, last⟩, ipOk⟩ := ips cidr (by rw [listedIps]; exact List.mem_cons_self)
  obtain ⟨range, portOk⟩ := ranges portStr (by rw [listedPorts]; exact List.mem_cons_self)
  exact ⟨cidr, restIps, portStr, restPorts, first, last, range, listedIps, listedPorts, ipOk,
    portOk⟩

/-- The control packet and the relay's own default come to the same target: the first
address with the first number of the port list, if the first entry is an address. -/
theorem forwardTarget_of_mem_sent {out : ToRelay} (member : out ∈ s.sent) (source : SocketAddr)
    (now : Instant) (sendTo : SendResult) {cidr : String} {ips : List String}
    {first last : Ipv4Addr} (listed : s.resp.gameServerIps = cidr :: ips)
    (ok : cidrToIpRange cidr = .ok (first, last)) :
    ((Relay.step s.relay (.clientDatagram out.data source now sendTo)).1.cache.get
        s.resp.sessionToken).map (·.forwardTarget) =
      some (if '/' ∈ cidr.toList then none
        else (registeredPorts s.resp.gamePorts).head?.map fun port => ⟨.V4 first, port⟩) := by
  obtain ⟨seq, data⟩ := s.data_of_mem_sent member
  obtain ⟨session, live, whitelist, target⟩ := s.get_relay
  obtain ⟨_, _, portStr, ports, _, _, _, _, listedPorts, _, _⟩ := s.first_entries
  rw [data, forwardTarget_text live, whitelist, listed, listedPorts, firstTarget,
    parseControlPayload_firstTarget ok, target, listed,
    defaultForwardTarget_of_cidrToIpRange ok, listedPorts]
  by_cases block : '/' ∈ cidr.toList
  · simp only [block, if_true]
  · simp only [block, if_false]
    cases number : parseU16 portStr.toList with
    | error e => rfl
    | ok port =>
        -- The number of the control packet is also the relay's first one.
        obtain ⟨_, printed⟩ := cidrToIpRange_plain block ok
        have member : first.display ∈ cidr :: ips := by
          rw [← printed]
          exact List.mem_cons_self
        simp [registeredPorts, number, Except.toOption, IpAddr.display, member]

/-- The default target is usable exactly where the two readings of the first entries meet:
the address entry is a plain address, and the first number of the port list lies in the
first port entry. -/
theorem usable_iff : s.Usable ↔ PlainFirst s.resp.gameServerIps s.resp.gamePorts := by
  obtain ⟨cidr, ips, portStr, ports, first, last, _, listedIps, listedPorts, ok, _⟩ :=
    s.first_entries
  constructor
  · intro usable
    obtain ⟨out, member⟩ := List.exists_mem_of_ne_nil _ s.sent_ne_nil
    obtain ⟨ip, port, target, _, inPort⟩ := usable out member placeholderAddr 0 .failed
    rw [s.forwardTarget_of_mem_sent member _ _ _ listedIps ok, Option.some.injEq] at target
    split_ifs at target with block
    obtain ⟨port', number, same⟩ := Option.map_eq_some_iff.mp target
    obtain ⟨_, rfl⟩ := SocketAddr.mk.inj same
    refine ⟨?_, port', number, inPort⟩
    rw [listedIps]
    intro entry head
    obtain rfl := Option.some.inj head
    exact block
  · rintro ⟨address, port, number, inPort⟩ out member source now sendTo
    have plain : '/' ∉ cidr.toList := address cidr (by rw [listedIps, List.head?_cons]; rfl)
    refine ⟨first, port, ?_, ?_, inPort⟩
    · rw [s.forwardTarget_of_mem_sent member _ _ _ listedIps ok, if_neg plain,
        Option.mem_def.mp number]
      rfl
    · obtain ⟨rfl, _⟩ := cidrToIpRange_plain plain ok
      rw [listedIps]
      intro entry head
      obtain rfl := Option.some.inj head
      exact (mem_range_iff ok first).mp ⟨UInt32.le_refl _, UInt32.le_refl _⟩

/-- A start with a block and a port range. -/
def ofBlock : FallbackStart where
  resp :=
    { sessionId := 1
      sessionToken := 7
      nodeIp := "10.0.0.1"
      nodePort := 443
      backupNodeIp := none
      backupNodePort := none
      multipathEnabled := false
      gameServerIps := blockProfile.serverIps
      gamePorts := blockProfile.ports }
  accepted := blockProfile.built
  args := ⟨"cs2", 1, none, none, none, some false⟩
  unnamed := rfl
  relayAddr := ⟨.V4 ⟨10, 0, 0, 1⟩, 443⟩
  resolved := by decide
  windows := true
  outcome := ⟨⟨.answered, .error .notFound, .answered⟩, .ok (),
    ⟨.ok 27015, .ok (), .ok (), .ok ()⟩⟩
  proxy := ((UdpProxy.initial 7 ⟨.V4 ⟨10, 0, 0, 1⟩, 443⟩ none 27015).sendControl
    "155.133.232.0/23:27015-27050").1
  opened := rfl
  sent := ((UdpProxy.initial 7 ⟨.V4 ⟨10, 0, 0, 1⟩, 443⟩ none 27015).sendControl
    "155.133.232.0/23:27015-27050").2
  started := rfl
  before := Relay.start 1 300
  bind := .bound 40000
  registeredAt := 0
  relay := (registerSession (Relay.start 1 300) 7 blockProfile.serverIps blockProfile.ports
    (.bound 40000) 0).1
  port := 40000
  registered := rfl

theorem ofBlock_unusable : ¬ ofBlock.Usable := by
  intro usable
  obtain ⟨out, member⟩ := List.exists_mem_of_ne_nil _ ofBlock.sent_ne_nil
  obtain ⟨ip, port, target, _⟩ := usable out member placeholderAddr 0 .failed
  have ok : cidrToIpRange "155.133.232.0/23" =
      .ok (⟨155, 133, 232, 0⟩, ⟨155, 133, 233, 255⟩) := by decide
  rw [ofBlock.forwardTarget_of_mem_sent member _ _ _ rfl ok, if_pos (by decide)] at target
  cases target

end FallbackStart

end PlgBooster.System
