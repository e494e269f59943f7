import PlgBooster.System.Profile
import PlgBooster.Client.WinDivert

/-!
# The wire format between the two programs

The client and the relay each have a codec of their own for PLG packets. Here the two parsers
read by index, as their sources do; every index is behind the check of the length. They agree
with the parser of `Protocol`, so each program reads back what the other writes, and writes
back what it reads.

A control packet also carries a text: the client prints an address and the relay reads it.
-/

namespace PlgBooster

open Rust

/-- `PlgPacket::parse` of the relay. -/
def Relay.parsePacket (data : List UInt8) : Option PlgPacket :=
  if short : data.length < HEADER_SIZE then none
  else
    have long : 10 ≤ data.length := Nat.not_lt.mp short
    some
      { sessionId := u32FromBeBytes data[0] data[1] data[2] data[3]
        seqNumber := u32FromBeBytes data[4] data[5] data[6] data[7]
        flags := data[8]
        pathId := data[9]
        payload := data.drop HEADER_SIZE }

/-- `PlgPacket::parse` of the client. -/
def Client.parsePacket (data : List UInt8) : Option PlgPacket :=
  if short : data.length < HEADER_SIZE then none
  else
    have long : 10 ≤ data.length := Nat.not_lt.mp short
    some
      { sessionId := u32FromBeBytes data[0] data[1] data[2] data[3]
        seqNumber := u32FromBeBytes data[4] data[5] data[6] data[7]
        flags := data[8]
        pathId := data[9]
        payload := data.drop HEADER_SIZE }

theorem u32ToBeBytes_fromBeBytes (a b c d : UInt8) :
    u32ToBeBytes (u32FromBeBytes a b c d) = [a, b, c, d] := by
  have : a.toNat < 256 := a.toNat_lt
  have : b.toNat < 256 := b.toNat_lt
  have : c.toNat < 256 := c.toNat_lt
  have : d.toNat < 256 := d.toNat_lt
  simp only [u32ToBeBytes, u32FromBeBytes, UInt32.toNat_ofNat', List.cons.injEq, and_true,
    ← UInt8.toNat_inj, UInt8.toNat_ofNat']
  omega

namespace PlgPacket

/-- A datagram is cut off in its header, or has a header and a payload. -/
theorem short_or_header (data : List UInt8) :
    data.length < HEADER_SIZE ∧ parse data = none ∨
    ∃ s₀ s₁ s₂ s₃ n₀ n₁ n₂ n₃ flags path payload,
      data = s₀ :: s₁ :: s₂ :: s₃ :: n₀ :: n₁ :: n₂ :: n₃ :: flags :: path :: payload := by
  rcases data with _ | ⟨s₀, _ | ⟨s₁, _ | ⟨s₂, _ | ⟨s₃, _ | ⟨n₀, _ | ⟨n₁, _ | ⟨n₂, _ | ⟨n₃, _ |
    ⟨flags, _ | ⟨path, payload⟩⟩⟩⟩⟩⟩⟩⟩⟩⟩
  case cons.cons.cons.cons.cons.cons.cons.cons.cons.cons =>
    exact .inr ⟨s₀, s₁, s₂, s₃, n₀, n₁, n₂, n₃, flags, path, payload, rfl⟩
  all_goals exact .inl ⟨by simp [HEADER_SIZE], rfl⟩

theorem parse_eq_none_iff (data : List UInt8) : parse data = none ↔ data.length < 10 := by
  rcases short_or_header data with ⟨short, refused⟩ |
    ⟨s₀, s₁, s₂, s₃, n₀, n₁, n₂, n₃, flags, path, payload, rfl⟩
  · exact iff_of_true refused short
  · exact iff_of_false (by simp [parse]) (by simp)

/-- What is parsed is written back as it was. -/
theorem encode_of_parse {data : List UInt8} {packet : PlgPacket}
    (parsed : parse data = some packet) : packet.encode = data := by
  rcases short_or_header data with ⟨_, refused⟩ |
    ⟨s₀, s₁, s₂, s₃, n₀, n₁, n₂, n₃, flags, path, payload, rfl⟩
  · rw [refused] at parsed
    cases parsed
  · obtain rfl := Option.some.inj parsed
    simp only [encode, u32ToBeBytes_fromBeBytes]
    rfl

end PlgPacket

/-- Reading by index is reading from the front. -/
theorem Relay.parsePacket_eq (data : List UInt8) :
    Relay.parsePacket data = PlgPacket.parse data := by
  rcases PlgPacket.short_or_header data with ⟨short, refused⟩ |
    ⟨s₀, s₁, s₂, s₃, n₀, n₁, n₂, n₃, flags, path, payload, rfl⟩
  · rw [refused, parsePacket, dif_pos short]
  · rw [parsePacket, dif_neg (by simp [HEADER_SIZE])]
    rfl

theorem Client.parsePacket_eq (data : List UInt8) :
    Client.parsePacket data = PlgPacket.parse data :=
  Relay.parsePacket_eq data

/-- The codecs of the two programs are inverse to each other: what one writes the other reads,
and what either reads both write back. -/
theorem codecs_inverse :
    (∀ packet : PlgPacket, Relay.parsePacket packet.encode = some packet ∧
      Client.parsePacket packet.serialize = some packet) ∧
    ∀ data : List UInt8,
      (Relay.parsePacket data = none ↔ data.length < 10) ∧
      (Client.parsePacket data = none ↔ data.length < 10) ∧
      ∀ packet, Relay.parsePacket data = some packet ∨ Client.parsePacket data = some packet →
        packet.encode = data ∧ packet.serialize = data := by
  refine ⟨fun packet => ?_, fun data => ⟨?_, ?_, fun packet parsed => ?_⟩⟩
  · rw [Relay.parsePacket_eq, Client.parsePacket_eq, PlgPacket.encode_eq_serialize]
    exact ⟨PlgPacket.parse_encode packet, PlgPacket.parse_encode packet⟩
  · rw [Relay.parsePacket_eq]
    exact PlgPacket.parse_eq_none_iff data
  · rw [Client.parsePacket_eq]
    exact PlgPacket.parse_eq_none_iff data
  · rw [Relay.parsePacket_eq, Client.parsePacket_eq, or_self] at parsed
    rw [PlgPacket.encode_eq_serialize, and_self]
    exact PlgPacket.encode_of_parse parsed

/-! ## Control packets -/

namespace System

open Relay Client

/-- The text of a control packet that the relay accepts names an IPv4 address. -/
theorem parseControlPayload_eq_V4 {payload : List UInt8} {target : SocketAddr}
    (parsed : parseControlPayload payload = some target) : ∃ ip, target.ip = .V4 ip := by
  obtain ⟨front, plain, readIp⟩ := ip_of_parseControlPayload parsed
  cases named : target.ip with
  | V4 ip => exact ⟨ip, rfl⟩
  | V6 ip => exact absurd (named ▸ readIp) (parseIpAddr_ne_V6 plain ip)

/-- A control packet for a captured destination is still one at the relay, and names that
destination; and what the relay accepts as a target is read back from its own text. -/
theorem control_survives :
    (∀ (token seq : UInt32) (packet : UdpPacket),
      let control := PlgPacket.control token seq (WinDivertProxy.target packet)
      ∃ received, Relay.parsePacket control.encode = some received ∧
        received.isControl = true ∧ received.isKeepalive = false ∧
        parseControlPayload received.payload = some ⟨.V4 packet.dstIp, packet.dstPort⟩) ∧
    ∀ (payload : List UInt8) (target : SocketAddr),
      parseControlPayload payload = some target →
        ∃ ip, target.ip = .V4 ip ∧
          parseControlPayload (asBytes (controlTarget ip target.port)) = some target := by
  constructor
  · intro token seq packet control
    refine ⟨control, ?_, PlgPacket.isControl_control _ _ _, PlgPacket.isKeepalive_control _ _ _,
      parseControlPayload_controlTarget packet.dstIp packet.dstPort⟩
    rw [Relay.parsePacket_eq]
    exact PlgPacket.parse_encode control
  · intro payload target parsed
    obtain ⟨ip, named⟩ := parseControlPayload_eq_V4 parsed
    refine ⟨ip, named, ?_⟩
    rw [parseControlPayload_controlTarget, ← named]

end System

end PlgBooster
