import PlgBooster.Rust.Net

/-!
# Raw IPv4 and UDP packets

The packets the client captures and injects are bytes. `Carries` says what a packet is
without saying how it is read or built: an IPv4 header with any options, and behind it one
UDP datagram. The capture thread reads the fields of such a packet, and
`build_udp_response` builds one.
-/

namespace PlgBooster.Client

open Rust

/-- What a packet says: addresses, ports and payload. -/
structure UdpPacket where
  srcIp : Ipv4Addr
  dstIp : Ipv4Addr
  srcPort : UInt16
  dstPort : UInt16
  payload : List UInt8
  deriving DecidableEq, Repr

/-- `u16::to_be_bytes`. -/
def u16ToBeBytes (n : UInt16) : List UInt8 := [.ofNat (n.toNat / 256), .ofNat n.toNat]

/-- `u16::from_be_bytes`. -/
def u16FromBeBytes (a b : UInt8) : UInt16 := .ofNat (a.toNat * 256 + b.toNat)

def octets (ip : Ipv4Addr) : List UInt8 := [ip.a, ip.b, ip.c, ip.d]

/-- The fields of the two headers that nothing here reads. -/
structure HeaderFields where
  dscp : UInt8
  totalLength : UInt16
  identification : UInt16
  fragment : UInt16
  ttl : UInt8
  ipChecksum : UInt16
  options : List UInt8
  udpLength : UInt16
  udpChecksum : UInt16

/-- An IPv4 header of `ihl` words. -/
def ipv4Header (ihl : Nat) (fields : HeaderFields) (packet : UdpPacket) : List UInt8 :=
  [.ofNat (64 + ihl), fields.dscp] ++ u16ToBeBytes fields.totalLength ++
    u16ToBeBytes fields.identification ++ u16ToBeBytes fields.fragment ++ [fields.ttl, 17] ++
    u16ToBeBytes fields.ipChecksum ++ octets packet.srcIp ++ octets packet.dstIp ++ fields.options

def udpHeader (fields : HeaderFields) (packet : UdpPacket) : List UInt8 :=
  u16ToBeBytes packet.srcPort ++ u16ToBeBytes packet.dstPort ++ u16ToBeBytes fields.udpLength ++
    u16ToBeBytes fields.udpChecksum

/-- The bytes are an IPv4 packet with the UDP datagram. -/
def Carries (data : List UInt8) (packet : UdpPacket) : Prop :=
  ∃ ihl fields, 5 ≤ ihl ∧ ihl ≤ 15 ∧ (ipv4Header ihl fields packet).length = ihl * 4 ∧
    data = ipv4Header ihl fields packet ++ udpHeader fields packet ++ packet.payload

/-! ## Building -/

/-- A 16-bit word in network order. -/
def word (high low : UInt8) : UInt32 := (high.toUInt32 <<< 8) ||| low.toUInt32

/-- The loop of both checksums: add up the 16-bit words, an odd last byte padded with zero,
but skip the checksum field. -/
def sumWords (checksumAt : Nat) : Nat → UInt32 → List UInt8 → UInt32
  | i, sum, high :: low :: rest =>
      sumWords checksumAt (i + 2) (if i = checksumAt then sum else sum + word high low) rest
  | i, sum, [high] => if i = checksumAt then sum else sum + (high.toUInt32 <<< 8)
  | _, sum, [] => sum

/-- The low half of a sum. -/
theorem toNat_and_ffff (sum : UInt32) :
    (sum &&& (0xFFFF : UInt32)).toNat = sum.toNat % 65536 := by
  rw [UInt32.toNat_and]
  exact Nat.and_two_pow_sub_one_eq_mod sum.toNat 16

/-- The carries of a sum. -/
theorem toNat_shiftRight_16 (sum : UInt32) : (sum >>> 16).toNat = sum.toNat / 65536 := by
  rw [UInt32.toNat_shiftRight]
  exact Nat.shiftRight_eq_div_pow sum.toNat 16

/-- Adding the carries makes a sum smaller. -/
theorem fold_descends (sum : UInt32) (carries : sum >>> 16 ≠ 0) :
    ((sum &&& (0xFFFF : UInt32)) + (sum >>> 16)).toNat < sum.toNat := by
  have positive : (sum >>> 16).toNat ≠ 0 := fun zero => carries (UInt32.toNat_inj.mp zero)
  have below : sum.toNat < 4294967296 := sum.toNat_lt
  rw [toNat_shiftRight_16] at positive
  have noOverflow : sum.toNat % 65536 + sum.toNat / 65536 < 2 ^ 32 := by omega
  rw [UInt32.toNat_add, toNat_and_ffff, toNat_shiftRight_16, Nat.mod_eq_of_lt noOverflow]
  omega

/-- `while (sum >> 16) != 0 { sum = (sum & 0xFFFF) + (sum >> 16) }`. -/
def foldCarries (sum : UInt32) : UInt32 :=
  if carries : sum >>> 16 ≠ 0 then
    have := fold_descends sum carries
    foldCarries ((sum &&& (0xFFFF : UInt32)) + (sum >>> 16))
  else sum
termination_by sum.toNat

/-- Internet checksum for the IPv4 header. -/
def computeIpChecksum (header : List UInt8) : UInt16 :=
  (~~~foldCarries (sumWords 10 0 0 header)).toUInt16

/-- Pseudo-header: source and destination address, protocol and UDP length. -/
def pseudoHeader (srcIp dstIp : Ipv4Addr) (length : UInt32) : UInt32 :=
  word srcIp.a srcIp.b + word srcIp.c srcIp.d + word dstIp.a dstIp.b + word dstIp.c dstIp.d + 17 +
    length

/-- UDP checksum with IPv4 pseudo-header. -/
def computeUdpChecksum (srcIp dstIp : Ipv4Addr) (udpSegment : List UInt8) : UInt16 :=
  let pseudo := pseudoHeader srcIp dstIp (.ofNat udpSegment.length)
  let result := (~~~foldCarries (sumWords 6 0 pseudo udpSegment)).toUInt16
  -- UDP checksum of 0x0000 is transmitted as 0xFFFF
  if result = 0 then 0xFFFF else result

/-- The IPv4 header (20 bytes, no options), with a placeholder for its checksum. -/
def responseHeader (srcIp dstIp : Ipv4Addr) (totalLen : UInt16) : List UInt8 :=
  [0x45, 0x00] ++ u16ToBeBytes totalLen ++ [0x00, 0x00, 0x40, 0x00, 64, 17, 0x00, 0x00] ++
    octets srcIp ++ octets dstIp

/-- The UDP header (8 bytes), with a placeholder for its checksum, and the payload. -/
def responseSegment (srcPort dstPort udpLen : UInt16) (payload : List UInt8) : List UInt8 :=
  u16ToBeBytes srcPort ++ u16ToBeBytes dstPort ++ u16ToBeBytes udpLen ++ [0x00, 0x00] ++ payload

/-- Build a raw IPv4+UDP packet with its checksums. -/
def buildUdpResponse (srcIp dstIp : Ipv4Addr) (srcPort dstPort : UInt16)
    (payload : List UInt8) : List UInt8 :=
  let udpLen : UInt16 := 8 + .ofNat payload.length
  let totalLen : UInt16 := 20 + udpLen
  let buf := responseHeader srcIp dstIp totalLen
  let ipChecksum := computeIpChecksum buf
  let buf := (buf.set 10 (ipChecksum >>> 8).toUInt8).set 11 (ipChecksum &&& 0xFF).toUInt8
  let buf := buf ++ responseSegment srcPort dstPort udpLen payload
  let udpChecksum := computeUdpChecksum srcIp dstIp (buf.drop 20)
  (buf.set 26 (udpChecksum >>> 8).toUInt8).set 27 (udpChecksum &&& 0xFF).toUInt8

theorem u16ToBeBytes_eq (n : UInt16) :
    u16ToBeBytes n = [(n >>> 8).toUInt8, (n &&& 0xFF).toUInt8] := by
  have high : (n >>> 8).toNat = n.toNat / 256 := by
    rw [UInt16.toNat_shiftRight]
    exact Nat.shiftRight_eq_div_pow n.toNat 8
  have low : (n &&& 0xFF).toNat = n.toNat % 256 := by
    rw [UInt16.toNat_and]
    exact Nat.and_two_pow_sub_one_eq_mod n.toNat 8
  simp only [u16ToBeBytes, List.cons.injEq, and_true, ← UInt8.toNat_inj, UInt16.toNat_toUInt8,
    UInt8.toNat_ofNat']
  omega

theorem u16FromBeBytes_toBeBytes (n : UInt16) :
    u16FromBeBytes (.ofNat (n.toNat / 256)) (.ofNat n.toNat) = n := by
  have below : n.toNat < 65536 := n.toNat_lt
  apply UInt16.toNat_inj.mp
  simp only [u16FromBeBytes, UInt16.toNat_ofNat', UInt8.toNat_ofNat']
  omega

/-- What is injected is the packet it was built from. -/
theorem carries_buildUdpResponse (srcIp dstIp : Ipv4Addr) (srcPort dstPort : UInt16)
    (payload : List UInt8) :
    Carries (buildUdpResponse srcIp dstIp srcPort dstPort payload)
      ⟨srcIp, dstIp, srcPort, dstPort, payload⟩ := by
  let udpLen : UInt16 := 8 + .ofNat payload.length
  let totalLen : UInt16 := 20 + udpLen
  let ipChecksum := computeIpChecksum (responseHeader srcIp dstIp totalLen)
  let udpChecksum := computeUdpChecksum srcIp dstIp (responseSegment srcPort dstPort udpLen payload)
  refine ⟨5, ⟨0, totalLen, 0, 0x4000, 64, ipChecksum, [], udpLen, udpChecksum⟩, by decide,
    by decide, rfl, ?_⟩
  have zero : u16ToBeBytes 0 = [0x00, 0x00] := by decide
  have noFragment : u16ToBeBytes 0x4000 = [0x40, 0x00] := by decide
  simp only [ipv4Header, udpHeader, zero, noFragment, u16ToBeBytes_eq ipChecksum,
    u16ToBeBytes_eq udpChecksum]
  rfl

end PlgBooster.Client
