import PlgBooster.Client.WinDivert

/-!
# The capture thread's header parse

The offsets of the ports and of the payload come from a nibble of the captured packet. Here
every read may be out of bounds, and `none` is the panic of an index or a slice that is. The
two checks of the length exclude it for every packet, and what is read is the packet.
-/

namespace PlgBooster.Client

open Rust

/-- `&data[start..]`. -/
def sliceFrom (data : List UInt8) (start : Nat) : Option (List UInt8) :=
  if start ≤ data.length then some (data.drop start) else none

/-- `Ipv4Addr::new(data[start], .., data[start + 3])`. -/
def ipAt (data : List UInt8) (start : Nat) : Option Ipv4Addr := do
  let a ← data[start]?
  let b ← data[start + 1]?
  let c ← data[start + 2]?
  let d ← data[start + 3]?
  return ⟨a, b, c, d⟩

/-- `u16::from_be_bytes([data[start], data[start + 1]])`. -/
def portAt (data : List UInt8) (start : Nat) : Option UInt16 := do
  let high ← data[start]?
  let low ← data[start + 1]?
  return u16FromBeBytes high low

/-- The header parse of the capture thread, with reads that may panic. -/
def parseHeaders (data : List UInt8) : Option Captured :=
  if data.length < 28 then some .tooShort
  else do
    let first ← data[0]?
    let ihl := (first &&& 0x0F).toNat * 4
    if data.length < ihl + 8 then some .tooShort
    else
      let protocol ← data[9]?
      if protocol ≠ 17 then some .notUdp
      else
        let srcIp ← ipAt data 12
        let dstIp ← ipAt data 16
        let srcPort ← portAt data ihl
        let dstPort ← portAt data (ihl + 2)
        let udpPayload ← sliceFrom data (ihl + 8)
        return .udp ⟨srcIp, dstIp, srcPort, dstPort, udpPayload⟩

theorem ipAt_of_lt {data : List UInt8} {start : Nat} (inside : start + 3 < data.length) :
    ipAt data start =
      some ⟨data[start], data[start + 1], data[start + 2], data[start + 3]⟩ := by
  have h₀ : data[start]? = some data[start] := List.getElem?_eq_getElem (by omega)
  have h₁ : data[start + 1]? = some data[start + 1] := List.getElem?_eq_getElem (by omega)
  have h₂ : data[start + 2]? = some data[start + 2] := List.getElem?_eq_getElem (by omega)
  have h₃ : data[start + 3]? = some data[start + 3] := List.getElem?_eq_getElem (by omega)
  simp only [ipAt, h₀, h₁, h₂, h₃, Option.bind_eq_bind, Option.bind_some, Option.pure_def]

theorem portAt_of_lt {data : List UInt8} {start : Nat} (inside : start + 1 < data.length) :
    portAt data start = some (u16FromBeBytes data[start] data[start + 1]) := by
  have h₀ : data[start]? = some data[start] := List.getElem?_eq_getElem (by omega)
  have h₁ : data[start + 1]? = some data[start + 1] := List.getElem?_eq_getElem (by omega)
  simp only [portAt, h₀, h₁, Option.bind_eq_bind, Option.bind_some, Option.pure_def]

/-- No read is out of bounds. -/
theorem parseHeaders_eq (data : List UInt8) : parseHeaders data = some (readPacket data) := by
  by_cases short : data.length < 28
  · rw [parseHeaders, if_pos short, readPacket, dif_pos short]
  have first : data[0]? = some data[0] := List.getElem?_eq_getElem (by omega)
  have protocol : data[9]? = some data[9] := List.getElem?_eq_getElem (by omega)
  rw [parseHeaders, if_neg short, readPacket, dif_neg short]
  simp only [first, protocol, Option.bind_eq_bind, Option.bind_some]
  by_cases cut : data.length < (data[0] &&& 0x0F).toNat * 4 + 8
  · rw [if_pos cut, dif_pos cut]
  rw [if_neg cut, dif_neg cut]
  by_cases other : data[9] ≠ 17
  · rw [if_pos other, if_pos other]
  · have payload : sliceFrom data ((data[0] &&& 0x0F).toNat * 4 + 8) =
        some (data.drop ((data[0] &&& 0x0F).toNat * 4 + 8)) := if_pos (by omega)
    rw [if_neg other, if_neg other, ipAt_of_lt (by omega), ipAt_of_lt (by omega),
      portAt_of_lt (by omega), portAt_of_lt (by omega), payload]
    rfl

/-- The parse never reads out of bounds, it reads every packet as it is, and among these the
packets that are built for injection. -/
theorem parse_undoes_building :
    (∀ srcIp dstIp srcPort dstPort payload,
      parseHeaders (buildUdpResponse srcIp dstIp srcPort dstPort payload) =
        some (.udp ⟨srcIp, dstIp, srcPort, dstPort, payload⟩)) ∧
    (∀ data packet, Carries data packet → parseHeaders data = some (.udp packet)) ∧
    ∀ data, parseHeaders data ≠ none := by
  refine ⟨fun srcIp dstIp srcPort dstPort payload => ?_, fun data packet carries => ?_,
    fun data => ?_⟩
  · rw [parseHeaders_eq,
      readPacket_of_carries (carries_buildUdpResponse srcIp dstIp srcPort dstPort payload)]
  · rw [parseHeaders_eq, readPacket_of_carries carries]
  · rw [parseHeaders_eq]
    exact Option.some_ne_none _

end PlgBooster.Client
