import PlgBooster.Client.WinDivert
import PlgBooster.Library.Dedup

/-!
# Two copies of a packet

With multipath a packet comes by both relays, and the client passes on the first copy. The
tasks of a `UdpProxy` share one set of seen sequence numbers; each receive thread of a
`WinDivertProxy` has a set of its own. Both are receivers that drop what they have seen, with
the packets in one class or sorted by path.
-/

namespace PlgBooster.System

open Rust Client

/-- A client in either mode, at the start of its receive tasks, with the game address or a
connection known. -/
structure Receivers where
  udp : UdpProxy
  winDivert : WinDivertProxy
  running : udp.running = true
  gameAddr : udp.gameAddr.isSome = true
  tracked : winDivert.reverseMap.entries ≠ []
  udpSeen : udp.seenSeqs = []
  winDivertSeen : winDivert.seenSeqs = fun _ => []

/-- A packet that is no keepalive arrives at one of the relay sockets. `order` is the order in
which the reverse map is iterated then. -/
structure Arrival (start : Receivers) where
  path : RelaySocket
  datagram : List UInt8
  pkt : PlgPacket
  parsed : PlgPacket.parse datagram = some pkt
  notKeepalive : pkt.isKeepalive = false
  now : Instant
  order : List ReverseEntry
  iterated : order.Perm start.winDivert.reverseMap.entries
  unlocked : Bool

variable {start : Receivers}

/-- Task 2 and task 2b, with the payloads they forward to the game. -/
def udpStep (proxy : UdpProxy) (arrival : Arrival start) : UdpProxy × List (List UInt8) :=
  let result := match arrival.path with
    | .primary => proxy.fromPrimary arrival.datagram arrival.now
    | .backup => proxy.fromBackup arrival.datagram
  (result.1, result.2.map ToGame.payload)

/-- The payload of an injected packet. -/
def injectedPayload : Emission → Option (List UInt8)
  | .inject data =>
      match readPacket data with
      | .udp packet => some packet.payload
      | .tooShort => none
      | .notUdp => none
  | .send _ => none
  | .reinject _ => none

/-- The two receive threads, with the payloads they inject. -/
def winDivertStep (proxy : WinDivertProxy) (arrival : Arrival start) :
    WinDivertProxy × List (List UInt8) :=
  let result := proxy.receive arrival.path arrival.datagram arrival.now arrival.order
    arrival.unlocked
  (result.1, result.2.filterMap injectedPayload)

/-- The payloads a `UdpProxy` forwards to the game. -/
def forwardedPayloads (arrivals : List (Arrival start)) : List (List UInt8) :=
  (Machine.run udpStep start.udp arrivals).2

/-- The payloads a `WinDivertProxy` injects. -/
def injectedPayloads (arrivals : List (Arrival start)) : List (List UInt8) :=
  (Machine.run winDivertStep start.winDivert arrivals).2

def Arrival.seqNumber (arrival : Arrival start) : UInt32 := arrival.pkt.seqNumber

def Arrival.payload (arrival : Arrival start) : List UInt8 := arrival.pkt.payload

/-- The size at which a set of seen sequence numbers is cleared. -/
def seenLimit : Nat := 10000

/-! ## Both are receivers that drop what they have seen -/

theorem udpStep_eq {proxy : UdpProxy} (running : proxy.running = true)
    (gameAddr : proxy.gameAddr.isSome = true) (arrival : Arrival start) :
    let shared : Unit → List UInt32 := fun _ => proxy.seenSeqs
    let next := Dedup.step seenLimit Arrival.seqNumber (fun _ => ()) shared arrival
    (udpStep proxy arrival).1.running = true ∧ (udpStep proxy arrival).1.gameAddr.isSome = true ∧
      (fun _ => (udpStep proxy arrival).1.seenSeqs) = next.1 ∧
      (udpStep proxy arrival).2 = next.2.map Arrival.payload := by
  obtain ⟨addr, known⟩ := Option.isSome_iff_exists.mp gameAddr
  have delivered : udpStep proxy arrival =
      ((proxy.deliver arrival.pkt).1, (proxy.deliver arrival.pkt).2.map ToGame.payload) := by
    cases path : arrival.path with
    | primary =>
        simp [udpStep, path, UdpProxy.fromPrimary, running, arrival.parsed, arrival.notKeepalive]
    | backup =>
        simp [udpStep, path, UdpProxy.fromBackup, running, arrival.parsed, arrival.notKeepalive]
  obtain ⟨identity, sameAddr⟩ := proxy.deliver_frame arrival.pkt
  intro shared next
  rw [delivered]
  refine ⟨(congrArg Prod.fst identity).trans running, ?_, ?_⟩
  · rw [sameAddr]
    exact gameAddr
  · by_cases seen : arrival.pkt.seqNumber ∈ proxy.seenSeqs
    · have dropped : next = (shared, []) := if_pos seen
      rw [dropped, UdpProxy.deliver, if_pos seen]
      exact ⟨rfl, rfl⟩
    · have accepted : next = _ := if_neg seen
      rw [accepted, UdpProxy.deliver, if_neg seen]
      simp only [known]
      refine ⟨?_, rfl⟩
      funext only
      rw [Function.update_self]
      rfl

theorem winDivertStep_eq {proxy : WinDivertProxy} (arrival : Arrival start) :
    let next := Dedup.step seenLimit Arrival.seqNumber Arrival.path proxy.seenSeqs arrival
    (winDivertStep proxy arrival).1.seenSeqs = next.1 ∧
      (winDivertStep proxy arrival).2 = next.2.map Arrival.payload := by
  have delivered : winDivertStep proxy arrival =
      ((proxy.deliver arrival.path arrival.pkt arrival.order arrival.unlocked).1,
        (proxy.deliver arrival.path arrival.pkt arrival.order arrival.unlocked).2.filterMap
          injectedPayload) := by
    simp [winDivertStep, WinDivertProxy.receive, arrival.parsed, arrival.notKeepalive]
  intro next
  rw [delivered]
  by_cases seen : arrival.pkt.seqNumber ∈ proxy.seenSeqs arrival.path
  · have dropped : next = (proxy.seenSeqs, []) := if_pos seen
    rw [dropped, WinDivertProxy.deliver, if_pos seen]
    exact ⟨rfl, rfl⟩
  · have accepted : next = _ := if_neg seen
    rw [accepted, WinDivertProxy.deliver, if_neg seen]
    cases order : arrival.order with
    | nil =>
        have iterated := arrival.iterated
        rw [order] at iterated
        exact absurd iterated.nil_eq.symm start.tracked
    | cons entry rest =>
        obtain ⟨key, localIp, localPort⟩ := entry
        have read := readPacket_of_carries (carries_buildUdpResponse key.remoteIp localIp
          key.remotePort localPort arrival.pkt.payload)
        refine ⟨?_, ?_⟩
        · exact congrArg Prod.snd (WinDivertProxy.routing_tryUpdate _ arrival.unlocked _)
        · simp only [List.filterMap_cons, List.filterMap_nil, injectedPayload, read]
          rfl

theorem forwardedPayloads_eq (arrivals : List (Arrival start)) :
    ((fun _ => (Machine.run udpStep start.udp arrivals).1.seenSeqs) =
      Dedup.memory seenLimit Arrival.seqNumber (fun _ => ()) arrivals) ∧
    forwardedPayloads arrivals =
      (Dedup.accepted seenLimit Arrival.seqNumber (fun _ => ()) arrivals).map Arrival.payload := by
  have both := Machine.run_simulates
    (fun proxy : UdpProxy => proxy.running = true ∧ proxy.gameAddr.isSome = true)
    (fun proxy _ => proxy.seenSeqs) Arrival.payload
    (fun _ arrival ok => ⟨(udpStep_eq ok.1 ok.2 arrival).1, (udpStep_eq ok.1 ok.2 arrival).2.1⟩)
    (fun _ arrival ok => (udpStep_eq ok.1 ok.2 arrival).2.2) start.udp
    ⟨start.running, start.gameAddr⟩ arrivals
  rw [start.udpSeen] at both
  exact both

theorem injectedPayloads_eq (arrivals : List (Arrival start)) :
    ((Machine.run winDivertStep start.winDivert arrivals).1.seenSeqs =
      Dedup.memory seenLimit Arrival.seqNumber Arrival.path arrivals) ∧
    injectedPayloads arrivals =
      (Dedup.accepted seenLimit Arrival.seqNumber Arrival.path arrivals).map Arrival.payload := by
  have both := Machine.run_simulates (fun _ : WinDivertProxy => True) WinDivertProxy.seenSeqs
    Arrival.payload (fun _ _ _ => trivial) (fun _ arrival _ => winDivertStep_eq arrival)
    start.winDivert trivial arrivals
  rw [start.winDivertSeen] at both
  exact both

/-! ## When the two modes pass on the same payloads -/

/-- Each sequence number that arrives is in the shared set exactly if it is in the set of the
thread it arrives at. -/
def SetsAgree (arrivals : List (Arrival start)) : Prop :=
  ∀ n arrival, arrivals[n]? = some arrival →
    (arrival.seqNumber ∈ (Machine.run udpStep start.udp (arrivals.take n)).1.seenSeqs ↔
      arrival.seqNumber ∈
        (Machine.run winDivertStep start.winDivert (arrivals.take n)).1.seenSeqs arrival.path)

/-- No sequence number arrives by both relays. -/
def OnePath (arrivals : List (Arrival start)) : Prop :=
  ∀ x ∈ arrivals, ∀ y ∈ arrivals, x.seqNumber = y.seqNumber → x.path = y.path

/-- The two modes have passed on the same payloads after every arrival exactly if their sets
agree. With no more arrivals than a set holds, this means that no sequence number comes by
both relays, and then it is also what makes the payloads of the whole run the same. -/
theorem samePayloads_iff (start : Receivers) (arrivals : List (Arrival start)) :
    ((∀ n, (injectedPayloads (arrivals.take n)).Perm (forwardedPayloads (arrivals.take n))) ↔
      SetsAgree arrivals) ∧
    (arrivals.length ≤ seenLimit →
      ((injectedPayloads arrivals).Perm (forwardedPayloads arrivals) ↔ OnePath arrivals)) := by
  refine ⟨?_, fun short => ?_⟩
  · have agree := Dedup.perm_accepted_iff seenLimit Arrival.seqNumber Arrival.payload (fun _ => ())
      Arrival.path arrivals
    constructor
    · intro same n arrival here
      rw [(injectedPayloads_eq _).1, congrFun (forwardedPayloads_eq _).1 ()]
      refine agree.mp (fun n => ?_) n arrival here
      rw [← (forwardedPayloads_eq _).2, ← (injectedPayloads_eq _).2]
      exact (same n).symm
    · intro sets n
      rw [(forwardedPayloads_eq _).2, (injectedPayloads_eq _).2]
      refine (agree.mpr (fun n arrival here => ?_) n).symm
      have both := sets n arrival here
      rw [(injectedPayloads_eq _).1, congrFun (forwardedPayloads_eq _).1 ()] at both
      exact both
  · rw [(forwardedPayloads_eq _).2, (injectedPayloads_eq _).2, List.perm_comm]
    exact Dedup.perm_accepted_iff_apart seenLimit Arrival.seqNumber Arrival.payload Arrival.path
      short

/-- Both modes of the client while one connection is open. -/
def oneConnection : Receivers where
  udp := { UdpProxy.initial 7 ⟨.V4 ⟨10, 1, 0, 1⟩, 443⟩ (some ⟨.V4 ⟨10, 1, 0, 2⟩, 443⟩) 27015 with
    gameAddr := some ⟨.V4 ⟨127, 0, 0, 1⟩, 50000⟩ }
  winDivert := (WinDivertProxy.initial 7 ⟨.V4 ⟨10, 1, 0, 1⟩, 443⟩
    (some ⟨.V4 ⟨10, 1, 0, 2⟩, 443⟩) true).track
      ⟨⟨192, 168, 0, 2⟩, ⟨203, 0, 113, 5⟩, 50000, 27015, []⟩ 0
  running := rfl
  gameAddr := rfl
  tracked := by decide
  udpSeen := rfl
  winDivertSeen := rfl

/-- A copy of one packet. -/
def copyBy (path : RelaySocket) : Arrival oneConnection where
  path := path
  datagram := (PlgPacket.data 7 5 [1]).encode
  pkt := .data 7 5 [1]
  parsed := PlgPacket.parse_encode _
  notKeepalive := (PlgPacket.flags_data 7 5 [1]).1
  now := 0
  order := oneConnection.winDivert.reverseMap.entries
  iterated := .refl _
  unlocked := true

/-- The proxy mode passes on one of the two copies, the other mode both. -/
theorem bothCopies_injected :
    injectedPayloads [copyBy .primary, copyBy .backup] = [[1], [1]] ∧
      forwardedPayloads [copyBy .primary, copyBy .backup] = [[1]] ∧
      ¬ (injectedPayloads [copyBy .primary, copyBy .backup]).Perm
        (forwardedPayloads [copyBy .primary, copyBy .backup]) := by
  rw [(forwardedPayloads_eq _).2, (injectedPayloads_eq _).2]
  decide

end PlgBooster.System
