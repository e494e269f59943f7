import PlgBooster.System.Interception
import PlgBooster.Relay.Reflection
import PlgBooster.System.Responses

/-!
# Responses on their way in

A response says nothing about the server it comes from, so the WinDivert proxy injects it as
an answer of the first entry of its reverse map. That entry is the right one, whatever the
order of the map, exactly while all captured packets went to the server that answers. A
second response on a path is dropped, for the relay numbers all responses 0.
-/

namespace PlgBooster.System

open Rust Relay Client

variable {token : UInt32}

/-- A datagram of a game server that a relay relays to the client of a session. -/
structure Response (token : UInt32) where
  server : Ipv4Addr × UInt16
  relay : RelayState
  port : UInt16
  payload : List UInt8
  data : List UInt8
  client : SocketAddr
  result : SendResult
  owner : relay.cache.tokenByPort port = some token
  relayed : .toClient data client result ∈
    (Relay.step relay (.gameDatagram port payload result)).2

/-- What a proxy can have met: a packet it captured, a tick, or a response by one of the
relays, with the order in which the reverse map was iterated. -/
inductive Happening (token : UInt32) where
  | captured (data : List UInt8) (packet : UdpPacket) (carries : Carries data packet)
      (now : Instant) (unlocked : Bool)
  | keepaliveTick (now later : Instant)
  | response (path : RelaySocket) (relayed : Response token) (now : Instant)
      (order : List ReverseEntry) (unlocked : Bool)

def Happening.input : Happening token → WinDivertProxy.Input
  | .captured data _ _ now unlocked => .captured data now unlocked
  | .keepaliveTick now later => .keepaliveTick now later
  | .response path relayed now order unlocked =>
      .received path relayed.data now order unlocked

/-- The packets captured so far. -/
def capturedPackets (history : List (Happening token)) : List UdpPacket :=
  history.filterMap fun h => match h with
    | .captured _ packet _ _ _ => some packet
    | .keepaliveTick _ _ => none
    | .response _ _ _ _ _ => none

/-- A response has come by the relay of the path. -/
def Answered (path : RelaySocket) (history : List (Happening token)) : Prop :=
  ∃ relayed now order unlocked, .response path relayed now order unlocked ∈ history

/-- The proxy of a session after what it has met. -/
def proxyAfter (relayAddr : SocketAddr) (backupRelayAddr : Option SocketAddr)
    (multipathEnabled : Bool) (history : List (Happening token)) : WinDivertProxy :=
  (Machine.run WinDivertProxy.step (.initial token relayAddr backupRelayAddr multipathEnabled)
    (history.map Happening.input)).1

/-- A packet looks like one from the server of the response, to a local end from which a packet
to that server has been captured. -/
def Answers (history : List (Happening token)) (response : Response token)
    (data : List UInt8) : Prop :=
  ∃ packet, Carries data packet ∧ (packet.srcIp, packet.srcPort) = response.server ∧
    ∃ sent ∈ capturedPackets history, (sent.dstIp, sent.dstPort) = response.server ∧
      (packet.dstIp, packet.dstPort) = (sent.srcIp, sent.srcPort)

/-! ## What the proxy knows -/

def keyOf (packet : UdpPacket) : ReverseKey := ⟨packet.dstIp, packet.dstPort⟩

/-- The proxy has seen a response on the paths that were answered, and knows the local ends of
the connections of the captured packets. -/
structure Knows (proxy : WinDivertProxy) (history : List (Happening token)) : Prop where
  seen : ∀ path, Answered path history ∧ proxy.seenSeqs path = [0] ∨
    ¬ Answered path history ∧ proxy.seenSeqs path = []
  sound : ∀ key localEnd, proxy.reverseMap.lookup key = some localEnd →
    ∃ packet ∈ capturedPackets history, key = keyOf packet ∧
      localEnd = (packet.srcIp, packet.srcPort)
  complete : ∀ packet ∈ capturedPackets history, (proxy.reverseMap.lookup (keyOf packet)).isSome

theorem capturedPackets_append (first second : List (Happening token)) :
    capturedPackets (first ++ second) = capturedPackets first ++ capturedPackets second :=
  List.filterMap_append

theorem answered_append (path : RelaySocket) (history : List (Happening token))
    (last : Happening token) :
    Answered path (history ++ [last]) ↔ Answered path history ∨
      ∃ relayed now order unlocked, last = .response path relayed now order unlocked := by
  simp only [Answered, List.mem_append, List.mem_singleton, exists_or, eq_comm (b := last)]

theorem Response.data_eq (response : Response token) :
    response.data = (responsePacket token response.payload).encode := by
  obtain ⟨port, payload, token', session, same, owner, _, _, _, bytes⟩ :=
    toClient_cases response.relayed
  obtain ⟨rfl, rfl, _⟩ := Relay.Event.gameDatagram.inj same
  obtain rfl : token' = token := Option.some.inj (owner.symm.trans response.owner)
  rw [bytes]
  simp [responsePacket, PlgPacket.encode, u32ToBeBytes]

theorem receive_response (proxy : WinDivertProxy) (path : RelaySocket) (response : Response token)
    (now : Instant) (order : List ReverseEntry) (unlocked : Bool) :
    proxy.receive path response.data now order unlocked =
      proxy.deliver path (responsePacket token response.payload) order unlocked := by
  rw [response.data_eq]
  simp [WinDivertProxy.receive, PlgPacket.isKeepalive, responsePacket]

/-- The relay numbers all responses 0. -/
theorem routing_deliver (proxy : WinDivertProxy) (path : RelaySocket) (payload : List UInt8)
    (order : List ReverseEntry) (unlocked : Bool)
    (seen : proxy.seenSeqs path = [0] ∨ proxy.seenSeqs path = []) :
    (proxy.deliver path (responsePacket token payload) order unlocked).1.routing =
      (proxy.reverseMap, Function.update proxy.seenSeqs path [0]) := by
  rcases seen with again | first
  · have same : Function.update proxy.seenSeqs path [0] = proxy.seenSeqs := by
      rw [← again]
      exact Function.update_eq_self path proxy.seenSeqs
    simp [WinDivertProxy.deliver, responsePacket, again, WinDivertProxy.routing, same]
  · cases order with
    | nil => simp [WinDivertProxy.deliver, responsePacket, first, WinDivertProxy.routing]
    | cons entry rest =>
        simp only [WinDivertProxy.deliver, responsePacket, first, List.not_mem_nil, if_false,
          WinDivertProxy.routing_tryUpdate]
        rfl

/-- Without a captured packet only the numbers of the responses are new. -/
theorem Knows.of_same {proxy proxy' : WinDivertProxy} {history history' : List (Happening token)}
    (knows : Knows proxy history) (map : proxy'.reverseMap = proxy.reverseMap)
    (packets : capturedPackets history' = capturedPackets history)
    (seen : ∀ path, Answered path history' ∧ proxy'.seenSeqs path = [0] ∨
      ¬ Answered path history' ∧ proxy'.seenSeqs path = []) : Knows proxy' history' := by
  refine ⟨seen, ?_, ?_⟩
  · rw [map, packets]
    exact knows.sound
  · rw [map, packets]
    exact knows.complete

/-- The proxy learns from every captured packet and from every response. -/
theorem Knows.step {proxy : WinDivertProxy} {history : List (Happening token)}
    (knows : Knows proxy history) (last : Happening token) :
    Knows (proxy.step last.input).1 (history ++ [last]) := by
  have seen := knows.seen
  cases last with
  | captured data packet carries now unlocked =>
      have learnt := proxy.routing_capture (readPacket_of_carries carries) now unlocked
      have map : (proxy.capture data now unlocked).1.reverseMap =
          proxy.reverseMap.insert (keyOf packet) (packet.srcIp, packet.srcPort) :=
        congrArg Prod.fst learnt
      have numbers : (proxy.capture data now unlocked).1.seenSeqs = proxy.seenSeqs :=
        congrArg Prod.snd learnt
      refine ⟨fun path => ?_, fun key localEnd found => ?_, fun sent member => ?_⟩
      · simpa [answered_append, WinDivertProxy.step, Happening.input, numbers] using seen path
      · change AList.lookup key (proxy.capture data now unlocked).1.reverseMap = _ at found
        rw [map] at found
        rw [capturedPackets_append]
        by_cases here : key = keyOf packet
        · subst here
          rw [AList.lookup_insert] at found
          exact ⟨packet, List.mem_append_right _ (List.mem_singleton_self _), rfl,
            (Option.some.inj found).symm⟩
        · rw [AList.lookup_insert_ne here] at found
          obtain ⟨earlier, member, rest⟩ := knows.sound key localEnd found
          exact ⟨earlier, List.mem_append_left _ member, rest⟩
      · change (AList.lookup (keyOf sent) (proxy.capture data now unlocked).1.reverseMap).isSome
        rw [map, AList.lookup_isSome, AList.mem_insert, ← AList.lookup_isSome]
        rw [capturedPackets_append] at member
        rcases List.mem_append.mp member with earlier | now
        · exact .inr (knows.complete sent earlier)
        · exact .inl (congrArg keyOf (List.mem_singleton.mp now))
  | keepaliveTick now later =>
      have same := proxy.routing_sendKeepalive now later
      have map : (proxy.sendKeepalive now later).1.reverseMap = proxy.reverseMap :=
        congrArg Prod.fst same
      have numbers : (proxy.sendKeepalive now later).1.seenSeqs = proxy.seenSeqs :=
        congrArg Prod.snd same
      have packets : capturedPackets (history ++ [.keepaliveTick now later]) =
          capturedPackets history := (capturedPackets_append _ _).trans (List.append_nil _)
      refine knows.of_same map packets fun path => ?_
      simpa [answered_append, WinDivertProxy.step, Happening.input, numbers] using seen path
  | response path relayed now order unlocked =>
      have same : (proxy.receive path relayed.data now order unlocked).1.routing =
          (proxy.reverseMap, Function.update proxy.seenSeqs path [0]) := by
        rw [receive_response]
        exact routing_deliver proxy path _ order unlocked ((seen path).imp And.right And.right)
      have map : (proxy.receive path relayed.data now order unlocked).1.reverseMap =
          proxy.reverseMap := congrArg Prod.fst same
      have numbers : (proxy.receive path relayed.data now order unlocked).1.seenSeqs =
          Function.update proxy.seenSeqs path [0] := congrArg Prod.snd same
      have packets : capturedPackets (history ++ [.response path relayed now order unlocked]) =
          capturedPackets history := (capturedPackets_append _ _).trans (List.append_nil _)
      refine knows.of_same map packets fun other => ?_
      change _ ∧ (proxy.receive path relayed.data now order unlocked).1.seenSeqs other = _ ∨
        _ ∧ (proxy.receive path relayed.data now order unlocked).1.seenSeqs other = _
      rw [numbers, answered_append]
      by_cases here : other = path
      · subst here
        exact .inl ⟨.inr ⟨relayed, now, order, unlocked, rfl⟩, Function.update_self _ _ _⟩
      · rw [Function.update_of_ne here]
        simpa [Ne.symm here] using seen other

/-- The induction is on the history from its end, since the proxy's knowledge grows there. -/
theorem knows_proxyAfter (relayAddr : SocketAddr) (backupRelayAddr : Option SocketAddr)
    (multipathEnabled : Bool) (history : List (Happening token)) :
    Knows (proxyAfter relayAddr backupRelayAddr multipathEnabled history) history := by
  induction history using List.reverseRecOn with
  | nil =>
      refine ⟨fun path => .inr ⟨?_, rfl⟩, fun key localEnd found => ?_, fun packet member => ?_⟩
      · simp [Answered]
      · simp [proxyAfter, WinDivertProxy.initial] at found
      · simp [capturedPackets] at member
  | append_singleton history last ih =>
      have step := ih.step last
      simp only [proxyAfter, List.map_append, Machine.run_append] at step ⊢
      exact step

/-! ## What is injected -/

/-- The first response on a path is injected as an answer of the first entry, the others are
dropped. -/
theorem Knows.injected {proxy : WinDivertProxy} {history : List (Happening token)}
    (knows : Knows proxy history) (path : RelaySocket) (response : Response token) (now : Instant)
    (order : List ReverseEntry) (unlocked : Bool) (data : List UInt8) :
    .inject data ∈ (proxy.receive path response.data now order unlocked).2 ↔
      ¬ Answered path history ∧ ∃ entry ∈ order.head?, data =
        buildUdpResponse entry.1.remoteIp entry.2.1 entry.1.remotePort entry.2.2
          response.payload := by
  rw [receive_response]
  rcases knows.seen path with ⟨answered, again⟩ | ⟨unanswered, first⟩
  · simp [WinDivertProxy.deliver, responsePacket, again, answered]
  · cases order with
    | nil => simp [WinDivertProxy.deliver, responsePacket, first]
    | cons entry rest => simp [WinDivertProxy.deliver, responsePacket, first, unanswered]

/-- Whatever the order of the reverse map, what is injected answers for the server that sent
the response, if and only if the path has been answered before, so that nothing is injected,
or all packets were captured on their way to this server. -/
theorem injected_answers_iff (relayAddr : SocketAddr) (backupRelayAddr : Option SocketAddr)
    (multipathEnabled : Bool) (history : List (Happening token)) (path : RelaySocket)
    (response : Response token) (now : Instant) (unlocked : Bool) :
    let proxy := proxyAfter relayAddr backupRelayAddr multipathEnabled history
    (∀ order, order.Perm proxy.reverseMap.entries → ∀ data,
      .inject data ∈ (proxy.receive path response.data now order unlocked).2 →
        Answers history response data) ↔
      Answered path history ∨
        ∀ packet ∈ capturedPackets history, (packet.dstIp, packet.dstPort) = response.server := by
  intro proxy
  have knows : Knows proxy history :=
    knows_proxyAfter relayAddr backupRelayAddr multipathEnabled history
  constructor
  · intro right
    by_cases answered : Answered path history
    · exact .inl answered
    · refine .inr fun packet captured => ?_
      -- The entry of this packet can come first.
      obtain ⟨localEnd, found⟩ := Option.isSome_iff_exists.mp (knows.complete packet captured)
      let entry : ReverseEntry := ⟨keyOf packet, localEnd⟩
      have member : entry ∈ proxy.reverseMap.entries := AList.mem_lookup_iff.mp found
      obtain ⟨built, carries, source, _⟩ :=
        right (entry :: proxy.reverseMap.entries.erase entry) (List.perm_cons_erase member).symm _
          ((knows.injected path response now _ unlocked _).mpr ⟨answered, entry, rfl, rfl⟩)
      rw [← source, carries.unique (carries_buildUdpResponse _ _ _ _ _)]
      rfl
  · intro condition order perm data injected
    obtain ⟨unanswered, entry, first, rfl⟩ :=
      (knows.injected path response now order unlocked data).mp injected
    obtain ⟨key, localEnd⟩ := entry
    have member : ⟨key, localEnd⟩ ∈ proxy.reverseMap.entries :=
      perm.subset (List.mem_of_mem_head? first)
    obtain ⟨sent, captured, rfl, rfl⟩ :=
      knows.sound key localEnd (AList.mem_lookup_iff.mpr member)
    have toServer := condition.resolve_left unanswered sent captured
    exact ⟨_, carries_buildUdpResponse _ _ _ _ _, toServer, sent, captured, toServer, rfl⟩

/-- Two packets have been captured, to two servers. -/
def twoConnections : List (Happening 7) :=
  toTwoServers.map fun packet =>
    .captured (gamePacket packet) packet (carries_gamePacket packet) 0 true

/-- The relay with session 7, whose client has said where it is. -/
def answeringRelay : RelayState :=
  (Machine.run Relay.step (Relay.start 5 300)
    [.register 7 ["10.0.0.1", "10.0.0.2"] ["27015"] (.bound 40000) 0,
      .clientDatagram (PlgPacket.data 7 1 [1]).encode ⟨.V4 ⟨192, 168, 0, 2⟩, 6000⟩ 1 .failed]).1

/-- The second server answers. -/
def secondServerResponse : Response 7 where
  server := (⟨10, 0, 0, 2⟩, 27015)
  relay := answeringRelay
  port := 40000
  payload := [9]
  data := (responsePacket 7 [9]).encode
  client := ⟨.V4 ⟨192, 168, 0, 2⟩, 6000⟩
  result := .sent 11
  owner := by decide
  relayed := by decide

/-- The response of the second server can be injected as one of the first. -/
theorem response_of_wrong_server :
    let proxy := proxyAfter ⟨.V4 ⟨10, 1, 0, 1⟩, 443⟩ none false twoConnections
    ∃ order, order.Perm proxy.reverseMap.entries ∧ ∃ data,
      .inject data ∈
        (proxy.receive .primary secondServerResponse.data 2 order true).2 ∧
        ¬ Answers twoConnections secondServerResponse data := by
  intro proxy
  let first : ReverseEntry := ⟨⟨⟨10, 0, 0, 1⟩, 27015⟩, ⟨192, 168, 0, 2⟩, 5000⟩
  let second : ReverseEntry := ⟨⟨⟨10, 0, 0, 2⟩, 27015⟩, ⟨192, 168, 0, 2⟩, 5000⟩
  have knows : Knows proxy twoConnections := knows_proxyAfter _ _ _ _
  have unanswered : ¬ Answered .primary twoConnections := by
    simp [Answered, twoConnections, toTwoServers]
  refine ⟨[first, second], by decide, _,
    (knows.injected .primary secondServerResponse 2 _ true _).mpr ⟨unanswered, first, rfl, rfl⟩, ?_⟩
  rintro ⟨packet, carries, source, _⟩
  rw [carries.unique (carries_buildUdpResponse _ _ _ _ _)] at source
  exact absurd source (by decide)

end PlgBooster.System
