import PlgBooster.Relay.Isolation
import PlgBooster.Client.UdpProxy

/-!
# Responses through the tunnel

The client's proxy, without multipath, and the relay, joined by a network that
delivers every datagram once and in order. The datagrams in flight are queues of the
joint state; the rest of the relay's traffic may go on meanwhile.

The relay numbers every response 0 and the proxy drops numbers it has seen. After
any run the payloads written to the game are therefore the first response, and
nothing else. A response that leaves no room for the header is not even sent.
-/

namespace PlgBooster.System

open Rust Relay Client

/-- The proxy, the relay and the datagrams in flight, oldest first. -/
structure Tunnel where
  proxy : UdpProxy
  relay : RelayState
  /-- From the proxy to the main socket of the relay. -/
  toRelay : List (List UInt8)
  /-- From the game server to the session's forward socket. -/
  toForward : List (List UInt8)
  /-- From the relay to the proxy. -/
  toProxy : List (List UInt8)

inductive Event where
  | gamePacket (src : SocketAddr) (payload : List UInt8)
  | keepaliveTick (now later : Instant)
  | relayReceives (now : Instant)
  | serverSends (payload : List UInt8)
  | relayResponds
  | proxyReceives (now : Instant)
  /-- Any other step of the relay. -/
  | elsewhere (event : Relay.Event)

/-- The datagrams the relay sends to the proxy's address. -/
def answersTo (proxyAddr : SocketAddr) (outputs : List Outgoing) : List (List UInt8) :=
  outputs.filterMap fun o => match o with
    | .toClient data addr (.sent _) => if addr = proxyAddr then some data else none
    | .toClient _ _ .failed => none
    | .toGame _ _ _ _ => none

/-- The datagrams the proxy sends to the relay. -/
def sentBy (datagrams : List ToRelay) : List (List UInt8) :=
  (datagrams.map (·.data)).filter sendable

/-- One step of the tunnel of the session with forward port `port`, whose proxy sends
from `proxyAddr`. The outputs are what the proxy writes for the game. -/
def Tunnel.step (port : UInt16) (proxyAddr : SocketAddr) (tunnel : Tunnel) :
    Event → Tunnel × List ToGame
  | .gamePacket src payload =>
      let result := tunnel.proxy.fromGame src payload
      ({ tunnel with
        proxy := result.1
        toRelay := tunnel.toRelay ++ sentBy result.2 }, [])
  | .keepaliveTick now later =>
      let result := tunnel.proxy.sendKeepalive now later
      ({ tunnel with
        proxy := result.1
        toRelay := tunnel.toRelay ++ sentBy result.2 }, [])
  | .relayReceives now =>
      match tunnel.toRelay with
      | [] => (tunnel, [])
      | datagram :: rest =>
          let sent := .ofSize (datagram.length - HEADER_SIZE)
          let result := Relay.step tunnel.relay (.clientDatagram datagram proxyAddr now sent)
          ({ tunnel with
            relay := result.1
            toRelay := rest
            toProxy := tunnel.toProxy ++ answersTo proxyAddr result.2 }, [])
  | .serverSends payload => ({ tunnel with toForward := tunnel.toForward ++ [payload] }, [])
  | .relayResponds =>
      match tunnel.toForward with
      | [] => (tunnel, [])
      | datagram :: rest =>
          let sent := .ofSize (HEADER_SIZE + datagram.length)
          let result := Relay.step tunnel.relay (.gameDatagram port datagram sent)
          ({ tunnel with
            relay := result.1
            toForward := rest
            toProxy := tunnel.toProxy ++ answersTo proxyAddr result.2 }, [])
  | .proxyReceives now =>
      match tunnel.toProxy with
      | [] => (tunnel, [])
      | datagram :: rest =>
          let result := tunnel.proxy.fromPrimary datagram now
          ({ tunnel with proxy := result.1, toProxy := rest }, result.2)
  | .elsewhere event =>
      let result := Relay.step tunnel.relay event
      ({ tunnel with
        relay := result.1
        toProxy := tunnel.toProxy ++ answersTo proxyAddr result.2 }, [])

/-- The session stays registered, its datagrams come from the proxy and the game
server only, and no other session answers to the proxy's address. -/
def Stays (token : UInt32) (port : UInt16) (proxyAddr : SocketAddr) (tunnel : Tunnel) :
    Event → Prop
  | .elsewhere event =>
      Undisturbed token tunnel.relay event ∧ concerns token port event = false ∧
        answersTo proxyAddr (Relay.step tunnel.relay event).2 = []
  | _ => True

instance (token : UInt32) (port : UInt16) (proxyAddr : SocketAddr) (tunnel : Tunnel)
    (event : Event) : Decidable (Stays token port proxyAddr tunnel event) := by
  cases event <;> unfold Stays <;> infer_instance

/-- The datagrams the game server sends in a run, in order. -/
def serverSent (events : List Event) : List (List UInt8) :=
  events.filterMap fun e => match e with
    | .serverSends payload => some payload
    | _ => none

theorem serverSent_cons (event : Event) (events : List Event) :
    serverSent (event :: events) = serverSent [event] ++ serverSent events := by
  rw [serverSent, serverSent, serverSent, ← List.filterMap_append]
  rfl

/-- The tunnel right after the proxy has started. -/
def launch (proxy : UdpProxy) (control : List ToRelay) (relay : RelayState) : Tunnel where
  proxy := proxy
  relay := relay
  toRelay := sentBy control
  toForward := []
  toProxy := []

/-- Relay and proxy both know where to reply. -/
def Tunnel.Knows (token : UInt32) (proxyAddr : SocketAddr) (tunnel : Tunnel) : Prop :=
  tunnel.proxy.gameAddr.isSome ∧
    (tunnel.relay.cache.get token).map (·.clientAddr) = some proxyAddr

instance (token : UInt32) (proxyAddr : SocketAddr) (tunnel : Tunnel) :
    Decidable (tunnel.Knows token proxyAddr) :=
  inferInstanceAs (Decidable (_ ∧ _))

/-! ## Invariants -/

/-- The packet a response listener wraps a game server's datagram in. -/
def responsePacket (token : UInt32) (payload : List UInt8) : PlgPacket :=
  { sessionId := token, seqNumber := 0, flags := 0, pathId := 0, payload := payload }

variable {token : UInt32} {port : UInt16} {proxyAddr : SocketAddr} {tunnel : Tunnel}

/-- The proxy runs for the session, and all it sends is in the session's name. -/
structure Up (token : UInt32) (port : UInt16) (tunnel : Tunnel) : Prop where
  good : tunnel.relay.Good
  live : LiveOn token port tunnel.relay
  running : tunnel.proxy.running = true
  named : tunnel.proxy.sessionToken = token
  single : tunnel.proxy.backupRelayAddr = none
  outbound : ∀ datagram ∈ tunnel.toRelay, sessionIdOf datagram = some token

/-- `passed` are the responses that have reached the proxy, `waiting` those on the
way from the relay. -/
structure Carrying (token : UInt32) (port : UInt16) (proxyAddr : SocketAddr) (tunnel : Tunnel)
    (passed waiting : List (List UInt8)) : Prop where
  up : Up token port tunnel
  knows : tunnel.Knows token proxyAddr
  inbound : tunnel.toProxy = waiting.map fun payload => (responsePacket token payload).encode
  seen : tunnel.proxy.seenSeqs = if passed = [] then [] else [0]

/-- No response is on its way or has arrived yet. -/
structure Quiet (token : UInt32) (port : UInt16) (tunnel : Tunnel) : Prop where
  up : Up token port tunnel
  toForward : tunnel.toForward = []
  toProxy : tunnel.toProxy = []
  seen : tunnel.proxy.seenSeqs = []

theorem answersTo_clientDatagram (relay : RelayState) (datagram : List UInt8)
    (source : SocketAddr) (now : Instant) (sendTo : SendResult) :
    answersTo proxyAddr (Relay.step relay (.clientDatagram datagram source now sendTo)).2 =
      [] := by
  refine List.filterMap_eq_nil_iff.mpr fun o member => ?_
  obtain ⟨socket, payload, target, rfl⟩ := clientDatagram_outputs _ _ _ _ _ o member
  rfl

/-- A datagram of the proxy tells the relay where to reply. -/
theorem clientAddr_of_own (proxyAddr : SocketAddr) {relay : RelayState} (good : relay.Good)
    (live : LiveOn token port relay) {datagram : List UInt8}
    (mine : sessionIdOf datagram = some token) (now : Instant) (sendTo : SendResult) :
    ((Relay.step relay (.clientDatagram datagram proxyAddr now sendTo)).1.cache.get token).map
      (·.clientAddr) = some proxyAddr := by
  rw [(step_own good live _ (by simp [concerns, mine])).1]
  obtain ⟨session, here, _⟩ := live
  obtain ⟨packet, parsed, _⟩ := Option.map_eq_some_iff.mp mine
  simp [here, alone, parsed]

/-- The response listener sends what the game server sent to the proxy, if it can be sent. -/
theorem relayResponds_answers {relay : RelayState} (good : relay.Good)
    (live : LiveOn token port relay) (source : proxyAddr.port ≠ 0)
    (reply : (relay.cache.get token).map (·.clientAddr) = some proxyAddr)
    (datagram : List UInt8) :
    let result := Relay.step relay
      (.gameDatagram port datagram (.ofSize (HEADER_SIZE + datagram.length)))
    answersTo proxyAddr result.2 =
        ([datagram].filter wrappable).map (fun payload => (responsePacket token payload).encode) ∧
      (result.1.cache.get token).map (·.clientAddr) = some proxyAddr := by
  intro result
  obtain ⟨session, here, bound⟩ := live
  rw [here, Option.map_some, Option.some.injEq] at reply
  obtain ⟨sessions, _, _, outputs⟩ := onGameDatagram_of_live good here datagram
    (.ofSize (HEADER_SIZE + datagram.length))
  rw [bound] at sessions outputs
  change answersTo proxyAddr (onGameDatagram relay port datagram _).2 = _ ∧
    ((onGameDatagram relay port datagram _).1.cache.get token).map _ = _
  rw [outputs, sessions, if_pos rfl]
  by_cases fits : HEADER_SIZE + datagram.length ≤ MAX_DATAGRAM
  · simp [SessionInfo.onResponse, reply, source, answersTo, responsePacket, SendResult.ofSize,
      wrappable, fits]
  · simp [SessionInfo.onResponse, reply, source, answersTo, SendResult.ofSize, wrappable, fits]

theorem Up.of_proxy (up : Up token port tunnel) {proxy : UdpProxy} {sent : List ToRelay}
    (same : proxy.identity = tunnel.proxy.identity)
    (outputs : ∀ out ∈ sent,
      ∃ pkt : PlgPacket, out.data = pkt.encode ∧ pkt.sessionId = tunnel.proxy.sessionToken) :
    Up token port
      { tunnel with proxy := proxy, toRelay := tunnel.toRelay ++ sentBy sent } := by
  simp only [UdpProxy.identity, Prod.mk.injEq] at same
  obtain ⟨running, named, single⟩ := same
  refine ⟨up.good, up.live, running.trans up.running, named.trans up.named,
    single.trans up.single, fun datagram member => ?_⟩
  rcases List.mem_append.mp member with before | new
  · exact up.outbound datagram before
  · obtain ⟨out, sent, rfl⟩ := List.mem_map.mp (List.mem_filter.mp new).1
    obtain ⟨pkt, encoded, session⟩ := outputs out sent
    simp [sessionIdOf, encoded, session, up.named]

/-- The proxy and the session stay up at every step. -/
theorem up_step (up : Up token port tunnel) (event : Event)
    (stays : Stays token port proxyAddr tunnel event) :
    Up token port (tunnel.step port proxyAddr event).1 := by
  have ⟨good, live, running, named, single, outbound⟩ := up
  cases event with
  | gamePacket src payload =>
      exact up.of_proxy (UdpProxy.fromGame_frame _ _ _).1 (UdpProxy.fromGame_outputs _ _ _)
  | keepaliveTick now later =>
      exact up.of_proxy (UdpProxy.sendKeepalive_frame _ _ _).1
        (UdpProxy.sendKeepalive_outputs _ _ _)
  | relayReceives now =>
      cases queue : tunnel.toRelay with
      | nil => simpa [Tunnel.step, queue] using up
      | cons datagram rest =>
          have undisturbed : Undisturbed token tunnel.relay
              (.clientDatagram datagram proxyAddr now (.ofSize (datagram.length - HEADER_SIZE))) :=
            ⟨trivial, trivial⟩
          simp only [Tunnel.step, queue]
          exact ⟨good_step good trivial, liveOn_step good live _ undisturbed, running, named,
            single, fun d member => outbound d (queue ▸ List.mem_cons_of_mem _ member)⟩
  | serverSends payload => exact ⟨good, live, running, named, single, outbound⟩
  | relayResponds =>
      cases queue : tunnel.toForward with
      | nil => simpa [Tunnel.step, queue] using up
      | cons datagram rest =>
          have undisturbed : Undisturbed token tunnel.relay
              (.gameDatagram port datagram (.ofSize (HEADER_SIZE + datagram.length))) :=
            ⟨trivial, trivial⟩
          simp only [Tunnel.step, queue]
          exact ⟨good_step good trivial, liveOn_step good live _ undisturbed, running, named,
            single, outbound⟩
  | proxyReceives now =>
      cases queue : tunnel.toProxy with
      | nil => simpa [Tunnel.step, queue] using up
      | cons datagram rest =>
          have same := UdpProxy.fromPrimary_identity tunnel.proxy datagram now
          simp only [UdpProxy.identity, Prod.mk.injEq] at same
          simp only [Tunnel.step, queue]
          exact ⟨good, live, same.1.trans running, same.2.1.trans named, same.2.2.trans single,
            outbound⟩
  | elsewhere event =>
      exact ⟨good_step good stays.1.1, liveOn_step good live event stays.1, running, named,
        single, outbound⟩

/-- Until the game server sends something, nothing reaches the game. -/
theorem quiet_step (quiet : Quiet token port tunnel) (event : Event)
    (stays : Stays token port proxyAddr tunnel event) (silent : serverSent [event] = []) :
    Quiet token port (tunnel.step port proxyAddr event).1 ∧
      (tunnel.step port proxyAddr event).2 = [] := by
  have up := up_step quiet.up event stays
  have ⟨_, toForward, toProxy, seen⟩ := quiet
  cases event with
  | gamePacket src payload =>
      exact ⟨⟨up, toForward, toProxy, (UdpProxy.fromGame_frame _ _ _).2.trans seen⟩, rfl⟩
  | keepaliveTick now later =>
      exact ⟨⟨up, toForward, toProxy, (UdpProxy.sendKeepalive_frame _ _ _).2.1.trans seen⟩, rfl⟩
  | relayReceives now =>
      cases queue : tunnel.toRelay with
      | nil => simpa [Tunnel.step, queue] using quiet
      | cons datagram rest =>
          simp only [Tunnel.step, queue, answersTo_clientDatagram, List.append_nil] at up ⊢
          exact ⟨⟨up, toForward, toProxy, seen⟩, trivial⟩
  | serverSends payload => simp [serverSent] at silent
  | relayResponds => simpa [Tunnel.step, toForward] using quiet
  | proxyReceives now => simpa [Tunnel.step, toProxy] using quiet
  | elsewhere event =>
      simp only [Tunnel.step, stays.2.2, List.append_nil] at up ⊢
      exact ⟨⟨up, toForward, toProxy, seen⟩, trivial⟩

theorem quiet_run (quiet : Quiet token port tunnel) (events : List Event)
    (stays : Machine.Legal (Stays token port proxyAddr) (Tunnel.step port proxyAddr) tunnel events)
    (silent : serverSent events = []) :
    Quiet token port (Machine.run (Tunnel.step port proxyAddr) tunnel events).1 ∧
      (Machine.run (Tunnel.step port proxyAddr) tunnel events).2 = [] := by
  induction events generalizing tunnel with
  | nil => exact ⟨quiet, rfl⟩
  | cons event events ih =>
      rw [serverSent_cons] at silent
      obtain ⟨here, later⟩ := List.append_eq_nil_iff.mp silent
      obtain ⟨quiet', nothing⟩ := quiet_step quiet event stays.1 here
      obtain ⟨quiet'', nothing'⟩ := ih quiet' stays.2 later
      exact ⟨quiet'', by rw [Machine.run_cons, nothing, nothing', List.append_nil]⟩

/-- The proxy delivers the first response it receives, and drops the others. -/
theorem fromPrimary_response (token : UInt32) {proxy : UdpProxy} (running : proxy.running = true)
    (known : proxy.gameAddr.isSome) (passed : List (List UInt8))
    (seen : proxy.seenSeqs = if passed = [] then [] else [0]) (payload : List UInt8)
    (now : Instant) :
    let result := proxy.fromPrimary (responsePacket token payload).encode now
    result.1.seenSeqs = [0] ∧ result.1.gameAddr = proxy.gameAddr ∧
      result.2.map (·.payload) = if passed = [] then [payload] else [] := by
  intro result
  have delivered : result = proxy.deliver (responsePacket token payload) := by
    simp [result, UdpProxy.fromPrimary, running, PlgPacket.isKeepalive, responsePacket]
  obtain ⟨addr, known⟩ := Option.isSome_iff_exists.mp known
  refine ⟨?_, delivered ▸ (UdpProxy.deliver_frame _ _).2, ?_⟩
  · rw [delivered]
    by_cases first : passed = []
    · simp [UdpProxy.deliver, responsePacket, seen, first, known]
    · simp [UdpProxy.deliver, responsePacket, seen, first]
  · rw [delivered]
    by_cases first : passed = []
    · simp [UdpProxy.deliver, responsePacket, seen, first, known]
    · simp [UdpProxy.deliver, responsePacket, seen, first]

/-- A reader that finds nothing in its queue moves no response. -/
theorem carrying_idle {passed waiting : List (List UInt8)}
    (carrying : Carrying token port proxyAddr tunnel passed waiting) (event : Event)
    (idle : tunnel.step port proxyAddr event = (tunnel, [])) (silent : serverSent [event] = []) :
    ∃ passed' waiting',
      Carrying token port proxyAddr (tunnel.step port proxyAddr event).1 passed' waiting' ∧
      passed' ++ waiting' ++ (tunnel.step port proxyAddr event).1.toForward.filter wrappable =
        passed ++ waiting ++ tunnel.toForward.filter wrappable ++
          (serverSent [event]).filter wrappable ∧
      passed'.take 1 =
        passed.take 1 ++ (tunnel.step port proxyAddr event).2.map (·.payload) := by
  rw [idle, silent]
  exact ⟨passed, waiting, carrying, (List.append_nil _).symm, (List.append_nil _).symm⟩

/-- One step moves the responses that can be sent along their way, and writes for the game
at most the first one that arrives. -/
theorem carrying_step (source : proxyAddr.port ≠ 0) {passed waiting : List (List UInt8)}
    (carrying : Carrying token port proxyAddr tunnel passed waiting) (event : Event)
    (stays : Stays token port proxyAddr tunnel event) :
    ∃ passed' waiting',
      Carrying token port proxyAddr (tunnel.step port proxyAddr event).1 passed' waiting' ∧
      passed' ++ waiting' ++ (tunnel.step port proxyAddr event).1.toForward.filter wrappable =
        passed ++ waiting ++ tunnel.toForward.filter wrappable ++
          (serverSent [event]).filter wrappable ∧
      passed'.take 1 =
        passed.take 1 ++ (tunnel.step port proxyAddr event).2.map (·.payload) := by
  have up := up_step carrying.up event stays
  have ⟨⟨good, live, running, named, _, outbound⟩, ⟨gameKnown, reply⟩, inbound, seen⟩ := carrying
  cases event with
  | gamePacket src payload =>
      refine ⟨passed, waiting, ⟨up, ⟨?_, reply⟩, inbound, ?_⟩, by simp [Tunnel.step, serverSent],
        by simp [Tunnel.step]⟩
      · simp [Tunnel.step, UdpProxy.fromGame_gameAddr running]
      · exact (UdpProxy.fromGame_frame _ _ _).2.trans seen
  | keepaliveTick now later =>
      obtain ⟨_, sameSeen, sameAddr⟩ := UdpProxy.sendKeepalive_frame tunnel.proxy now later
      refine ⟨passed, waiting, ⟨up, ⟨?_, reply⟩, inbound, sameSeen.trans seen⟩,
        by simp [Tunnel.step, serverSent], by simp [Tunnel.step]⟩
      change ((tunnel.proxy.sendKeepalive now later).1.gameAddr).isSome
      rw [sameAddr]
      exact gameKnown
  | relayReceives now =>
      cases queue : tunnel.toRelay with
      | nil =>
          refine carrying_idle carrying (.relayReceives now) ?_ rfl
          simp only [Tunnel.step, queue]
      | cons datagram rest =>
          have mine : sessionIdOf datagram = some token :=
            outbound datagram (queue ▸ List.mem_cons_self)
          have reply' := clientAddr_of_own proxyAddr good live mine now
            (.ofSize (datagram.length - HEADER_SIZE))
          simp only [Tunnel.step, queue, answersTo_clientDatagram, List.append_nil] at up ⊢
          exact ⟨passed, waiting, ⟨up, ⟨gameKnown, reply'⟩, inbound, seen⟩, by simp [serverSent],
            by simp⟩
  | serverSends payload =>
      exact ⟨passed, waiting, ⟨up, ⟨gameKnown, reply⟩, inbound, seen⟩,
        by simp [Tunnel.step, serverSent], by simp [Tunnel.step]⟩
  | relayResponds =>
      cases queue : tunnel.toForward with
      | nil =>
          rw [← queue]
          refine carrying_idle carrying .relayResponds ?_ rfl
          simp only [Tunnel.step, queue]
      | cons datagram rest =>
          obtain ⟨answered, reply'⟩ := relayResponds_answers good live source reply datagram
          simp only [Tunnel.step, queue, answered] at up ⊢
          refine ⟨passed, waiting ++ [datagram].filter wrappable,
            ⟨up, ⟨gameKnown, reply'⟩, by simp [inbound], seen⟩, ?_, by simp⟩
          rw [← List.singleton_append (l := rest), List.filter_append]
          simp [serverSent]
  | proxyReceives now =>
      cases waiting with
      | nil =>
          have queue : tunnel.toProxy = [] := inbound
          refine carrying_idle carrying (.proxyReceives now) ?_ rfl
          simp only [Tunnel.step, queue]
      | cons payload waiting =>
          obtain ⟨seen', sameAddr, wrote⟩ :=
            fromPrimary_response token running gameKnown passed seen payload now
          simp only [Tunnel.step, inbound, List.map_cons] at up ⊢
          refine ⟨passed ++ [payload], waiting, ⟨up, ⟨sameAddr ▸ gameKnown, reply⟩, rfl, ?_⟩,
            by simp [serverSent], ?_⟩
          · simpa using seen'
          · rw [wrote]
            cases passed <;> simp
  | elsewhere event =>
      obtain ⟨undisturbed, notMine, nothing⟩ := stays
      have same := (step_other good live event undisturbed notMine).1
      simp only [Tunnel.step, nothing, List.append_nil] at up ⊢
      exact ⟨passed, waiting, ⟨up, ⟨gameKnown, by rw [same]; exact reply⟩, inbound, seen⟩,
        by simp [serverSent], by simp⟩

/-- What was sent and can be is what has passed the proxy and what is still on its way; of
the part that has passed, the game was given the first. -/
theorem carrying_run (source : proxyAddr.port ≠ 0) {passed waiting : List (List UInt8)}
    (carrying : Carrying token port proxyAddr tunnel passed waiting) (events : List Event)
    (stays : Machine.Legal (Stays token port proxyAddr) (Tunnel.step port proxyAddr) tunnel
      events) :
    let result := Machine.run (Tunnel.step port proxyAddr) tunnel events
    ∃ passed' waiting', Carrying token port proxyAddr result.1 passed' waiting' ∧
      passed' ++ waiting' ++ result.1.toForward.filter wrappable =
        passed ++ waiting ++ tunnel.toForward.filter wrappable ++
          (serverSent events).filter wrappable ∧
      passed'.take 1 = passed.take 1 ++ result.2.map (·.payload) := by
  induction events generalizing tunnel passed waiting with
  | nil => exact ⟨passed, waiting, carrying, by simp [serverSent], by simp⟩
  | cons event events ih =>
      obtain ⟨passed₁, waiting₁, carrying₁, conserved₁, wrote₁⟩ :=
        carrying_step source carrying event stays.1
      obtain ⟨passed₂, waiting₂, carrying₂, conserved₂, wrote₂⟩ := ih carrying₁ stays.2
      refine ⟨passed₂, waiting₂, carrying₂, ?_, ?_⟩
      · rw [Machine.run_cons, conserved₂, conserved₁, serverSent_cons event events,
          List.filter_append, List.append_assoc]
      · rw [Machine.run_cons, wrote₂, wrote₁, List.map_append, List.append_assoc]

/-! ## Runs of a boost -/

/-- A run of a proxy without multipath over a relay on which its session stays
registered: `setup` until relay and proxy know where to reply, and `traffic` until
nothing is in flight any more. -/
structure TunnelRun (token : UInt32) (port : UInt16) (proxyAddr : SocketAddr) where
  relay : RelayState
  reached : Reached relay
  live : LiveOn token port relay
  proxy : UdpProxy
  control : List ToRelay
  started : ∃ relayAddr backupRelayAddr gameTarget localPort results,
    UdpProxy.start token relayAddr backupRelayAddr gameTarget localPort false results =
      .ok (proxy, control)
  setup : List Event
  traffic : List Event
  source : proxyAddr.port ≠ 0
  stays : Machine.Legal (Stays token port proxyAddr) (Tunnel.step port proxyAddr)
    (launch proxy control relay) (setup ++ traffic)
  silent : serverSent setup = []
  knows : (Machine.run (Tunnel.step port proxyAddr) (launch proxy control relay)
    setup).1.Knows token proxyAddr
  drained : (Machine.run (Tunnel.step port proxyAddr) (launch proxy control relay)
      (setup ++ traffic)).1.toForward = [] ∧
    (Machine.run (Tunnel.step port proxyAddr) (launch proxy control relay)
      (setup ++ traffic)).1.toProxy = []

namespace TunnelRun

/-- The payloads the proxy writes to the local game socket. -/
def delivered (r : TunnelRun token port proxyAddr) : List (List UInt8) :=
  (Machine.run (Tunnel.step port proxyAddr) (launch r.proxy r.control r.relay)
    (r.setup ++ r.traffic)).2.map (·.payload)

/-- The datagrams the game server sends to the session's forward socket. -/
def sent (r : TunnelRun token port proxyAddr) : List (List UInt8) :=
  serverSent (r.setup ++ r.traffic)

theorem quiet_launch (r : TunnelRun token port proxyAddr) :
    Quiet token port (launch r.proxy r.control r.relay) := by
  obtain ⟨relayAddr, backup, gameTarget, localPort, results, started⟩ := r.started
  obtain ⟨actualPort, ok⟩ := UdpProxy.start_eq_ok started
  let fresh := UdpProxy.initial token relayAddr none actualPort
  have sameProxy : r.proxy = (fresh.sendControl gameTarget).1 := congrArg Prod.fst ok
  have sameControl : r.control = (fresh.sendControl gameTarget).2 := congrArg Prod.snd ok
  obtain ⟨identity, seen⟩ := fresh.sendControl_frame gameTarget
  rw [← sameProxy] at identity seen
  simp only [UdpProxy.identity, Prod.mk.injEq] at identity
  refine ⟨⟨r.reached.good, r.live, identity.1, identity.2.1, identity.2.2, ?_⟩, rfl, rfl, seen⟩
  intro datagram member
  obtain ⟨out, sent, rfl⟩ := List.mem_map.mp (List.mem_filter.mp member).1
  rw [sameControl] at sent
  obtain ⟨seq, encoded⟩ := UdpProxy.sendControl_outputs _ _ out sent
  simp [sessionIdOf, encoded, PlgPacket.control, fresh, UdpProxy.initial]

/-- Whatever the server sends and however the run is interleaved, the game receives
exactly the first response that can be sent on. -/
theorem delivered_eq_take (r : TunnelRun token port proxyAddr) :
    r.delivered = (r.sent.filter wrappable).take 1 := by
  obtain ⟨staysSetup, staysTraffic⟩ := (Machine.legal_append _ _ _).mp r.stays
  obtain ⟨quiet, nothing⟩ := quiet_run r.quiet_launch r.setup staysSetup r.silent
  have begins : Carrying token port proxyAddr (Machine.run (Tunnel.step port proxyAddr)
      (launch r.proxy r.control r.relay) r.setup).1 [] [] :=
    ⟨quiet.up, r.knows, quiet.toProxy, quiet.seen⟩
  obtain ⟨passed, waiting, carrying, conserved, wrote⟩ :=
    carrying_run r.source begins r.traffic staysTraffic
  have drained := r.drained
  rw [Machine.run_append] at drained
  have arrived : waiting = [] := by
    have queue := carrying.inbound
    rw [drained.2] at queue
    exact List.map_eq_nil_iff.mp queue.symm
  have sent : r.sent.filter wrappable = passed := by
    rw [drained.1, arrived, quiet.toForward] at conserved
    simp only [List.append_nil, List.nil_append, List.filter_nil] at conserved
    rw [conserved, TunnelRun.sent, serverSent, List.filterMap_append]
    exact congrArg (fun before => (before ++ serverSent r.traffic).filter wrappable) r.silent
  rw [sent, wrote, delivered, Machine.run_append, nothing]
  rfl

/-- The game receives all responses of a run if and only if there is at most one, and it
leaves room for the header. -/
theorem delivered_eq_sent_iff (r : TunnelRun token port proxyAddr) :
    r.delivered = r.sent ↔
      r.sent.length ≤ 1 ∧ ∀ payload ∈ r.sent, payload.length ≤ 65497 := by
  rw [r.delivered_eq_take]
  constructor
  · intro all
    have short : r.sent.length ≤ 1 := by
      rw [← all]
      exact List.length_take_le _ _
    refine ⟨short, fun payload member => ?_⟩
    rw [← all] at member
    exact wrappable_iff.mp (List.mem_filter.mp (List.mem_of_mem_take member)).2
  · rintro ⟨short, fits⟩
    rw [List.filter_eq_self.mpr fun payload member => wrappable_iff.mpr (fits payload member)]
    exact List.take_of_length_le short

end TunnelRun

/-- The relay with session 7 registered on port 40000. -/
def registeredRelay : RelayState :=
  (registerSession (Relay.start 5 300) 7 ["10.0.0.1"] ["27015"] (.bound 40000) 0).1

/-- The game says hello, and the server answers twice. -/
def twoResponses : TunnelRun 7 40000 ⟨.V4 ⟨192, 168, 0, 2⟩, 5000⟩ where
  relay := registeredRelay
  reached := ⟨5, 300, [.register 7 ["10.0.0.1"] ["27015"] (.bound 40000) 0], by decide, rfl⟩
  live := ⟨_, rfl, rfl⟩
  proxy := ((UdpProxy.initial 7 ⟨.V4 ⟨203, 0, 113, 1⟩, 443⟩ none 27015).sendControl
    "10.0.0.1:27015").1
  control := ((UdpProxy.initial 7 ⟨.V4 ⟨203, 0, 113, 1⟩, 443⟩ none 27015).sendControl
    "10.0.0.1:27015").2
  started := ⟨⟨.V4 ⟨203, 0, 113, 1⟩, 443⟩, none, "10.0.0.1:27015", 27015,
    ⟨.ok 27015, .ok (), .ok (), .ok ()⟩, rfl⟩
  setup := [.gamePacket ⟨.V4 ⟨127, 0, 0, 1⟩, 61000⟩ [1], .relayReceives 1, .relayReceives 2]
  traffic := [.serverSends [2], .serverSends [3], .relayResponds, .relayResponds,
    .proxyReceives 3, .proxyReceives 4]
  source := by decide
  stays := by decide
  silent := by decide
  knows := by decide
  drained := by decide

theorem second_response_lost : twoResponses.delivered ≠ twoResponses.sent := by decide

end PlgBooster.System
