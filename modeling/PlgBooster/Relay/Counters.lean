import PlgBooster.Relay.System

/-!
# The traffic counters

Every exit of the client loop counts the packet once: as invalid, as a keepalive, as
dropped or as forwarded, and the one uncounted exit is an accepted control packet. A
response listener counts its response as forwarded after a failed `send_to` too. What the
counters of a run add up to is the total of what its steps add, so the failed responses
are exactly what the forwarded packets are too many by.
-/

namespace PlgBooster.Relay

open Rust

/-- The counters of the traffic, without the gauge. -/
def SessionCache.traffic (cache : SessionCache) : Metrics :=
  { cache.metrics with activeSessions := 0 }

/-- A datagram the relay has sent to a game server. -/
def Outgoing.reachedGame : Outgoing → Bool
  | .toGame _ _ _ (.sent _) => true
  | _ => false

/-- A datagram the relay has sent, in either direction. -/
def Outgoing.succeeded : Outgoing → Bool
  | .toGame _ _ _ (.sent _) => true
  | .toClient _ _ (.sent _) => true
  | _ => false

/-- The packet is a control packet whose target the session may be forwarded to. -/
def SessionInfo.acceptsControl (session : SessionInfo) (packet : PlgPacket) : Bool :=
  !packet.isKeepalive && packet.isControl &&
    (parseControlPayload packet.payload).any fun target =>
      decide (target.ip.display ∈ session.gameServerIps)

/-- The number of control packets that are accepted in this step: none or one. -/
def acceptedControls (state : RelayState) : Event → Nat
  | .clientDatagram datagram _ _ _ =>
      match addressee state.cache datagram with
      | some (packet, session) => (session.acceptsControl packet).toNat
      | none => 0
  | _ => 0

/-- Where the response listener of a forward socket sends what it receives: to the client of
the live session that owns the port, once its address is known. -/
def recipient (state : RelayState) (localPort : UInt16) : Option SocketAddr :=
  if ⟨localPort⟩ ∈ state.listeners then
    (((state.cache.tokenByPort localPort).bind state.cache.get).map (·.clientAddr)).filter
      (·.port ≠ 0)
  else none

/-- No response is lost in this step: the main socket sends what there is to send. -/
def KeepsResponses (state : RelayState) : Event → Prop
  | .gameDatagram localPort _ .failed => recipient state localPort = none
  | _ => True

instance (state : RelayState) : (event : Event) → Decidable (KeepsResponses state event)
  | .gameDatagram localPort _ .failed =>
      inferInstanceAs (Decidable (recipient state localPort = none))
  | .gameDatagram _ _ (.sent _) => .isTrue trivial
  | .clientDatagram _ _ _ _ => .isTrue trivial
  | .register _ _ _ _ _ => .isTrue trivial
  | .unregister _ => .isTrue trivial
  | .cleanup _ => .isTrue trivial

/-- Every received packet is in one of the counters or accepted as a control packet, and
the forwarded packets are the ones that were sent. -/
def CountersAddUp (maxSessions : Nat) (sessionTimeout : Duration) (events : List Event) : Prop :=
  let relay := start maxSessions sessionTimeout
  let after := Machine.run step relay events
  let metrics := after.1.cache.metrics
  metrics.packetsReceived =
      metrics.invalidSessions + metrics.keepalives + metrics.packetsDropped +
        Machine.total acceptedControls step relay events + after.2.countP Outgoing.reachedGame ∧
    metrics.packetsForwarded = after.2.countP Outgoing.succeeded

/-! ## What one step counts -/

namespace SessionCache

/-- The packets that went nowhere, and not because they were accepted as control packets. -/
def unforwarded (cache : SessionCache) : Nat :=
  cache.metrics.invalidSessions + cache.metrics.keepalives + cache.metrics.packetsDropped

@[simp] theorem metrics_put (cache : SessionCache) (token : UInt32) (session : SessionInfo) :
    (cache.put token session).metrics = cache.metrics := rfl

@[simp] theorem metrics_count (cache : SessionCache) (update : Metrics → Metrics) :
    (cache.count update).metrics = update cache.metrics := rfl

theorem ignoresMaps_traffic : IgnoresMaps traffic := fun _ _ _ _ => rfl

end SessionCache

/-- How an iteration of the client loop ends. -/
inductive Exit where
  | dropped
  | invalid
  | keepalive
  | controlled
  | forwarded (bytes : Nat)

namespace Exit

/-- The one counter of an exit, besides that of the received packets. -/
@[simp] def count : Exit → Metrics → Metrics
  | .dropped => .dropped
  | .invalid => .invalid
  | .keepalive => .keepalive
  | .controlled => id
  | .forwarded bytes => .forwarded bytes

@[simp] def accepted : Exit → Nat
  | .controlled => 1
  | _ => 0

@[simp] def sent : Exit → Nat
  | .forwarded _ => 1
  | _ => 0

end Exit

/-- Every iteration of the client loop has one exit, and counts it. -/
theorem clientListener_exit (state : RelayState) (datagram : List UInt8) (source : SocketAddr)
    (now : Instant) (sendTo : SendResult) :
    let after := clientListener state.cache datagram source now sendTo
    ∃ exit : Exit, after.1.metrics = exit.count state.cache.metrics.received ∧
      acceptedControls state (.clientDatagram datagram source now sendTo) = exit.accepted ∧
      after.2.countP Outgoing.reachedGame = exit.sent ∧
      after.2.countP Outgoing.succeeded = exit.sent := by
  cases parsed : PlgPacket.parse datagram with
  | none => exact ⟨.dropped, by simp [clientListener, acceptedControls, addressee, parsed]⟩
  | some packet =>
      cases live : state.cache.get packet.sessionId with
      | none =>
          exact ⟨.invalid, by simp [clientListener, acceptedControls, addressee, parsed, live]⟩
      | some session =>
          simp only [clientListener, acceptedControls, addressee, parsed, live,
            SessionInfo.acceptsControl, SessionCache.get_count, Option.bind_eq_bind,
            Option.bind_some, PlgPacket.isKeepalive, PlgPacket.isControl]
          by_cases keepalive : packet.flags &&& FLAG_KEEPALIVE = 0
          · by_cases control : packet.flags &&& FLAG_CONTROL = 0
            · cases current : session.forwardTarget with
              | none => exact ⟨.dropped, by simp [keepalive, control, current]⟩
              | some target =>
                  cases sendTo with
                  | sent bytes =>
                      refine ⟨.forwarded bytes, ?_⟩
                      simp [keepalive, control, current, Outgoing.reachedGame,
                        Outgoing.succeeded]
                  | failed =>
                      refine ⟨.dropped, ?_⟩
                      simp [keepalive, control, current, Outgoing.reachedGame,
                        Outgoing.succeeded]
            · cases requested : parseControlPayload packet.payload with
              | none => exact ⟨.dropped, by simp [keepalive, control]⟩
              | some target =>
                  by_cases allowed : target.ip.display ∈ session.gameServerIps
                  · exact ⟨.controlled, by simp [keepalive, control, allowed]⟩
                  · exact ⟨.dropped, by simp [keepalive, control, allowed]⟩
          · exact ⟨.keepalive, by simp [keepalive]⟩

/-- A response listener counts what it has for a recipient as forwarded, whatever comes of
sending it, and counts nothing else. -/
theorem onGameDatagram_counts (state : RelayState) (port : UInt16) (datagram : List UInt8)
    (sendTo : SendResult) :
    let after := onGameDatagram state port datagram sendTo
    (recipient state port = none ∧ after.1.cache.metrics = state.cache.metrics ∧
      after.2 = []) ∨
    ∃ data addr, recipient state port = some addr ∧
      after.1.cache.metrics = state.cache.metrics.forwarded data.length ∧
      after.2 = [.toClient data addr sendTo] := by
  by_cases listened : (⟨port⟩ : UdpSocket) ∈ state.listeners
  · cases owner : state.cache.tokenByPort port with
    | none => exact .inl (by simp [recipient, onGameDatagram, responseListener, listened, owner])
    | some token =>
        cases live : state.cache.get token with
        | none =>
            refine .inl ?_
            simp [recipient, onGameDatagram, responseListener, listened, owner, live]
        | some session =>
            by_cases placeholder : session.clientAddr.port = 0
            · refine .inl ?_
              simp [recipient, onGameDatagram, responseListener, listened, owner, live,
                placeholder]
            · let response : PlgPacket :=
                { sessionId := token, seqNumber := 0, flags := 0, pathId := 0, payload := datagram }
              refine .inr ⟨response.serialize, session.clientAddr, ?_⟩
              simp [recipient, onGameDatagram, responseListener, listened, owner, live,
                placeholder, response]
  · exact .inl (by simp [recipient, onGameDatagram, listened])

/-- What one step adds to the counters. -/
def StepCounts (state : RelayState) (event : Event) : Prop :=
  let after := step state event
  after.1.cache.metrics.packetsReceived + state.cache.unforwarded =
      state.cache.metrics.packetsReceived + after.1.cache.unforwarded +
        (acceptedControls state event + after.2.countP Outgoing.reachedGame) ∧
    after.1.cache.metrics.packetsForwarded =
      state.cache.metrics.packetsForwarded +
        (after.2.countP Outgoing.succeeded + if KeepsResponses state event then 0 else 1)

/-- A step of the API or of the cleanup does not touch the counters. -/
theorem stepCounts_of_traffic {state : RelayState} {event : Event}
    (traffic : (step state event).1.cache.traffic = state.cache.traffic)
    (silent : (step state event).2 = []) (uncontrolled : acceptedControls state event = 0)
    (keeps : KeepsResponses state event) : StepCounts state event := by
  have received := congrArg Metrics.packetsReceived traffic
  have forwarded := congrArg Metrics.packetsForwarded traffic
  have invalid := congrArg Metrics.invalidSessions traffic
  have keepalives := congrArg Metrics.keepalives traffic
  have dropped := congrArg Metrics.packetsDropped traffic
  simp only [SessionCache.traffic] at received forwarded invalid keepalives dropped
  rw [StepCounts, silent, uncontrolled, if_pos keeps]
  simp only [SessionCache.unforwarded, List.countP_nil]
  omega

theorem step_counts (state : RelayState) (event : Event) : StepCounts state event := by
  cases event with
  | clientDatagram datagram source now sendTo =>
      obtain ⟨exit, metrics, accepted, reached, succeeded⟩ :=
        clientListener_exit state datagram source now sendTo
      have keeps : KeepsResponses state (.clientDatagram datagram source now sendTo) := trivial
      simp only [StepCounts, step, SessionCache.unforwarded]
      rw [accepted, reached, succeeded, metrics, if_pos keeps]
      cases exit <;>
        simp only [Exit.count, Exit.accepted, Exit.sent, Metrics.received, Metrics.dropped,
          Metrics.invalid, Metrics.keepalive, Metrics.forwarded, id, and_true] <;>
        omega
  | gameDatagram port datagram sendTo =>
      simp only [StepCounts, step, SessionCache.unforwarded]
      rcases onGameDatagram_counts state port datagram sendTo with
        ⟨nobody, metrics, silent⟩ | ⟨data, addr, someone, metrics, response⟩
      · have keeps : KeepsResponses state (.gameDatagram port datagram sendTo) := by
          cases sendTo with
          | sent bytes => trivial
          | failed => exact nobody
        rw [metrics, silent, if_pos keeps]
        simp [acceptedControls]
      · rw [metrics, response]
        cases sendTo with
        | sent bytes =>
            simp [KeepsResponses, acceptedControls, Metrics.forwarded, Outgoing.reachedGame,
              Outgoing.succeeded]
        | failed =>
            simp [KeepsResponses, someone, acceptedControls, Metrics.forwarded,
              Outgoing.reachedGame, Outgoing.succeeded]
  | register token gameServerIps gamePorts bind now =>
      refine stepCounts_of_traffic ?_ rfl rfl (show KeepsResponses state _ from trivial)
      change (registerSession state token gameServerIps gamePorts bind now).1.cache.traffic = _
      rw [registerSession_cache]
      exact SessionCache.view_register SessionCache.ignoresMaps_traffic ..
  | unregister token =>
      refine stepCounts_of_traffic ?_ rfl rfl (show KeepsResponses state _ from trivial)
      exact SessionCache.view_unregister SessionCache.ignoresMaps_traffic ..
  | cleanup now =>
      refine stepCounts_of_traffic ?_ rfl rfl (show KeepsResponses state _ from trivial)
      exact SessionCache.view_cleanupStale SessionCache.ignoresMaps_traffic ..

/-! ## What a run counts -/

section Run

variable (maxSessions : Nat) (sessionTimeout : Duration) (events : List Event)

/-- No packet of a client is lost between the counters. -/
theorem received_adds_up :
    let relay := start maxSessions sessionTimeout
    let after := Machine.run step relay events
    after.1.cache.metrics.packetsReceived = after.1.cache.unforwarded +
      Machine.total acceptedControls step relay events +
        after.2.countP Outgoing.reachedGame := by
  intro relay after
  have balance : after.1.cache.metrics.packetsReceived + relay.cache.unforwarded =
      relay.cache.metrics.packetsReceived + after.1.cache.unforwarded + _ :=
    Machine.run_balance (fun state => state.cache.metrics.packetsReceived)
      (fun state => state.cache.unforwarded) (fun state event => (step_counts state event).1)
      relay events
  have reached : Machine.total (fun s e => (step s e).2.countP Outgoing.reachedGame) step relay
      events = after.2.countP Outgoing.reachedGame := Machine.total_countP_outputs _ relay events
  rw [Machine.total_add, reached] at balance
  have unused : relay.cache.unforwarded = 0 := rfl
  have silent : relay.cache.metrics.packetsReceived = 0 := rfl
  omega

/-- The forwarded packets are the ones that were sent and the responses that were not. -/
theorem forwarded_run :
    let relay := start maxSessions sessionTimeout
    let after := Machine.run step relay events
    after.1.cache.metrics.packetsForwarded = after.2.countP Outgoing.succeeded +
      Machine.total (fun state event => if KeepsResponses state event then 0 else 1) step relay
        events := by
  intro relay after
  have balance : after.1.cache.metrics.packetsForwarded + 0 =
      relay.cache.metrics.packetsForwarded + 0 + _ :=
    Machine.run_balance (fun state => state.cache.metrics.packetsForwarded) (fun _ => 0)
      (fun state event => (step_counts state event).2) relay events
  have succeeded : Machine.total (fun s e => (step s e).2.countP Outgoing.succeeded) step relay
      events = after.2.countP Outgoing.succeeded := Machine.total_countP_outputs _ relay events
  rw [Machine.total_add, succeeded] at balance
  have silent : relay.cache.metrics.packetsForwarded = 0 := rfl
  omega

/-- The counters add up exactly in the runs that lose no response. -/
theorem countersAddUp_iff :
    CountersAddUp maxSessions sessionTimeout events ↔
      Machine.Legal KeepsResponses step (start maxSessions sessionTimeout) events := by
  rw [← Machine.total_eq_zero_iff]
  have received := received_adds_up maxSessions sessionTimeout events
  have forwarded := forwarded_run maxSessions sessionTimeout events
  simp only [CountersAddUp, SessionCache.unforwarded] at received forwarded ⊢
  omega

end Run

/-- A session whose client has sent a keepalive, and a response that cannot be sent to it. -/
def unsentResponse : List Event :=
  [.register 7 ["10.0.0.9"] ["27015"] (.bound 40000) 0,
    .clientDatagram (PlgPacket.keepalive 7 0).serialize ⟨.V4 ⟨203, 0, 113, 5⟩, 5000⟩ 1 .failed,
    .gameDatagram 40000 [1, 2, 3] .failed]

/-- The response is counted as forwarded. -/
theorem countersAddUp_unsentResponse : ¬ CountersAddUp 100 300 unsentResponse := by
  unfold CountersAddUp
  decide

end PlgBooster.Relay
