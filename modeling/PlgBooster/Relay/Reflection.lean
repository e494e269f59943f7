import PlgBooster.Relay.Isolation

/-!
# The relay answers only those who asked

A response listener sends to the address the session has at that moment. The address is
the placeholder until the first datagram of the session, and from then on the source of
the last one; a new registration under the token starts again from the placeholder.
The history of a run therefore says where a response may go.
-/

namespace PlgBooster.Relay

open Rust

/-- For every token, the source of the last client datagram that carried it since its last
accepted registration. -/
def recordSource (state : RelayState) :
    Event → (UInt32 → Option SocketAddr) → UInt32 → Option SocketAddr
  | .clientDatagram datagram source _ _, past =>
      match sessionIdOf datagram with
      | some token => Function.update past token (some source)
      | none => past
  | .register token gameServerIps gamePorts bind now, past =>
      match (registerSession state token gameServerIps gamePorts bind now).2 with
      | .ok _ => Function.update past token none
      | .error _ => past
  | _, past => past

/-- The source that is on record for each token after a run. -/
def lastSource (maxSessions : Nat) (sessionTimeout : Duration) (events : List Event) :
    UInt32 → Option SocketAddr :=
  Machine.history recordSource step (start maxSessions sessionTimeout) events fun _ => none

/-- Every live session has the placeholder address or the one on record. -/
def Recorded (state : RelayState) (past : UInt32 → Option SocketAddr) : Prop :=
  ∀ token session, state.cache.get token = some session →
    session.clientAddr = placeholderAddr ∨ past token = some session.clientAddr

theorem recorded_clientDatagram {state : RelayState} {past : UInt32 → Option SocketAddr}
    (recorded : Recorded state past) (datagram : List UInt8) (source : SocketAddr)
    (now : Instant) (sendTo : SendResult) :
    Recorded (step state (.clientDatagram datagram source now sendTo)).1
      (recordSource state (.clientDatagram datagram source now sendTo) past) := by
  intro u session live
  change (clientListener state.cache datagram source now sendTo).1.get u = _ at live
  rw [(clientListener_spec state.cache datagram source now sendTo).1 u] at live
  cases parsed : PlgPacket.parse datagram with
  | none =>
      simp only [addressee, parsed, Option.bind_eq_bind, Option.bind_none] at live
      simpa only [recordSource, sessionIdOf, parsed, Option.map_none] using
        recorded u session live
  | some packet =>
      simp only [recordSource, sessionIdOf, parsed, Option.map_some]
      by_cases named : u = packet.sessionId
      · subst named
        rw [Function.update_self]
        cases here : state.cache.get packet.sessionId with
        | none => simp [addressee, parsed, here] at live
        | some old =>
            -- Whatever the packet is, its source becomes the session's address.
            simp only [addressee, parsed, here, Option.bind_eq_bind, Option.bind_some,
              if_true, Option.some.injEq] at live
            rw [← live, SessionInfo.onPacket_clientAddr]
            exact .inr rfl
      · rw [Function.update_of_ne named]
        apply recorded u session
        cases here : state.cache.get packet.sessionId with
        | none => simpa [addressee, parsed, here] using live
        | some old => simpa [addressee, parsed, here, named] using live

theorem recorded_register {state : RelayState} {past : UInt32 → Option SocketAddr}
    (recorded : Recorded state past) (token : UInt32) (gameServerIps gamePorts : List String)
    (bind : BindResult) (now : Instant) :
    Recorded (step state (.register token gameServerIps gamePorts bind now)).1
      (recordSource state (.register token gameServerIps gamePorts bind now) past) := by
  intro u session live
  change (registerSession state token gameServerIps gamePorts bind now).1.cache.get u = _ at live
  cases registersSession state token gameServerIps gamePorts bind now with
  | accepted port yields room answer listeners sessions =>
      rw [sessions u] at live
      simp only [recordSource, answer]
      split_ifs at live with same
      · obtain rfl := Option.some.inj live
        exact .inl rfl
      · rw [Function.update_of_ne same]
        exact recorded u session live
  | refused e answer listeners others kept =>
      simp only [recordSource, answer]
      exact recorded u session (kept u session live)

theorem recorded_step (state : RelayState) (event : Event) (past : UInt32 → Option SocketAddr)
    (recorded : Recorded state past) :
    Recorded (step state event).1 (recordSource state event past) := by
  cases event with
  | clientDatagram datagram source now sendTo =>
      exact recorded_clientDatagram recorded datagram source now sendTo
  | register token gameServerIps gamePorts bind now =>
      exact recorded_register recorded token gameServerIps gamePorts bind now
  | gameDatagram port datagram sendTo =>
      intro u session live
      change (onGameDatagram state port datagram sendTo).1.cache.get u = _ at live
      rcases get_onGameDatagram state port datagram sendTo u with same | ⟨old, here, same⟩
      · exact recorded u session (same ▸ live)
      · obtain rfl := Option.some.inj (same.symm.trans live)
        simpa [recordSource] using recorded u old here
  | unregister token =>
      intro u session live
      change (state.cache.unregister token).get u = _ at live
      rw [SessionCache.get_unregister] at live
      split_ifs at live
      exact recorded u session live
  | cleanup now =>
      intro u session live
      change (state.cache.cleanupStale now).get u = _ at live
      rw [SessionCache.cleanupStale, SessionCache.get_foldl_unregister] at live
      split_ifs at live
      exact recorded u session live

theorem recorded_run (maxSessions : Nat) (sessionTimeout : Duration) (events : List Event) :
    Recorded (Machine.run step (start maxSessions sessionTimeout) events).1
      (lastSource maxSessions sessionTimeout events) := by
  have legal : Machine.Legal (fun _ _ => True) step (start maxSessions sessionTimeout) events :=
    Machine.legal_of_forall (fun _ _ => trivial) _ _
  refine Machine.run_history_invariant
    (fun state event past recorded _ => recorded_step state event past recorded) ?_ legal
  intro token session live
  simp [start] at live

/-- What a response listener sends is the response of the session that owns its port. -/
theorem mem_onGameDatagram {state : RelayState} {port : UInt16} {payload : List UInt8}
    {sendTo : SendResult} {o : Outgoing}
    (emitted : o ∈ (onGameDatagram state port payload sendTo).2) :
    ∃ token session, state.cache.tokenByPort port = some token ∧
      state.cache.get token = some session ∧ o ∈ (session.onResponse token payload sendTo).2 := by
  cases handled state port payload sendTo with
  | ignored unowned cache listeners outputs =>
      rw [outputs] at emitted
      cases emitted
  | answered token session owner live sessions ports listeners outputs =>
      exact ⟨token, session, owner, live, outputs ▸ emitted⟩

/-- What the relay sends to clients are the responses of its listeners. -/
theorem toClient_cases {state : RelayState} {event : Event} {data : List UInt8}
    {addr : SocketAddr} {result : SendResult}
    (emitted : .toClient data addr result ∈ (step state event).2) :
    ∃ port payload token session, event = .gameDatagram port payload result ∧
      state.cache.tokenByPort port = some token ∧ state.cache.get token = some session ∧
      session.clientAddr = addr ∧ addr.port ≠ 0 ∧
      data = u32ToBeBytes token ++ [0, 0, 0, 0, 0, 0] ++ payload := by
  cases event with
  | clientDatagram datagram source now sendTo =>
      obtain ⟨_, _, _, other⟩ := clientDatagram_outputs state datagram source now sendTo _ emitted
      cases other
  | gameDatagram port payload sendTo =>
      obtain ⟨token, session, owner, live, response⟩ := mem_onGameDatagram emitted
      simp only [SessionInfo.onResponse] at response
      split_ifs at response with placeholder
      · cases response
      · obtain ⟨rfl, rfl, rfl⟩ := Outgoing.toClient.inj (List.mem_singleton.mp response)
        exact ⟨port, payload, token, session, rfl, owner, live, rfl, placeholder,
          by simp [PlgPacket.encode, u32ToBeBytes]⟩
  | register token gameServerIps gamePorts bind now => cases emitted
  | unregister token => cases emitted
  | cleanup now => cases emitted

/-- After any run, whatever is sent to a client is the response to a datagram from a game
server: its bytes behind the header of the session that owns the port, sent to the source
of the last datagram that carried the session's token since its registration. -/
theorem run_responds_to_last_source (maxSessions : Nat) (sessionTimeout : Duration)
    (events : List Event) (event : Event) :
    let state := (Machine.run step (start maxSessions sessionTimeout) events).1
    ∀ data addr result, .toClient data addr result ∈ (step state event).2 →
      ∃ port payload token session, event = .gameDatagram port payload result ∧
        state.cache.tokenByPort port = some token ∧ state.cache.get token = some session ∧
        lastSource maxSessions sessionTimeout events token = some addr ∧
        data = u32ToBeBytes token ++ [0, 0, 0, 0, 0, 0] ++ payload := by
  intro state data addr result emitted
  obtain ⟨port, payload, token, session, here, owner, live, current, addressed, bytes⟩ :=
    toClient_cases emitted
  refine ⟨port, payload, token, session, here, owner, live, ?_, bytes⟩
  rcases recorded_run maxSessions sessionTimeout events token session live with
    placeholder | recorded
  · rw [← current, placeholder] at addressed
    exact absurd rfl addressed
  · rw [recorded, current]

/-- Session 7 is registered twice, and its client moves once. -/
def movedClient : List Event :=
  [.register 7 ["10.0.0.1"] ["27015"] (.bound 40000) 0,
    .clientDatagram (PlgPacket.data 7 1 [1]).encode ⟨.V4 ⟨192, 168, 0, 9⟩, 6000⟩ 1 (.sent 1),
    .register 7 ["10.0.0.1"] ["27015"] (.bound 40001) 2,
    .clientDatagram (PlgPacket.keepalive 7 1).encode ⟨.V4 ⟨192, 168, 0, 2⟩, 5000⟩ 3 .failed,
    .clientDatagram (PlgPacket.data 7 2 [1]).encode ⟨.V4 ⟨192, 168, 0, 2⟩, 5001⟩ 4 (.sent 1)]

theorem run_responds_to_last_source_movedClient :
    let client : SocketAddr := ⟨.V4 ⟨192, 168, 0, 2⟩, 5001⟩
    let state := (Machine.run step (start 5 300) movedClient).1
    ∃ port payload token session,
      Event.gameDatagram 40001 [3] (.sent 11) = .gameDatagram port payload (.sent 11) ∧
        state.cache.tokenByPort port = some token ∧ state.cache.get token = some session ∧
        lastSource 5 300 movedClient token = some client ∧
        [0, 0, 0, 7, 0, 0, 0, 0, 0, 0, 3] =
          u32ToBeBytes token ++ [0, 0, 0, 0, 0, 0] ++ payload :=
  run_responds_to_last_source 5 300 movedClient (.gameDatagram 40001 [3] (.sent 11)) _ _ _
    (by decide)

end PlgBooster.Relay
