import PlgBooster.Relay.System

/-!
# The relay is not an open proxy

A session's forward target is set in two places: by the registration, from the
first string of its whitelist, and by a control packet, whose address has to be
printed in the whitelist. Either way some whitelisted string parses to the
target's address, because what a control packet can name in front of its colon is
an IPv4 address in the one notation its display has.
-/

namespace PlgBooster.Relay

open Rust

/-- The current forward target is one the registration allows. -/
def SessionInfo.Allowed (session : SessionInfo) : Prop :=
  ∀ target, session.forwardTarget = some target →
    ∃ s ∈ session.gameServerIps, parseIpAddr s.toList = some target.ip

/-- The address of an accepted control packet is read from a text without a colon. -/
theorem ip_of_parseControlPayload {payload : List UInt8} {target : SocketAddr}
    (parsed : parseControlPayload payload = some target) :
    ∃ front : List Char, ':' ∉ front ∧ parseIpAddr front = some target.ip := by
  unfold parseControlPayload at parsed
  split at parsed
  · cases parsed
  next s decoded =>
    cases split : splitOnce ':' s.toList with
    | none => simp [splitn2, split] at parsed
    | some parts =>
        obtain ⟨front, back⟩ := parts
        simp only [splitn2, split] at parsed
        split at parsed
        next ip port readIp readPort =>
          obtain rfl := Option.some.inj parsed
          exact ⟨front, notMem_of_splitOnce split, readIp⟩
        · cases parsed

theorem parseIpAddr_of_parseControlPayload {payload : List UInt8} {target : SocketAddr}
    (parsed : parseControlPayload payload = some target) :
    parseIpAddr target.ip.display.toList = some target.ip := by
  obtain ⟨front, plain, readIp⟩ := ip_of_parseControlPayload parsed
  have printed : front = target.ip.display.toList := parseIpAddr_of_notMem_colon plain readIp
  exact printed ▸ readIp

theorem allowed_newSession (token : UInt32) (clientAddr : SocketAddr)
    (gameServerIps : List String) (gamePorts : List UInt16) (socket : UdpSocket)
    (now : Instant) :
    (SessionCache.newSession token clientAddr gameServerIps gamePorts socket now).Allowed := by
  intro target current
  change defaultForwardTarget gameServerIps gamePorts = some target at current
  simp only [defaultForwardTarget, Option.bind_eq_bind, Option.bind_eq_some_iff] at current
  obtain ⟨ip, first, port, _, addr, parsed, assigned⟩ := current
  obtain rfl := Option.some.inj assigned
  exact ⟨ip, List.mem_of_mem_head? first, parsed⟩

namespace SessionInfo.Allowed

variable {session : SessionInfo} (allowed : session.Allowed)
include allowed

theorem onPacket (packet : PlgPacket) (len : Nat) (clientAddr : SocketAddr) (now : Instant)
    (sendTo : SendResult) :
    (session.onPacket packet len clientAddr now sendTo).1.Allowed := by
  cases session.handlesPacket packet len clientAddr now sendTo with
  | touched result => simpa [result, Allowed] using allowed
  | retargeted target requested listed result =>
      intro current assigned
      simp only [result, Option.some.injEq] at assigned
      subst assigned
      refine ⟨target.ip.display, ?_, parseIpAddr_of_parseControlPayload requested⟩
      simpa [result] using listed
  | forwarded target current result => simpa [result, Allowed] using allowed

theorem onResponse (token : UInt32) (datagram : List UInt8) (sendTo : SendResult) :
    (session.onResponse token datagram sendTo).1.Allowed := by
  simpa [Allowed] using allowed

/-- Whatever a packet makes the session send goes to a whitelisted address. -/
theorem outputs (packet : PlgPacket) (len : Nat) (clientAddr : SocketAddr) (now : Instant)
    (sendTo : SendResult) :
    ∀ o ∈ (session.onPacket packet len clientAddr now sendTo).2,
      ∃ target, o = .toGame session.forwardSocket packet.payload target sendTo ∧
        ∃ s ∈ session.gameServerIps, parseIpAddr s.toList = some target.ip := by
  cases session.handlesPacket packet len clientAddr now sendTo with
  | touched result => simp [result]
  | retargeted target requested listed result => simp [result]
  | forwarded target current result =>
      intro o member
      rw [result, List.mem_singleton] at member
      exact ⟨target, member, allowed target current⟩

end SessionInfo.Allowed

/-- For every token, the strings of its last accepted registration. -/
def recordRegistration (state : RelayState) :
    Event → (UInt32 → Option (List String)) → UInt32 → Option (List String)
  | .register token gameServerIps gamePorts bind now, past =>
      match (registerSession state token gameServerIps gamePorts bind now).2 with
      | .ok _ => Function.update past token (some gameServerIps)
      | .error _ => past
  | _, past => past

/-- The whitelist in force for each token after a run. -/
def whitelist (maxSessions : Nat) (sessionTimeout : Duration) (events : List Event) :
    UInt32 → Option (List String) :=
  Machine.history recordRegistration step (start maxSessions sessionTimeout) events fun _ => none

/-- Every live session has the whitelist of its current registration, and respects it. -/
def Whitelisted (state : RelayState) (past : UInt32 → Option (List String)) : Prop :=
  ∀ token session, state.cache.get token = some session →
    past token = some session.gameServerIps ∧ session.Allowed

theorem whitelisted_step (state : RelayState) (event : Event)
    (past : UInt32 → Option (List String)) (listed : Whitelisted state past) :
    Whitelisted (step state event).1 (recordRegistration state event past) := by
  intro u session live
  cases event with
  | clientDatagram datagram source now sendTo =>
      change (clientListener state.cache datagram source now sendTo).1.get u = _ at live
      rcases get_clientListener state.cache datagram source now sendTo u with
        ⟨same, _⟩ | ⟨packet, old, _, _, here, after⟩
      · exact listed u session (same ▸ live)
      · obtain rfl := Option.some.inj (after.symm.trans live)
        obtain ⟨registered, allowed⟩ := listed u old here
        exact ⟨by simpa [recordRegistration] using registered, allowed.onPacket _ _ _ _ _⟩
  | gameDatagram port datagram sendTo =>
      change (onGameDatagram state port datagram sendTo).1.cache.get u = _ at live
      rcases get_onGameDatagram state port datagram sendTo u with same | ⟨old, here, same⟩
      · exact listed u session (same ▸ live)
      · obtain rfl := Option.some.inj (same.symm.trans live)
        obtain ⟨registered, allowed⟩ := listed u old here
        exact ⟨by simpa [recordRegistration] using registered, allowed.onResponse _ _ _⟩
  | register token gameServerIps gamePorts bind now =>
      change (registerSession state token gameServerIps gamePorts bind now).1.cache.get u = _
        at live
      cases registersSession state token gameServerIps gamePorts bind now with
      | accepted port yields room answer listeners sessions =>
          rw [sessions u] at live
          simp only [recordRegistration, answer]
          split_ifs at live with same
          · subst same
            obtain rfl := Option.some.inj live
            exact ⟨by rw [Function.update_self]; rfl, allowed_newSession _ _ _ _ _ _⟩
          · rw [Function.update_of_ne same]
            exact listed u session live
      | refused e answer listeners others kept =>
          simp only [recordRegistration, answer]
          exact listed u session (kept u session live)
  | unregister token =>
      change (state.cache.unregister token).get u = _ at live
      rw [SessionCache.get_unregister] at live
      split_ifs at live
      exact listed u session live
  | cleanup now =>
      change (state.cache.cleanupStale now).get u = _ at live
      rw [SessionCache.cleanupStale, SessionCache.get_foldl_unregister] at live
      split_ifs at live
      exact listed u session live

theorem whitelisted_run (maxSessions : Nat) (sessionTimeout : Duration) (events : List Event) :
    Whitelisted (Machine.run step (start maxSessions sessionTimeout) events).1
      (whitelist maxSessions sessionTimeout events) := by
  have legal : Machine.Legal (fun _ _ => True) step (start maxSessions sessionTimeout) events :=
    Machine.legal_of_forall (fun _ _ => trivial) _ _
  refine Machine.run_history_invariant
    (fun state event past listed _ => whitelisted_step state event past listed) ?_ legal
  intro token session live
  simp [start] at live

/-- After any run every live session's target comes from the whitelist of its current
registration, and a client datagram then makes the relay send only to such a target. -/
theorem run_sends_to_whitelist (maxSessions : Nat) (sessionTimeout : Duration)
    (events : List Event) :
    let state := (Machine.run step (start maxSessions sessionTimeout) events).1
    let registered := whitelist maxSessions sessionTimeout events
    (∀ token session, state.cache.get token = some session →
      registered token = some session.gameServerIps ∧
      (session.forwardTarget = none ∨ ∃ target, session.forwardTarget = some target ∧
        ∃ s ∈ session.gameServerIps, parseIpAddr s.toList = some target.ip)) ∧
    ∀ datagram source now sendTo,
      ∀ o ∈ (step state (.clientDatagram datagram source now sendTo)).2,
        ∃ packet ips socket target, PlgPacket.parse datagram = some packet ∧
          registered packet.sessionId = some ips ∧
          o = .toGame socket packet.payload target sendTo ∧
          ∃ s ∈ ips, parseIpAddr s.toList = some target.ip := by
  intro state registered
  have listed : Whitelisted state registered := whitelisted_run maxSessions sessionTimeout events
  refine ⟨fun token session live => ?_, fun datagram source now sendTo o emitted => ?_⟩
  · obtain ⟨current, allowed⟩ := listed token session live
    refine ⟨current, ?_⟩
    cases assigned : session.forwardTarget with
    | none => exact .inl rfl
    | some target => exact .inr ⟨target, rfl, allowed target assigned⟩
  · change o ∈ (clientListener state.cache datagram source now sendTo).2 at emitted
    rw [(clientListener_spec state.cache datagram source now sendTo).2] at emitted
    cases addressed : addressee state.cache datagram with
    | none => simp [addressed] at emitted
    | some found =>
        obtain ⟨packet, session⟩ := found
        simp only [addressed] at emitted
        obtain ⟨parsed, live⟩ := (addressee_eq_some_iff _ _).mp addressed
        obtain ⟨current, allowed⟩ := listed _ _ live
        obtain ⟨target, sent, whitelisted⟩ := allowed.outputs _ _ _ _ _ o emitted
        exact ⟨packet, _, _, target, parsed, current, sent, whitelisted⟩

end PlgBooster.Relay
