import PlgBooster.Relay.System

/-!
# Sessions do not see each other

One session of a running relay behaves as a machine of its own, `alone`, that is
fed only the client datagrams that name it and the game datagrams at its forward
port. Two relay runs that agree on these therefore agree on everything the session
is and sends, whatever the other sessions do in between.
-/

namespace PlgBooster.Relay

open Rust

/-- The session id in the header of a datagram. -/
def sessionIdOf (datagram : List UInt8) : Option UInt32 :=
  (PlgPacket.parse datagram).map (·.sessionId)

/-- The events addressed to the session `t` with forward port `p`. -/
def concerns (t : UInt32) (p : UInt16) : Event → Bool
  | .clientDatagram datagram _ _ _ => sessionIdOf datagram = some t
  | .gameDatagram localPort _ _ => localPort = p
  | _ => false

/-- The datagrams sent for that session: from its forward socket, and to its client. -/
def belongsTo (t : UInt32) (p : UInt16) : Outgoing → Bool
  | .toGame socket _ _ _ => socket = ⟨p⟩
  | .toClient data _ _ => sessionIdOf data = some t

/-- The session on its own, without the maps and the other sessions. -/
def alone (t : UInt32) : Option SessionInfo → Event → Option SessionInfo × List Outgoing
  | some session, .clientDatagram datagram source now sendTo =>
      match PlgPacket.parse datagram with
      | some packet =>
          let result := session.onPacket packet datagram.length source now sendTo
          (some result.1, result.2)
      | none => (some session, [])
  | some session, .gameDatagram _ datagram sendTo =>
      let result := session.onResponse t datagram sendTo
      (some result.1, result.2)
  | session, _ => (session, [])

/-- Nothing removes or replaces the session `t` at this step, and the system keeps
its promise about ports. -/
def Undisturbed (t : UInt32) (state : RelayState) (event : Event) : Prop :=
  BindsFreshPort state event ∧
    match event with
    | .register token _ _ _ _ => token ≠ t
    | .unregister token => token ≠ t
    | .cleanup now => t ∉ state.cache.staleTokens now
    | _ => True

instance (t : UInt32) (state : RelayState) :
    ∀ event, Decidable (Undisturbed t state event)
  | .register token gameServerIps gamePorts bind now =>
      inferInstanceAs (Decidable
        (BindsFreshPort state (.register token gameServerIps gamePorts bind now) ∧ token ≠ t))
  | .unregister token => inferInstanceAs (Decidable (True ∧ token ≠ t))
  | .cleanup now => inferInstanceAs (Decidable (True ∧ t ∉ state.cache.staleTokens now))
  | .clientDatagram _ _ _ _ => inferInstanceAs (Decidable (True ∧ True))
  | .gameDatagram _ _ _ => inferInstanceAs (Decidable (True ∧ True))

/-! ## The outputs of one session -/

theorem onPacket_outputs {session : SessionInfo} (packet : PlgPacket) (len : Nat)
    (source : SocketAddr) (now : Instant) (sendTo : SendResult) :
    ∀ o ∈ (session.onPacket packet len source now sendTo).2,
      ∃ payload target, o = .toGame session.forwardSocket payload target sendTo := by
  cases session.handlesPacket packet len source now sendTo with
  | touched result => simp [result]
  | retargeted target requested allowed result => simp [result]
  | forwarded target current result => simp [result]

theorem onResponse_outputs {session : SessionInfo} (token : UInt32) (datagram : List UInt8)
    (sendTo : SendResult) :
    ∀ o ∈ (session.onResponse token datagram sendTo).2,
      ∃ data, sessionIdOf data = some token ∧ o = .toClient data session.clientAddr sendTo := by
  intro o member
  unfold SessionInfo.onResponse at member
  dsimp only at member
  split_ifs at member
  · simp at member
  · exact ⟨_, by simp [sessionIdOf], List.mem_singleton.mp member⟩

/-- A client datagram makes the relay send to game servers only. -/
theorem clientDatagram_outputs (state : RelayState) (datagram : List UInt8)
    (source : SocketAddr) (now : Instant) (sendTo : SendResult) :
    ∀ o ∈ (step state (.clientDatagram datagram source now sendTo)).2,
      ∃ socket payload target, o = .toGame socket payload target sendTo := by
  intro o member
  change o ∈ (clientListener state.cache datagram source now sendTo).2 at member
  rw [(clientListener_spec state.cache datagram source now sendTo).2] at member
  split at member
  · simp at member
  · obtain ⟨payload, target, sent⟩ := onPacket_outputs _ _ _ _ _ o member
    exact ⟨_, payload, target, sent⟩

/-! ## One step, seen from one session -/

variable {state : RelayState} {t : UInt32} {p : UInt16} {session : SessionInfo}

/-- The session is live and bound to its port. -/
def LiveOn (t : UInt32) (p : UInt16) (state : RelayState) : Prop :=
  ∃ session, state.cache.get t = some session ∧ session.forwardSocket = ⟨p⟩

/-- What is addressed to the session acts on it as on the session alone. -/
theorem step_own (good : state.Good) (live : LiveOn t p state) (event : Event)
    (mine : concerns t p event = true) :
    (step state event).1.cache.get t = (alone t (state.cache.get t) event).1 ∧
      (step state event).2.filter (belongsTo t p) = (alone t (state.cache.get t) event).2 := by
  obtain ⟨session, here, bound⟩ := live
  cases event with
  | clientDatagram datagram source now sendTo =>
      simp only [concerns, sessionIdOf, decide_eq_true_eq, Option.map_eq_some_iff] at mine
      obtain ⟨packet, parsed, rfl⟩ := mine
      have addressed : addressee state.cache datagram = some (packet, session) :=
        (addressee_eq_some_iff _ _).mpr ⟨parsed, here⟩
      obtain ⟨sessions, outputs⟩ := clientListener_spec state.cache datagram source now sendTo
      simp only [addressed] at sessions outputs
      simp only [step, sessions, outputs, if_true, alone, here, parsed, true_and]
      refine List.filter_eq_self.mpr fun o member => ?_
      obtain ⟨payload, target, rfl⟩ := onPacket_outputs _ _ _ _ _ o member
      simp [belongsTo, bound]
  | gameDatagram localPort datagram sendTo =>
      simp only [concerns, decide_eq_true_eq] at mine
      subst mine
      obtain ⟨sessions, _, _, outputs⟩ := onGameDatagram_of_live good here datagram sendTo
      rw [bound] at sessions outputs
      simp only [step, sessions, outputs, if_true, alone, here, true_and]
      refine List.filter_eq_self.mpr fun o member => ?_
      obtain ⟨data, header, rfl⟩ := onResponse_outputs _ _ _ o member
      simp [belongsTo, header]
  | register token ips ports bind now => simp [concerns] at mine
  | unregister token => simp [concerns] at mine
  | cleanup now => simp [concerns] at mine

/-- A datagram that is neither sent to the client of `t` nor from its socket. -/
def Foreign (t : UInt32) (state : RelayState) : Outgoing → Prop
  | .toGame socket _ _ _ =>
      ∀ session, state.cache.get t = some session → session.forwardSocket ≠ socket
  | .toClient data _ _ => sessionIdOf data ≠ some t

/-- What is not addressed to `t` leaves it alone and sends nothing in its name,
whether or not it is live. -/
theorem step_elsewhere (good : state.Good) (event : Event)
    (undisturbed : Undisturbed t state event)
    (notMine : ∀ session, state.cache.get t = some session →
      concerns t session.forwardSocket.localPort event = false) :
    (step state event).1.cache.get t = state.cache.get t ∧
      ∀ o ∈ (step state event).2, Foreign t state o := by
  cases event with
  | clientDatagram datagram source now sendTo =>
      obtain ⟨sessions, outputs⟩ := clientListener_spec state.cache datagram source now sendTo
      simp only [step, sessions, outputs]
      cases addressed : addressee state.cache datagram with
      | none => exact ⟨rfl, by simp⟩
      | some found =>
          obtain ⟨packet, other⟩ := found
          obtain ⟨parsed, there⟩ := (addressee_eq_some_iff _ _).mp addressed
          have different : t ≠ packet.sessionId := by
            rintro rfl
            have header := notMine other there
            simp [concerns, sessionIdOf, parsed] at header
          simp only [if_neg different, true_and]
          intro o member
          obtain ⟨payload, target, rfl⟩ := onPacket_outputs _ _ _ _ _ o member
          -- Two sessions with one port would be one session.
          exact fun session here same =>
            different (good.inverse.token_unique here there (by rw [same]))
  | gameDatagram localPort datagram sendTo =>
      simp only [step]
      cases owner : state.cache.tokenByPort localPort with
      | none =>
          obtain ⟨cache, outputs, _⟩ := onGameDatagram_of_not_live owner datagram sendTo
          rw [cache, outputs]
          exact ⟨rfl, by simp⟩
      | some u =>
          obtain ⟨other, there, rfl⟩ := (good.inverse.ports localPort u).mp owner
          have different : t ≠ u := by
            rintro rfl
            have header := notMine other there
            simp [concerns] at header
          obtain ⟨sessions, _, _, outputs⟩ := onGameDatagram_of_live good there datagram sendTo
          rw [sessions, outputs, if_neg different]
          refine ⟨rfl, ?_⟩
          intro o member
          obtain ⟨data, header, rfl⟩ := onResponse_outputs _ _ _ o member
          exact fun same => different (Option.some.inj (same.symm.trans header))
  | register token ips ports bind now =>
      have different : t ≠ token := Ne.symm undisturbed.2
      refine ⟨?_, by simp [step]⟩
      exact get_registerSession_of_ne state different ips ports bind now
  | unregister token =>
      refine ⟨?_, by simp [step]⟩
      change (state.cache.unregister token).get t = _
      rw [SessionCache.get_unregister, if_neg (Ne.symm undisturbed.2)]
  | cleanup now =>
      refine ⟨?_, by simp [step]⟩
      change (state.cache.cleanupStale now).get t = _
      rw [SessionCache.cleanupStale, SessionCache.get_foldl_unregister, if_neg undisturbed.2]

/-- `step_elsewhere` for a live session, as the observer of its outputs sees it. -/
theorem step_other (good : state.Good) (live : LiveOn t p state) (event : Event)
    (undisturbed : Undisturbed t state event) (notMine : concerns t p event = false) :
    (step state event).1.cache.get t = state.cache.get t ∧
      (step state event).2.filter (belongsTo t p) = [] := by
  obtain ⟨session, here, bound⟩ := live
  have addressed : ∀ other, state.cache.get t = some other →
      concerns t other.forwardSocket.localPort event = false := by
    intro other there
    obtain rfl := Option.some.inj (here.symm.trans there)
    rw [bound]
    exact notMine
  obtain ⟨same, foreign⟩ := step_elsewhere good event undisturbed addressed
  refine ⟨same, List.filter_eq_nil_iff.mpr fun o member mine => ?_⟩
  have others := foreign o member
  cases o with
  | toGame socket payload target result =>
      have from_p : socket = ⟨p⟩ := by simpa [belongsTo] using mine
      exact others session here (bound.trans from_p.symm)
  | toClient data addr result => exact others (by simpa [belongsTo] using mine)

theorem alone_forwardSocket (t : UInt32) (session : SessionInfo) (event : Event) :
    ∃ session', (alone t (some session) event).1 = some session' ∧
      session'.forwardSocket = session.forwardSocket := by
  cases event with
  | clientDatagram datagram source now sendTo =>
      cases parsed : PlgPacket.parse datagram with
      | none => exact ⟨session, by simp [alone, parsed], rfl⟩
      | some packet =>
          have same := SessionInfo.onPacket_forwardSocket session packet datagram.length source now
            sendTo
          exact ⟨_, by simp only [alone, parsed], same⟩
  | gameDatagram localPort datagram sendTo => exact ⟨_, rfl, by simp⟩
  | register token ips ports bind now => exact ⟨session, rfl, rfl⟩
  | unregister token => exact ⟨session, rfl, rfl⟩
  | cleanup now => exact ⟨session, rfl, rfl⟩

theorem liveOn_step (good : state.Good) (live : LiveOn t p state) (event : Event)
    (undisturbed : Undisturbed t state event) : LiveOn t p (step state event).1 := by
  have ⟨session, here, bound⟩ := live
  cases mine : concerns t p event with
  | true =>
      obtain ⟨session', after, same⟩ := alone_forwardSocket t session event
      refine ⟨session', ?_, same.trans bound⟩
      rw [(step_own good live event mine).1, here, after]
  | false => exact ⟨session, by rw [(step_other good live event undisturbed mine).1, here], bound⟩

/-! ## Two runs -/

/-- A relay run in which `t` is registered once, on port `p`, and stays. -/
structure SessionRun (t : UInt32) (p : UInt16) (gameServerIps gamePorts : List String)
    (now : Instant) where
  maxSessions : Nat
  sessionTimeout : Duration
  before : List Event
  after : List Event
  undisturbedBefore :
    Machine.Legal (Undisturbed t) step (start maxSessions sessionTimeout) before
  fresh : (Machine.run step (start maxSessions sessionTimeout) before).1.cache.FreshPort t
    (.bound p)
  accepted : (registerSession (Machine.run step (start maxSessions sessionTimeout) before).1
    t gameServerIps gamePorts (.bound p) now).2 = .ok p
  undisturbedAfter : Machine.Legal (Undisturbed t) step
    (registerSession (Machine.run step (start maxSessions sessionTimeout) before).1
      t gameServerIps gamePorts (.bound p) now).1 after

namespace SessionRun

variable {gameServerIps gamePorts : List String} {now : Instant}

/-- The relay right after the registration of `t`. -/
def registered (r : SessionRun t p gameServerIps gamePorts now) : RelayState :=
  (registerSession (Machine.run step (start r.maxSessions r.sessionTimeout) r.before).1
    t gameServerIps gamePorts (.bound p) now).1

/-- The relay at the end. -/
def final (r : SessionRun t p gameServerIps gamePorts now) : RelayState :=
  (Machine.run step r.registered r.after).1

/-- All the datagrams sent to the client of `t` in the run, and from its socket
since that was bound. -/
def emitted (r : SessionRun t p gameServerIps gamePorts now) : List Outgoing :=
  (Machine.run step (start r.maxSessions r.sessionTimeout) r.before).2.filter
      (fun o => match o with
        | .toGame _ _ _ _ => false
        | .toClient data _ _ => sessionIdOf data = some t) ++
    (Machine.run step r.registered r.after).2.filter (belongsTo t p)

/-- Before its registration the session is not there and nothing is sent for it. -/
theorem before_quiet (r : SessionRun t p gameServerIps gamePorts now) :
    (Machine.run step (start r.maxSessions r.sessionTimeout) r.before).1.Good ∧
    ∀ o ∈ (Machine.run step (start r.maxSessions r.sessionTimeout) r.before).2,
      ∀ data addr result, o = .toClient data addr result → sessionIdOf data ≠ some t := by
  let Quiet (state : RelayState) : Prop := state.Good ∧ state.cache.get t = none
  have preserved : ∀ state event, Quiet state → Undisturbed t state event →
      Quiet (step state event).1 := by
    intro state event ⟨good, absent⟩ undisturbed
    have elsewhere := step_elsewhere good event undisturbed (by simp [absent])
    exact ⟨good_step good undisturbed.1, elsewhere.1.trans absent⟩
  have begins : Quiet (start r.maxSessions r.sessionTimeout) := ⟨good_start _ _, rfl⟩
  refine ⟨(Machine.run_invariant Quiet preserved begins r.undisturbedBefore).1,
    Machine.run_outputs Quiet preserved ?_ begins r.undisturbedBefore⟩
  rintro state event ⟨good, absent⟩ undisturbed o member data addr result rfl
  exact (step_elsewhere good event undisturbed (by simp [absent])).2 _ member

theorem get_registered (r : SessionRun t p gameServerIps gamePorts now) :
    r.registered.cache.get t = some (SessionCache.newSession t placeholderAddr gameServerIps
      (registeredPorts gamePorts) ⟨p⟩ now) := by
  cases registersSession
    (Machine.run step (start r.maxSessions r.sessionTimeout) r.before).1 t gameServerIps
    gamePorts (.bound p) now with
  | accepted port yields room answer listeners sessions =>
      obtain rfl := BindResult.bound.inj yields
      rw [registered, sessions t, if_pos rfl]
  | refused e answer listeners others kept =>
      have accepted := r.accepted
      rw [answer] at accepted
      cases accepted

/-- The part of a run that concerns `t` is a run of the session alone. -/
theorem emitted_eq (r : SessionRun t p gameServerIps gamePorts now) :
    let session := SessionCache.newSession t placeholderAddr gameServerIps
      (registeredPorts gamePorts) ⟨p⟩ now
    r.final.cache.get t =
        (Machine.run (alone t) (some session) (r.after.filter (concerns t p))).1 ∧
      r.emitted =
        (Machine.run (alone t) (some session) (r.after.filter (concerns t p))).2 := by
  intro session
  obtain ⟨goodBefore, quiet⟩ := r.before_quiet
  have begins : r.registered.Good ∧ LiveOn t p r.registered :=
    ⟨good_register goodBefore r.fresh, session, r.get_registered, rfl⟩
  have legal : Machine.Legal (Undisturbed t) step r.registered r.after := r.undisturbedAfter
  obtain ⟨views, outputs⟩ := Machine.run_slice (fun state => state.Good ∧ LiveOn t p state)
    (fun state event inv (undisturbed : Undisturbed t state event) =>
      ⟨good_step inv.1 undisturbed.1, liveOn_step inv.1 inv.2 event undisturbed⟩)
    (fun state => state.cache.get t)
    (fun state event inv _ mine => step_own inv.1 inv.2 event mine)
    (fun state event inv undisturbed notMine => step_other inv.1 inv.2 event undisturbed notMine)
    begins legal
  rw [r.get_registered] at views outputs
  refine ⟨views, ?_⟩
  rw [emitted, outputs, List.filter_eq_nil_iff.mpr, List.nil_append]
  intro o member
  cases o with
  | toGame socket payload target result => simp
  | toClient data addr result => simpa using quiet _ member data addr result rfl

end SessionRun

/-- Two runs that agree on the registration of `t`, on the datagrams that name it and
on the game datagrams at its port send the same for `t` and leave it in the same state. -/
theorem sessions_isolated {gameServerIps gamePorts : List String} {now : Instant}
    (first second : SessionRun t p gameServerIps gamePorts now)
    (agree : first.after.filter (concerns t p) = second.after.filter (concerns t p)) :
    first.emitted = second.emitted ∧
      first.final.cache.get t = second.final.cache.get t := by
  obtain ⟨session₁, outputs₁⟩ := first.emitted_eq
  obtain ⟨session₂, outputs₂⟩ := second.emitted_eq
  rw [session₁, session₂, outputs₁, outputs₂, agree]
  exact ⟨rfl, rfl⟩

/-- The control packet, one data packet and one response of session 7. -/
def exchange : List Event :=
  [.clientDatagram (PlgPacket.control 7 1 "10.0.0.1:27015").encode ⟨.V4 ⟨192, 168, 0, 2⟩, 5000⟩
      11 (.sent 0),
    .clientDatagram (PlgPacket.data 7 2 [1, 2]).encode ⟨.V4 ⟨192, 168, 0, 2⟩, 5000⟩ 12 (.sent 2),
    .gameDatagram 40000 [3] (.sent 11)]

/-- Session 7 has the relay for itself. -/
def quietRun : SessionRun 7 40000 ["10.0.0.1"] ["27015"] 10 where
  maxSessions := 5
  sessionTimeout := 300
  before := []
  after := exchange
  undisturbedBefore := by decide
  fresh := by decide
  accepted := by decide
  undisturbedAfter := by decide

/-- Session 9 comes, sends and is cleaned up meanwhile. -/
def busyRun : SessionRun 7 40000 ["10.0.0.1"] ["27015"] 10 where
  maxSessions := 2
  sessionTimeout := 300
  before := [.register 9 ["10.0.0.1"] ["27015"] (.bound 40001) 0]
  after := [.clientDatagram (PlgPacket.data 9 1 [7]).encode ⟨.V4 ⟨192, 168, 0, 3⟩, 5000⟩ 10
      (.sent 1)] ++ exchange ++ [.gameDatagram 40001 [8] .failed, .cleanup 311]
  undisturbedBefore := by decide
  fresh := by decide
  accepted := by decide
  undisturbedAfter := by decide

theorem sessions_isolated_busyRun :
    quietRun.emitted = busyRun.emitted ∧
      quietRun.final.cache.get 7 = busyRun.final.cache.get 7 :=
  sessions_isolated quietRun busyRun (by decide)

end PlgBooster.Relay
