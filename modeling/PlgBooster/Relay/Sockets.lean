import PlgBooster.Relay.Capacity
import Mathlib.Data.List.Dedup

/-!
# Which forward sockets stay bound

A forward socket is bound as long as a session or a response listener holds it. Removing a
session does not reach its listener, which notices only when it next receives something. So
the bound sockets are those of the live sessions exactly as long as no session is removed.
-/

namespace PlgBooster.Relay

open Rust

namespace RelayState

/-- The sockets the sessions hold. -/
def forwardSockets (state : RelayState) : List UdpSocket :=
  state.cache.sessions.entries.map (·.2.forwardSocket)

/-- The sockets that somebody holds. -/
def boundSockets (state : RelayState) : List UdpSocket :=
  (state.forwardSockets ++ state.listeners).dedup

/-- Every bound forward socket belongs to a live session. -/
def NoLeak (state : RelayState) : Prop :=
  ∀ socket ∈ state.boundSockets, ∃ token info,
    state.cache.get token = some info ∧ info.forwardSocket = socket

theorem mem_forwardSockets {state : RelayState} {socket : UdpSocket} :
    socket ∈ state.forwardSockets ↔
      ∃ token info, state.cache.get token = some info ∧ info.forwardSocket = socket := by
  constructor
  · intro member
    obtain ⟨⟨token, info⟩, entry, rfl⟩ := List.mem_map.mp member
    exact ⟨token, info, AList.mem_lookup_iff.mpr entry, rfl⟩
  · rintro ⟨token, info, live, rfl⟩
    exact List.mem_map.mpr ⟨⟨token, info⟩, AList.mem_lookup_iff.mp live, rfl⟩

theorem noLeak_iff {state : RelayState} :
    state.NoLeak ↔ ∀ socket ∈ state.listeners, ∃ token info,
      state.cache.get token = some info ∧ info.forwardSocket = socket := by
  simp only [NoLeak, boundSockets, List.mem_dedup, List.mem_append]
  constructor
  · intro all socket member
    exact all socket (.inr member)
  · rintro all socket (held | member)
    · exact mem_forwardSockets.mp held
    · exact all socket member

/-- Without a leak there are no more bound sockets than sessions. -/
theorem NoLeak.length_le {state : RelayState} (none : state.NoLeak) :
    state.boundSockets.length ≤ state.cache.activeCount := by
  have subset : state.boundSockets ⊆ state.forwardSockets := fun socket member =>
    mem_forwardSockets.mpr (none socket member)
  have size : state.forwardSockets.length = state.cache.activeCount := by
    simp [forwardSockets, SessionCache.activeCount, AList.keys, List.keys]
  exact size ▸ (List.subperm_of_subset (List.nodup_dedup _) subset).length_le

end RelayState

/-- The system's promise: it never binds a port that an open socket still holds. -/
def BindsClosedPort (state : RelayState) : Event → Prop
  | .register _ _ _ (.bound port) _ => ⟨port⟩ ∉ state.boundSockets
  | _ => True

/-- The operation leaves all live sessions in place. -/
def RemovesNone (state : RelayState) : Event → Prop
  | .register token _ _ _ _ =>
      state.cache.activeCount < state.cache.maxSessions → state.cache.get token = none
  | .unregister token => state.cache.get token = none
  | .cleanup now => state.cache.staleTokens now = []
  | _ => True

instance (state : RelayState) (event : Event) : Decidable (BindsClosedPort state event) := by
  unfold BindsClosedPort
  split <;> infer_instance

instance (state : RelayState) : (event : Event) → Decidable (RemovesNone state event)
  | .register token _ _ _ _ => inferInstanceAs (Decidable
      (state.cache.activeCount < state.cache.maxSessions → state.cache.get token = none))
  | .unregister token => inferInstanceAs (Decidable (state.cache.get token = none))
  | .cleanup now => inferInstanceAs (Decidable (state.cache.staleTokens now = []))
  | .clientDatagram _ _ _ _ => .isTrue trivial
  | .gameDatagram _ _ _ => .isTrue trivial

variable {state : RelayState}

theorem BindsClosedPort.fresh {event : Event} (closed : BindsClosedPort state event) :
    BindsFreshPort state event := by
  cases event with
  | register token ips ports bind now =>
      cases bind with
      | bound port =>
          rintro ⟨u, info⟩ entry _ rfl
          refine closed (List.mem_dedup.mpr (List.mem_append.mpr (.inl ?_)))
          exact List.mem_map.mpr ⟨⟨u, info⟩, entry, rfl⟩
      | bindFailed => trivial
      | localAddrFailed => trivial
  | _ => trivial

/-! ## One step -/

/-- The sockets of the live sessions after a step that keeps every session's socket. -/
theorem noLeak_of_sameSockets {state' : RelayState} (noLeak : state.NoLeak)
    (sockets : ∀ u, (state'.cache.get u).map socketOf = (state.cache.get u).map socketOf)
    (listeners : state'.listeners ⊆ state.listeners) : state'.NoLeak := by
  refine RelayState.noLeak_iff.mpr fun socket member => ?_
  obtain ⟨token, info, live, rfl⟩ := RelayState.noLeak_iff.mp noLeak socket (listeners member)
  have same := sockets token
  rw [live, Option.map_some] at same
  obtain ⟨new, live', same'⟩ := Option.map_eq_some_iff.mp same
  exact ⟨token, new, live', congrArg Prod.snd same'⟩

/-- A step that only removes sessions leaks their sockets, for their listeners stay. -/
theorem noLeak_iff_of_removes (good : state.Good) (noLeak : state.NoLeak) (state' : RelayState)
    (listeners : state'.listeners = state.listeners)
    (removes : ∀ u, state'.cache.get u = state.cache.get u ∨ state'.cache.get u = none) :
    state'.NoLeak ↔ ∀ u, state'.cache.get u = state.cache.get u := by
  constructor
  · intro none' u
    cases live : state.cache.get u with
    | none =>
        rcases removes u with same | gone
        · exact same.trans live
        · exact gone
    | some info =>
        have listened := listeners ▸ good.listening u info live
        obtain ⟨t, holder, live', same⟩ := RelayState.noLeak_iff.mp none' _ listened
        rcases removes t with kept | gone
        · obtain rfl : t = u :=
            good.inverse.token_unique (kept ▸ live') live (congrArg UdpSocket.localPort same)
          exact kept.trans live
        · rw [gone] at live'
          cases live'
  · intro same
    refine noLeak_of_sameSockets noLeak (fun u => ?_) (listeners ▸ List.Subset.refl _)
    rw [same]

theorem listeners_onGameDatagram_subset (state : RelayState) (port : UInt16)
    (datagram : List UInt8) (sendTo : SendResult) :
    (onGameDatagram state port datagram sendTo).1.listeners ⊆ state.listeners := by
  unfold onGameDatagram
  split_ifs
  · split
    · exact List.Subset.refl _
    · exact List.erase_subset
  · exact List.Subset.refl _

/-- The sessions it removes leak their sockets, unless there were none. -/
theorem noLeak_iff_of_gone (good : state.Good) (noLeak : state.NoLeak) (state' : RelayState)
    (listeners : state'.listeners = state.listeners) {gone : UInt32 → Prop} [DecidablePred gone]
    (get : ∀ u, state'.cache.get u = if gone u then none else state.cache.get u) :
    state'.NoLeak ↔ ∀ u, gone u → state.cache.get u = none := by
  refine (noLeak_iff_of_removes good noLeak state' listeners fun u => ?_).trans
    (forall_congr' fun u => ?_)
  · rw [get]
    split_ifs
    · exact .inr rfl
    · exact .inl rfl
  · rw [get]
    split_ifs with here
    · exact ⟨fun same _ => same.symm, fun absent => (absent here).symm⟩
    · exact iff_of_true rfl fun removed => absurd removed here

theorem noLeak_unregister (good : state.Good) (noLeak : state.NoLeak) (token : UInt32) :
    (unregisterSession state token).NoLeak ↔ state.cache.get token = none := by
  have removed : ∀ u, (unregisterSession state token).cache.get u =
      if u = token then none else state.cache.get u := state.cache.get_unregister token
  rw [noLeak_iff_of_gone good noLeak (unregisterSession state token) rfl removed, forall_eq]

theorem noLeak_cleanup (good : state.Good) (noLeak : state.NoLeak) (now : Instant) :
    RelayState.NoLeak { state with cache := state.cache.cleanupStale now } ↔
      state.cache.staleTokens now = [] := by
  have removed : ∀ u, (state.cache.cleanupStale now).get u =
      if u ∈ state.cache.staleTokens now then none else state.cache.get u :=
    state.cache.get_foldl_unregister (state.cache.staleTokens now)
  refine (noLeak_iff_of_gone good noLeak
    { state with cache := state.cache.cleanupStale now } rfl removed).trans ⟨?_, ?_⟩
  · intro absent
    refine List.eq_nil_iff_forall_not_mem.mpr fun token stale => ?_
    obtain ⟨info, live, _⟩ := (SessionCache.mem_staleTokens good.inverse.tokens).mp stale
    rw [absent token stale] at live
    cases live
  · intro empty u stale
    rw [empty] at stale
    cases stale

/-- A registration that replaces a session leaks the old socket. -/
theorem noLeak_register (good : state.Good) (noLeak : state.NoLeak) {token : UInt32}
    {gameServerIps gamePorts : List String} {bind : BindResult} {now : Instant}
    (closed : BindsClosedPort state (.register token gameServerIps gamePorts bind now)) :
    (registerSession state token gameServerIps gamePorts bind now).1.NoLeak ↔
      (state.cache.activeCount < state.cache.maxSessions → state.cache.get token = none) := by
  cases registersSession state token gameServerIps gamePorts bind now with
  | refused e answer listeners others kept =>
      cases state.cache.registered token placeholderAddr gameServerIps
        (registeredPorts gamePorts) bind now with
      | refused full result =>
          have unchanged : (registerSession state token gameServerIps gamePorts bind now).1 =
              state := by
            simp [registerSession, result]
          rw [unchanged]
          exact iff_of_true noLeak fun room => absurd full (Nat.not_le.mpr room)
      | failed unbound room result =>
          have removed : (registerSession state token gameServerIps gamePorts bind now).1 =
              unregisterSession state token := by
            simp [registerSession, result, unregisterSession]
          rw [removed, noLeak_unregister good noLeak]
          exact (imp_iff_right room).symm
      | bound port yields room result =>
          simp [registerSession, result, SessionCache.get_insertSession] at answer
  | accepted port yields room answer listeners sessions =>
      subst yields
      rw [imp_iff_right room, RelayState.noLeak_iff, listeners]
      constructor
      · intro noLeak'
        by_contra live
        obtain ⟨old, live⟩ := Option.ne_none_iff_exists'.mp live
        have listened := good.listening token old live
        obtain ⟨t, holder, live', same⟩ :=
          noLeak' old.forwardSocket (List.mem_cons_of_mem _ listened)
        rw [sessions] at live'
        split_ifs at live' with here
        · -- The new session would hold the old socket, which is still bound.
          obtain rfl := Option.some.inj live'
          have held : ⟨port⟩ = old.forwardSocket := same
          exact closed (List.mem_dedup.mpr (List.mem_append.mpr (.inr (held ▸ listened))))
        · exact here (good.inverse.token_unique live' live (congrArg UdpSocket.localPort same))
      · intro absent socket member
        rcases List.mem_cons.mp member with rfl | old
        · exact ⟨token, _, (sessions token).trans (if_pos rfl), rfl⟩
        · obtain ⟨t, info, live, rfl⟩ := RelayState.noLeak_iff.mp noLeak socket old
          have other : t ≠ token := by
            rintro rfl
            rw [absent] at live
            cases live
          exact ⟨t, info, (sessions t).trans ((if_neg other).trans live), rfl⟩

theorem noLeak_step (good : state.Good) (noLeak : state.NoLeak) {event : Event}
    (closed : BindsClosedPort state event) :
    (step state event).1.NoLeak ↔ RemovesNone state event := by
  cases event with
  | clientDatagram datagram source now sendTo =>
      exact iff_of_true (noLeak_of_sameSockets noLeak
        (socketOf_clientListener state.cache datagram source now sendTo)
        (List.Subset.refl _)) trivial
  | gameDatagram port datagram sendTo =>
      exact iff_of_true (noLeak_of_sameSockets noLeak
        (socketOf_onGameDatagram state port datagram sendTo)
        (listeners_onGameDatagram_subset state port datagram sendTo)) trivial
  | register token ips ports bind now => exact noLeak_register good noLeak closed
  | unregister token => exact noLeak_unregister good noLeak token
  | cleanup now => exact noLeak_cleanup good noLeak now

/-- Over any run, every bound forward socket belongs to a live session, and there are no more
of them than sessions are allowed, if and only if no operation removes a live session. -/
theorem noLeak_run_iff (maxSessions : Nat) (sessionTimeout : Duration) {events : List Event}
    (closed : Machine.Legal BindsClosedPort step (start maxSessions sessionTimeout) events) :
    (∀ n, let state := (Machine.run step (start maxSessions sessionTimeout) (events.take n)).1
      (∀ socket ∈ state.boundSockets, ∃ token info,
        state.cache.get token = some info ∧ info.forwardSocket = socket) ∧
      state.boundSockets.length ≤ maxSessions) ↔
      Machine.Legal RemovesNone step (start maxSessions sessionTimeout) events := by
  have empty : (start maxSessions sessionTimeout).NoLeak :=
    RelayState.noLeak_iff.mpr (by simp [start])
  rw [Machine.legal_iff_invariant_of_legal RelayState.Good
    (fun _ _ good _ closed => good_step good closed.fresh)
    (fun _ _ good noLeak closed => noLeak_step good noLeak closed) (good_start _ _) empty closed]
  refine forall_congr' fun n => ⟨fun both => both.1, fun noLeak => ⟨noLeak, ?_⟩⟩
  exact Nat.le_trans (RelayState.NoLeak.length_le noLeak) (activeCount_run_le _ _ _)

/-- Two sessions that stay, and requests that remove none. -/
def nothingRemoved : List Event :=
  [.register 7 ["10.0.0.1"] ["27015"] (.bound 40000) 0, .unregister 8,
    .register 9 ["10.0.0.1"] ["27015"] (.bound 40001) 10, .gameDatagram 40000 [1] (.sent 9),
    .cleanup 20, .register 7 [] [] (.bound 40002) 30]

theorem noLeak_run_iff_nothingRemoved :
    (Machine.run step (start 2 300) nothingRemoved).1.boundSockets.length = 2 ∧ ∀ n,
      let state := (Machine.run step (start 2 300) (nothingRemoved.take n)).1
      (∀ socket ∈ state.boundSockets, ∃ token info,
        state.cache.get token = some info ∧ info.forwardSocket = socket) ∧
      state.boundSockets.length ≤ 2 :=
  ⟨by decide, (noLeak_run_iff 2 300 (by decide)).mpr (by decide)⟩

/-- A session that is registered and removed while its game server is silent. -/
def silentServer : List Event :=
  [.register 7 ["10.0.0.1"] ["27015"] (.bound 40000) 0, .unregister 7,
    .register 8 ["10.0.0.1"] ["27015"] (.bound 40001) 10]

/-- Its socket stays bound, and the relay has more sockets than it may have sessions. -/
theorem silentServer_leaks :
    Machine.Legal BindsClosedPort step (start 1 300) silentServer ∧
      let state := (Machine.run step (start 1 300) silentServer).1
      ¬ state.NoLeak ∧ 1 < state.boundSockets.length := by
  refine ⟨by decide, fun noLeak => ?_, by decide⟩
  have held := RelayState.mem_forwardSockets.mpr (noLeak ⟨40000⟩ (by decide))
  exact absurd held (by decide)

end PlgBooster.Relay
