import PlgBooster.Relay.System
import Mathlib.Data.List.Perm.Subperm

/-!
# How many sessions the cache holds

The limits of a cache never change. Its size depends on which tokens have a session only,
and a registration that is not interrupted keeps it below the limit.
-/

namespace PlgBooster.Relay

open Rust

namespace SessionCache

/-! ## The limits -/

/-- What a relay is configured with. -/
def limits (cache : SessionCache) : Nat × Duration := (cache.maxSessions, cache.sessionTimeout)

@[simp] theorem limits_put (cache : SessionCache) (token : UInt32) (session : SessionInfo) :
    (cache.put token session).limits = cache.limits := rfl

@[simp] theorem limits_count (cache : SessionCache) (update : Metrics → Metrics) :
    (cache.count update).limits = cache.limits := rfl

theorem ignoresMaps_limits : IgnoresMaps limits := fun _ _ _ _ => rfl

@[simp] theorem limits_unregister (cache : SessionCache) (token : UInt32) :
    (cache.unregister token).limits = cache.limits :=
  view_unregister ignoresMaps_limits cache token

end SessionCache

@[simp] theorem limits_clientListener (cache : SessionCache) (datagram : List UInt8)
    (clientAddr : SocketAddr) (now : Instant) (sendTo : SendResult) :
    (clientListener cache datagram clientAddr now sendTo).1.limits = cache.limits :=
  view_clientListener cache datagram clientAddr now sendTo SessionCache.limits
    SessionCache.limits_put SessionCache.limits_count

@[simp] theorem limits_onGameDatagram (state : RelayState) (port : UInt16)
    (datagram : List UInt8) (sendTo : SendResult) :
    (onGameDatagram state port datagram sendTo).1.cache.limits = state.cache.limits := by
  have listener : (responseListener state.cache port datagram sendTo).1.limits =
      state.cache.limits := by
    unfold responseListener
    split
    · rfl
    · split
      · rfl
      · dsimp only
        split_ifs <;> rfl
  unfold onGameDatagram
  split_ifs
  · split
    all_goals
      next result => simpa only [result] using listener
  · rfl

theorem limits_step (state : RelayState) (event : Event) :
    (step state event).1.cache.limits = state.cache.limits := by
  cases event with
  | clientDatagram datagram source now sendTo => exact limits_clientListener ..
  | gameDatagram port datagram sendTo => exact limits_onGameDatagram ..
  | register token gameServerIps gamePorts bind now =>
      change (registerSession state token gameServerIps gamePorts bind now).1.cache.limits = _
      rw [registerSession_cache]
      exact SessionCache.view_register SessionCache.ignoresMaps_limits ..
  | unregister token => exact SessionCache.limits_unregister ..
  | cleanup now => exact SessionCache.view_cleanupStale SessionCache.ignoresMaps_limits ..

/-! ## The size -/

namespace SessionCache

theorem mem_keys {cache : SessionCache} {u : UInt32} :
    u ∈ cache.sessions.keys ↔ (cache.get u).isSome :=
  AList.lookup_isSome.symm

/-- A cache in which every session of another one lives is at least as large. -/
theorem activeCount_le_of_live {cache cache' : SessionCache}
    (live : ∀ u, (cache.get u).isSome → (cache'.get u).isSome) :
    cache.activeCount ≤ cache'.activeCount := by
  have subset : cache.sessions.keys ⊆ cache'.sessions.keys := fun u member =>
    mem_keys.mpr (live u (mem_keys.mp member))
  exact (List.subperm_of_subset cache.sessions.keys_nodup subset).length_le

/-- Only the live tokens matter for the size. -/
theorem activeCount_congr {cache cache' : SessionCache}
    (live : ∀ u, (cache.get u).isSome = (cache'.get u).isSome) :
    cache.activeCount = cache'.activeCount :=
  Nat.le_antisymm (activeCount_le_of_live fun u here => live u ▸ here)
    (activeCount_le_of_live fun u here => (live u).symm ▸ here)

theorem activeCount_unregister_le (cache : SessionCache) (token : UInt32) :
    (cache.unregister token).activeCount ≤ cache.activeCount := by
  refine activeCount_le_of_live fun u here => ?_
  rw [get_unregister] at here
  split_ifs at here
  · cases here
  · exact here

/-- An insertion adds one to the sessions under other tokens. -/
theorem activeCount_insertSession (cache : SessionCache) (token : UInt32) (info : SessionInfo)
    (port : UInt16) :
    (cache.insertSession token info port).activeCount =
      (cache.unregister token).activeCount + 1 := by
  have inserted : (cache.insertSession token info port).sessions.keys =
      token :: cache.sessions.keys.erase token := AList.keys_insert _
  have removed : (cache.unregister token).sessions.keys = cache.sessions.keys.erase token := by
    unfold unregister
    cases live : cache.get token with
    | none =>
        have absent : token ∉ cache.sessions.keys := by
          rw [mem_keys, live]
          simp
        exact (List.erase_of_not_mem absent).symm
    | some info => exact AList.keys_erase _ _
  simp only [activeCount, inserted, removed, List.length_cons]

theorem activeCount_unregister_twice (cache : SessionCache) (token : UInt32) :
    ((cache.unregister token).unregister token).activeCount =
      (cache.unregister token).activeCount := by
  refine activeCount_congr fun u => ?_
  by_cases same : u = token <;> simp [get_unregister, same]

theorem activeCount_cleanupStale_le (cache : SessionCache) (now : Instant) :
    (cache.cleanupStale now).activeCount ≤ cache.activeCount := by
  refine activeCount_le_of_live fun u here => ?_
  rw [cleanupStale, get_foldl_unregister] at here
  split_ifs at here
  · cases here
  · exact here

/-- A registration that runs without interruption keeps the limit. -/
theorem activeCount_register_le (cache : SessionCache) (token : UInt32) (clientAddr : SocketAddr)
    (gameServerIps : List String) (gamePorts : List UInt16) (bind : BindResult) (now : Instant)
    (within : cache.activeCount ≤ cache.maxSessions) :
    (cache.register token clientAddr gameServerIps gamePorts bind now).2.activeCount ≤
      cache.maxSessions := by
  have removed := cache.activeCount_unregister_le token
  cases cache.registered token clientAddr gameServerIps gamePorts bind now with
  | refused full result =>
      rw [result]
      exact within
  | failed unbound room result =>
      rw [result]
      exact Nat.le_trans removed within
  | bound port yields room result =>
      rw [result, activeCount_insertSession, activeCount_unregister_twice]
      omega

end SessionCache

theorem activeCount_step_le {state : RelayState} (event : Event)
    (within : state.cache.activeCount ≤ state.cache.maxSessions) :
    (step state event).1.cache.activeCount ≤ (step state event).1.cache.maxSessions := by
  have limit : (step state event).1.cache.maxSessions = state.cache.maxSessions :=
    congrArg Prod.fst (limits_step state event)
  rw [limit]
  cases event with
  | clientDatagram datagram source now sendTo =>
      refine Nat.le_trans (SessionCache.activeCount_le_of_live fun u here => ?_) within
      change ((clientListener state.cache datagram source now sendTo).1.get u).isSome at here
      rcases get_clientListener state.cache datagram source now sendTo u with
        ⟨same, _⟩ | ⟨packet, session, _, _, live, _⟩
      · rwa [same] at here
      · rw [live]
        rfl
  | gameDatagram port datagram sendTo =>
      refine Nat.le_trans (SessionCache.activeCount_le_of_live fun u here => ?_) within
      change ((onGameDatagram state port datagram sendTo).1.cache.get u).isSome at here
      rcases get_onGameDatagram state port datagram sendTo u with same | ⟨session, live, _⟩
      · rwa [same] at here
      · rw [live]
        rfl
  | register token gameServerIps gamePorts bind now =>
      change (registerSession state token gameServerIps gamePorts bind now).1.cache.activeCount ≤ _
      rw [registerSession_cache]
      exact SessionCache.activeCount_register_le _ _ _ _ _ _ _ within
  | unregister token => exact Nat.le_trans (SessionCache.activeCount_unregister_le _ _) within
  | cleanup now => exact Nat.le_trans (SessionCache.activeCount_cleanupStale_le _ _) within

/-- The limits of a relay are the ones it has started with. -/
theorem limits_run (maxSessions : Nat) (sessionTimeout : Duration) (events : List Event) :
    (Machine.run step (start maxSessions sessionTimeout) events).1.cache.limits =
      (maxSessions, sessionTimeout) :=
  Machine.run_always (fun state : RelayState => state.cache.limits = _)
    (fun state event kept => (limits_step state event).trans kept) rfl events

/-- A relay whose requests are handled one at a time never has more sessions than it may. -/
theorem activeCount_run_le (maxSessions : Nat) (sessionTimeout : Duration) (events : List Event) :
    (Machine.run step (start maxSessions sessionTimeout) events).1.cache.activeCount ≤
      maxSessions := by
  have empty : (start maxSessions sessionTimeout).cache.activeCount ≤
      (start maxSessions sessionTimeout).cache.maxSessions := Nat.zero_le _
  have within := Machine.run_always
    (fun state : RelayState => state.cache.activeCount ≤ state.cache.maxSessions)
    (fun _ event => activeCount_step_le event) empty events
  have limit := congrArg Prod.fst (limits_run maxSessions sessionTimeout events)
  exact Nat.le_trans within (Nat.le_of_eq limit)

end PlgBooster.Relay
