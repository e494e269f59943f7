import PlgBooster.Relay.Capacity

/-!
# Replacing a session

`register` takes three steps whose order matters: it looks for room, removes the session
already stored under the token, and asks the system for a socket. The look for room counts
the session that the next step removes, and the removal is not taken back where the system
has no socket to give. Both effects are stated here by what they leave of the old session.
-/

namespace PlgBooster.Relay

open Rust

/-- The system gives a socket and its address. -/
def BindResult.Succeeds : BindResult → Prop
  | .bound _ => True
  | .bindFailed => False
  | .localAddrFailed => False

instance : DecidablePred BindResult.Succeeds
  | .bound _ => isTrue trivial
  | .bindFailed => isFalse id
  | .localAddrFailed => isFalse id

namespace SessionCache

section

variable (cache : SessionCache) (token : UInt32) (clientAddr : SocketAddr)
variable (gameServerIps : List String) (gamePorts : List UInt16) (bind : BindResult)
variable (now : Instant)

/-- A registration without an answer leaves the two maps and the gauge alone. -/
def FailureKeeps : Prop :=
  let result := cache.register token clientAddr gameServerIps gamePorts bind now
  result.1 = none →
    result.2.sessions = cache.sessions ∧ result.2.portToToken = cache.portToToken ∧
      result.2.metrics.activeSessions = cache.metrics.activeSessions

/-- A registration finds room exactly for a live token or below the limit, and then it adds
its token to the live ones and touches no other session. -/
def ReplacesInPlace : Prop :=
  let result := cache.register token clientAddr gameServerIps gamePorts bind now
  (result.1.isSome ↔ (cache.get token).isSome ∨ cache.activeCount < cache.maxSessions) ∧
    (result.1.isSome →
      (∀ u, (result.2.get u).isSome ↔ (cache.get u).isSome ∨ u = token) ∧
      ∀ u, u ≠ token → result.2.get u = cache.get u)

end

variable {cache : SessionCache} {token : UInt32}

theorem unregister_of_get_eq_none (absent : cache.get token = none) :
    cache.unregister token = cache := by
  simp only [unregister, absent]

theorem sessions_unregister_ne (live : (cache.get token).isSome) :
    (cache.unregister token).sessions ≠ cache.sessions := by
  intro same
  have gone : (cache.unregister token).get token = none := by
    rw [get_unregister, if_pos rfl]
  have kept : (cache.unregister token).get token = cache.get token :=
    congrArg (AList.lookup token) same
  rw [← kept, gone] at live
  cases live

/-- The session under the token is gone once there was room, whatever the system answers. -/
theorem register_eq_unregister (clientAddr : SocketAddr) (gameServerIps : List String)
    (gamePorts : List UInt16) {bind : BindResult} (now : Instant)
    (room : cache.activeCount < cache.maxSessions) (failed : ¬ BindResult.Succeeds bind) :
    cache.register token clientAddr gameServerIps gamePorts bind now =
      (none, cache.unregister token) := by
  have notFull : ¬ cache.maxSessions ≤ cache.activeCount := by omega
  cases bind with
  | bindFailed => simp only [register, notFull, if_false]
  | localAddrFailed => simp only [register, notFull, if_false]
  | bound port => exact absurd trivial failed

/-- A failed registration changes nothing but where it has found room, removed the live
session of its token, and then got no socket. -/
theorem failureKeeps_iff (cache : SessionCache) (token : UInt32) (clientAddr : SocketAddr)
    (gameServerIps : List String) (gamePorts : List UInt16) (bind : BindResult)
    (now : Instant) :
    cache.FailureKeeps token clientAddr gameServerIps gamePorts bind now ↔
      ¬ (cache.activeCount < cache.maxSessions ∧ ¬ BindResult.Succeeds bind ∧
        (cache.get token).isSome) := by
  constructor
  · rintro keeps ⟨room, failed, live⟩
    have result := @register_eq_unregister cache token clientAddr gameServerIps gamePorts bind now
      room failed
    simp only [FailureKeeps, result, forall_const] at keeps
    exact sessions_unregister_ne live keeps.1
  · intro spared
    cases cache.registered token clientAddr gameServerIps gamePorts bind now with
    | refused full result => simp [FailureKeeps, result]
    | failed unbound room result =>
        have failedBind : ¬ BindResult.Succeeds bind := by
          rcases unbound with rfl | rfl <;> exact id
        have absent : cache.get token = none := by
          by_contra live
          exact spared ⟨room, failedBind, Option.isSome_iff_ne_none.mpr live⟩
        simp [FailureKeeps, result, unregister_of_get_eq_none absent]
    | bound port yields room result => simp [FailureKeeps, result]

/-- With a socket, a registration succeeds exactly below the limit. -/
theorem register_isSome_iff (cache : SessionCache) (token : UInt32) (clientAddr : SocketAddr)
    (gameServerIps : List String) (gamePorts : List UInt16) (port : UInt16) (now : Instant) :
    (cache.register token clientAddr gameServerIps gamePorts (.bound port) now).1.isSome ↔
      cache.activeCount < cache.maxSessions := by
  by_cases full : cache.maxSessions ≤ cache.activeCount
  · simp [register, full]
  · simp only [register, full, if_false, Option.isSome_some, true_iff]
    omega

/-- A registration that succeeds stores its session and touches no other one. -/
theorem get_register_of_room (clientAddr : SocketAddr) (gameServerIps : List String)
    (gamePorts : List UInt16) {port : UInt16} (now : Instant)
    (room : cache.activeCount < cache.maxSessions) (u : UInt32) :
    (cache.register token clientAddr gameServerIps gamePorts (.bound port) now).2.get u =
      if u = token then
        some (newSession token clientAddr gameServerIps gamePorts ⟨port⟩ now)
      else cache.get u := by
  have notFull : ¬ cache.maxSessions ≤ cache.activeCount := by omega
  simp only [register, notFull, if_false, get_insertSession, get_unregister]
  by_cases same : u = token <;> simp only [same, if_true, if_false]

/-- With a socket, replacing a session needs a free slot: it fails exactly when the cache is
full, the session to be replaced included. -/
theorem replacesInPlace_iff (cache : SessionCache) (token : UInt32) (clientAddr : SocketAddr)
    (gameServerIps : List String) (gamePorts : List UInt16) (port : UInt16) (now : Instant) :
    cache.ReplacesInPlace token clientAddr gameServerIps gamePorts (.bound port) now ↔
      ¬ ((cache.get token).isSome ∧ cache.maxSessions ≤ cache.activeCount) := by
  have success := cache.register_isSome_iff token clientAddr gameServerIps gamePorts port now
  constructor
  · rintro ⟨accepts, _⟩ ⟨live, full⟩
    have room : cache.activeCount < cache.maxSessions := success.mp (accepts.mpr (.inl live))
    omega
  · intro spared
    refine ⟨?_, fun answered => ?_⟩
    · rw [success]
      constructor
      · exact .inr
      · rintro (live | room)
        · by_contra full
          exact spared ⟨live, by omega⟩
        · exact room
    · have sessions := @get_register_of_room cache token clientAddr gameServerIps gamePorts port
        now (success.mp answered)
      refine ⟨fun u => ?_, fun u other => ?_⟩
      · rw [sessions u]
        by_cases same : u = token <;> simp [same]
      · rw [sessions u, if_neg other]

end SessionCache

/-! ## What a session loses -/

/-- A relay with room for two sessions, and one session under token 1. -/
def oneSession : List Event := [.register 1 ["10.0.0.1"] ["27015"] (.bound 40000) 0]

/-- A relay with two sessions, which are all it may have. -/
def twoSessions : List Event :=
  oneSession ++ [.register 2 ["10.0.0.1"] ["27015"] (.bound 40001) 10]

/-- The state these requests lead to. -/
def after (events : List Event) : RelayState := (Machine.run step (start 2 300) events).1

theorem reached_after {events : List Event}
    (legal : Machine.Legal BindsFreshPort step (start 2 300) events) : Reached (after events) :=
  ⟨2, 300, events, legal, rfl⟩

/-- A registration that gets no socket has removed the live session of its token. -/
theorem oneSession_lost :
    ¬ ∀ state, Reached state → ∀ token clientAddr gameServerIps gamePorts bind now,
      state.cache.FailureKeeps token clientAddr gameServerIps gamePorts bind now := by
  intro keeps
  obtain ⟨_, _, gauge⟩ := keeps (after oneSession) (reached_after (by decide)) 1 placeholderAddr
    ["10.0.0.1"] [27015] .bindFailed 20 (by decide)
  revert gauge
  decide

/-- A full cache refuses to replace one of its sessions. -/
theorem twoSessions_refused :
    ¬ ∀ state, Reached state → ∀ token clientAddr gameServerIps gamePorts port now,
      state.cache.ReplacesInPlace token clientAddr gameServerIps gamePorts (.bound port) now := by
  intro replaces
  have accepted := (replaces (after twoSessions) (reached_after (by decide)) 1 placeholderAddr
    ["10.0.0.1"] [27015] 40002 20).1.mpr (.inl (by decide))
  revert accepted
  decide

end PlgBooster.Relay
