import PlgBooster.Library.Machine
import PlgBooster.Relay.Session
import Mathlib.Data.PEquiv

/-!
# The two maps of the cache are inverse to each other

`sessions` and `port_to_token` are written by separate statements in three
operations. What they are for is one partial bijection between tokens and ports,
`Inverse.routes`; the invariant says that the two maps are its two directions.
It is preserved because the system hands out a port that no other live session
holds, so an insertion never overwrites another session's entry.
-/

namespace PlgBooster.Relay

open Rust

namespace SessionCache

/-- The reverse map has exactly the ports of the live sessions, and a session is
stored under its own token. -/
structure Inverse (cache : SessionCache) : Prop where
  ports : ∀ port token, cache.tokenByPort port = some token ↔
    ∃ info, cache.get token = some info ∧ info.forwardSocket.localPort = port
  tokens : ∀ token info, cache.get token = some info → info.sessionToken = token

/-- The gauge shows the number of live sessions. -/
def GaugeExact (cache : SessionCache) : Prop :=
  cache.metrics.activeSessions = cache.activeCount

/-- The port a binding yields is not held by the socket of another live session. -/
def FreshPort (cache : SessionCache) (token : UInt32) : BindResult → Prop
  | .bound port => ∀ entry ∈ cache.sessions.entries,
      entry.1 ≠ token → entry.2.forwardSocket.localPort ≠ port
  | .bindFailed => True
  | .localAddrFailed => True

instance (cache : SessionCache) (token : UInt32) (bind : BindResult) :
    Decidable (cache.FreshPort token bind) := by
  cases bind <;> unfold FreshPort <;> infer_instance

theorem FreshPort.ne_of_get {cache : SessionCache} {token : UInt32} {port : UInt16}
    (fresh : cache.FreshPort token (.bound port)) {u : UInt32} {info : SessionInfo}
    (live : cache.get u = some info) (other : u ≠ token) :
    info.forwardSocket.localPort ≠ port :=
  fresh ⟨u, info⟩ (AList.mem_lookup_iff.mp live) other

namespace Inverse

variable {cache : SessionCache}

/-- The routing table as a partial bijection between tokens and ports. -/
def routes (inverse : cache.Inverse) : UInt32 ≃. UInt16 where
  toFun token := (cache.get token).map (·.forwardSocket.localPort)
  invFun port := cache.tokenByPort port
  inv token port := by
    simp only [inverse.ports, Option.map_eq_some_iff]

theorem mem_routes (inverse : cache.Inverse) {token : UInt32} {info : SessionInfo}
    (live : cache.get token = some info) :
    info.forwardSocket.localPort ∈ inverse.routes token := by
  change (cache.get token).map _ = _
  rw [live, Option.map_some]

/-- Two live sessions with one port are one session. -/
theorem token_unique (inverse : cache.Inverse) {t u : UInt32} {i j : SessionInfo}
    (ht : cache.get t = some i) (hu : cache.get u = some j)
    (same : i.forwardSocket.localPort = j.forwardSocket.localPort) : t = u :=
  inverse.routes.inj (inverse.mem_routes ht) (same ▸ inverse.mem_routes hu)

theorem tokenByPort_of_get (inverse : cache.Inverse) {token : UInt32} {info : SessionInfo}
    (live : cache.get token = some info) :
    cache.tokenByPort info.forwardSocket.localPort = some token :=
  (inverse.ports _ _).mpr ⟨info, live, rfl⟩

end Inverse

theorem inverse_new (maxSessions : Nat) (sessionTimeout : Duration) (metrics : Metrics) :
    (new maxSessions sessionTimeout metrics).Inverse where
  ports := by simp
  tokens := by simp

theorem gaugeExact_setGauge (cache : SessionCache) : cache.setGauge.GaugeExact := rfl

theorem GaugeExact.unregister {cache : SessionCache} (exact : cache.GaugeExact)
    (token : UInt32) : (cache.unregister token).GaugeExact := by
  unfold SessionCache.unregister
  split
  · exact exact
  · exact gaugeExact_setGauge _

theorem Inverse.unregister {cache : SessionCache} (inverse : cache.Inverse) (token : UInt32) :
    (cache.unregister token).Inverse where
  ports port u := by
    rw [tokenByPort_unregister, get_unregister]
    by_cases same : u = token
    · subst same
      simp only [if_true, reduceCtorEq, false_and, exists_false, iff_false]
      split_ifs with mine
      · simp
      · rw [inverse.ports]
        rintro ⟨info, live, rfl⟩
        exact mine (by rw [live, Option.map_some])
    · rw [if_neg same, ← inverse.ports]
      split_ifs with mine
      · -- The port belongs to the removed session, so it cannot be the port of `u`.
        obtain ⟨info, live, rfl⟩ := Option.map_eq_some_iff.mp mine
        rw [inverse.tokenByPort_of_get live]
        simp [Ne.symm same]
      · rfl
  tokens u info live := by
    rw [get_unregister] at live
    split_ifs at live
    exact inverse.tokens u info live

theorem Inverse.insertSession {cache : SessionCache} (inverse : cache.Inverse) {token : UInt32}
    {info : SessionInfo} {port : UInt16} (gone : cache.get token = none)
    (fresh : ∀ u i, cache.get u = some i → i.forwardSocket.localPort ≠ port)
    (named : info.sessionToken = token) (bound : info.forwardSocket.localPort = port) :
    (cache.insertSession token info port).Inverse where
  ports p u := by
    rw [tokenByPort_insertSession, get_insertSession]
    by_cases here : p = port
    · subst here
      by_cases same : u = token
      · simp [same, bound]
      · simp only [if_true, same, if_false, Option.some.injEq, Ne.symm same, false_iff]
        rintro ⟨i, live, on⟩
        exact fresh u i live on
    · by_cases same : u = token
      · subst same
        simp only [here, if_false, if_true, Option.some.injEq, exists_eq_left', bound,
          Ne.symm here, inverse.ports, gone, reduceCtorEq, false_and, exists_false]
      · simp only [here, same, if_false, inverse.ports]
  tokens u i live := by
    rw [get_insertSession] at live
    split_ifs at live with same
    · obtain rfl := Option.some.inj live
      exact named.trans same.symm
    · exact inverse.tokens u i live

section Register

variable {cache : SessionCache} {token : UInt32} {bind : BindResult}
variable (clientAddr : SocketAddr) (gameServerIps : List String)
variable (gamePorts : List UInt16) (now : Instant)

theorem Inverse.register (inverse : cache.Inverse) (fresh : cache.FreshPort token bind) :
    (cache.register token clientAddr gameServerIps gamePorts bind now).2.Inverse := by
  cases cache.registered token clientAddr gameServerIps gamePorts bind now with
  | refused full result =>
      rw [result]
      exact inverse
  | failed unbound room result =>
      rw [result]
      exact inverse.unregister token
  | bound port yields room result =>
      subst yields
      rw [result]
      refine (inverse.unregister token).insertSession ?_ ?_ rfl rfl
      · simp [get_unregister]
      · intro u i live
        rw [get_unregister] at live
        split_ifs at live with same
        exact fresh.ne_of_get live same

theorem GaugeExact.register (exact : cache.GaugeExact) :
    (cache.register token clientAddr gameServerIps gamePorts bind now).2.GaugeExact := by
  cases cache.registered token clientAddr gameServerIps gamePorts bind now with
  | refused full result =>
      rw [result]
      exact exact
  | failed unbound room result =>
      rw [result]
      exact exact.unregister token
  | bound port yields room result =>
      rw [result]
      exact gaugeExact_setGauge _

end Register

/-! ## Cleanup -/

/-- The tokens of a cleanup are those of the sessions not seen for longer than the timeout. -/
theorem mem_staleTokens {cache : SessionCache}
    (named : ∀ token info, cache.get token = some info → info.sessionToken = token)
    {now : Instant} {token : UInt32} :
    token ∈ cache.staleTokens now ↔ ∃ info, cache.get token = some info ∧
      now.durationSince info.lastSeen > cache.sessionTimeout := by
  simp only [staleTokens, List.mem_map, List.mem_filter, decide_eq_true_eq]
  constructor
  · rintro ⟨⟨u, info⟩, ⟨entry, stale⟩, rfl⟩
    have live : cache.get u = some info := AList.mem_lookup_iff.mpr entry
    rw [named u info live]
    exact ⟨info, live, stale⟩
  · rintro ⟨info, live, stale⟩
    exact ⟨⟨token, info⟩, ⟨AList.mem_lookup_iff.mp live, stale⟩, named token info live⟩

/-- Removing several sessions one after the other removes exactly these. -/
theorem get_foldl_unregister (cache : SessionCache) (tokens : List UInt32) (u : UInt32) :
    (tokens.foldl unregister cache).get u = if u ∈ tokens then none else cache.get u := by
  induction tokens generalizing cache with
  | nil => simp
  | cons token tokens ih =>
      rw [List.foldl_cons, ih, get_unregister]
      by_cases later : u ∈ tokens <;> by_cases same : u = token <;> simp [later, same]

theorem Inverse.foldl_unregister {cache : SessionCache} (inverse : cache.Inverse)
    (tokens : List UInt32) : (tokens.foldl SessionCache.unregister cache).Inverse := by
  induction tokens generalizing cache with
  | nil => exact inverse
  | cons token tokens ih => exact ih (inverse.unregister token)

theorem Inverse.cleanupStale {cache : SessionCache} (inverse : cache.Inverse) (now : Instant) :
    (cache.cleanupStale now).Inverse :=
  inverse.foldl_unregister _

theorem GaugeExact.cleanupStale {cache : SessionCache} (exact : cache.GaugeExact)
    (now : Instant) : (cache.cleanupStale now).GaugeExact := by
  unfold SessionCache.cleanupStale
  generalize cache.staleTokens now = tokens
  induction tokens generalizing cache with
  | nil => exact exact
  | cons token tokens ih => exact ih (exact.unregister token)

/-! ## Runs of the three operations -/

/-- The operations that add and remove sessions, with the answers of the system. -/
inductive Op where
  | register (token : UInt32) (clientAddr : SocketAddr) (gameServerIps : List String)
      (gamePorts : List UInt16) (bind : BindResult) (now : Instant)
  | unregister (token : UInt32)
  | cleanupStale (now : Instant)

/-- One operation; a registration answers with the local port. -/
def apply (cache : SessionCache) : Op → SessionCache × List (Option UInt16)
  | .register token clientAddr gameServerIps gamePorts bind now =>
      let result := cache.register token clientAddr gameServerIps gamePorts bind now
      (result.2, [result.1])
  | .unregister token => (cache.unregister token, [])
  | .cleanupStale now => (cache.cleanupStale now, [])

/-- The system's promise: it never binds a port that a live session still holds. -/
def BindsFreshPort (cache : SessionCache) : Op → Prop
  | .register token _ _ _ bind _ => cache.FreshPort token bind
  | .unregister _ => True
  | .cleanupStale _ => True

instance (cache : SessionCache) (op : Op) : Decidable (cache.BindsFreshPort op) := by
  cases op <;> unfold BindsFreshPort <;> infer_instance

theorem inverse_apply {cache : SessionCache} (op : Op)
    (good : cache.Inverse ∧ cache.GaugeExact) (fresh : cache.BindsFreshPort op) :
    (cache.apply op).1.Inverse ∧ (cache.apply op).1.GaugeExact := by
  obtain ⟨inverse, exact⟩ := good
  cases op with
  | register token clientAddr ips ports bind now =>
      exact ⟨inverse.register clientAddr ips ports now fresh,
        exact.register clientAddr ips ports now⟩
  | unregister token => exact ⟨inverse.unregister token, exact.unregister token⟩
  | cleanupStale now => exact ⟨inverse.cleanupStale now, exact.cleanupStale now⟩

/-- After any sequence of registrations, removals and cleanups the reverse lookup
finds exactly the live session on a port, sessions are stored under their tokens,
ports are not shared, and the gauge counts the live sessions. -/
theorem run_apply_maps_inverse (maxSessions : Nat) (sessionTimeout : Duration) (ops : List Op)
    (fresh : Machine.Legal BindsFreshPort apply (new maxSessions sessionTimeout .new) ops) :
    let cache := (Machine.run apply (new maxSessions sessionTimeout .new) ops).1
    (∀ port token, cache.tokenByPort port = some token ↔
      ∃ info, cache.get token = some info ∧ info.forwardSocket.localPort = port) ∧
    (∀ token info, cache.get token = some info → info.sessionToken = token) ∧
    (∀ t u i j, cache.get t = some i → cache.get u = some j →
      i.forwardSocket.localPort = j.forwardSocket.localPort → t = u) ∧
    cache.metrics.activeSessions = cache.activeCount := by
  intro cache
  obtain ⟨inverse, exact⟩ : cache.Inverse ∧ cache.GaugeExact :=
    Machine.run_invariant (fun cache => cache.Inverse ∧ cache.GaugeExact)
      (fun _ op => inverse_apply op) ⟨inverse_new _ _ _, rfl⟩ fresh
  exact ⟨inverse.ports, inverse.tokens, fun _ _ _ _ ht hu => inverse.token_unique ht hu, exact⟩

/-- Token 7 is replaced once and then expires, while the binding for token 9 fails. -/
def replaceAndExpire : List Op :=
  let placeholder : SocketAddr := ⟨.V4 ⟨0, 0, 0, 0⟩, 0⟩
  [.register 7 placeholder ["10.0.0.1"] [27015] (.bound 40000) 0,
    .register 8 placeholder ["10.0.0.2"] [27016] (.bound 40001) 350,
    .register 7 placeholder ["10.0.0.1"] [27015] (.bound 40002) 10,
    .register 9 placeholder [] [] .bindFailed 20,
    .cleanupStale 400]

theorem run_apply_maps_inverse_replaceAndExpire :
    let cache := (Machine.run apply (new 3 300 .new) replaceAndExpire).1
    (∀ port token, cache.tokenByPort port = some token ↔
      ∃ info, cache.get token = some info ∧ info.forwardSocket.localPort = port) ∧
    (∀ token info, cache.get token = some info → info.sessionToken = token) ∧
    (∀ t u i j, cache.get t = some i → cache.get u = some j →
      i.forwardSocket.localPort = j.forwardSocket.localPort → t = u) ∧
    cache.metrics.activeSessions = cache.activeCount :=
  run_apply_maps_inverse 3 300 replaceAndExpire (by decide)

end SessionCache

end PlgBooster.Relay
