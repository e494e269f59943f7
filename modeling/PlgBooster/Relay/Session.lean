import PlgBooster.Rust.Net
import Mathlib.Data.List.AList

/-!
# The relay's session cache

`SessionCache` as `relay/src/session.rs` has it: a map from tokens to sessions,
the reverse map from the local port of a session's forward socket to its token,
and the shared counters. The two concurrent maps are association lists with
distinct keys; their order stands for the unspecified iteration order of the
original. Results of system calls and clock readings are arguments.
-/

namespace PlgBooster.Relay

open Rust

/-- A bound UDP socket. The system never gives one port to two open sockets. -/
structure UdpSocket where
  localPort : UInt16
  deriving DecidableEq, Repr

structure SessionInfo where
  sessionToken : UInt32
  clientAddr : SocketAddr
  gameServerIps : List String
  gamePorts : List UInt16
  /-- Current forwarding target (set by control packet or default). -/
  forwardTarget : Option SocketAddr
  /-- Per-session UDP socket for forwarding to the game server. -/
  forwardSocket : UdpSocket
  lastSeen : Instant
  packetsIn : Nat
  packetsOut : Nat
  bytesIn : Nat
  bytesOut : Nat
  deriving DecidableEq, Repr

/-- The counters of `metrics.rs`; `activeSessions` is the gauge. -/
structure Metrics where
  activeSessions : Int
  packetsReceived : Nat
  packetsForwarded : Nat
  packetsDropped : Nat
  bytesForwarded : Nat
  invalidSessions : Nat
  keepalives : Nat
  deriving DecidableEq, Repr

def Metrics.new : Metrics := ⟨0, 0, 0, 0, 0, 0, 0⟩

structure SessionCache where
  /-- `session_token → SessionInfo` -/
  sessions : AList fun _ : UInt32 => SessionInfo
  /-- `local_port` of the forward socket `→ session_token` -/
  portToToken : AList fun _ : UInt16 => UInt32
  maxSessions : Nat
  sessionTimeout : Duration
  metrics : Metrics

/-- Parse the first IP and the first port into the default forward target. -/
def defaultForwardTarget (ips : List String) (ports : List UInt16) : Option SocketAddr := do
  let ip ← ips.head?
  let port ← ports.head?
  let addr ← parseIpAddr ip.toList
  some ⟨addr, port⟩

/-- What the system answers to binding a fresh UDP socket and asking for its address. -/
inductive BindResult where
  | bindFailed
  | localAddrFailed
  | bound (port : UInt16)
  deriving DecidableEq, Repr

namespace SessionCache

def new (maxSessions : Nat) (sessionTimeout : Duration) (metrics : Metrics) : SessionCache where
  sessions := ∅
  portToToken := ∅
  maxSessions := maxSessions
  sessionTimeout := sessionTimeout
  metrics := metrics

def activeCount (cache : SessionCache) : Nat := cache.sessions.keys.length

def get (cache : SessionCache) (token : UInt32) : Option SessionInfo :=
  cache.sessions.lookup token

instance (cache : SessionCache) (token : UInt32) : Decidable (cache.get token = none) :=
  decidable_of_iff ((cache.get token).isNone = true) Option.isNone_iff_eq_none

/-- Write back a session that was borrowed with `get_mut`. -/
def put (cache : SessionCache) (token : UInt32) (session : SessionInfo) : SessionCache :=
  { cache with sessions := cache.sessions.insert token session }

/-- Look up session token by the local port of its forward socket. -/
def tokenByPort (cache : SessionCache) (port : UInt16) : Option UInt32 :=
  cache.portToToken.lookup port

/-- `metrics.active_sessions.set(self.sessions.len())`. -/
def setGauge (cache : SessionCache) : SessionCache :=
  { cache with metrics := { cache.metrics with activeSessions := cache.activeCount } }

/-- Remove a session and the entry of its forward socket's port. -/
def unregister (cache : SessionCache) (token : UInt32) : SessionCache :=
  match cache.get token with
  | none => cache
  | some info =>
      setGauge
        { cache with
          sessions := cache.sessions.erase token
          portToToken := cache.portToToken.erase info.forwardSocket.localPort }

/-- The session a registration creates. -/
def newSession (token : UInt32) (clientAddr : SocketAddr) (gameServerIps : List String)
    (gamePorts : List UInt16) (socket : UdpSocket) (now : Instant) : SessionInfo where
  sessionToken := token
  clientAddr := clientAddr
  gameServerIps := gameServerIps
  gamePorts := gamePorts
  forwardTarget := defaultForwardTarget gameServerIps gamePorts
  forwardSocket := socket
  lastSeen := now
  packetsIn := 0
  packetsOut := 0
  bytesIn := 0
  bytesOut := 0

/-- The two insertions and the gauge at the end of `register`. -/
def insertSession (cache : SessionCache) (token : UInt32) (info : SessionInfo)
    (localPort : UInt16) : SessionCache :=
  setGauge
    { cache with
      sessions := cache.sessions.insert token info
      portToToken := cache.portToToken.insert localPort token }

/-- Register a new session. Returns the local port of the forward socket, or
`none` on failure; the old session with this token is gone in either case once
the capacity check has passed. -/
def register (cache : SessionCache) (token : UInt32) (clientAddr : SocketAddr)
    (gameServerIps : List String) (gamePorts : List UInt16) (bind : BindResult)
    (now : Instant) : Option UInt16 × SessionCache :=
  if cache.maxSessions ≤ cache.activeCount then (none, cache)
  else
    let cache := cache.unregister token
    match bind with
    | .bindFailed => (none, cache)
    | .localAddrFailed => (none, cache)
    | .bound localPort =>
        let info := newSession token clientAddr gameServerIps gamePorts ⟨localPort⟩ now
        (some localPort, cache.insertSession token info localPort)

/-- The tokens `cleanup_stale` collects before it removes anything. -/
def staleTokens (cache : SessionCache) (now : Instant) : List UInt32 :=
  (cache.sessions.entries.filter fun entry =>
    now.durationSince entry.2.lastSeen > cache.sessionTimeout).map fun entry =>
      entry.2.sessionToken

/-- Remove sessions that haven't been seen within `sessionTimeout`. -/
def cleanupStale (cache : SessionCache) (now : Instant) : SessionCache :=
  (cache.staleTokens now).foldl unregister cache

/-! ## Lookups after each operation -/

@[simp] theorem get_new (maxSessions : Nat) (sessionTimeout : Duration) (metrics : Metrics)
    (token : UInt32) : (new maxSessions sessionTimeout metrics).get token = none := rfl

@[simp] theorem tokenByPort_new (maxSessions : Nat) (sessionTimeout : Duration)
    (metrics : Metrics) (port : UInt16) :
    (new maxSessions sessionTimeout metrics).tokenByPort port = none := rfl

@[simp] theorem sessions_setGauge (cache : SessionCache) :
    cache.setGauge.sessions = cache.sessions := rfl

@[simp] theorem portToToken_setGauge (cache : SessionCache) :
    cache.setGauge.portToToken = cache.portToToken := rfl

theorem get_put (cache : SessionCache) (token : UInt32) (session : SessionInfo) (u : UInt32) :
    (cache.put token session).get u = if u = token then some session else cache.get u := by
  by_cases same : u = token
  · subst same
    simp [get, put]
  · simp [get, put, same, AList.lookup_insert_ne]

@[simp] theorem tokenByPort_put (cache : SessionCache) (token : UInt32) (session : SessionInfo)
    (port : UInt16) : (cache.put token session).tokenByPort port = cache.tokenByPort port := rfl

theorem get_unregister (cache : SessionCache) (token u : UInt32) :
    (cache.unregister token).get u = if u = token then none else cache.get u := by
  unfold unregister
  cases live : cache.get token with
  | none =>
      by_cases same : u = token
      · subst same
        simp [live]
      · simp [same]
  | some info =>
      by_cases same : u = token
      · subst same
        simp [get]
      · simp [get, AList.lookup_erase_ne same, same]

theorem tokenByPort_unregister (cache : SessionCache) (token : UInt32) (port : UInt16) :
    (cache.unregister token).tokenByPort port =
      if (cache.get token).map (·.forwardSocket.localPort) = some port then none
      else cache.tokenByPort port := by
  unfold unregister
  cases live : cache.get token with
  | none => simp
  | some info =>
      by_cases same : info.forwardSocket.localPort = port
      · subst same
        simp [tokenByPort]
      · simp [tokenByPort, same, AList.lookup_erase_ne (Ne.symm same)]

theorem get_insertSession (cache : SessionCache) (token : UInt32) (info : SessionInfo)
    (localPort : UInt16) (u : UInt32) :
    (cache.insertSession token info localPort).get u =
      if u = token then some info else cache.get u :=
  get_put cache token info u

theorem tokenByPort_insertSession (cache : SessionCache) (token : UInt32) (info : SessionInfo)
    (localPort port : UInt16) :
    (cache.insertSession token info localPort).tokenByPort port =
      if port = localPort then some token else cache.tokenByPort port := by
  by_cases same : port = localPort
  · subst same
    simp [tokenByPort, insertSession]
  · simp [tokenByPort, insertSession, same, AList.lookup_insert_ne]

/-- Everything a registration can do: refuse at capacity, remove the old session
and fail, or replace the old session by a new one on the bound port. -/
inductive Registered (cache : SessionCache) (token : UInt32) (clientAddr : SocketAddr)
    (gameServerIps : List String) (gamePorts : List UInt16) (bind : BindResult)
    (now : Instant) : Prop
  | refused (full : cache.maxSessions ≤ cache.activeCount)
      (result : cache.register token clientAddr gameServerIps gamePorts bind now =
        (none, cache))
  | failed (unbound : bind = .bindFailed ∨ bind = .localAddrFailed)
      (room : cache.activeCount < cache.maxSessions)
      (result : cache.register token clientAddr gameServerIps gamePorts bind now =
        (none, cache.unregister token))
  | bound (localPort : UInt16) (yields : bind = .bound localPort)
      (room : cache.activeCount < cache.maxSessions)
      (result : cache.register token clientAddr gameServerIps gamePorts bind now =
        (some localPort, (cache.unregister token).insertSession token
          (newSession token clientAddr gameServerIps gamePorts ⟨localPort⟩ now) localPort))

theorem registered (cache : SessionCache) (token : UInt32) (clientAddr : SocketAddr)
    (gameServerIps : List String) (gamePorts : List UInt16) (bind : BindResult)
    (now : Instant) :
    cache.Registered token clientAddr gameServerIps gamePorts bind now := by
  by_cases full : cache.maxSessions ≤ cache.activeCount
  · exact .refused full (by simp [register, full])
  · have room : cache.activeCount < cache.maxSessions := by omega
    cases bind with
    | bindFailed => exact .failed (.inl rfl) room (by simp [register, full])
    | localAddrFailed => exact .failed (.inr rfl) room (by simp [register, full])
    | bound localPort => exact .bound localPort rfl room (by simp [register, full])

/-! ## What an update of the maps leaves alone -/

section View

variable {β : Type} {view : SessionCache → β}

/-- A view that shows neither the two maps nor the gauge. -/
def IgnoresMaps (view : SessionCache → β) : Prop :=
  ∀ (cache : SessionCache) sessions portToToken gauge,
    view { cache with
      sessions := sessions
      portToToken := portToToken
      metrics := { cache.metrics with activeSessions := gauge } } = view cache

theorem view_unregister (ignores : IgnoresMaps view) (cache : SessionCache) (token : UInt32) :
    view (cache.unregister token) = view cache := by
  unfold unregister
  split
  · rfl
  · exact ignores cache _ _ _

theorem view_register (ignores : IgnoresMaps view) (cache : SessionCache) (token : UInt32)
    (clientAddr : SocketAddr) (gameServerIps : List String) (gamePorts : List UInt16)
    (bind : BindResult) (now : Instant) :
    view (cache.register token clientAddr gameServerIps gamePorts bind now).2 = view cache := by
  cases cache.registered token clientAddr gameServerIps gamePorts bind now with
  | refused full result => rw [result]
  | failed unbound room result =>
      rw [result]
      exact view_unregister ignores cache token
  | bound port yields room result =>
      rw [result]
      exact (ignores (cache.unregister token) _ _ _).trans (view_unregister ignores cache token)

theorem view_cleanupStale (ignores : IgnoresMaps view) (cache : SessionCache) (now : Instant) :
    view (cache.cleanupStale now) = view cache := by
  unfold cleanupStale
  generalize cache.staleTokens now = tokens
  induction tokens generalizing cache with
  | nil => rfl
  | cons token tokens ih => rw [List.foldl_cons, ih, view_unregister ignores]

end View

end SessionCache

end PlgBooster.Relay
