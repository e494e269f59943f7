import PlgBooster.Relay.Capacity
import PlgBooster.Relay.Counters
import Mathlib.Data.Set.Card

/-!
# The relay as a table of sessions

What a relay is for can be said without the reverse map, the listeners and the gauge: it
has a table of sessions by token. A client's datagram is for the session it names, a game
server's for the session whose forward socket it arrives at, and the API adds and removes
sessions. The relay of the code is that table, as long as the system never binds a port
that a live session still holds.
-/

namespace PlgBooster.Relay

open Rust

/-- A relay as its clients, the game servers and the API know it. -/
abbrev Table := UInt32 → Option SessionInfo

namespace Table

def empty : Table := fun _ => none

/-- The tokens that have a session. -/
def inUse (table : Table) : Set UInt32 := {token | (table token).isSome}

/-- The session has the forward socket with the port. -/
def Owns (table : Table) (port : UInt16) (entry : UInt32 × SessionInfo) : Prop :=
  table entry.1 = some entry.2 ∧ entry.2.forwardSocket.localPort = port

open Classical in
/-- The session a game server's datagram is for. -/
noncomputable def owner (table : Table) (port : UInt16) : Option (UInt32 × SessionInfo) :=
  if owned : ∃ entry, table.Owns port entry then some owned.choose else none

/-- A registration takes the place of the session with its token, if there is room. -/
noncomputable def register (maxSessions : Nat) (table : Table) (token : UInt32)
    (gameServerIps gamePorts : List String) (bind : BindResult) (now : Instant) :
    Table × Except String UInt16 :=
  if maxSessions ≤ table.inUse.ncard then
    (table, .error "max sessions reached or socket bind failed")
  else
    match bind with
    | .bound port =>
        (Function.update table token (some (SessionCache.newSession token placeholderAddr
          gameServerIps (registeredPorts gamePorts) ⟨port⟩ now)), .ok port)
    | .bindFailed | .localAddrFailed =>
        (Function.update table token none, .error "max sessions reached or socket bind failed")

noncomputable def step (maxSessions : Nat) (sessionTimeout : Duration) (table : Table) :
    Event → Table × List Outgoing
  | .clientDatagram datagram source now sendTo =>
      match PlgPacket.parse datagram with
      | none => (table, [])
      | some packet =>
          match table packet.sessionId with
          | none => (table, [])
          | some session =>
              let result := session.onPacket packet datagram.length source now sendTo
              (Function.update table packet.sessionId (some result.1), result.2)
  | .gameDatagram port datagram sendTo =>
      match table.owner port with
      | none => (table, [])
      | some (token, session) =>
          let result := session.onResponse token datagram sendTo
          (Function.update table token (some result.1), result.2)
  | .register token gameServerIps gamePorts bind now =>
      ((table.register maxSessions token gameServerIps gamePorts bind now).1, [])
  | .unregister token => (Function.update table token none, [])
  | .cleanup now =>
      (fun token => (table token).filter fun session =>
        now.durationSince session.lastSeen ≤ sessionTimeout, [])

/-- Where a port has one owner, it is found. -/
theorem owner_eq_some {table : Table} {port : UInt16} {entry : UInt32 × SessionInfo}
    (owns : table.Owns port entry) (only : ∀ other, table.Owns port other → other = entry) :
    table.owner port = some entry := by
  have owned : ∃ entry, table.Owns port entry := ⟨entry, owns⟩
  rw [owner, dif_pos owned, only _ owned.choose_spec]

theorem owner_eq_none {table : Table} {port : UInt16}
    (nobody : ∀ entry, ¬ table.Owns port entry) : table.owner port = none :=
  dif_neg fun ⟨entry, owns⟩ => nobody entry owns

end Table

/-! ## The cache as a table -/

/-- The live sessions of a relay. -/
def RelayState.table (state : RelayState) : Table := state.cache.get

theorem SessionCache.activeCount_eq_ncard (cache : SessionCache) :
    cache.activeCount = (Table.inUse cache.get).ncard := by
  have keys : Table.inUse cache.get = (cache.sessions.keys.toFinset : Set UInt32) := by
    ext token
    rw [List.coe_toFinset]
    exact SessionCache.mem_keys.symm
  rw [keys, Set.ncard_coe_finset, List.toFinset_card_of_nodup cache.sessions.keys_nodup]
  rfl

/-- The reverse map finds the owner of a port. -/
theorem RelayState.Good.owner_eq {state : RelayState} (good : state.Good) (port : UInt16) :
    state.table.owner port =
      (state.cache.tokenByPort port).bind fun token =>
        (state.cache.get token).map fun session => (token, session) := by
  cases owner : state.cache.tokenByPort port with
  | none =>
      apply Table.owner_eq_none
      rintro ⟨token, session⟩ ⟨live, bound⟩
      have named := good.inverse.tokenByPort_of_get live
      rw [bound, owner] at named
      cases named
  | some token =>
      obtain ⟨session, live, bound⟩ := (good.inverse.ports port token).mp owner
      rw [Option.bind_some, live, Option.map_some]
      apply Table.owner_eq_some ⟨live, bound⟩
      rintro ⟨token', session'⟩ ⟨live', bound'⟩
      obtain rfl := good.inverse.token_unique live' live (bound'.trans bound.symm)
      obtain rfl := Option.some.inj (live'.symm.trans live)
      rfl

/-! ## One step -/

section Step

variable {state : RelayState}

theorem table_clientDatagram (maxSessions : Nat) (sessionTimeout : Duration)
    (state : RelayState) (datagram : List UInt8) (source : SocketAddr) (now : Instant)
    (sendTo : SendResult) :
    let event : Event := .clientDatagram datagram source now sendTo
    (step state event).1.table = (Table.step maxSessions sessionTimeout state.table event).1 ∧
      (step state event).2 = (Table.step maxSessions sessionTimeout state.table event).2 := by
  intro event
  obtain ⟨sessions, outputs⟩ := clientListener_spec state.cache datagram source now sendTo
  cases parsed : PlgPacket.parse datagram with
  | none =>
      simp only [addressee, parsed, Option.bind_eq_bind, Option.bind_none] at sessions outputs
      exact ⟨funext fun u => by simp [event, step, RelayState.table, Table.step, parsed, sessions],
        by simp [event, step, Table.step, parsed, outputs]⟩
  | some packet =>
      cases live : state.cache.get packet.sessionId with
      | none =>
          simp only [addressee, parsed, live, Option.bind_eq_bind, Option.bind_some,
            Option.bind_none] at sessions outputs
          refine ⟨funext fun u => ?_, ?_⟩
          · simp [event, step, RelayState.table, Table.step, parsed, live, sessions]
          · simp [event, step, RelayState.table, Table.step, parsed, live, outputs]
      | some session =>
          simp only [addressee, parsed, live, Option.bind_eq_bind, Option.bind_some]
            at sessions outputs
          refine ⟨funext fun u => ?_, ?_⟩
          · simp [event, step, RelayState.table, Table.step, parsed, live, sessions,
              Function.update_apply]
          · simp [event, step, RelayState.table, Table.step, parsed, live, outputs]

theorem table_gameDatagram (maxSessions : Nat) (sessionTimeout : Duration) (good : state.Good)
    (port : UInt16) (datagram : List UInt8) (sendTo : SendResult) :
    let event : Event := .gameDatagram port datagram sendTo
    (step state event).1.table = (Table.step maxSessions sessionTimeout state.table event).1 ∧
      (step state event).2 = (Table.step maxSessions sessionTimeout state.table event).2 := by
  intro event
  have found := good.owner_eq port
  cases handled state port datagram sendTo with
  | ignored unowned cache listeners outputs =>
      -- Every live session is listened to, so nobody owns the port.
      have nobody : state.table.owner port = none := by
        rw [found]
        cases owner : state.cache.tokenByPort port with
        | none => rfl
        | some token =>
            obtain ⟨session, live, rfl⟩ := (good.inverse.ports port token).mp owner
            exact absurd (good.listening token session live) (unowned token session owner live)
      refine ⟨?_, ?_⟩
      · simp only [event, step, RelayState.table, cache]
        simp only [Table.step]
        rw [show Table.owner state.cache.get port = none from nobody]
      · simp only [event, step, outputs, Table.step, nobody]
  | answered token session owner live sessions ports listeners outputs =>
      rw [owner, Option.bind_some, live, Option.map_some] at found
      refine ⟨funext fun u => ?_, ?_⟩
      · simp only [event, step, RelayState.table, sessions u, Table.step]
        rw [show Table.owner state.cache.get port = some (token, session) from found]
        simp [Function.update_apply]
      · simp only [event, step, outputs, Table.step, found]

theorem table_register (state : RelayState) (token : UInt32)
    (gameServerIps gamePorts : List String) (bind : BindResult) (now : Instant) :
    let abstract := state.table.register state.cache.maxSessions token gameServerIps gamePorts
      bind now
    (registerSession state token gameServerIps gamePorts bind now).1.table = abstract.1 ∧
      (registerSession state token gameServerIps gamePorts bind now).2 = abstract.2 := by
  intro abstract
  have cache := registerSession_cache state token gameServerIps gamePorts bind now
  have count := state.cache.activeCount_eq_ncard
  cases state.cache.registered token placeholderAddr gameServerIps
    (registeredPorts gamePorts) bind now with
  | refused full result =>
      have room : state.cache.maxSessions ≤ (Table.inUse state.table).ncard := count ▸ full
      rw [result] at cache
      refine ⟨?_, ?_⟩
      · rw [RelayState.table, cache]
        simp only [abstract, Table.register, if_pos room]
        rfl
      · simp only [abstract, Table.register, if_pos room]
        simp [registerSession, result]
  | failed unbound room result =>
      have room : ¬ state.cache.maxSessions ≤ (Table.inUse state.table).ncard :=
        Nat.not_le.mpr (count ▸ room)
      rw [result] at cache
      have removed :
          (state.cache.unregister token).get = Function.update state.table token none := by
        funext u
        rw [SessionCache.get_unregister, Function.update_apply]
        rfl
      refine ⟨?_, ?_⟩
      · rw [RelayState.table, cache, removed]
        rcases unbound with rfl | rfl <;> simp only [abstract, Table.register, if_neg room]
      · rcases unbound with rfl | rfl <;>
          simp [abstract, Table.register, if_neg room, registerSession, result]
  | bound port yields room result =>
      subst yields
      have room : ¬ state.cache.maxSessions ≤ (Table.inUse state.table).ncard :=
        Nat.not_le.mpr (count ▸ room)
      rw [result] at cache
      refine ⟨?_, ?_⟩
      · rw [RelayState.table, cache]
        simp only [abstract, Table.register, if_neg room]
        funext u
        rw [SessionCache.get_insertSession, SessionCache.get_unregister, Function.update_apply]
        split_ifs <;> rfl
      · simp only [abstract, Table.register, if_neg room]
        simp [registerSession, result, SessionCache.get_insertSession]

theorem table_cleanup (good : state.Good) (now : Instant) :
    (state.cache.cleanupStale now).get = fun token =>
      (state.table token).filter fun session =>
        now.durationSince session.lastSeen ≤ state.cache.sessionTimeout := by
  funext token
  rw [SessionCache.cleanupStale, SessionCache.get_foldl_unregister]
  cases live : state.cache.get token with
  | none =>
      have absent : state.table token = none := live
      rw [absent, Option.filter_none, ite_self]
  | some session =>
      have here : state.table token = some session := live
      have stale : token ∈ state.cache.staleTokens now ↔ ∃ info,
          state.cache.get token = some info ∧
            now.durationSince info.lastSeen > state.cache.sessionTimeout :=
        SessionCache.mem_staleTokens good.inverse.tokens
      rw [here]
      by_cases old : now.durationSince session.lastSeen > state.cache.sessionTimeout
      · rw [if_pos (stale.mpr ⟨session, live, old⟩)]
        simp [Option.filter, Nat.not_le.mpr old]
      · have fresh : token ∉ state.cache.staleTokens now := by
          rw [stale]
          rintro ⟨other, live', old'⟩
          obtain rfl := Option.some.inj (live.symm.trans live')
          exact old old'
        rw [if_neg fresh]
        simp [Option.filter, Nat.not_lt.mp old]

end Step

/-- What is known of every state of a run: the maps are inverse, the limits are those of the
start, and the gauge shows the number of live sessions. -/
structure RelayState.Tabular (maxSessions : Nat) (sessionTimeout : Duration)
    (state : RelayState) : Prop where
  good : state.Good
  limits : state.cache.limits = (maxSessions, sessionTimeout)
  gauge : state.cache.GaugeExact

/-- The gauge is set where sessions come and go, and traffic does neither. -/
theorem gaugeExact_step {state : RelayState} (exact : state.cache.GaugeExact) (event : Event) :
    (step state event).1.cache.GaugeExact := by
  -- An event that neither adds nor removes a session keeps the gauge and the number alike.
  have traffic (gauge : (step state event).1.cache.metrics.activeSessions =
        state.cache.metrics.activeSessions)
      (live : ∀ u, ((step state event).1.cache.get u).isSome = (state.cache.get u).isSome) :
      (step state event).1.cache.GaugeExact := by
    rw [SessionCache.GaugeExact, gauge, SessionCache.activeCount_congr live]
    exact exact
  cases event with
  | clientDatagram datagram source now sendTo =>
      obtain ⟨exit, metrics, _⟩ := clientListener_exit state datagram source now sendTo
      apply traffic
      · simp only [step, metrics]
        cases exit <;> rfl
      · intro u
        rcases get_clientListener state.cache datagram source now sendTo u with
          ⟨same, _⟩ | ⟨packet, session, _, _, live, after⟩
        · simp only [step, same]
        · simp only [step, after, live, Option.isSome_some]
  | gameDatagram port datagram sendTo =>
      apply traffic
      · rcases onGameDatagram_counts state port datagram sendTo with
          ⟨_, metrics, _⟩ | ⟨data, addr, _, metrics, _⟩
        · simp only [step, metrics]
        · simp only [step, metrics]
          rfl
      · intro u
        rcases get_onGameDatagram state port datagram sendTo u with same | ⟨session, live, after⟩
        · simp only [step, same]
        · simp only [step, after, live, Option.isSome_some]
  | register token gameServerIps gamePorts bind now =>
      simp only [step, registerSession_cache]
      exact exact.register _ _ _ _
  | unregister token => exact exact.unregister token
  | cleanup now => exact exact.cleanupStale now

namespace RelayState.Tabular

variable {maxSessions : Nat} {sessionTimeout : Duration} {state : RelayState}

theorem start (maxSessions : Nat) (sessionTimeout : Duration) :
    (start maxSessions sessionTimeout).Tabular maxSessions sessionTimeout where
  good := good_start _ _
  limits := rfl
  gauge := rfl

theorem step (tabular : state.Tabular maxSessions sessionTimeout) (event : Event)
    (fresh : BindsFreshPort state event) :
    (step state event).1.Tabular maxSessions sessionTimeout where
  good := good_step tabular.good fresh
  limits := (limits_step state event).trans tabular.limits
  gauge := gaugeExact_step tabular.gauge event

/-- The refinement, for one step. -/
theorem step_refines (tabular : state.Tabular maxSessions sessionTimeout) (event : Event) :
    (Relay.step state event).1.table =
        (Table.step maxSessions sessionTimeout state.table event).1 ∧
      (Relay.step state event).2 =
        (Table.step maxSessions sessionTimeout state.table event).2 := by
  obtain ⟨rfl, rfl⟩ := Prod.mk.inj tabular.limits
  cases event with
  | clientDatagram datagram source now sendTo =>
      exact table_clientDatagram _ _ state datagram source now sendTo
  | gameDatagram port datagram sendTo =>
      exact table_gameDatagram _ _ tabular.good port datagram sendTo
  | register token gameServerIps gamePorts bind now =>
      exact ⟨(table_register state token gameServerIps gamePorts bind now).1, rfl⟩
  | unregister token =>
      refine ⟨funext fun u => ?_, rfl⟩
      change (state.cache.unregister token).get u = Function.update state.table token none u
      rw [SessionCache.get_unregister, Function.update_apply]
      rfl
  | cleanup now => exact ⟨table_cleanup tabular.good now, rfl⟩

end RelayState.Tabular

/-- Two sessions; the first is replaced, used in both directions, and removed. -/
def replaceAndUse : List Event :=
  let client : SocketAddr := ⟨.V4 ⟨5, 6, 7, 8⟩, 6000⟩
  [.register 7 ["10.0.0.1"] ["27015"] (.bound 40000) 0,
    .register 8 ["10.0.0.2"] ["27016"] (.bound 40001) 0,
    .register 7 ["10.0.0.1"] ["27015"] (.bound 40002) 5,
    .clientDatagram (PlgPacket.data 7 1 [1, 2]).encode client 6 (.sent 2),
    .gameDatagram 40002 [3] (.sent 11),
    .unregister 7]

end PlgBooster.Relay
