import PlgBooster.Server.Sessions
import PlgBooster.Relay.System

/-!
# The session service and its relays

The sessions are rows of the database and entries in the relays' caches, and the API is what
keeps the two together: a start registers its new session at the relays of its nodes, and a
stop unregisters it there. The administrator's stop only writes the row.

Calls of the API come one after another. A relay is found by the address of its node; a call
to it may be lost.
-/

namespace PlgBooster.System

open Server Relay Rust Transaction

/-- `{node_ip}:{relay_api_port}`. -/
abbrev Address := String × Int

def apiAddress (node : Server.Node) : Address := (node.ipAddress, node.relayApiPort)

/-- The session tables and the relays. -/
structure Fleet where
  db : SessionDb
  relays : Address → RelayState

/-- What a call to a relay meets: nothing, or a relay with the answers of its system. -/
abbrev Reply := Option (BindResult × Instant)

/-- A token as the relay reads it from a body or a path. -/
def u32OfInt (n : Int) : Option UInt32 :=
  if 0 ≤ n ∧ n < 2 ^ 32 then some (UInt32.ofNat n.toNat) else none

/-- `register_session_on_relay`. -/
def registerSessionOnRelay (relays : Address → RelayState) (node : Server.Node)
    (sessionToken : Int) (gameServerIps gamePorts : List String) (reply : Reply) :
    (Address → RelayState) × Bool :=
  match reply, u32OfInt sessionToken with
  | some (bind, now), some token =>
      let answer :=
        registerSession (relays (apiAddress node)) token gameServerIps gamePorts bind now
      (Function.update relays (apiAddress node) answer.1, answer.2.toBool)
  | _, _ => (relays, false)

/-- `unregister_session_on_relay`. -/
def unregisterSessionOnRelay (relays : Address → RelayState) (node : Server.Node)
    (sessionToken : Int) (reached : Bool) : (Address → RelayState) × Bool :=
  match reached, u32OfInt sessionToken with
  | true, some token =>
      (Function.update relays (apiAddress node)
        (unregisterSession (relays (apiAddress node)) token), true)
  | _, _ => (relays, false)

/-- A session uses its node and its backup node. -/
def Uses (session : Server.Session) (nodeId : Uuid) : Prop :=
  session.nodeId = nodeId ∨ session.backupNodeId = some nodeId

instance (session : Server.Session) (nodeId : Uuid) : Decidable (Uses session nodeId) :=
  inferInstanceAs (Decidable (_ ∨ _))

/-- The nodes of a session, the primary one first. -/
def nodesOf (db : SessionDb) (session : Server.Session) : List Server.Node :=
  db.nodes.filter (fun n => session.nodeId = n.id) ++
    db.nodes.filter fun n => session.backupNodeId = some n.id

/-- One call for each of the nodes, with the results of the calls. -/
def callAll (call : (Address → RelayState) → Server.Node → (Address → RelayState) × Bool)
    (relays : Address → RelayState) (nodes : List Server.Node) :
    (Address → RelayState) × List Bool :=
  Machine.run (fun relays node => (call relays node).map id ([·])) relays nodes

/-- The calls to the relays after a start. -/
def registerAll (relays : Address → RelayState) (session : Server.Session)
    (gameServerIps gamePorts : List String) (reply : Uuid → Reply) (nodes : List Server.Node) :
    (Address → RelayState) × List Bool :=
  callAll (fun relays node =>
    registerSessionOnRelay relays node session.sessionToken gameServerIps gamePorts
      (reply node.id)) relays nodes

/-- The calls to the relays after a stop. -/
def unregisterAll (relays : Address → RelayState) (session : Server.Session)
    (reached : Uuid → Bool) (nodes : List Server.Node) : (Address → RelayState) × List Bool :=
  callAll (fun relays node =>
    unregisterSessionOnRelay relays node session.sessionToken (reached node.id)) relays nodes

/-- `stop_session` of the administrator. -/
def adminStopSession (db : SessionDb) (sessionId : Uuid) (now : DateTime) :
    SessionDb × Except ServiceError Server.Session :=
  match scalarOneOrNone (db.sessions.filter (·.id = sessionId)) with
  | .error e => (db, .error e)
  | .ok none => (db, .error (.httpException 404 "Session not found"))
  | .ok (some session) =>
      if session.status ≠ "active" then (db, .error (.httpException 400 "Session is not active"))
      else
        (db.markStopped sessionId now,
          .ok { session with status := "stopped", endedAt := some now })

/-- A call of the API, with what its calls to the relays meet. -/
inductive Call where
  | startSession (req : StartRequest) (reply : Uuid → Reply)
  | stopSession (req : StopRequest) (reached : Uuid → Bool)
  | adminStopSession (sessionId : Uuid) (now : DateTime)

/-- Serve one call. The outputs are the results of the calls to the relays. -/
def Fleet.step (s : Fleet) : Call → Fleet × List Bool
  | .startSession req reply =>
      match sessionService.exec s.db (.selectGame req) with
      | (db, some (.ok session)) =>
          -- The rows that the transaction has read are found again by their keys.
          let game := db.gameProfiles.filter (·.id = session.gameProfileId)
          let calls := registerAll s.relays session (game.flatMap (·.serverIps))
            (game.flatMap (·.ports)) reply (nodesOf db session)
          (⟨db, calls.1⟩, calls.2)
      | (db, _) => (⟨db, s.relays⟩, [])
  | .stopSession req reached =>
      match sessionService.exec s.db (.selectSession req) with
      | (db, some (.ok session)) =>
          let calls := unregisterAll s.relays session reached (nodesOf db session)
          (⟨db, calls.1⟩, calls.2)
      | (db, _) => (⟨db, s.relays⟩, [])
  | .adminStopSession sessionId now =>
      (⟨(adminStopSession s.db sessionId now).1, s.relays⟩, [])

/-- A row that is active. -/
def Active (db : SessionDb) (row : Server.Session) : Prop :=
  row ∈ db.sessions ∧ row.status = "active"

instance (db : SessionDb) (row : Server.Session) : Decidable (Active db row) :=
  inferInstanceAs (Decidable (_ ∧ _))

/-- Each node has a relay of its own. -/
def OwnRelay (db : SessionDb) : Prop :=
  ∀ node ∈ db.nodes, ∀ other ∈ db.nodes, apiAddress node = apiAddress other → node = other

/-- A token that the relay of a node has a session for. -/
def Registered (s : Fleet) (node : Server.Node) (sessionToken : Int) : Prop :=
  ∃ token, u32OfInt sessionToken = some token ∧
    ((s.relays (apiAddress node)).cache.get token).isSome

/-! ## The calls to the relays -/

theorem u32OfInt_inj {m n : Int} {token : UInt32} (first : u32OfInt m = some token)
    (second : u32OfInt n = some token) : m = n := by
  unfold u32OfInt at first second
  split_ifs at first second with inRange inRange'
  have same := congrArg UInt32.toNat (Option.some.inj (first.trans second.symm))
  simp only [UInt32.toNat_ofNat'] at same
  omega

section Calls

variable (relays : Address → RelayState) (node : Server.Node) (sessionToken : Int)
variable (gameServerIps gamePorts : List String) (reply : Reply) (reached : Bool)

/-- A registration does nothing, or the relay of the node registers the token it reads. -/
theorem registerSessionOnRelay_cases :
    registerSessionOnRelay relays node sessionToken gameServerIps gamePorts reply =
      (relays, false) ∨
    ∃ bind now token, u32OfInt sessionToken = some token ∧
      registerSessionOnRelay relays node sessionToken gameServerIps gamePorts reply =
        (Function.update relays (apiAddress node)
          (registerSession (relays (apiAddress node)) token gameServerIps gamePorts bind now).1,
        (registerSession (relays (apiAddress node)) token gameServerIps gamePorts bind
          now).2.toBool) := by
  cases reply with
  | none => exact .inl rfl
  | some answers =>
      cases read : u32OfInt sessionToken with
      | none => exact .inl (by simp [registerSessionOnRelay, read])
      | some token =>
          exact .inr ⟨answers.1, answers.2, token, rfl, by simp [registerSessionOnRelay, read]⟩

theorem unregisterSessionOnRelay_cases :
    unregisterSessionOnRelay relays node sessionToken reached = (relays, false) ∨
    ∃ token, u32OfInt sessionToken = some token ∧
      unregisterSessionOnRelay relays node sessionToken reached =
        (Function.update relays (apiAddress node)
          (unregisterSession (relays (apiAddress node)) token), true) := by
  cases reached with
  | false => exact .inl rfl
  | true =>
      cases read : u32OfInt sessionToken with
      | none => exact .inl (by simp [unregisterSessionOnRelay, read])
      | some token => exact .inr ⟨token, rfl, by simp [unregisterSessionOnRelay, read]⟩

theorem registerSessionOnRelay_elsewhere {a : Address} (elsewhere : a ≠ apiAddress node) :
    (registerSessionOnRelay relays node sessionToken gameServerIps gamePorts reply).1 a =
      relays a := by
  rcases registerSessionOnRelay_cases relays node sessionToken gameServerIps gamePorts reply with
    nothing | ⟨bind, now, token, _, done⟩
  · rw [nothing]
  · rw [done]
    exact Function.update_of_ne elsewhere _ _

theorem unregisterSessionOnRelay_elsewhere {a : Address} (elsewhere : a ≠ apiAddress node) :
    (unregisterSessionOnRelay relays node sessionToken reached).1 a = relays a := by
  rcases unregisterSessionOnRelay_cases relays node sessionToken reached with
    nothing | ⟨token, _, done⟩
  · rw [nothing]
  · rw [done]
    exact Function.update_of_ne elsewhere _ _

/-- A token that one relay has kept is as before at every relay. -/
theorem get_update_of_kept {relay' : RelayState} {token : UInt32}
    (kept : relay'.cache.get token = (relays (apiAddress node)).cache.get token) (a : Address) :
    (Function.update relays (apiAddress node) relay' a).cache.get token =
      (relays a).cache.get token := by
  by_cases here : a = apiAddress node
  · subst here
    rw [Function.update_self]
    exact kept
  · rw [Function.update_of_ne here]

/-- A registration is about one token. -/
theorem get_registerSessionOnRelay {token : UInt32} (other : u32OfInt sessionToken ≠ some token)
    (a : Address) :
    ((registerSessionOnRelay relays node sessionToken gameServerIps gamePorts reply).1
      a).cache.get token = (relays a).cache.get token := by
  rcases registerSessionOnRelay_cases relays node sessionToken gameServerIps gamePorts reply with
    nothing | ⟨bind, now, token', read, done⟩
  · rw [nothing]
  · have different : token ≠ token' := by
      rintro rfl
      exact other read
    rw [done]
    exact get_update_of_kept relays node
      (get_registerSession_of_ne _ different gameServerIps gamePorts bind now) a

theorem get_unregisterSessionOnRelay {token : UInt32} (other : u32OfInt sessionToken ≠ some token)
    (a : Address) :
    ((unregisterSessionOnRelay relays node sessionToken reached).1 a).cache.get token =
      (relays a).cache.get token := by
  rcases unregisterSessionOnRelay_cases relays node sessionToken reached with
    nothing | ⟨token', read, done⟩
  · rw [nothing]
  · have different : token ≠ token' := by
      rintro rfl
      exact other read
    rw [done]
    exact get_update_of_kept relays node
      ((SessionCache.get_unregister _ _ _).trans (if_neg different)) a

/-- A registration that succeeds leaves a session under its token. -/
theorem isSome_registerSessionOnRelay
    (ok :
      (registerSessionOnRelay relays node sessionToken gameServerIps gamePorts reply).2 = true) :
    ∃ token, u32OfInt sessionToken = some token ∧
      (((registerSessionOnRelay relays node sessionToken gameServerIps gamePorts reply).1
        (apiAddress node)).cache.get token).isSome := by
  rcases registerSessionOnRelay_cases relays node sessionToken gameServerIps gamePorts reply with
    nothing | ⟨bind, now, token, read, done⟩
  · rw [nothing] at ok
    cases ok
  · refine ⟨token, read, ?_⟩
    rw [done] at ok ⊢
    dsimp only at ok ⊢
    rw [Function.update_self]
    cases registersSession (relays (apiAddress node)) token gameServerIps gamePorts bind now with
    | accepted port yields room answer listeners sessions => simp [sessions token]
    | refused e answer listeners others kept =>
        rw [answer] at ok
        cases ok

/-- A session that is unregistered is gone. -/
theorem get_unregisterSessionOnRelay_self
    (ok : (unregisterSessionOnRelay relays node sessionToken reached).2 = true) {token : UInt32}
    (read : u32OfInt sessionToken = some token) :
    ((unregisterSessionOnRelay relays node sessionToken reached).1
      (apiAddress node)).cache.get token = none := by
  rcases unregisterSessionOnRelay_cases relays node sessionToken reached with
    nothing | ⟨token', read', done⟩
  · rw [nothing] at ok
    cases ok
  · obtain rfl := Option.some.inj (read'.symm.trans read)
    rw [done]
    dsimp only
    rw [Function.update_self]
    exact (SessionCache.get_unregister _ _ _).trans (if_pos rfl)

end Calls

section CallAll

variable {call : (Address → RelayState) → Server.Node → (Address → RelayState) × Bool}
variable {relays : Address → RelayState} {nodes : List Server.Node}

/-- What no call changes is as before. -/
theorem callAll_frame {β : Type} (view : (Address → RelayState) → β)
    (kept : ∀ relays, ∀ node ∈ nodes, view (call relays node).1 = view relays) :
    view (callAll call relays nodes).1 = view relays := by
  induction nodes generalizing relays with
  | nil => rfl
  | cons node nodes ih =>
      have later : view (callAll call (call relays node).1 nodes).1 = view (call relays node).1 :=
        ih fun relays other member => kept relays other (List.mem_cons_of_mem node member)
      exact later.trans (kept relays node List.mem_cons_self)

/-- If all calls succeed, each relay that is called has what a successful call leaves. -/
theorem callAll_establishes {P : RelayState → Prop}
    (elsewhere : ∀ relays node a, a ≠ apiAddress node → (call relays node).1 a = relays a)
    (here : ∀ relays node, (call relays node).2 = true → P ((call relays node).1 (apiAddress node)))
    (ok : ∀ result ∈ (callAll call relays nodes).2, result = true) :
    ∀ node ∈ nodes, P ((callAll call relays nodes).1 (apiAddress node)) := by
  induction nodes generalizing relays with
  | nil => simp
  | cons first nodes ih =>
      obtain ⟨okFirst, okRest⟩ := List.forall_mem_cons.mp ok
      have rest : ∀ node ∈ nodes, P ((callAll call (call relays first).1 nodes).1
          (apiAddress node)) := ih okRest
      intro node member
      by_cases later : ∃ other ∈ nodes, apiAddress other = apiAddress node
      · obtain ⟨other, inRest, same⟩ := later
        exact same ▸ rest other inRest
      · obtain rfl : node = first := by
          rcases List.mem_cons.mp member with same | inRest
          · exact same
          · exact absurd ⟨node, inRest, rfl⟩ later
        have kept : (callAll call (call relays node).1 nodes).1 (apiAddress node) =
            (call relays node).1 (apiAddress node) :=
          callAll_frame (fun relays => relays (apiAddress node)) fun relays other inRest =>
            elsewhere relays other _ fun same => later ⟨other, inRest, same.symm⟩
        exact kept ▸ here relays node okFirst

end CallAll

/-! ## One call of the API -/

theorem mem_nodesOf {db : SessionDb} {session : Server.Session} {node : Server.Node} :
    node ∈ nodesOf db session ↔ node ∈ db.nodes ∧ Uses session node.id := by
  simp only [nodesOf, List.mem_append, List.mem_filter, decide_eq_true_eq, Uses, ← and_or_left]

section Calls

variable {db : SessionDb} (own : OwnRelay db) {session : Server.Session} {node : Server.Node}
variable (member : node ∈ db.nodes) {token : UInt32}
include own member

/-- Calls for a session leave a token alone at a node, if the one call to that node does. -/
theorem get_callAll {call : (Address → RelayState) → Server.Node → (Address → RelayState) × Bool}
    (elsewhere : ∀ relays node a, a ≠ apiAddress node → (call relays node).1 a = relays a)
    (here : Uses session node.id → ∀ relays,
      ((call relays node).1 (apiAddress node)).cache.get token =
        (relays (apiAddress node)).cache.get token) (relays : Address → RelayState) :
    ((callAll call relays (nodesOf db session)).1 (apiAddress node)).cache.get token =
      (relays (apiAddress node)).cache.get token := by
  refine callAll_frame (fun relays => (relays (apiAddress node)).cache.get token) ?_
  intro relays called inNodes
  obtain ⟨inTable, uses⟩ := mem_nodesOf.mp inNodes
  by_cases same : apiAddress node = apiAddress called
  · obtain rfl := own node member called inTable same
    exact here uses relays
  · rw [elsewhere relays called (apiAddress node) same]

/-- The calls after a start or a stop are about the token of the session on the relays of its
nodes. -/
theorem get_registerAll (other : Uses session node.id → u32OfInt session.sessionToken ≠ some token)
    (relays : Address → RelayState) (gameServerIps gamePorts : List String)
    (reply : Uuid → Reply) :
    ((registerAll relays session gameServerIps gamePorts reply (nodesOf db session)).1
      (apiAddress node)).cache.get token = (relays (apiAddress node)).cache.get token := by
  refine get_callAll own member ?_ ?_ relays
  · intro relays called a elsewhere
    exact registerSessionOnRelay_elsewhere relays called session.sessionToken gameServerIps
      gamePorts (reply called.id) elsewhere
  · intro uses relays
    exact get_registerSessionOnRelay relays node session.sessionToken gameServerIps gamePorts
      (reply node.id) (other uses) (apiAddress node)

theorem get_unregisterAll
    (other : Uses session node.id → u32OfInt session.sessionToken ≠ some token)
    (relays : Address → RelayState) (reached : Uuid → Bool) :
    ((unregisterAll relays session reached (nodesOf db session)).1
      (apiAddress node)).cache.get token = (relays (apiAddress node)).cache.get token := by
  refine get_callAll own member ?_ ?_ relays
  · intro relays called a elsewhere
    exact unregisterSessionOnRelay_elsewhere relays called session.sessionToken
      (reached called.id) elsewhere
  · intro uses relays
    exact get_unregisterSessionOnRelay relays node session.sessionToken (reached node.id)
      (other uses) (apiAddress node)

end Calls

theorem active_insertSession {db : SessionDb} {row : Server.Session}
    (active : row.status = "active")
    (r : Server.Session) : Active (db.insertSession row) r ↔ Active db r ∨ r = row := by
  simp only [Active, SessionDb.insertSession, List.mem_append, List.mem_singleton, or_and_right]
  refine or_congr_right (and_iff_left_of_imp ?_)
  rintro rfl
  exact active

/-- A stop takes the rows with its key off the active ones. -/
theorem active_markStopped {db : SessionDb} {id : Uuid} {now : DateTime} (r : Server.Session) :
    Active (db.markStopped id now) r ↔ Active db r ∧ r.id ≠ id := by
  simp only [Active, SessionDb.markStopped, List.mem_map]
  constructor
  · rintro ⟨⟨row, member, rfl⟩, active⟩
    by_cases same : row.id = id
    · rw [if_pos same] at active
      exact absurd active (show "stopped" ≠ "active" by decide)
    · rw [if_neg same] at active ⊢
      exact ⟨⟨member, active⟩, same⟩
  · rintro ⟨⟨member, active⟩, other⟩
    exact ⟨⟨r, member, if_neg other⟩, active⟩

/-- All that one call can do. -/
inductive Fleet.Served (s : Fleet) : Call → Prop
  | startFails (req : StartRequest) (reply : Uuid → Reply)
      (fails : ∀ game node backup, ¬ Starts s.db req game node backup)
      (after : s.step (.startSession req reply) = (s, [])) :
      Served s (.startSession req reply)
  | starts (req : StartRequest) (reply : Uuid → Reply) (game : GameProfile) (node : Server.Node)
      (backup : Option Server.Node) (gameServerIps gamePorts : List String)
      (starts : Starts s.db req game node backup)
      (after : s.step (.startSession req reply) =
        (⟨s.db.insertSession (newSession req game node backup),
          (registerAll s.relays (newSession req game node backup) gameServerIps gamePorts reply
            (nodesOf s.db (newSession req game node backup))).1⟩,
          (registerAll s.relays (newSession req game node backup) gameServerIps gamePorts reply
            (nodesOf s.db (newSession req game node backup))).2)) :
      Served s (.startSession req reply)
  | stopFails (req : StopRequest) (reached : Uuid → Bool)
      (after : s.step (.stopSession req reached) = (s, [])) : Served s (.stopSession req reached)
  | stops (req : StopRequest) (reached : Uuid → Bool) (session : Server.Session)
      (active : Active s.db session) (owner : session.userId = req.userId)
      (after : s.step (.stopSession req reached) =
        (⟨s.db.markStopped session.id req.now,
          (unregisterAll s.relays session reached (nodesOf s.db session)).1⟩,
          (unregisterAll s.relays session reached (nodesOf s.db session)).2)) :
      Served s (.stopSession req reached)
  | adminFails (sessionId : Uuid) (now : DateTime)
      (after : s.step (.adminStopSession sessionId now) = (s, []))
      (fails : ∀ session, s.db.sessions.filter (·.id = sessionId) = [session] →
        session.status ≠ "active") : Served s (.adminStopSession sessionId now)
  | adminStops (now : DateTime) (session : Server.Session) (active : Active s.db session)
      (after : s.step (.adminStopSession session.id now) =
        (⟨s.db.markStopped session.id now, s.relays⟩, [])) :
      Served s (.adminStopSession session.id now)

theorem Fleet.served (s : Fleet) (call : Call) : s.Served call := by
  cases call with
  | startSession req reply =>
      rcases exec_start_cases s.db req with
        ⟨⟨e, failed⟩, fails⟩ | ⟨game, node, backup, starts, done⟩
      · exact .startFails req reply fails (by simp only [step, failed])
      · exact .starts req reply game node backup _ _ starts (by simp only [step, done]; rfl)
  | stopSession req reached =>
      rcases exec_stop s.db req with ⟨session, named, done⟩ | ⟨_, e, failed⟩
      · have found : session ∈ [session] := List.mem_singleton_self session
        rw [← named] at found
        obtain ⟨member, fits⟩ := List.mem_filter.mp found
        obtain ⟨_, owner, active⟩ := of_decide_eq_true fits
        exact .stops req reached session ⟨member, active⟩ owner (by simp only [step, done]; rfl)
      · exact .stopFails req reached (by simp only [step, failed])
  | adminStopSession sessionId now =>
      cases found : scalarOneOrNone (s.db.sessions.filter (·.id = sessionId)) with
      | error e =>
          refine .adminFails sessionId now (by simp only [step, adminStopSession, found]) ?_
          intro session one
          exact absurd one (ne_singleton_of_scalarOneOrNone found (by simp) session)
      | ok row =>
          cases row with
          | none =>
              refine .adminFails sessionId now (by simp only [step, adminStopSession, found]) ?_
              intro session one
              exact absurd one (ne_singleton_of_scalarOneOrNone found (by simp) session)
          | some session =>
              have only := scalarOneOrNone_eq_some.mp found
              obtain ⟨member, rfl⟩ : session ∈ s.db.sessions ∧ session.id = sessionId :=
                Table.of_select_eq_singleton only
              by_cases active : session.status = "active"
              · exact .adminStops now session ⟨member, active⟩
                  (by simp [step, adminStopSession, found, active])
              · refine .adminFails session.id now
                  (by simp [step, adminStopSession, found, active]) ?_
                intro other one
                obtain rfl := (List.cons.inj (only.symm.trans one)).1
                exact active

end PlgBooster.System
