import PlgBooster.Server.ActiveSessions
import PlgBooster.Server.Billing

/-!
# The sessions and the catalogue

The sessions' endpoints with all that they load for their answers, and the administration of the
nodes, the games and the sessions, as one program of database steps over the same tables. Here
too a step is a select, or the commit that ends a transaction. What is written is read back after
its commit, in a step of its own.

`delete_node` only marks its node, and `delete_game` deletes a row that sessions may refer to.
-/

namespace PlgBooster.Server

open Transaction
open scoped List

/-- An update whose row is gone fails when it is flushed, and an object whose row is gone when it
is refreshed. -/
inductive CatalogError where
  | service (e : ServiceError)
  | staleData
  | invalidRequest
  deriving DecidableEq, Repr

/-- A session with its game and its node, as far as they are found; for one that is not found
the history says "Unknown". -/
structure HistoryItem where
  session : Session
  game : Option GameProfile
  node : Option Node
  deriving DecidableEq, Repr

inductive Answer where
  | created (session : Session) (node : Node) (game : GameProfile) (backup : Option Node)
  | ended (session : Session) (node backup : Option Node)
  | items (items : List HistoryItem)
  | node (node : Node)
  | game (game : GameProfile)
  | gameDeleted
  | session (session : Session)
  deriving DecidableEq, Repr

abbrev CatalogOutcome := Except CatalogError Answer

/-- A field of an update: unset, set to null, or to a value. A value that is already there is
not written. -/
def netField {α : Type} [DecidableEq α] (field : Option (Option α)) (loaded : α) :
    Option (Option α) :=
  if field = some (some loaded) then none else field

/-- The column after the write; no column here may be null. -/
def writeField {α : Type} (field : Option (Option α)) (current : α) : Option α :=
  field.getD (some current)

structure NodeUpdate where
  location : Option (Option String)
  ipAddress : Option (Option String)
  status : Option (Option String)
  relayPort : Option (Option Int)
  relayApiPort : Option (Option Int)
  deriving DecidableEq, Repr

/-- All that is set is as it was loaded, so that nothing is flushed. -/
def NodeUpdate.Void (update : NodeUpdate) (loaded : Node) : Prop :=
  netField update.location loaded.location = none ∧
    netField update.ipAddress loaded.ipAddress = none ∧
    netField update.status loaded.status = none ∧
    netField update.relayPort loaded.relayPort = none ∧
    netField update.relayApiPort loaded.relayApiPort = none

instance (update : NodeUpdate) (loaded : Node) : Decidable (update.Void loaded) :=
  inferInstanceAs (Decidable (_ ∧ _ ∧ _ ∧ _ ∧ _))

/-- What `update_node` writes to the current row, having set the fields on the loaded one. -/
def NodeUpdate.write (update : NodeUpdate) (loaded current : Node) : Option Node := do
  let location ← writeField (netField update.location loaded.location) current.location
  let ipAddress ← writeField (netField update.ipAddress loaded.ipAddress) current.ipAddress
  let status ← writeField (netField update.status loaded.status) current.status
  let relayPort ← writeField (netField update.relayPort loaded.relayPort) current.relayPort
  let relayApiPort ←
    writeField (netField update.relayApiPort loaded.relayApiPort) current.relayApiPort
  return { current with location, ipAddress, status, relayPort, relayApiPort }

/-- `delete_node` only marks the node. -/
def NodeUpdate.inactive : NodeUpdate := ⟨none, none, some (some "inactive"), none, none⟩

structure GameUpdate where
  slug : Option (Option String)
  serverIps : Option (Option (List String))
  ports : Option (Option (List String))
  deriving DecidableEq, Repr

def GameUpdate.Void (update : GameUpdate) (loaded : GameProfile) : Prop :=
  netField update.slug loaded.slug = none ∧ netField update.serverIps loaded.serverIps = none ∧
    netField update.ports loaded.ports = none

instance (update : GameUpdate) (loaded : GameProfile) : Decidable (update.Void loaded) :=
  inferInstanceAs (Decidable (_ ∧ _ ∧ _))

/-- What `update_game` writes to the current row, having set the fields on the loaded one. -/
def GameUpdate.write (update : GameUpdate) (loaded current : GameProfile) :
    Option GameProfile := do
  let slug ← writeField (netField update.slug loaded.slug) current.slug
  let serverIps ← writeField (netField update.serverIps loaded.serverIps) current.serverIps
  let ports ← writeField (netField update.ports loaded.ports) current.ports
  return { current with slug, serverIps, ports }

/-- Whose history is asked for, and the order of its rows by the time of their creation, a
column that is left out here. -/
structure HistoryRequest where
  userId : Uuid
  byCreation : List Session → List Session
  perm : ∀ rows, byCreation rows ~ rows

/-- The next database step of a request, with what it has read so far. -/
inductive CatalogStage where
  | service (stage : Stage)
  | refreshStarted (session : Session) (node : Node) (game : GameProfile) (backup : Option Node)
  | refreshStopped (session : Session)
  | loadNode (session : Session) (node : Node) (game : GameProfile) (backup : Option Node)
  | loadGame (session : Session) (node : Node) (game : GameProfile) (backup : Option Node)
  | loadBackup (session : Session) (node : Node) (game : GameProfile) (backup : Option Node)
  | loadStopNode (session : Session)
  | loadStopBackup (session : Session) (node : Option Node)
  | history (req : HistoryRequest)
  | historyGame (todo : List Session) (items : List HistoryItem)
  | historyNode (session : Session) (game : Option GameProfile) (todo : List Session)
      (items : List HistoryItem)
  | insertNode (node : Node)
  | selectNode (nodeId : Uuid) (update : NodeUpdate)
  | updateNode (node : Node) (update : NodeUpdate)
  | refreshNode (nodeId : Uuid)
  | selectSlug (game : GameProfile)
  | insertGame (game : GameProfile)
  | selectGame (gameId : Uuid) (update : GameUpdate)
  | updateGame (game : GameProfile) (update : GameUpdate)
  | refreshGame (gameId : Uuid)
  | selectDeleted (gameId : Uuid)
  | deleteGame (game : GameProfile)
  | selectStopped (sessionId : Uuid) (now : DateTime)
  | updateStopped (session : Session) (now : DateTime)
  | refreshSession (sessionId : Uuid)

inductive CatalogRequest where
  | start (req : StartRequest)
  | stop (req : StopRequest)
  | history (req : HistoryRequest)
  | createNode (node : Node)
  | updateNode (nodeId : Uuid) (update : NodeUpdate)
  | deleteNode (nodeId : Uuid)
  | createGame (game : GameProfile)
  | updateGame (gameId : Uuid) (update : GameUpdate)
  | deleteGame (gameId : Uuid)
  | adminStop (sessionId : Uuid) (now : DateTime)

def CatalogRequest.first : CatalogRequest → CatalogStage
  | .start req => .service (.selectGame req)
  | .stop req => .service (.selectSession req)
  | .history req => .history req
  | .createNode node => .insertNode node
  | .updateNode nodeId update => .selectNode nodeId update
  | .deleteNode nodeId => .selectNode nodeId .inactive
  | .createGame game => .selectSlug game
  | .updateGame gameId update => .selectGame gameId update
  | .deleteGame gameId => .selectDeleted gameId
  | .adminStop sessionId now => .selectStopped sessionId now

namespace SessionDb

def nodesWith (db : SessionDb) (id : Uuid) : List Node := Table.select (·.id) id db.nodes

def gamesWith (db : SessionDb) (id : Uuid) : List GameProfile :=
  Table.select (·.id) id db.gameProfiles

def sessionsWith (db : SessionDb) (id : Uuid) : List Session :=
  Table.select (·.id) id db.sessions

end SessionDb

/-- An object that was loaded before is not loaded again. -/
def identity {α : Type} (id : α → Uuid) (loaded : List α) (row : α) : α :=
  (loaded.find? fun object => id object = id row).getD row

/-- An object that was loaded before has the key of the row. -/
theorem identity_id {α : Type} (id : α → Uuid) (loaded : List α) (row : α) :
    id (identity id loaded row) = id row := by
  unfold identity
  cases found : loaded.find? fun object => id object = id row with
  | none => rfl
  | some object => simpa using List.find?_some found

def refuse (e : ServiceError) : CatalogStage ⊕ CatalogOutcome := .inr (.error (.service e))

/-- A select of at most one row. -/
def oneOrNone {α : Type} (rows : List α) (next : Option α → CatalogStage ⊕ CatalogOutcome) :
    CatalogStage ⊕ CatalogOutcome :=
  match scalarOneOrNone rows with
  | .error e => refuse e
  | .ok row => next row

/-- A select of exactly one row. -/
def exactlyOne {α : Type} (rows : List α) (next : α → CatalogStage ⊕ CatalogOutcome) :
    CatalogStage ⊕ CatalogOutcome :=
  match scalarOne rows with
  | .error e => refuse e
  | .ok row => next row

/-- `db.refresh` reads the row of an object again. -/
def dbRefresh {α : Type} (rows : List α) (next : α → CatalogStage ⊕ CatalogOutcome) :
    CatalogStage ⊕ CatalogOutcome :=
  match rows with
  | [] => .inr (.error .invalidRequest)
  | row :: _ => next row

/-- Where a start or a stop goes on after a step of the service. The objects that a start has
loaded are those of its answer. -/
def afterService (stage : Stage) : Stage ⊕ Outcome → CatalogStage ⊕ CatalogOutcome
  | .inl stage' => .inl (.service stage')
  | .inr (.error e) => refuse e
  | .inr (.ok session) =>
      match stage with
      | .insert _ game node backup => .inl (.refreshStarted session node game backup)
      | _ => .inl (.refreshStopped session)

/-- One database step. -/
def catalogStep (db : SessionDb) : CatalogStage → SessionDb × (CatalogStage ⊕ CatalogOutcome)
  | .service stage =>
      let after := serviceStep db stage
      (after.1, afterService stage after.2)
  | .refreshStarted session node game backup =>
      (db, dbRefresh (db.sessionsWith session.id) fun row => .inl (.loadNode row node game backup))
  | .refreshStopped session =>
      (db, dbRefresh (db.sessionsWith session.id) fun row => .inl (.loadStopNode row))
  | .loadNode session node game backup =>
      (db, exactlyOne (db.nodesWith session.nodeId) fun _ =>
        .inl (.loadGame session node game backup))
  | .loadGame session node game backup =>
      (db, exactlyOne (db.gamesWith session.gameProfileId) fun _ =>
        if session.backupNodeId.isSome then .inl (.loadBackup session node game backup)
        else .inr (.ok (.created session node game none)))
  | .loadBackup session node game backup =>
      (db, oneOrNone (session.backupNodeId.toList.flatMap db.nodesWith) fun row =>
        .inr (.ok (.created session node game (row.bind fun _ => backup))))
  | .loadStopNode session =>
      (db, oneOrNone (db.nodesWith session.nodeId) fun node =>
        if session.backupNodeId.isSome then .inl (.loadStopBackup session node)
        else .inr (.ok (.ended session node none)))
  | .loadStopBackup session node =>
      (db, oneOrNone (session.backupNodeId.toList.flatMap db.nodesWith) fun backup =>
        .inr (.ok (.ended session node backup)))
  | .history req =>
      (db, .inl (.historyGame
        ((req.byCreation (db.sessions.filter (·.userId = req.userId))).take 50) []))
  | .historyGame [] items => (db, .inr (.ok (.items items)))
  | .historyGame (session :: todo) items =>
      (db, oneOrNone (db.gamesWith session.gameProfileId) fun game =>
        .inl (.historyNode session (game.map (identity (·.id) (items.filterMap (·.game)))) todo
          items))
  | .historyNode session game todo items =>
      (db, oneOrNone (db.nodesWith session.nodeId) fun node =>
        .inl (.historyGame todo
          (items ++ [⟨session, game, node.map (identity (·.id) (items.filterMap (·.node)))⟩])))
  | .insertNode node =>
      if db.nodesWith node.id = [] then
        ({ db with nodes := db.nodes ++ [node] }, .inl (.refreshNode node.id))
      else (db, refuse .integrityError)
  | .selectNode nodeId update =>
      (db, oneOrNone (db.nodesWith nodeId) fun
        | none => refuse (.httpException 404 "Node not found")
        | some node => .inl (.updateNode node update))
  | .updateNode node update =>
      match db.nodesWith node.id with
      | [] =>
          (db, if update.Void node then .inl (.refreshNode node.id)
            else .inr (.error .staleData))
      | current :: _ =>
          match update.write node current with
          | none => (db, refuse .integrityError)
          | some written =>
              ({ db with nodes := Table.update (·.id) node.id (fun _ => written) db.nodes },
                .inl (.refreshNode node.id))
  | .refreshNode nodeId =>
      (db, dbRefresh (db.nodesWith nodeId) fun node => .inr (.ok (.node node)))
  | .selectSlug game =>
      (db, oneOrNone (db.gameProfiles.filter (·.slug = game.slug)) fun
        | some _ => refuse (.httpException 409 "Game with this slug already exists")
        | none => .inl (.insertGame game))
  | .insertGame game =>
      if db.gamesWith game.id = [] ∧ ∀ other ∈ db.gameProfiles, other.slug ≠ game.slug then
        ({ db with gameProfiles := db.gameProfiles ++ [game] }, .inl (.refreshGame game.id))
      else (db, refuse .integrityError)
  | .selectGame gameId update =>
      (db, oneOrNone (db.gamesWith gameId) fun
        | none => refuse (.httpException 404 "Game not found")
        | some game => .inl (.updateGame game update))
  | .updateGame game update =>
      match db.gamesWith game.id with
      | [] =>
          (db, if update.Void game then .inl (.refreshGame game.id)
            else .inr (.error .staleData))
      | current :: _ =>
          match update.write game current with
          | none => (db, refuse .integrityError)
          | some written =>
              if ∀ other ∈ db.gameProfiles, other.id ≠ game.id → other.slug ≠ written.slug then
                ({ db with
                  gameProfiles :=
                    Table.update (·.id) game.id (fun _ => written) db.gameProfiles },
                  .inl (.refreshGame game.id))
              else (db, refuse .integrityError)
  | .refreshGame gameId =>
      (db, dbRefresh (db.gamesWith gameId) fun game => .inr (.ok (.game game)))
  | .selectDeleted gameId =>
      (db, oneOrNone (db.gamesWith gameId) fun
        | none => refuse (.httpException 404 "Game not found")
        | some game => .inl (.deleteGame game))
  | .deleteGame game =>
      -- The references of the sessions keep the row.
      if ∀ session ∈ db.sessions, session.gameProfileId ≠ game.id then
        ({ db with gameProfiles := db.gameProfiles.filter (·.id ≠ game.id) },
          .inr (.ok .gameDeleted))
      else (db, refuse .integrityError)
  | .selectStopped sessionId now =>
      (db, oneOrNone (db.sessionsWith sessionId) fun
        | none => refuse (.httpException 404 "Session not found")
        | some session =>
            if session.status ≠ "active" then refuse (.httpException 400 "Session is not active")
            else .inl (.updateStopped session now))
  | .updateStopped session now =>
      (db.markStopped session.id now, .inl (.refreshSession session.id))
  | .refreshSession sessionId =>
      (db, dbRefresh (db.sessionsWith sessionId) fun session => .inr (.ok (.session session)))

def CatalogStage.rank : CatalogStage → Nat
  | .service stage => stage.rank + 4
  | .refreshStarted _ _ _ _ => 3
  | .refreshStopped _ => 2
  | .loadNode _ _ _ _ => 2
  | .loadGame _ _ _ _ => 1
  | .loadBackup _ _ _ _ => 0
  | .loadStopNode _ => 1
  | .loadStopBackup _ _ => 0
  | .history _ => 101
  | .historyGame todo _ => 2 * todo.length
  | .historyNode _ _ todo _ => 2 * todo.length + 1
  | .insertNode _ => 1
  | .selectNode _ _ => 2
  | .updateNode _ _ => 1
  | .refreshNode _ => 0
  | .selectSlug _ => 2
  | .insertGame _ => 1
  | .selectGame _ _ => 2
  | .updateGame _ _ => 1
  | .refreshGame _ => 0
  | .selectDeleted _ => 1
  | .deleteGame _ => 0
  | .selectStopped _ _ => 2
  | .updateStopped _ _ => 1
  | .refreshSession _ => 0

/-! ## How a request goes on -/

/-- What is left of a start, a stop or a history loads rows for the answer. -/
def CatalogStage.loads : CatalogStage → Bool
  | .refreshStarted _ _ _ _ => true
  | .refreshStopped _ => true
  | .loadNode _ _ _ _ => true
  | .loadGame _ _ _ _ => true
  | .loadBackup _ _ _ _ => true
  | .loadStopNode _ => true
  | .loadStopBackup _ _ => true
  | .historyGame _ _ => true
  | .historyNode _ _ _ _ => true
  | _ => false

/-- An administrator's request looks for its row. -/
def CatalogStage.selects : CatalogStage → Bool
  | .selectNode _ _ => true
  | .selectSlug _ => true
  | .selectGame _ _ => true
  | .selectDeleted _ => true
  | .selectStopped _ _ => true
  | _ => false

/-- All the ways in which a request goes on after one database step. -/
inductive CatalogNext (db : SessionDb) : CatalogStage → CatalogStage → Prop where
  | service {stage later : Stage} (taken : (serviceStep db stage).2 = .inl later) :
      CatalogNext db (.service stage) (.service later)
  | started (req : StartRequest) (game : GameProfile) (node : Node) (backup : Option Node)
      (accepted : db.Accepts (newSession req game node backup)) :
      CatalogNext db (.service (.insert req game node backup))
        (.refreshStarted (newSession req game node backup) node game backup)
  | stopped (req : StopRequest) (session : Session) :
      CatalogNext db (.service (.update req session))
        (.refreshStopped { session with status := "stopped", endedAt := some req.now })
  | refreshStarted {session row : Session} (node : Node) (game : GameProfile)
      (backup : Option Node) (found : row ∈ db.sessionsWith session.id) :
      CatalogNext db (.refreshStarted session node game backup) (.loadNode row node game backup)
  | refreshStopped {session row : Session} (found : row ∈ db.sessionsWith session.id) :
      CatalogNext db (.refreshStopped session) (.loadStopNode row)
  | loadNode (session : Session) (node : Node) (game : GameProfile) (backup : Option Node) :
      CatalogNext db (.loadNode session node game backup) (.loadGame session node game backup)
  | loadGame (session : Session) (node : Node) (game : GameProfile) (backup : Option Node) :
      CatalogNext db (.loadGame session node game backup) (.loadBackup session node game backup)
  | loadStopNode (session : Session) (node : Option Node) :
      CatalogNext db (.loadStopNode session) (.loadStopBackup session node)
  | history (req : HistoryRequest) :
      CatalogNext db (.history req) (.historyGame
        ((req.byCreation (db.sessions.filter (·.userId = req.userId))).take 50) [])
  | historyGame (session : Session) (game : Option GameProfile) (todo : List Session)
      (items : List HistoryItem) :
      CatalogNext db (.historyGame (session :: todo) items) (.historyNode session game todo items)
  | historyNode (session : Session) (game : Option GameProfile) (todo : List Session)
      (items items' : List HistoryItem) :
      CatalogNext db (.historyNode session game todo items) (.historyGame todo items')
  | insertNode (node : Node) : CatalogNext db (.insertNode node) (.refreshNode node.id)
  | selectNode (nodeId : Uuid) (update : NodeUpdate) (node : Node) :
      CatalogNext db (.selectNode nodeId update) (.updateNode node update)
  | updateNode (node : Node) (update : NodeUpdate) :
      CatalogNext db (.updateNode node update) (.refreshNode node.id)
  | selectSlug (game : GameProfile) : CatalogNext db (.selectSlug game) (.insertGame game)
  | insertGame (game : GameProfile) : CatalogNext db (.insertGame game) (.refreshGame game.id)
  | selectGame (gameId : Uuid) (update : GameUpdate) (game : GameProfile) :
      CatalogNext db (.selectGame gameId update) (.updateGame game update)
  | updateGame (game : GameProfile) (update : GameUpdate) :
      CatalogNext db (.updateGame game update) (.refreshGame game.id)
  | selectDeleted (gameId : Uuid) (game : GameProfile) :
      CatalogNext db (.selectDeleted gameId) (.deleteGame game)
  | selectStopped (sessionId : Uuid) (session : Session) (now : DateTime) :
      CatalogNext db (.selectStopped sessionId now) (.updateStopped session now)
  | updateStopped (session : Session) (now : DateTime) :
      CatalogNext db (.updateStopped session now) (.refreshSession session.id)

theorem oneOrNone_eq_inl {α : Type} {rows : List α}
    {next : Option α → CatalogStage ⊕ CatalogOutcome} {stage : CatalogStage}
    (goes : oneOrNone rows next = .inl stage) :
    ∃ row, scalarOneOrNone rows = .ok row ∧ next row = .inl stage := by
  unfold oneOrNone at goes
  split at goes
  · cases goes
  next row found => exact ⟨row, found, goes⟩

theorem exactlyOne_eq_inl {α : Type} {rows : List α}
    {next : α → CatalogStage ⊕ CatalogOutcome} {stage : CatalogStage}
    (goes : exactlyOne rows next = .inl stage) :
    ∃ row, rows = [row] ∧ next row = .inl stage := by
  unfold exactlyOne at goes
  split at goes
  · cases goes
  next row found => exact ⟨row, scalarOne_eq_ok.mp found, goes⟩

theorem dbRefresh_eq_inl {α : Type} {rows : List α} {next : α → CatalogStage ⊕ CatalogOutcome}
    {stage : CatalogStage} (goes : dbRefresh rows next = .inl stage) :
    ∃ row ∈ rows, next row = .inl stage := by
  cases rows with
  | nil => cases goes
  | cons row rest => exact ⟨row, List.mem_cons_self, goes⟩

section Next

variable {db : SessionDb} {next : CatalogStage}

theorem continueWith_eq_inr_ok {α : Type} {rows : List α} {goesOn : Option α → Stage ⊕ Outcome}
    {session : Session} (ends : continueWith rows goesOn = .inr (.ok session)) :
    ∃ row, goesOn row = .inr (.ok session) := by
  unfold continueWith at ends
  split at ends
  · cases ends
  next row found => exact ⟨row, ends⟩

/-- Only an insert and an update end well. -/
theorem serviceStep_ok {stage : Stage} {session : Session}
    (ends : (serviceStep db stage).2 = .inr (.ok session)) :
    (∃ req game node backup, stage = .insert req game node backup ∧
      db.Accepts (newSession req game node backup) ∧ session = newSession req game node backup) ∨
    ∃ req loaded, stage = .update req loaded ∧
      session = { loaded with status := "stopped", endedAt := some req.now } := by
  cases stage with
  | insert req game node backup =>
      simp only [serviceStep] at ends
      split_ifs at ends with accepted
      · cases ends
        exact .inl ⟨req, game, node, backup, rfl, accepted, rfl⟩
      · cases ends
  | update req loaded =>
      cases ends
      exact .inr ⟨req, loaded, rfl, rfl⟩
  | selectExisting req game node =>
      obtain ⟨row, ends⟩ := continueWith_eq_inr_ok ends
      cases row with
      | some existing => cases ends
      | none =>
          simp only at ends
          split_ifs at ends
  | _ =>
      obtain ⟨row, ends⟩ := continueWith_eq_inr_ok ends
      cases row <;> cases ends

theorem service_next {stage : Stage} (goes : (catalogStep db (.service stage)).2 = .inl next) :
    CatalogNext db (.service stage) next := by
  cases taken : (serviceStep db stage).2 with
  | inl later =>
      simp only [catalogStep, taken, afterService] at goes
      cases goes
      exact .service taken
  | inr outcome =>
      simp only [catalogStep, taken, afterService] at goes
      cases outcome with
      | error e => cases goes
      | ok session =>
          rcases serviceStep_ok taken with
            ⟨req, game, node, backup, rfl, accepted, rfl⟩ | ⟨req, loaded, rfl, rfl⟩
          · cases goes
            exact .started req game node backup accepted
          · cases goes
            exact .stopped req loaded

/-- A start, a stop or a history loads the next row for the answer. -/
theorem next_of_loads {stage : CatalogStage} (loads : stage.loads = true)
    (goes : (catalogStep db stage).2 = .inl next) : CatalogNext db stage next := by
  cases stage with
  | refreshStarted session node game backup =>
      obtain ⟨row, found, goes⟩ := dbRefresh_eq_inl goes
      cases goes
      exact .refreshStarted node game backup found
  | refreshStopped session =>
      obtain ⟨row, found, goes⟩ := dbRefresh_eq_inl goes
      cases goes
      exact .refreshStopped found
  | loadNode session node game backup =>
      obtain ⟨row, _, goes⟩ := exactlyOne_eq_inl goes
      cases goes
      exact .loadNode session node game backup
  | loadGame session node game backup =>
      obtain ⟨row, _, goes⟩ := exactlyOne_eq_inl goes
      split_ifs at goes
      cases goes
      exact .loadGame session node game backup
  | loadStopNode session =>
      obtain ⟨node, _, goes⟩ := oneOrNone_eq_inl goes
      split_ifs at goes
      cases goes
      exact .loadStopNode session node
  | loadBackup | loadStopBackup =>
      obtain ⟨row, _, goes⟩ := oneOrNone_eq_inl goes
      cases goes
  | historyGame todo items =>
      cases todo with
      | nil => cases goes
      | cons session todo =>
          obtain ⟨row, _, goes⟩ := oneOrNone_eq_inl goes
          cases goes
          exact .historyGame session _ todo items
  | historyNode session game todo items =>
      obtain ⟨row, _, goes⟩ := oneOrNone_eq_inl goes
      cases goes
      exact .historyNode session game todo items _
  | _ => cases loads

theorem updateNode_next {node : Node} {update : NodeUpdate}
    (goes : (catalogStep db (.updateNode node update)).2 = .inl next) :
    CatalogNext db (.updateNode node update) next := by
  simp only [catalogStep] at goes
  split at goes
  · simp only at goes
    split_ifs at goes
    cases goes
    exact .updateNode node update
  · split at goes
    · cases goes
    · cases goes
      exact .updateNode node update

theorem updateGame_next {game : GameProfile} {update : GameUpdate}
    (goes : (catalogStep db (.updateGame game update)).2 = .inl next) :
    CatalogNext db (.updateGame game update) next := by
  simp only [catalogStep] at goes
  split at goes
  · simp only at goes
    split_ifs at goes
    cases goes
    exact .updateGame game update
  · split at goes
    · cases goes
    · split_ifs at goes
      · cases goes
        exact .updateGame game update
      · cases goes

/-- An administrator's select goes on to the write. -/
theorem next_of_selects {stage : CatalogStage} (selects : stage.selects = true)
    (goes : (catalogStep db stage).2 = .inl next) : CatalogNext db stage next := by
  cases stage with
  | selectNode nodeId update =>
      obtain ⟨row, _, goes⟩ := oneOrNone_eq_inl goes
      cases row with
      | none => cases goes
      | some node =>
          cases goes
          exact .selectNode nodeId update node
  | selectSlug game =>
      obtain ⟨row, _, goes⟩ := oneOrNone_eq_inl goes
      cases row with
      | some other => cases goes
      | none =>
          cases goes
          exact .selectSlug game
  | selectGame gameId update =>
      obtain ⟨row, _, goes⟩ := oneOrNone_eq_inl goes
      cases row with
      | none => cases goes
      | some game =>
          cases goes
          exact .selectGame gameId update game
  | selectDeleted gameId =>
      obtain ⟨row, _, goes⟩ := oneOrNone_eq_inl goes
      cases row with
      | none => cases goes
      | some game =>
          cases goes
          exact .selectDeleted gameId game
  | selectStopped sessionId now =>
      obtain ⟨row, _, goes⟩ := oneOrNone_eq_inl goes
      cases row with
      | none => cases goes
      | some session =>
          simp only at goes
          split_ifs at goes
          · cases goes
          · cases goes
            exact .selectStopped sessionId session now
  | _ => cases selects

theorem catalogStep_next {stage : CatalogStage} (goes : (catalogStep db stage).2 = .inl next) :
    CatalogNext db stage next := by
  cases stage with
  | service stage => exact service_next goes
  | history req =>
      cases goes
      exact .history req
  | insertNode node =>
      simp only [catalogStep] at goes
      split_ifs at goes
      · cases goes
        exact .insertNode node
      · cases goes
  | updateNode node update => exact updateNode_next goes
  | insertGame game =>
      simp only [catalogStep] at goes
      split_ifs at goes
      · cases goes
        exact .insertGame game
      · cases goes
  | updateGame game update => exact updateGame_next goes
  | deleteGame game =>
      simp only [catalogStep] at goes
      split_ifs at goes
      cases goes
  | updateStopped session now =>
      cases goes
      exact .updateStopped session now
  | selectNode | selectSlug | selectGame | selectDeleted | selectStopped =>
      exact next_of_selects rfl goes
  | refreshNode | refreshGame | refreshSession =>
      obtain ⟨row, _, goes⟩ := dbRefresh_eq_inl goes
      cases goes
  | _ => exact next_of_loads rfl goes

theorem CatalogNext.descends {stage : CatalogStage} (leads : CatalogNext db stage next) :
    next.rank < stage.rank := by
  cases leads with
  | service taken => exact Nat.add_lt_add_right (serviceStep_descends db _ _ taken) 4
  | history req =>
      simp only [CatalogStage.rank, List.length_take]
      omega
  | historyGame session game todo items =>
      simp only [CatalogStage.rank, List.length_cons]
      omega
  | _ => simp [CatalogStage.rank, Stage.rank]

end Next

/-- The sessions' service and the catalogue's administration as one program. -/
def catalog : Program SessionDb CatalogStage CatalogOutcome where
  step := catalogStep
  rank := CatalogStage.rank
  descends := fun _ _ _ goes => (catalogStep_next goes).descends

/-! ## What a step writes -/

/-- All that one database step of the catalogue's program does to the tables. -/
inductive CatalogWrite (db : SessionDb) : SessionDb → Prop where
  | nothing : CatalogWrite db db
  | insertSession (row : Session) (accepted : db.Accepts row) :
      CatalogWrite db (db.insertSession row)
  | markStopped (id : Uuid) (now : DateTime) : CatalogWrite db (db.markStopped id now)
  | insertNode (node : Node) (fresh : db.nodesWith node.id = []) :
      CatalogWrite db { db with nodes := db.nodes ++ [node] }
  | updateNodes (nodes : List Node) (keys : nodes.map (·.id) = db.nodes.map (·.id)) :
      CatalogWrite db { db with nodes := nodes }
  | insertGame (game : GameProfile) (fresh : db.gamesWith game.id = []) :
      CatalogWrite db { db with gameProfiles := db.gameProfiles ++ [game] }
  | updateGames (games : List GameProfile)
      (keys : games.map (·.id) = db.gameProfiles.map (·.id)) :
      CatalogWrite db { db with gameProfiles := games }
  | deleteGame (id : Uuid) (free : ∀ session ∈ db.sessions, session.gameProfileId ≠ id) :
      CatalogWrite db { db with gameProfiles := db.gameProfiles.filter (·.id ≠ id) }

theorem NodeUpdate.write_id {update : NodeUpdate} {loaded current written : Node}
    (writes : update.write loaded current = some written) : written.id = current.id := by
  simp only [NodeUpdate.write, Option.bind_eq_bind, Option.pure_def, Option.bind_eq_some_iff,
    Option.some.injEq] at writes
  obtain ⟨_, _, _, _, _, _, _, _, _, _, rfl⟩ := writes
  rfl

theorem GameUpdate.write_id {update : GameUpdate} {loaded current written : GameProfile}
    (writes : update.write loaded current = some written) : written.id = current.id := by
  simp only [GameUpdate.write, Option.bind_eq_bind, Option.pure_def, Option.bind_eq_some_iff,
    Option.some.injEq] at writes
  obtain ⟨_, _, _, _, _, _, rfl⟩ := writes
  rfl

/-- A row that is written in the place of one with its key keeps the keys of the table. -/
theorem map_update_const {α : Type} {id : α → Uuid} {key : Uuid} {rows : List α} {written : α}
    (same : id written = key) :
    (Table.update id key (fun _ => written) rows).map id = rows.map id := by
  rw [Table.update, List.map_map]
  refine List.map_congr_left fun row _ => ?_
  simp only [Function.comp_apply]
  split_ifs with here
  · exact same.trans here.symm
  · rfl

theorem serviceStep_writes (db : SessionDb) (stage : Stage) :
    CatalogWrite db (serviceStep db stage).1 := by
  rcases serviceStep_cases db stage with
    ⟨same, _⟩ | ⟨req, game, node, backup, rfl, accepted, inserted⟩ | ⟨req, session, rfl, stopped⟩
  · rw [same]
    exact .nothing
  · rw [inserted]
    exact .insertSession _ accepted
  · rw [stopped]
    exact .markStopped _ _

theorem catalogStep_writes (db : SessionDb) (stage : CatalogStage) :
    CatalogWrite db (catalogStep db stage).1 := by
  cases stage with
  | service stage => exact serviceStep_writes db stage
  | historyGame todo items => cases todo <;> exact .nothing
  | insertNode node =>
      simp only [catalogStep]
      split_ifs with fresh
      · exact .insertNode node fresh
      · exact .nothing
  | updateNode node update =>
      simp only [catalogStep]
      split
      · exact .nothing
      next current rest found =>
        split
        · exact .nothing
        next written writes =>
          have key : current.id = node.id :=
            (Table.mem_select.mp (found ▸ List.mem_cons_self : current ∈ db.nodesWith node.id)).2
          exact .updateNodes _ (map_update_const ((NodeUpdate.write_id writes).trans key))
  | insertGame game =>
      simp only [catalogStep]
      split_ifs with fresh
      · exact .insertGame game fresh.1
      · exact .nothing
  | updateGame game update =>
      simp only [catalogStep]
      split
      · exact .nothing
      next current rest found =>
        split
        · exact .nothing
        next written writes =>
          have key : current.id = game.id :=
            (Table.mem_select.mp (found ▸ List.mem_cons_self : current ∈ db.gamesWith game.id)).2
          split_ifs
          · exact .updateGames _ (map_update_const ((GameUpdate.write_id writes).trans key))
          · exact .nothing
  | deleteGame game =>
      simp only [catalogStep]
      split_ifs with free
      · exact .deleteGame game.id free
      · exact .nothing
  | updateStopped session now => exact .markStopped _ _
  | _ => exact .nothing

/-- No session is deleted, and what a stop leaves of a row is never changed. -/
theorem CatalogWrite.mem_map {β : Type} {view : Session → β} {db db' : SessionDb} {value : β}
    (write : CatalogWrite db db')
    (kept : ∀ (now : DateTime) (row : Session),
      view { row with status := "stopped", endedAt := some now } = view row)
    (there : value ∈ db.sessions.map view) : value ∈ db'.sessions.map view := by
  cases write with
  | insertSession row accepted =>
      simp only [SessionDb.insertSession, List.map_append]
      exact List.mem_append_left _ there
  | markStopped id now => rwa [map_markStopped (kept now)]
  | _ => exact there

end PlgBooster.Server
