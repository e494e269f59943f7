import PlgBooster.Library.Interference
import PlgBooster.Server.Catalogue

/-!
# The references of the sessions

After its commit a start reads its session back and loads its node and its game again for the
answer, a stop loads the nodes it has to tell, and the history loads both for each session.
Meanwhile an administrator adds, changes and removes nodes and games: a node is only marked
inactive, and a game that a session refers to cannot be deleted. So whatever interleaves with
them, these loads find what they look for: a start that is committed is answered, a stop tells
its relays, and no game or node in a history is unknown. Only a game that an administrator has
just written may be gone when it is read back.
-/

namespace PlgBooster.Server

open Transaction

/-! ## The references of the sessions -/

/-- The key of a session and what it refers to. -/
def references (session : Session) : Uuid × Uuid × Uuid × Option Uuid :=
  (session.id, session.nodeId, session.gameProfileId, session.backupNodeId)

/-- The keys are unique, and what a session refers to is there. -/
structure Referential (db : SessionDb) : Prop where
  sessionIds : (db.sessions.map (·.id)).Nodup
  nodeIds : (db.nodes.map (·.id)).Nodup
  gameIds : (db.gameProfiles.map (·.id)).Nodup
  nodes : ∀ session ∈ db.sessions, session.nodeId ∈ db.nodes.map (·.id)
  games : ∀ session ∈ db.sessions, session.gameProfileId ∈ db.gameProfiles.map (·.id)
  backups : ∀ session ∈ db.sessions, ∀ id ∈ session.backupNodeId, id ∈ db.nodes.map (·.id)

/-- There is a session with this key and these references. -/
def Recorded (db : SessionDb) (session : Session) : Prop :=
  references session ∈ db.sessions.map references

theorem select_of_mem {α : Type} {id : α → Uuid} {rows : List α} {key : Uuid}
    (distinct : (rows.map id).Nodup) (there : key ∈ rows.map id) :
    ∃ row, Table.select id key rows = [row] ∧ id row = key := by
  obtain ⟨row, inTable, rfl⟩ := List.mem_map.mp there
  exact ⟨row, Table.select_of_nodup distinct inTable, rfl⟩

namespace Referential

variable {db : SessionDb} {session : Session}

/-- A recorded session is read back with its references. -/
theorem readBack (referential : Referential db) (recorded : Recorded db session) :
    ∃ row, db.sessionsWith session.id = [row] ∧ row ∈ db.sessions ∧
      references row = references session := by
  obtain ⟨row, inTable, same⟩ := List.mem_map.mp recorded
  refine ⟨row, ?_, inTable, same⟩
  rw [← show row.id = session.id from congrArg Prod.fst same]
  exact Table.select_of_nodup referential.sessionIds inTable

/-- The node of a recorded session is found. -/
theorem node (referential : Referential db) (recorded : Recorded db session) :
    ∃ node, db.nodesWith session.nodeId = [node] ∧ node.id = session.nodeId := by
  obtain ⟨row, inTable, same⟩ := List.mem_map.mp recorded
  have there := referential.nodes row inTable
  rw [show row.nodeId = session.nodeId from congrArg (·.2.1) same] at there
  exact select_of_mem referential.nodeIds there

theorem game (referential : Referential db) (recorded : Recorded db session) :
    ∃ game, db.gamesWith session.gameProfileId = [game] ∧ game.id = session.gameProfileId := by
  obtain ⟨row, inTable, same⟩ := List.mem_map.mp recorded
  have there := referential.games row inTable
  rw [show row.gameProfileId = session.gameProfileId from congrArg (·.2.2.1) same] at there
  exact select_of_mem referential.gameIds there

theorem backup (referential : Referential db) (recorded : Recorded db session) {id : Uuid}
    (named : session.backupNodeId = some id) :
    ∃ node, session.backupNodeId.toList.flatMap db.nodesWith = [node] ∧ node.id = id := by
  obtain ⟨row, inTable, same⟩ := List.mem_map.mp recorded
  have named' : row.backupNodeId = some id :=
    (show row.backupNodeId = session.backupNodeId from congrArg (·.2.2.2) same).trans named
  obtain ⟨node, found, key⟩ :=
    select_of_mem referential.nodeIds (referential.backups row inTable id named')
  refine ⟨node, ?_, key⟩
  rw [named]
  simpa [SessionDb.nodesWith] using found

end Referential

section Writes

variable {db db' : SessionDb} {session : Session}

/-- What is recorded stays recorded: no session is deleted, and none changes its references. -/
theorem Recorded.write (recorded : Recorded db session) (write : CatalogWrite db db') :
    Recorded db' session :=
  write.mem_map (fun _ _ => rfl) recorded

theorem fresh_of_select {α : Type} {id : α → Uuid} {rows : List α} {key : Uuid}
    (fresh : Table.select id key rows = []) : ∀ old ∈ rows, id old ≠ key := by
  intro old inTable same
  have found := Table.mem_select.mpr ⟨inTable, same⟩
  rw [fresh] at found
  cases found

/-- No session is deleted. -/
theorem session_id_write {id : Uuid} (there : id ∈ db.sessions.map (·.id))
    (write : CatalogWrite db db') : id ∈ db'.sessions.map (·.id) :=
  write.mem_map (fun _ _ => rfl) there

/-- No node is deleted. -/
theorem node_id_write {id : Uuid} (there : id ∈ db.nodes.map (·.id))
    (write : CatalogWrite db db') : id ∈ db'.nodes.map (·.id) := by
  cases write with
  | insertNode node fresh =>
      rw [List.map_append]
      exact List.mem_append_left _ there
  | updateNodes rows keys => rwa [keys]
  | _ => exact there

/-- An insert brings its references along. -/
theorem Referential.insertSession (referential : Referential db) (accepted : db.Accepts session) :
    Referential (db.insertSession session) := by
  obtain ⟨sessionIds, nodeIds, gameIds, nodes, games, backups⟩ := referential
  obtain ⟨fresh, _, node, game, backup⟩ := accepted
  refine ⟨nodup_insertSession sessionIds fresh, nodeIds, gameIds, ?_, ?_, ?_⟩
  · refine List.forall_mem_append.mpr ⟨nodes, ?_⟩
    simpa [SessionDb.insertSession] using node
  · refine List.forall_mem_append.mpr ⟨games, ?_⟩
    simpa [SessionDb.insertSession] using game
  · refine List.forall_mem_append.mpr ⟨backups, ?_⟩
    simpa [SessionDb.insertSession] using backup

theorem Referential.markStopped (referential : Referential db) (id : Uuid) (now : DateTime) :
    Referential (db.markStopped id now) := by
  obtain ⟨sessionIds, nodeIds, gameIds, nodes, games, backups⟩ := referential
  have kept : ∀ row ∈ (db.markStopped id now).sessions,
      ∃ old ∈ db.sessions, references old = references row := by
    intro row member
    have there := List.mem_map_of_mem (f := references) member
    rw [map_markStopped fun _ => rfl] at there
    exact List.mem_map.mp there
  refine ⟨?_, nodeIds, gameIds, ?_, ?_, ?_⟩
  · rwa [map_markStopped fun _ => rfl]
  · intro row member
    obtain ⟨old, inTable, same⟩ := kept row member
    rw [← show old.nodeId = row.nodeId from congrArg (·.2.1) same]
    exact nodes old inTable
  · intro row member
    obtain ⟨old, inTable, same⟩ := kept row member
    rw [← show old.gameProfileId = row.gameProfileId from congrArg (·.2.2.1) same]
    exact games old inTable
  · intro row member
    obtain ⟨old, inTable, same⟩ := kept row member
    rw [← show old.backupNodeId = row.backupNodeId from congrArg (·.2.2.2) same]
    exact backups old inTable

/-- Every write leaves the references good. A deletion first asks for those that are left. -/
theorem Referential.write (referential : Referential db) (write : CatalogWrite db db') :
    Referential db' := by
  obtain ⟨sessionIds, nodeIds, gameIds, nodes, games, backups⟩ := id referential
  cases write with
  | nothing => exact referential
  | insertSession row accepted => exact referential.insertSession accepted
  | markStopped id now => exact referential.markStopped id now
  | insertNode node fresh =>
      have more : ∀ id ∈ db.nodes.map (·.id), id ∈ (db.nodes ++ [node]).map (·.id) :=
        fun id there => node_id_write there (.insertNode node fresh)
      exact ⟨sessionIds, Table.nodup_map_append nodeIds (fresh_of_select fresh), gameIds,
        fun row member => more _ (nodes row member), games,
        fun row member id named => more _ (backups row member id named)⟩
  | updateNodes rows keys =>
      rw [← keys] at nodeIds nodes backups
      exact ⟨sessionIds, nodeIds, gameIds, nodes, games, backups⟩
  | insertGame game fresh =>
      refine ⟨sessionIds, nodeIds, Table.nodup_map_append gameIds (fresh_of_select fresh), nodes,
        ?_, backups⟩
      intro row member
      rw [List.map_append]
      exact List.mem_append_left _ (games row member)
  | updateGames rows keys =>
      rw [← keys] at gameIds games
      exact ⟨sessionIds, nodeIds, gameIds, nodes, games, backups⟩
  | deleteGame id free =>
      refine ⟨sessionIds, nodeIds, gameIds.sublist (List.filter_sublist.map _), nodes, ?_, backups⟩
      intro row member
      obtain ⟨game, inTable, key⟩ := List.mem_map.mp (games row member)
      refine List.mem_map.mpr ⟨game, List.mem_filter.mpr ⟨inTable, ?_⟩, key⟩
      rw [decide_eq_true_eq, key]
      exact free row member

end Writes

/-! ## The outline -/

/-- The game and the node of an item of the history are those of its session. -/
def HistoryItem.Complete (item : HistoryItem) : Prop :=
  item.game.map (·.id) = some item.session.gameProfileId ∧
    item.node.map (·.id) = some item.session.nodeId

/-- An answer has all the rows that its sessions refer to. -/
def Answer.Complete : Answer → Prop
  | .created s n g backup =>
      n.id = s.nodeId ∧ g.id = s.gameProfileId ∧ backup.map (·.id) = s.backupNodeId
  | .ended s n backup => n.map (·.id) = some s.nodeId ∧ backup.map (·.id) = s.backupNodeId
  | .items rows => ∀ item ∈ rows, item.Complete
  | _ => True

/-- The session whose start or end a request has committed and still has to answer. -/
def CatalogStage.committed : CatalogStage → Option Uuid
  | .refreshStarted session _ _ _ => some session.id
  | .refreshStopped session => some session.id
  | .loadNode session _ _ _ => some session.id
  | .loadGame session _ _ _ => some session.id
  | .loadBackup session _ _ _ => some session.id
  | .loadStopNode session => some session.id
  | .loadStopBackup session _ => some session.id
  | _ => none

/-- A request is past its commit, and what it has to read is no game of an administrator. -/
def CatalogStage.settled : CatalogStage → Bool
  | .refreshNode _ => true
  | .refreshSession _ => true
  | stage => stage.committed.isSome

/-- The session whose start or end is answered. -/
def Answer.about : Answer → Option Uuid
  | .created s _ _ _ => some s.id
  | .ended s _ _ => some s.id
  | _ => none

def answered (outcome : CatalogOutcome) : Option Uuid := outcome.toOption.bind Answer.about

/-- What is known of the tables where a request has got to. -/
def CatalogStage.Asserts (db : SessionDb) : CatalogStage → Prop
  | .service (.update _ session) => Recorded db session
  | .refreshStarted session node game backup => Recorded db session ∧
      (Answer.created session node game backup).Complete
  | .refreshStopped session => Recorded db session
  | .loadNode session node game backup => Recorded db session ∧
      (Answer.created session node game backup).Complete
  | .loadGame session node game backup => Recorded db session ∧
      (Answer.created session node game backup).Complete
  | .loadBackup session node game backup => Recorded db session ∧
      (Answer.created session node game backup).Complete ∧ session.backupNodeId.isSome
  | .loadStopNode session => Recorded db session
  | .loadStopBackup session node => Recorded db session ∧
      node.map (·.id) = some session.nodeId ∧ session.backupNodeId.isSome
  | .historyGame todo items =>
      (∀ session ∈ todo, Recorded db session) ∧ ∀ item ∈ items, item.Complete
  | .historyNode session game todo items =>
      (∀ other ∈ session :: todo, Recorded db other) ∧
        game.map (·.id) = some session.gameProfileId ∧ ∀ item ∈ items, item.Complete
  | .updateNode node _ => node.id ∈ db.nodes.map (·.id)
  | .refreshNode nodeId => nodeId ∈ db.nodes.map (·.id)
  | .updateStopped session _ => session.id ∈ db.sessions.map (·.id)
  | .refreshSession sessionId => sessionId ∈ db.sessions.map (·.id)
  | _ => True

/-- Where a step may lead from a local state: to one that is known as much of, or to a complete
answer about the committed session. A request that is past its commit does not fail. -/
def Leads (db : SessionDb) (stage : CatalogStage) : CatalogStage ⊕ CatalogOutcome → Prop
  | .inl next => next.Asserts db ∧ ∀ id ∈ stage.committed, next.committed = some id
  | .inr (.ok answer) => answer.Complete ∧ ∀ id ∈ stage.committed, answer.about = some id
  | .inr (.error _) => stage.settled = false

theorem CatalogStage.Asserts.write {db db' : SessionDb} (write : CatalogWrite db db')
    {stage : CatalogStage} (asserts : stage.Asserts db) : stage.Asserts db' := by
  cases stage with
  | service stage =>
      cases stage with
      | update req session => exact Recorded.write asserts write
      | _ => trivial
  | refreshStarted | loadNode | loadGame | loadBackup | loadStopBackup =>
      exact ⟨asserts.1.write write, asserts.2⟩
  | refreshStopped session | loadStopNode session => exact Recorded.write asserts write
  | historyGame | historyNode =>
      exact ⟨fun session member => (asserts.1 session member).write write, asserts.2⟩
  | updateNode node update => exact node_id_write asserts write
  | refreshNode nodeId => exact node_id_write asserts write
  | updateStopped session now => exact session_id_write asserts write
  | refreshSession sessionId => exact session_id_write asserts write
  | _ => trivial

theorem settled_of_committed {stage : CatalogStage} {id : Uuid}
    (committed : stage.committed = some id) : stage.settled = true := by
  cases stage <;> simp_all [CatalogStage.committed, CatalogStage.settled]

/-- A row with the references of another completes the same answer. -/
theorem complete_of_references {session row : Session} {node : Node} {game : GameProfile}
    {backup : Option Node} (same : references row = references session)
    (complete : (Answer.created session node game backup).Complete) :
    (Answer.created row node game backup).Complete := by
  obtain ⟨ofNode, ofGame, ofBackup⟩ := complete
  simp only [references, Prod.mk.injEq] at same
  obtain ⟨_, nodeId, gameId, backupId⟩ := same
  exact ⟨ofNode.trans nodeId.symm, ofGame.trans gameId.symm, ofBackup.trans backupId.symm⟩

theorem recorded_of_mem {db : SessionDb} {session : Session} (inTable : session ∈ db.sessions) :
    Recorded db session :=
  List.mem_map_of_mem inTable

section Steps

variable {db : SessionDb}

theorem leads_oneOrNone {α : Type} {stage : CatalogStage} {rows : List α}
    {next : Option α → CatalogStage ⊕ CatalogOutcome} (early : stage.settled = false)
    (leads : ∀ row, scalarOneOrNone rows = .ok row → Leads db stage (next row)) :
    Leads db stage (oneOrNone rows next) := by
  unfold oneOrNone
  split
  · exact early
  next row found => exact leads row found

/-- A select of the service goes on to nothing of which something is asserted, or raises. -/
theorem leads_continueWith {α : Type} {stage : Stage} {rows : List α}
    {next : Option α → Stage ⊕ Outcome}
    (leads : ∀ row, scalarOneOrNone rows = .ok row →
      Leads db (.service stage) (afterService stage (next row))) :
    Leads db (.service stage) (afterService stage (continueWith rows next)) := by
  unfold continueWith
  split
  · rfl
  next row found => exact leads row found

theorem leads_service {stage later : Stage} (asserts : (CatalogStage.service later).Asserts db) :
    Leads db (.service stage) (.inl (.service later)) :=
  ⟨asserts, by simp [CatalogStage.committed]⟩

/-- A step of the service records the session it hands on. -/
theorem leads_afterService {stage : Stage} (asserts : (CatalogStage.service stage).Asserts db) :
    Leads (serviceStep db stage).1 (.service stage)
      (afterService stage (serviceStep db stage).2) := by
  cases stage with
  | selectGame req | selectNode req game =>
      refine leads_continueWith fun row found => ?_
      cases row with
      | none => rfl
      | some row => exact leads_service trivial
  | selectExisting req game node =>
      refine leads_continueWith fun row found => ?_
      cases row with
      | some existing => rfl
      | none =>
          simp only
          split_ifs
          · exact leads_service trivial
          · exact leads_service trivial
  | selectBackupElsewhere req game node =>
      refine leads_continueWith fun row found => ?_
      cases row with
      | some backup => exact leads_service trivial
      | none => exact leads_service trivial
  | selectBackupAny req game node =>
      exact leads_continueWith fun row found => leads_service trivial
  | insert req game node backup =>
      by_cases accepted : db.Accepts (newSession req game node backup)
      · simp only [serviceStep, accepted, if_true, afterService]
        have recorded : Recorded (db.insertSession (newSession req game node backup))
            (newSession req game node backup) :=
          recorded_of_mem (List.mem_append_right _ List.mem_cons_self)
        exact ⟨⟨recorded, rfl, rfl, rfl⟩, by simp [CatalogStage.committed]⟩
      · simp only [serviceStep, accepted, if_false, afterService]
        rfl
  | selectSession req =>
      refine leads_continueWith fun row found => ?_
      cases row with
      | none => rfl
      | some session =>
          have only := scalarOneOrNone_eq_some.mp found
          have member := List.mem_of_mem_filter (only ▸ List.mem_singleton_self session)
          exact leads_service (recorded_of_mem member)
  | update req session =>
      have recorded : Recorded (db.markStopped session.id req.now) session :=
        Recorded.write asserts (.markStopped session.id req.now)
      exact ⟨recorded, by simp [CatalogStage.committed]⟩

theorem leads_history (req : HistoryRequest) :
    Leads db (.history req) (catalogStep db (.history req)).2 := by
  refine ⟨⟨?_, by simp⟩, by simp [CatalogStage.committed]⟩
  intro session member
  have listed := (req.perm _).mem_iff.mp (List.mem_of_mem_take member)
  exact recorded_of_mem (List.mem_of_mem_filter listed)

/-! The administration. -/

theorem leads_select {stage : CatalogStage} (selects : stage.selects = true) :
    Leads db stage (catalogStep db stage).2 := by
  cases stage with
  | selectNode nodeId update =>
      refine leads_oneOrNone rfl fun row found => ?_
      cases row with
      | none => rfl
      | some node =>
          have only := scalarOneOrNone_eq_some.mp found
          have inTable := (Table.of_select_eq_singleton only).1
          exact ⟨List.mem_map_of_mem inTable, by simp [CatalogStage.committed]⟩
  | selectSlug game =>
      refine leads_oneOrNone rfl fun row found => ?_
      cases row with
      | some other => rfl
      | none => exact ⟨trivial, by simp [CatalogStage.committed]⟩
  | selectGame gameId update | selectDeleted gameId =>
      refine leads_oneOrNone rfl fun row found => ?_
      cases row with
      | none => rfl
      | some game => exact ⟨trivial, by simp [CatalogStage.committed]⟩
  | selectStopped sessionId now =>
      refine leads_oneOrNone rfl fun row found => ?_
      cases row with
      | none => rfl
      | some session =>
          have only := scalarOneOrNone_eq_some.mp found
          have inTable := (Table.of_select_eq_singleton only).1
          simp only
          split_ifs
          · rfl
          · exact ⟨List.mem_map_of_mem inTable, by simp [CatalogStage.committed]⟩
  | _ => cases selects

theorem leads_insertNode (node : Node) :
    Leads (catalogStep db (.insertNode node)).1 (.insertNode node)
      (catalogStep db (.insertNode node)).2 := by
  simp only [catalogStep]
  split_ifs
  · refine ⟨?_, by simp [CatalogStage.committed]⟩
    exact List.mem_map_of_mem (List.mem_append_right _ (List.mem_singleton_self node))
  · rfl

/-- The node of an update is still there. -/
theorem leads_updateNode {node : Node} {update : NodeUpdate}
    (there : node.id ∈ db.nodes.map (·.id)) :
    Leads (catalogStep db (.updateNode node update)).1 (.updateNode node update)
      (catalogStep db (.updateNode node update)).2 := by
  have kept := node_id_write there (catalogStep_writes db (.updateNode node update))
  cases taken : (catalogStep db (.updateNode node update)).2 with
  | inl next =>
      cases catalogStep_next taken with
      | updateNode => exact ⟨kept, by simp [CatalogStage.committed]⟩
  | inr outcome =>
      cases outcome with
      | error e => rfl
      | ok answer =>
          simp only [catalogStep] at taken
          split at taken
          · simp only at taken
            split_ifs at taken
            cases taken
          · split at taken <;> cases taken

theorem leads_insertGame (game : GameProfile) :
    Leads (catalogStep db (.insertGame game)).1 (.insertGame game)
      (catalogStep db (.insertGame game)).2 := by
  simp only [catalogStep]
  split_ifs
  · exact ⟨trivial, by simp [CatalogStage.committed]⟩
  · rfl

theorem leads_updateGame (game : GameProfile) (update : GameUpdate) :
    Leads (catalogStep db (.updateGame game update)).1 (.updateGame game update)
      (catalogStep db (.updateGame game update)).2 := by
  simp only [catalogStep]
  split
  · simp only
    split_ifs
    · exact ⟨trivial, by simp [CatalogStage.committed]⟩
    · rfl
  · split
    · rfl
    · split_ifs
      · exact ⟨trivial, by simp [CatalogStage.committed]⟩
      · rfl

theorem leads_deleteGame (game : GameProfile) :
    Leads (catalogStep db (.deleteGame game)).1 (.deleteGame game)
      (catalogStep db (.deleteGame game)).2 := by
  simp only [catalogStep]
  split_ifs
  · exact ⟨trivial, by simp [CatalogStage.committed]⟩
  · rfl

/-- What is there is read back. -/
theorem leads_refresh {α : Type} {stage : CatalogStage} {rows : List α} {id : α → Uuid}
    {key : Uuid} (there : key ∈ rows.map id) (answer : α → Answer)
    (early : stage.committed = none) (complete : ∀ row, (answer row).Complete) :
    Leads db stage (dbRefresh (Table.select id key rows) fun row => .inr (.ok (answer row))) := by
  obtain ⟨row, inTable, same⟩ := List.mem_map.mp there
  have found : row ∈ Table.select id key rows := Table.mem_select.mpr ⟨inTable, same⟩
  cases rows' : Table.select id key rows with
  | nil =>
      rw [rows'] at found
      cases found
  | cons first rest => exact ⟨complete first, by simp [early]⟩

variable (referential : Referential db)
include referential

/-! A start that is past its commit. -/

theorem leads_refreshStarted {session : Session} {node : Node} {game : GameProfile}
    {backup : Option Node} (recorded : Recorded db session)
    (complete : (Answer.created session node game backup).Complete) :
    Leads db (.refreshStarted session node game backup)
      (catalogStep db (.refreshStarted session node game backup)).2 := by
  obtain ⟨row, found, inTable, same⟩ := referential.readBack recorded
  simp only [catalogStep, dbRefresh, found]
  refine ⟨⟨recorded_of_mem inTable, complete_of_references same complete⟩, ?_⟩
  rintro _ ⟨⟩
  exact congrArg some (congrArg Prod.fst same)

theorem leads_loadNode {session : Session} {node : Node} {game : GameProfile}
    {backup : Option Node}
    (asserts : (CatalogStage.loadNode session node game backup).Asserts db) :
    Leads db (.loadNode session node game backup)
      (catalogStep db (.loadNode session node game backup)).2 := by
  obtain ⟨row, found, _⟩ := referential.node asserts.1
  simp only [catalogStep, exactlyOne, found, scalarOne]
  exact ⟨asserts, fun id committed => committed⟩

theorem leads_loadGame {session : Session} {node : Node} {game : GameProfile}
    {backup : Option Node} (recorded : Recorded db session)
    (complete : (Answer.created session node game backup).Complete) :
    Leads db (.loadGame session node game backup)
      (catalogStep db (.loadGame session node game backup)).2 := by
  obtain ⟨row, found, _⟩ := referential.game recorded
  simp only [catalogStep, exactlyOne, found, scalarOne]
  split_ifs with named
  · exact ⟨⟨recorded, complete, named⟩, fun id committed => committed⟩
  · have none_ := Option.not_isSome_iff_eq_none.mp named
    exact ⟨⟨complete.1, complete.2.1, none_.symm⟩, fun id committed => committed⟩

theorem leads_loadBackup {session : Session} {node : Node} {game : GameProfile}
    {backup : Option Node} (recorded : Recorded db session)
    (complete : (Answer.created session node game backup).Complete)
    (named : session.backupNodeId.isSome) :
    Leads db (.loadBackup session node game backup)
      (catalogStep db (.loadBackup session node game backup)).2 := by
  obtain ⟨id, named⟩ := Option.isSome_iff_exists.mp named
  obtain ⟨row, found, _⟩ := referential.backup recorded named
  simp only [catalogStep, oneOrNone, found, scalarOneOrNone]
  exact ⟨complete, fun id committed => committed⟩

/-! A stop that is past its commit. -/

theorem leads_refreshStopped {session : Session} (recorded : Recorded db session) :
    Leads db (.refreshStopped session) (catalogStep db (.refreshStopped session)).2 := by
  obtain ⟨row, found, inTable, same⟩ := referential.readBack recorded
  simp only [catalogStep, dbRefresh, found]
  refine ⟨recorded_of_mem inTable, ?_⟩
  rintro _ ⟨⟩
  exact congrArg some (congrArg Prod.fst same)

theorem leads_loadStopNode {session : Session} (recorded : Recorded db session) :
    Leads db (.loadStopNode session) (catalogStep db (.loadStopNode session)).2 := by
  obtain ⟨row, found, key⟩ := referential.node recorded
  simp only [catalogStep, oneOrNone, found, scalarOneOrNone]
  split_ifs with named
  · exact ⟨⟨recorded, congrArg some key, named⟩, fun id committed => committed⟩
  · have none_ := Option.not_isSome_iff_eq_none.mp named
    exact ⟨⟨congrArg some key, none_.symm⟩, fun id committed => committed⟩

theorem leads_loadStopBackup {session : Session} {node : Option Node}
    (asserts : (CatalogStage.loadStopBackup session node).Asserts db) :
    Leads db (.loadStopBackup session node)
      (catalogStep db (.loadStopBackup session node)).2 := by
  obtain ⟨recorded, found, named⟩ := asserts
  obtain ⟨id, named⟩ := Option.isSome_iff_exists.mp named
  obtain ⟨row, foundBackup, key⟩ := referential.backup recorded named
  simp only [catalogStep, oneOrNone, foundBackup, scalarOneOrNone]
  refine ⟨⟨found, ?_⟩, fun id committed => committed⟩
  rw [named]
  exact congrArg some key

/-! A history. -/

theorem leads_historyGame {todo : List Session} {items : List HistoryItem}
    (asserts : (CatalogStage.historyGame todo items).Asserts db) :
    Leads db (.historyGame todo items) (catalogStep db (.historyGame todo items)).2 := by
  cases todo with
  | nil => exact ⟨asserts.2, by simp [CatalogStage.committed]⟩
  | cons session todo =>
      obtain ⟨row, found, key⟩ := referential.game (asserts.1 session List.mem_cons_self)
      simp only [catalogStep, oneOrNone, found, scalarOneOrNone]
      refine ⟨⟨asserts.1, ?_, asserts.2⟩, by simp [CatalogStage.committed]⟩
      exact congrArg some ((identity_id _ _ _).trans key)

theorem leads_historyNode {session : Session} {game : Option GameProfile} {todo : List Session}
    {items : List HistoryItem}
    (asserts : (CatalogStage.historyNode session game todo items).Asserts db) :
    Leads db (.historyNode session game todo items)
      (catalogStep db (.historyNode session game todo items)).2 := by
  obtain ⟨recorded, foundGame, complete⟩ := asserts
  obtain ⟨row, found, key⟩ := referential.node (recorded session List.mem_cons_self)
  simp only [catalogStep, oneOrNone, found, scalarOneOrNone]
  refine ⟨⟨fun other later => recorded other (List.mem_cons_of_mem _ later), ?_⟩,
    by simp [CatalogStage.committed]⟩
  refine List.forall_mem_append.mpr ⟨complete, List.forall_mem_singleton.mpr ⟨foundGame, ?_⟩⟩
  exact congrArg some ((identity_id _ _ _).trans key)

end Steps

/-- One step leads from what is asserted to what is asserted next, and a request that is past
its commit does not fail. -/
theorem catalogStep_leads {db : SessionDb} (referential : Referential db) {stage : CatalogStage}
    (asserts : stage.Asserts db) :
    Leads (catalogStep db stage).1 stage (catalogStep db stage).2 := by
  cases stage with
  | service stage => exact leads_afterService asserts
  | refreshStarted => exact leads_refreshStarted referential asserts.1 asserts.2
  | refreshStopped => exact leads_refreshStopped referential asserts
  | loadNode => exact leads_loadNode referential asserts
  | loadGame => exact leads_loadGame referential asserts.1 asserts.2
  | loadBackup => exact leads_loadBackup referential asserts.1 asserts.2.1 asserts.2.2
  | loadStopNode => exact leads_loadStopNode referential asserts
  | loadStopBackup => exact leads_loadStopBackup referential asserts
  | history req => exact leads_history req
  | historyGame todo items =>
      have leads := leads_historyGame referential asserts
      cases todo <;> exact leads
  | historyNode => exact leads_historyNode referential asserts
  | selectNode | selectSlug | selectGame | selectDeleted | selectStopped => exact leads_select rfl
  | insertNode node => exact leads_insertNode node
  | updateNode => exact leads_updateNode asserts
  | refreshNode => exact leads_refresh asserts .node rfl fun _ => trivial
  | insertGame game => exact leads_insertGame game
  | updateGame game update => exact leads_updateGame game update
  | refreshGame gameId =>
      simp only [catalogStep]
      cases db.gamesWith gameId with
      | nil => rfl
      | cons game rest => exact ⟨trivial, by simp [CatalogStage.committed]⟩
  | deleteGame game => exact leads_deleteGame game
  | updateStopped session now =>
      refine ⟨?_, by simp [CatalogStage.committed]⟩
      exact session_id_write asserts (.markStopped session.id now)
  | refreshSession => exact leads_refresh asserts .session rfl fun _ => trivial

/-- The references as the invariant of the program, and what is known at each stage. -/
def referencesOutline : Outline catalog where
  inv := Referential
  asserts := fun _ db stage => stage.Asserts db
  ends := fun _ outcome => ∀ answer, outcome = .ok answer → answer.Complete
  inv_step := fun _ db stage referential _ => referential.write (catalogStep_writes db stage)
  asserts_step := by
    intro _ db stage next referential asserts goes
    have leads := catalogStep_leads referential asserts
    rw [show (catalogStep db stage).2 = _ from goes] at leads
    exact leads.1
  ends_step := by
    rintro _ db stage _ referential asserts goes answer rfl
    have leads := catalogStep_leads referential asserts
    rw [show (catalogStep db stage).2 = _ from goes] at leads
    exact leads.1
  free := fun _ db stage _ _ _ _ other => other.write (catalogStep_writes db stage)

theorem starts_first (request : CatalogRequest) : referencesOutline.Starts request.first := by
  intro db _
  cases request <;> trivial

/-- Only the insert of a start adds a session, and the start goes on to answer it. -/
theorem catalogStep_session_ids {db : SessionDb} {stage : CatalogStage} {id : Uuid}
    (there : id ∈ (catalogStep db stage).1.sessions.map (·.id)) :
    id ∈ db.sessions.map (·.id) ∨
      Sum.elim CatalogStage.committed answered (catalogStep db stage).2 = some id := by
  cases stage with
  | service stage =>
      rcases serviceStep_cases db stage with
        ⟨same, _⟩ | ⟨req, game, node, backup, rfl, _, inserted⟩ | ⟨req, session, rfl, stopped⟩
      · simp only [catalogStep, same] at there
        exact .inl there
      · simp only [catalogStep, inserted, SessionDb.insertSession, List.map_append] at there
        rcases List.mem_append.mp there with old | new
        · exact .inl old
        · right
          simp only [catalogStep, inserted, afterService]
          exact congrArg some (List.mem_singleton.mp new).symm
      · simp only [catalogStep, stopped] at there
        rw [map_markStopped fun _ => rfl] at there
        exact .inl there
  | historyGame todo items => cases todo <;> exact .inl there
  | insertNode node | insertGame game | deleteGame game =>
      simp only [catalogStep] at there
      split_ifs at there <;> exact .inl there
  | updateNode node update =>
      simp only [catalogStep] at there
      split at there
      · exact .inl there
      · split at there <;> exact .inl there
  | updateGame game update =>
      simp only [catalogStep] at there
      split at there
      · exact .inl there
      · split at there
        · exact .inl there
        · split_ifs at there <;> exact .inl there
  | updateStopped session now =>
      simp only [catalogStep] at there
      rw [map_markStopped fun _ => rfl] at there
      exact .inl there
  | _ => exact .inl there

/-- A start that has inserted its session, or a stop that has marked it, owes the answer. -/
def answerDebt : referencesOutline.Debt Uuid where
  written := fun db id => id ∈ db.sessions.map (·.id)
  owes := CatalogStage.committed
  pays := answered
  incurred := fun _ _ _ _ _ _ there => catalogStep_session_ids there
  kept := by
    intro _ db stage id referential asserts owing
    have leads := catalogStep_leads referential asserts
    have settled := settled_of_committed owing
    change Sum.elim _ _ (catalogStep db stage).2 = _
    cases goes : (catalogStep db stage).2 with
    | inl next =>
        rw [goes] at leads
        exact leads.2 id owing
    | inr outcome =>
        rw [goes] at leads
        cases outcome with
        | error e =>
            rw [show stage.settled = false from leads] at settled
            cases settled
        | ok answer => exact leads.2 id owing

/-- While a start is past its commit, its node is deleted and its game is to be. -/
def deletedMeanwhile : List (Event CatalogRequest) :=
  [.submit (.start ⟨1, "cs2", 10, false, 100, 7, 0⟩),
    .advance 0, .advance 0, .advance 0, .advance 0,
    .submit (.deleteNode 10), .submit (.deleteGame 20), .advance 1, .advance 2, .advance 1,
    .advance 1, .advance 2, .advance 0, .advance 0, .advance 0]

end PlgBooster.Server
