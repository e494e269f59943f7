import PlgBooster.Library.Table
import PlgBooster.Library.Transaction

/-!
# The API's session service

`start_session` and `stop_session` as their separate database steps. Each step is a
select, which sees the rows committed at that moment, or the commit that ends the
transaction. The identifier and the token of a new session and the clock readings are
part of the request.

`start_session` looks for an active session of the user and inserts a new one later,
in another step, and no constraint of the table mentions the status.
-/

namespace PlgBooster.Server

open Transaction

abbrev Uuid := Nat

/-- A point in time, in microseconds. -/
abbrev DateTime := Int

structure Node where
  id : Uuid
  location : String
  ipAddress : String
  status : String
  relayPort : Int
  relayApiPort : Int
  deriving DecidableEq, Repr

structure GameProfile where
  id : Uuid
  slug : String
  serverIps : List String
  ports : List String
  deriving DecidableEq, Repr

structure Session where
  id : Uuid
  userId : Uuid
  nodeId : Uuid
  gameProfileId : Uuid
  sessionToken : Int
  status : String
  startedAt : Option DateTime
  endedAt : Option DateTime
  backupNodeId : Option Uuid
  multipathEnabled : Bool
  deriving DecidableEq, Repr

/-- The tables the service reads and writes; of the users only the keys matter. -/
structure SessionDb where
  users : List Uuid
  nodes : List Node
  gameProfiles : List GameProfile
  sessions : List Session
  deriving DecidableEq, Repr

/-- What a request can end with instead of a session. -/
inductive ServiceError where
  | valueError (detail : String)
  | httpException (status : Nat) (detail : String)
  | keyError (key : String)
  | overflowError
  | noResultFound
  | multipleResultsFound
  | integrityError
  /-- A value that a column does not store. -/
  | dataError
  deriving DecidableEq, Repr

/-- `result.scalar_one_or_none()`. -/
def scalarOneOrNone {α : Type} : List α → Except ServiceError (Option α)
  | [] => .ok none
  | [row] => .ok (some row)
  | _ => .error .multipleResultsFound

section ScalarOneOrNone

variable {α : Type} {rows : List α}

theorem scalarOneOrNone_eq_none : scalarOneOrNone rows = .ok none ↔ rows = [] := by
  rcases rows with _ | ⟨first, _ | ⟨second, rest⟩⟩ <;> simp [scalarOneOrNone]

theorem scalarOneOrNone_eq_some {row : α} :
    scalarOneOrNone rows = .ok (some row) ↔ rows = [row] := by
  rcases rows with _ | ⟨first, _ | ⟨second, rest⟩⟩ <;> simp [scalarOneOrNone]

/-- An answer without a row is not the answer to a query with one row. -/
theorem ne_singleton_of_scalarOneOrNone {answer : Except ServiceError (Option α)}
    (answered : scalarOneOrNone rows = answer) (no_row : ∀ row, answer ≠ .ok (some row)) (row : α) :
    rows ≠ [row] := by
  rintro rfl
  exact no_row row answered.symm

theorem scalarOneOrNone_eq_ok :
    (∃ row, scalarOneOrNone rows = .ok row) ↔ rows.length ≤ 1 := by
  rcases rows with _ | ⟨first, _ | ⟨second, rest⟩⟩ <;> simp [scalarOneOrNone]

theorem scalarOneOrNone_of_many (many : ¬ rows.length ≤ 1) :
    scalarOneOrNone rows = .error .multipleResultsFound := by
  rcases rows with _ | ⟨first, _ | ⟨second, rest⟩⟩
  · exact absurd (Nat.zero_le 1) many
  · exact absurd (Nat.le_refl 1) many
  · rfl

end ScalarOneOrNone

namespace SessionDb

/-- The active sessions of a user. -/
def activeSessions (db : SessionDb) (userId : Uuid) : List Session :=
  db.sessions.filter fun s => s.userId = userId ∧ s.status = "active"

/-- The constraints of the `sessions` table: the primary key and the foreign keys. -/
def Accepts (db : SessionDb) (row : Session) : Prop :=
  (∀ s ∈ db.sessions, s.id ≠ row.id) ∧ row.userId ∈ db.users ∧
    (∃ n ∈ db.nodes, n.id = row.nodeId) ∧ (∃ g ∈ db.gameProfiles, g.id = row.gameProfileId) ∧
    ∀ backup ∈ row.backupNodeId, ∃ n ∈ db.nodes, n.id = backup

instance (db : SessionDb) (row : Session) : Decidable (db.Accepts row) := by
  unfold Accepts
  infer_instance

def insertSession (db : SessionDb) (row : Session) : SessionDb :=
  { db with sessions := db.sessions ++ [row] }

/-- `UPDATE sessions SET status = 'stopped', ended_at = now WHERE id = ...`. -/
def markStopped (db : SessionDb) (id : Uuid) (now : DateTime) : SessionDb :=
  { db with sessions := db.sessions.map fun s =>
      if s.id = id then { s with status := "stopped", endedAt := some now } else s }

end SessionDb

/-- A column that a stop does not write is as before. -/
theorem map_markStopped {β : Type} {view : Session → β} {now : DateTime}
    (kept : ∀ row : Session,
      view { row with status := "stopped", endedAt := some now } = view row)
    (db : SessionDb) (id : Uuid) :
    (db.markStopped id now).sessions.map view = db.sessions.map view :=
  Table.map_update kept id db.sessions

theorem nodup_insertSession {β : Type} {view : Session → β} {db : SessionDb}
    {row : Session} (distinct : (db.sessions.map view).Nodup)
    (fresh : ∀ old ∈ db.sessions, view old ≠ view row) :
    ((db.insertSession row).sessions.map view).Nodup := by
  simp only [SessionDb.insertSession, List.map_append, List.map_cons, List.map_nil]
  refine List.nodup_append.mpr ⟨distinct, by simp, ?_⟩
  intro value member other same
  obtain ⟨s, inTable, rfl⟩ := List.mem_map.mp member
  rw [List.mem_singleton] at same
  exact same ▸ fresh s inTable

structure StartRequest where
  userId : Uuid
  gameSlug : String
  nodeId : Uuid
  multipath : Bool
  /-- The default of the key column, drawn at the flush. -/
  sessionId : Uuid
  /-- The result of `generate_session_token`. -/
  sessionToken : Int
  now : DateTime
  deriving DecidableEq, Repr

structure StopRequest where
  sessionId : Uuid
  userId : Uuid
  now : DateTime
  deriving DecidableEq, Repr

/-- The next database step of a request, with what it has read so far. -/
inductive Stage where
  | selectGame (req : StartRequest)
  | selectNode (req : StartRequest) (game : GameProfile)
  | selectExisting (req : StartRequest) (game : GameProfile) (node : Node)
  /-- `find_backup_node`: try a different location first. -/
  | selectBackupElsewhere (req : StartRequest) (game : GameProfile) (node : Node)
  /-- `find_backup_node`: any other active node. -/
  | selectBackupAny (req : StartRequest) (game : GameProfile) (node : Node)
  | insert (req : StartRequest) (game : GameProfile) (node : Node) (backup : Option Node)
  | selectSession (req : StopRequest)
  | update (req : StopRequest) (session : Session)
  deriving DecidableEq, Repr

/-- The row a start request inserts. -/
def newSession (req : StartRequest) (game : GameProfile) (node : Node)
    (backup : Option Node) : Session where
  id := req.sessionId
  userId := req.userId
  nodeId := node.id
  gameProfileId := game.id
  sessionToken := req.sessionToken
  status := "active"
  startedAt := some req.now
  endedAt := none
  backupNodeId := backup.map (·.id)
  multipathEnabled := backup.isSome

abbrev Outcome := Except ServiceError Session

/-- A select whose failure ends the request. -/
def continueWith {α : Type} (rows : List α) (next : Option α → Stage ⊕ Outcome) :
    Stage ⊕ Outcome :=
  match scalarOneOrNone rows with
  | .error e => .inr (.error e)
  | .ok row => next row

/-- One database step of `start_session` or `stop_session`. -/
def serviceStep (db : SessionDb) : Stage → SessionDb × (Stage ⊕ Outcome)
  | .selectGame req =>
      (db, continueWith (db.gameProfiles.filter (·.slug = req.gameSlug)) fun
        | none => .inr (.error (.valueError "Game not found"))
        | some game => .inl (.selectNode req game))
  | .selectNode req game =>
      (db, continueWith (db.nodes.filter fun n => n.id = req.nodeId ∧ n.status = "active") fun
        | none => .inr (.error (.valueError "Node not found or inactive"))
        | some node => .inl (.selectExisting req game node))
  | .selectExisting req game node =>
      (db, continueWith (db.activeSessions req.userId) fun
        | some _ => .inr (.error (.valueError "User already has an active session"))
        | none =>
            if req.multipath then .inl (.selectBackupElsewhere req game node)
            else .inl (.insert req game node none))
  | .selectBackupElsewhere req game node =>
      (db, continueWith
        (db.nodes.filter fun n =>
          n.id ≠ node.id ∧ n.status = "active" ∧ n.location ≠ node.location) fun
        | some backup => .inl (.insert req game node (some backup))
        | none => .inl (.selectBackupAny req game node))
  | .selectBackupAny req game node =>
      (db, continueWith (db.nodes.filter fun n => n.id ≠ node.id ∧ n.status = "active")
        fun backup => .inl (.insert req game node backup))
  | .insert req game node backup =>
      let row := newSession req game node backup
      if db.Accepts row then (db.insertSession row, .inr (.ok row))
      else (db, .inr (.error .integrityError))
  | .selectSession req =>
      (db, continueWith
        (db.sessions.filter fun s =>
          s.id = req.sessionId ∧ s.userId = req.userId ∧ s.status = "active") fun
        | none => .inr (.error (.valueError "Active session not found"))
        | some session => .inl (.update req session))
  | .update req session =>
      (db.markStopped session.id req.now,
        .inr (.ok { session with status := "stopped", endedAt := some req.now }))

/-- The number of database steps a request still takes at most. -/
def Stage.rank : Stage → Nat
  | .selectGame _ => 5
  | .selectNode _ _ => 4
  | .selectExisting _ _ _ => 3
  | .selectBackupElsewhere _ _ _ => 2
  | .selectBackupAny _ _ _ => 1
  | .insert _ _ _ _ => 0
  | .selectSession _ => 1
  | .update _ _ => 0

theorem continueWith_eq_inl {α : Type} {rows : List α} {next : Option α → Stage ⊕ Outcome}
    {stage : Stage} (continues : continueWith rows next = .inl stage) :
    ∃ row, scalarOneOrNone rows = .ok row ∧ next row = .inl stage := by
  unfold continueWith at continues
  split at continues
  · cases continues
  next row found => exact ⟨row, found, continues⟩

theorem serviceStep_descends (db : SessionDb) (stage stage' : Stage)
    (next : (serviceStep db stage).2 = .inl stage') : stage'.rank < stage.rank := by
  cases stage with
  | selectGame req =>
      obtain ⟨row, _, next⟩ := continueWith_eq_inl next
      cases row <;> cases next
      exact Nat.lt_succ_self _
  | selectNode req game =>
      obtain ⟨row, _, next⟩ := continueWith_eq_inl next
      cases row <;> cases next
      exact Nat.lt_succ_self _
  | selectExisting req game node =>
      obtain ⟨row, _, next⟩ := continueWith_eq_inl next
      cases row with
      | some _ => cases next
      | none =>
          by_cases multipath : req.multipath
          · simp only [multipath, if_true] at next
            cases next
            exact Nat.lt_succ_self _
          · simp only [multipath] at next
            cases next
            simp [Stage.rank]
  | selectBackupElsewhere req game node =>
      obtain ⟨row, _, next⟩ := continueWith_eq_inl next
      cases row <;> cases next <;> simp [Stage.rank]
  | selectBackupAny req game node =>
      obtain ⟨row, _, next⟩ := continueWith_eq_inl next
      cases next
      exact Nat.lt_succ_self _
  | insert req game node backup =>
      simp only [serviceStep] at next
      split_ifs at next
  | selectSession req =>
      obtain ⟨row, _, next⟩ := continueWith_eq_inl next
      cases row <;> cases next
      exact Nat.lt_succ_self _
  | update req session => cases next

/-- The session service as a program over the session tables. -/
def sessionService : Program SessionDb Stage Outcome where
  step := serviceStep
  rank := Stage.rank
  descends := serviceStep_descends

/-! ## Requests run alone -/

section Exec

variable (db : SessionDb)

/-- A select either raises and ends the request, or continues with at most one row. -/
theorem exec_select (stage : Stage) {α : Type} {rows : List α}
    {next : Option α → Stage ⊕ Outcome}
    (select : serviceStep db stage = (db, continueWith rows next)) :
    (∃ e, scalarOneOrNone rows = .error e ∧
      sessionService.exec db stage = (db, some (.error e))) ∨
    ∃ row, scalarOneOrNone rows = .ok row ∧
      sessionService.exec db stage =
        match next row with
        | .inl stage' => sessionService.exec db stage'
        | .inr outcome => (db, some outcome) := by
  cases found : scalarOneOrNone rows with
  | error e =>
      refine .inl ⟨e, rfl, sessionService.exec_of_step_inr ?_⟩
      change serviceStep db stage = _
      simp only [select, continueWith, found]
  | ok row =>
      refine .inr ⟨row, rfl, ?_⟩
      have taken : sessionService.step db stage = (db, next row) := by
        change serviceStep db stage = _
        simp only [select, continueWith, found]
      cases ends : next row with
      | inl stage' => exact sessionService.exec_of_step_inl (by rw [taken, ends])
      | inr outcome => exact sessionService.exec_of_step_inr (by rw [taken, ends])

/-- `find_backup_node` on the tables as they are: prefer a different location, else any other
active node. -/
def findBackupNode (node : Node) : Except ServiceError (Option Node) :=
  match scalarOneOrNone (db.nodes.filter fun n =>
      n.id ≠ node.id ∧ n.status = "active" ∧ n.location ≠ node.location) with
  | .error e => .error e
  | .ok (some backup) => .ok (some backup)
  | .ok none => scalarOneOrNone (db.nodes.filter fun n => n.id ≠ node.id ∧ n.status = "active")

/-- All that a start has to find for its session to be inserted. -/
structure Starts (req : StartRequest) (game : GameProfile) (node : Node)
    (backup : Option Node) : Prop where
  foundGame : db.gameProfiles.filter (·.slug = req.gameSlug) = [game]
  foundNode : db.nodes.filter (fun n => n.id = req.nodeId ∧ n.status = "active") = [node]
  idle : db.activeSessions req.userId = []
  foundBackup : (if req.multipath then findBackupNode db node else .ok none) = .ok backup
  accepted : db.Accepts (newSession req game node backup)

variable {db} in
/-- What a start finds is determined. -/
theorem Starts.unique {req : StartRequest} {game game' : GameProfile} {node node' : Node}
    {backup backup' : Option Node} (starts : Starts db req game node backup)
    (starts' : Starts db req game' node' backup') :
    game = game' ∧ node = node' ∧ backup = backup' := by
  obtain rfl := (List.cons.inj (starts.foundGame.symm.trans starts'.foundGame)).1
  obtain rfl := (List.cons.inj (starts.foundNode.symm.trans starts'.foundNode)).1
  exact ⟨rfl, rfl, Except.ok.inj (starts.foundBackup.symm.trans starts'.foundBackup)⟩

theorem exec_insert (req : StartRequest) (game : GameProfile) (node : Node)
    (backup : Option Node) :
    (db.Accepts (newSession req game node backup) ∧
      sessionService.exec db (.insert req game node backup) =
        (db.insertSession (newSession req game node backup),
          some (.ok (newSession req game node backup)))) ∨
    ¬ db.Accepts (newSession req game node backup) ∧
      sessionService.exec db (.insert req game node backup) =
        (db, some (.error .integrityError)) := by
  by_cases accepted : db.Accepts (newSession req game node backup)
  · refine .inl ⟨accepted, sessionService.exec_of_step_inr ?_⟩
    simp [sessionService, serviceStep, accepted]
  · refine .inr ⟨accepted, sessionService.exec_of_step_inr ?_⟩
    simp [sessionService, serviceStep, accepted]

/-- The two selects of `find_backup_node` come before the insert. -/
theorem exec_selectBackupElsewhere (req : StartRequest) (game : GameProfile) (node : Node) :
    sessionService.exec db (.selectBackupElsewhere req game node) =
      match findBackupNode db node with
      | .error e => (db, some (.error e))
      | .ok backup => sessionService.exec db (.insert req game node backup) := by
  simp only [findBackupNode]
  rcases exec_select db (.selectBackupElsewhere req game node) rfl with
    ⟨e, raised, failed⟩ | ⟨row, found, next⟩
  · rw [failed, raised]
  · rw [next, found]
    cases row with
    | some backup => rfl
    | none =>
        rcases exec_select db (.selectBackupAny req game node) rfl with
          ⟨e, raised, failed⟩ | ⟨backup, found, next⟩
        · simp only [failed, raised]
        · simp only [next, found]

/-- After its three selects a start looks for a backup node if it has to, and inserts. -/
theorem exec_selectExisting (req : StartRequest) (game : GameProfile) (node : Node)
    (idle : db.activeSessions req.userId = []) :
    sessionService.exec db (.selectExisting req game node) =
      match (if req.multipath then findBackupNode db node else .ok none) with
      | .error e => (db, some (.error e))
      | .ok backup => sessionService.exec db (.insert req game node backup) := by
  rcases exec_select db (.selectExisting req game node) rfl with
    ⟨e, raised, _⟩ | ⟨row, found, next⟩
  · simp [idle, scalarOneOrNone] at raised
  · obtain rfl : none = row := by simpa [idle, scalarOneOrNone] using found
    rw [next]
    by_cases multipath : req.multipath
    · simp only [multipath, if_true]
      exact exec_selectBackupElsewhere db req game node
    · simp only [multipath]
      rfl

theorem exec_of_starts {req : StartRequest} {game : GameProfile} {node : Node}
    {backup : Option Node} (starts : Starts db req game node backup) :
    sessionService.exec db (.selectGame req) =
      (db.insertSession (newSession req game node backup),
        some (.ok (newSession req game node backup))) := by
  have selectsGame : sessionService.step db (.selectGame req) =
      (db, .inl (.selectNode req game)) := by
    simp [sessionService, serviceStep, continueWith, scalarOneOrNone_eq_some.mpr starts.foundGame]
  have selectsNode : sessionService.step db (.selectNode req game) =
      (db, .inl (.selectExisting req game node)) := by
    simp only [sessionService, serviceStep, continueWith,
      scalarOneOrNone_eq_some.mpr starts.foundNode]
  rw [sessionService.exec_of_step_inl selectsGame, sessionService.exec_of_step_inl selectsNode,
    exec_selectExisting db req game node starts.idle, starts.foundBackup]
  rcases exec_insert db req game node backup with ⟨_, done⟩ | ⟨refused, _⟩
  · exact done
  · exact absurd starts.accepted refused

/-- A start request run alone inserts its session exactly if it finds all it needs. -/
theorem exec_start_cases (req : StartRequest) :
    ((∃ e, sessionService.exec db (.selectGame req) = (db, some (.error e))) ∧
      ∀ game node backup, ¬ Starts db req game node backup) ∨
    ∃ game node backup, Starts db req game node backup ∧
      sessionService.exec db (.selectGame req) =
        (db.insertSession (newSession req game node backup),
          some (.ok (newSession req game node backup))) := by
  by_cases starts : ∃ game node backup, Starts db req game node backup
  · obtain ⟨game, node, backup, starts⟩ := starts
    exact .inr ⟨game, node, backup, starts, exec_of_starts db starts⟩
  refine .inl ⟨?_, fun game node backup here => starts ⟨game, node, backup, here⟩⟩
  rcases exec_select db (.selectGame req) rfl with ⟨e, _, failed⟩ | ⟨_ | game, foundGame, next⟩
  · exact ⟨e, failed⟩
  · exact ⟨_, next⟩
  rw [next]
  dsimp only
  rcases exec_select db (.selectNode req game) rfl with
    ⟨e, _, failed⟩ | ⟨_ | node, foundNode, next⟩
  · exact ⟨e, failed⟩
  · exact ⟨_, next⟩
  rw [next]
  dsimp only
  rcases exec_select db (.selectExisting req game node) rfl with
    ⟨e, _, failed⟩ | ⟨_ | existing, found, next⟩
  · exact ⟨e, failed⟩
  · have idle := scalarOneOrNone_eq_none.mp found
    rw [exec_selectExisting db req game node idle]
    cases backups : (if req.multipath then findBackupNode db node else .ok none) with
    | error e => exact ⟨e, rfl⟩
    | ok backup =>
        rcases exec_insert db req game node backup with ⟨accepted, _⟩ | ⟨_, failed⟩
        · exact absurd ⟨game, node, backup, scalarOneOrNone_eq_some.mp foundGame,
            scalarOneOrNone_eq_some.mp foundNode, idle, backups, accepted⟩ starts
        · exact ⟨_, failed⟩
  · exact ⟨_, next⟩

/-- What a start request ends with: an error that leaves the tables alone, or its session
as a new row. -/
def StartEnds (req : StartRequest) (ended : SessionDb × Option Outcome) : Prop :=
  (∃ e, ended = (db, some (.error e))) ∨
  ∃ game node backup, db.Accepts (newSession req game node backup) ∧
    ended = (db.insertSession (newSession req game node backup),
      some (.ok (newSession req game node backup)))

/-- A start request run alone inserts its session only while the user has none. -/
theorem exec_start (req : StartRequest) :
    (∃ e, sessionService.exec db (.selectGame req) = (db, some (.error e))) ∨
    db.activeSessions req.userId = [] ∧
      StartEnds db req (sessionService.exec db (.selectGame req)) := by
  rcases exec_start_cases db req with ⟨failed, _⟩ | ⟨game, node, backup, starts, done⟩
  · exact .inl failed
  · exact .inr ⟨starts.idle, .inr ⟨game, node, backup, starts.accepted, done⟩⟩

/-- A stop request run alone marks the active session it names. -/
theorem exec_stop (req : StopRequest) :
    let named := db.sessions.filter fun s =>
      s.id = req.sessionId ∧ s.userId = req.userId ∧ s.status = "active"
    (∃ session, named = [session] ∧
      sessionService.exec db (.selectSession req) = (db.markStopped session.id req.now,
        some (.ok { session with status := "stopped", endedAt := some req.now }))) ∨
    (∀ session, named ≠ [session]) ∧
      ∃ e, sessionService.exec db (.selectSession req) = (db, some (.error e)) := by
  intro named
  rcases exec_select db (.selectSession req) rfl with
    ⟨e, raised, failed⟩ | ⟨_ | session, found, next⟩
  · exact .inr ⟨ne_singleton_of_scalarOneOrNone raised (by simp), e, failed⟩
  · exact .inr ⟨ne_singleton_of_scalarOneOrNone found (by simp), _, next⟩
  · refine .inl ⟨session, scalarOneOrNone_eq_some.mp found, next.trans ?_⟩
    exact sessionService.exec_of_step_inr rfl

end Exec

end PlgBooster.Server
