import PlgBooster.Library.Unwinding
import PlgBooster.Server.Catalogue
import Mathlib.Data.List.Forall2
import Mathlib.Data.List.Nodup

/-!
# Users do not disturb each other

What the session service does for one user depends on the user's own rows, the nodes and the
games, and on nothing that other users do. A start looks only for the user's own session, a stop
only names sessions of its user, and the history is the user's. So whatever the starts and stops
of others, and however they interleave, each user gets the same answers and has the same rows, as
long as the keys that are drawn for new sessions are new. An administrator may add and change
nodes and games meanwhile; only a deletion of a game looks at the rows of all users.
-/

namespace PlgBooster.Server

open Transaction

/-- Whom a request of the service is from. -/
def Stage.userId : Stage → Uuid
  | .selectGame req => req.userId
  | .selectNode req _ => req.userId
  | .selectExisting req _ _ => req.userId
  | .selectBackupElsewhere req _ _ => req.userId
  | .selectBackupAny req _ _ => req.userId
  | .insert req _ _ _ => req.userId
  | .selectSession req => req.userId
  | .update req _ => req.userId

/-- The tables without the sessions of other users. -/
def SessionDb.restrict (db : SessionDb) (userId : Uuid) : SessionDb :=
  { db with sessions := Table.select (·.userId) userId db.sessions }

/-- What users see of each other: keys and owners of the sessions. -/
def ownership (session : Session) : Uuid × Uuid := (session.id, session.userId)

/-- A request of the user, or of an administrator who neither deletes a game nor stops a
session. -/
def CatalogRequest.Own (userId : Uuid) : CatalogRequest → Prop
  | .start req => req.userId = userId
  | .stop req => req.userId = userId
  | .history req => req.userId = userId
  | .deleteGame _ => False
  | .adminStop _ _ => False
  | _ => True

/-- The session is there with its owner. -/
def Owned (db : SessionDb) (session : Session) : Prop :=
  ownership session ∈ db.sessions.map ownership

namespace CatalogStage

variable (userId : Uuid)

/-- Where a request of the user, or of such an administrator, has got to. The session of a start
or a stop is the user's. -/
def Own (db : SessionDb) : CatalogStage → Prop
  | .service (.update req session) => req.userId = userId ∧ session.userId = userId ∧
      Owned db session
  | .service stage => stage.userId = userId
  | .refreshStarted session _ _ _ => session.userId = userId ∧ Owned db session
  | .refreshStopped session => session.userId = userId ∧ Owned db session
  | .history req => req.userId = userId
  | .selectDeleted _ => False
  | .deleteGame _ => False
  | .selectStopped _ _ => False
  | .updateStopped _ _ => False
  | .refreshSession _ => False
  | _ => True

/-- A start, a stop or a history of another user. What a stop is about to mark is a session of
that user. -/
def Foreign (db : SessionDb) : CatalogStage → Prop
  | .service (.update req session) => req.userId ≠ userId ∧ session.userId ≠ userId ∧
      Owned db session
  | .service stage => stage.userId ≠ userId
  | .history _ => True
  | stage => stage.loads

/-- The requests that another user submits. -/
def isForeign : CatalogStage → Bool
  | .service stage => stage.userId ≠ userId
  | .history req => req.userId ≠ userId
  | _ => false

end CatalogStage

/-- The key that is drawn for a session is new. -/
def DrawsNewKey (db : SessionDb) : CatalogStage → Prop
  | .service (.insert req _ _ _) => ∀ session ∈ db.sessions, session.id ≠ req.sessionId
  | _ => True

instance (db : SessionDb) : (stage : CatalogStage) → Decidable (DrawsNewKey db stage) := by
  intro stage
  unfold DrawsNewKey
  split <;> infer_instance

variable {db : SessionDb} {userId : Uuid}

/-! ## The service -/

theorem serviceStep_userId {stage stage' : Stage}
    (next : (serviceStep db stage).2 = .inl stage') : stage'.userId = stage.userId := by
  cases stage with
  | selectGame req | selectNode req game | selectSession req =>
      obtain ⟨row, _, next⟩ := continueWith_eq_inl next
      cases row with
      | none => cases next
      | some row =>
          cases next
          rfl
  | selectExisting req game node =>
      obtain ⟨row, _, next⟩ := continueWith_eq_inl next
      cases row with
      | some existing => cases next
      | none =>
          simp only at next
          split_ifs at next <;> cases next <;> rfl
  | selectBackupElsewhere req game node =>
      obtain ⟨row, _, next⟩ := continueWith_eq_inl next
      cases row <;> cases next <;> rfl
  | selectBackupAny req game node =>
      obtain ⟨row, _, next⟩ := continueWith_eq_inl next
      cases next
      rfl
  | insert req game node backup =>
      simp only [serviceStep] at next
      split_ifs at next
  | update req session => cases next

/-- A stop goes on to mark a session of its user. -/
theorem serviceStep_update {stage : Stage} {req : StopRequest} {session : Session}
    (next : (serviceStep db stage).2 = .inl (.update req session)) :
    session ∈ db.sessions ∧ session.userId = stage.userId := by
  cases stage with
  | selectSession req' =>
      obtain ⟨row, found, next⟩ := continueWith_eq_inl next
      cases row with
      | none => cases next
      | some row =>
          cases next
          have member : session ∈ db.sessions.filter fun s =>
              s.id = req.sessionId ∧ s.userId = req.userId ∧ s.status = "active" :=
            scalarOneOrNone_eq_some.mp found ▸ List.mem_singleton_self session
          obtain ⟨inTable, named⟩ := List.mem_filter.mp member
          rw [decide_eq_true_eq] at named
          exact ⟨inTable, named.2.1⟩
  | selectExisting req' game node =>
      obtain ⟨row, _, next⟩ := continueWith_eq_inl next
      cases row with
      | some existing => cases next
      | none =>
          simp only at next
          split_ifs at next <;> cases next
  | selectBackupElsewhere req' game node =>
      obtain ⟨row, _, next⟩ := continueWith_eq_inl next
      cases row <;> cases next
  | insert req' game node backup =>
      simp only [serviceStep] at next
      split_ifs at next
  | update req' session' => cases next
  | _ =>
      obtain ⟨row, _, next⟩ := continueWith_eq_inl next
      first
        | cases next
        | cases row <;> cases next

/-! ## The rows of one user -/

theorem restrict_restrict (db : SessionDb) (userId : Uuid) :
    (db.restrict userId).restrict userId = db.restrict userId := by
  simp only [SessionDb.restrict, Table.select_select]

theorem restrict_insertSession (db : SessionDb) (row : Session) (userId : Uuid) :
    (db.insertSession row).restrict userId =
      if row.userId = userId then (db.restrict userId).insertSession row
      else db.restrict userId := by
  simp only [SessionDb.insertSession, SessionDb.restrict, Table.select_append]
  split_ifs with own
  · simp [Table.select, own]
  · simp [Table.select, own]

theorem restrict_markStopped (db : SessionDb) (id : Uuid) (now : DateTime) (userId : Uuid) :
    (db.markStopped id now).restrict userId = (db.restrict userId).markStopped id now := by
  let stop (s : Session) : Session := { s with status := "stopped", endedAt := some now }
  have kept : Table.select (·.userId) userId (Table.update (·.id) id stop db.sessions) =
      Table.update (·.id) id stop (Table.select (·.userId) userId db.sessions) :=
    Table.select_update_of_keeps (f := stop) (fun _ => rfl) userId id db.sessions
  exact congrArg (fun sessions => { db with sessions }) kept

theorem activeSessions_restrict (db : SessionDb) (userId : Uuid) :
    (db.restrict userId).activeSessions userId = db.activeSessions userId := by
  simp only [SessionDb.activeSessions, SessionDb.restrict, Table.select, List.filter_filter]
  refine List.filter_congr fun s _ => ?_
  by_cases own : s.userId = userId <;> simp [own]

/-- A new session is accepted or not whatever sessions others have. -/
theorem accepts_restrict {row : Session} (fresh : ∀ session ∈ db.sessions, session.id ≠ row.id) :
    (db.restrict userId).Accepts row ↔ db.Accepts row := by
  have fresh' : ∀ session ∈ (db.restrict userId).sessions, session.id ≠ row.id :=
    fun session member => fresh session (List.mem_of_mem_filter member)
  simp only [SessionDb.Accepts, iff_true_intro fresh, iff_true_intro fresh',
    true_and]
  exact Iff.rfl

/-- What a step of the service does for its user depends on the user's rows only. -/
theorem serviceStep_restrict {stage : Stage} (own : stage.userId = userId)
    (fresh : DrawsNewKey db (.service stage)) :
    (serviceStep db stage).2 = (serviceStep (db.restrict userId) stage).2 ∧
      (serviceStep db stage).1.restrict userId =
        (serviceStep (db.restrict userId) stage).1.restrict userId := by
  cases stage with
  | selectExisting req game node =>
      obtain rfl : req.userId = userId := own
      simp only [serviceStep, activeSessions_restrict, restrict_restrict, and_self]
  | selectSession req =>
      obtain rfl : req.userId = userId := own
      have same : (db.restrict req.userId).sessions.filter (fun s => s.id = req.sessionId ∧
            s.userId = req.userId ∧ s.status = "active") =
          db.sessions.filter fun s => s.id = req.sessionId ∧ s.userId = req.userId ∧
            s.status = "active" := by
        simp only [SessionDb.restrict, Table.select, List.filter_filter]
        refine List.filter_congr fun s _ => ?_
        by_cases own : s.userId = req.userId <;> simp [own]
      simp only [serviceStep, same, restrict_restrict, and_self]
  | insert req game node backup =>
      obtain rfl : req.userId = userId := own
      have accepts : (db.restrict req.userId).Accepts (newSession req game node backup) ↔
          db.Accepts (newSession req game node backup) := accepts_restrict fresh
      by_cases accepted : db.Accepts (newSession req game node backup)
      · have accepted' := accepts.mpr accepted
        simp only [serviceStep, if_pos accepted, if_pos accepted', restrict_insertSession,
          restrict_restrict, and_self]
      · have refused := mt accepts.mp accepted
        simp only [serviceStep, if_neg accepted, if_neg refused, restrict_restrict, and_self]
  | update req session =>
      simp only [serviceStep, restrict_markStopped, restrict_restrict, and_self]
  | _ => exact ⟨rfl, (restrict_restrict db userId).symm⟩

/-- A step of the service for another user changes nothing of the user's rows. -/
theorem serviceStep_foreign {stage : Stage} (keys : (db.sessions.map (·.id)).Nodup)
    (foreign : CatalogStage.Foreign userId db (.service stage)) :
    (serviceStep db stage).1.restrict userId = db.restrict userId := by
  rcases serviceStep_cases db stage with
    ⟨same, _⟩ | ⟨req, game, node, backup, rfl, _, inserted⟩ | ⟨req, session, rfl, stopped⟩
  · rw [same]
  · rw [inserted, restrict_insertSession, if_neg]
    exact foreign
  · obtain ⟨_, other, recorded⟩ := foreign
    rw [stopped, restrict_markStopped]
    obtain ⟨row, inTable, same⟩ := List.mem_map.mp recorded
    obtain ⟨sameId, sameUser⟩ := Prod.mk.inj same
    have absent : ∀ mine ∈ (db.restrict userId).sessions, mine.id ≠ session.id := by
      intro mine member sameKey
      obtain ⟨inMine, owner⟩ := Table.mem_select.mp member
      obtain rfl := List.inj_on_of_nodup_map keys inMine inTable (sameKey.trans sameId.symm)
      exact other (sameUser.symm.trans owner)
    exact congrArg (fun sessions => { db.restrict userId with sessions })
      (Table.update_of_absent absent)

/-! ## The catalogue's program -/

/-- The nodes and the games are there for all users. -/
theorem restrict_catalogue (db : SessionDb) (nodes : List Node) (games : List GameProfile)
    (userId : Uuid) :
    ({ db with nodes := nodes, gameProfiles := games } : SessionDb).restrict userId =
      ({ db.restrict userId with nodes := nodes, gameProfiles := games } : SessionDb).restrict
        userId := by
  simp only [SessionDb.restrict, Table.select_select]

theorem updateNode_restrict (db : SessionDb) (node : Node) (update : NodeUpdate) (userId : Uuid) :
    (catalogStep db (.updateNode node update)).2 =
        (catalogStep (db.restrict userId) (.updateNode node update)).2 ∧
      (catalogStep db (.updateNode node update)).1.restrict userId =
        (catalogStep (db.restrict userId) (.updateNode node update)).1.restrict userId := by
  have same : (db.restrict userId).nodesWith node.id = db.nodesWith node.id := rfl
  simp only [catalogStep, same]
  cases db.nodesWith node.id with
  | nil => exact ⟨rfl, (restrict_restrict db userId).symm⟩
  | cons current rest =>
      simp only
      cases update.write node current with
      | none => exact ⟨rfl, (restrict_restrict db userId).symm⟩
      | some written => exact ⟨rfl, restrict_catalogue db _ db.gameProfiles userId⟩

theorem updateGame_restrict (db : SessionDb) (game : GameProfile) (update : GameUpdate)
    (userId : Uuid) :
    (catalogStep db (.updateGame game update)).2 =
        (catalogStep (db.restrict userId) (.updateGame game update)).2 ∧
      (catalogStep db (.updateGame game update)).1.restrict userId =
        (catalogStep (db.restrict userId) (.updateGame game update)).1.restrict userId := by
  have same : (db.restrict userId).gamesWith game.id = db.gamesWith game.id := rfl
  have games : (db.restrict userId).gameProfiles = db.gameProfiles := rfl
  simp only [catalogStep, same, games]
  cases db.gamesWith game.id with
  | nil => exact ⟨rfl, (restrict_restrict db userId).symm⟩
  | cons current rest =>
      simp only
      cases update.write game current with
      | none => exact ⟨rfl, (restrict_restrict db userId).symm⟩
      | some written =>
          simp only
          split_ifs
          · exact ⟨rfl, restrict_catalogue db db.nodes _ userId⟩
          · exact ⟨rfl, (restrict_restrict db userId).symm⟩

/-- The user's own session is found among the user's rows. -/
theorem sessionsWith_restrict (keys : (db.sessions.map (·.id)).Nodup) {session : Session}
    (owner : session.userId = userId) (owned : Owned db session) :
    (db.restrict userId).sessionsWith session.id = db.sessionsWith session.id := by
  obtain ⟨row, inTable, same⟩ := List.mem_map.mp owned
  obtain ⟨sameId, sameUser⟩ := Prod.mk.inj same
  have mine : row ∈ (db.restrict userId).sessions :=
    Table.mem_select.mpr ⟨inTable, sameUser.trans owner⟩
  have keys' : ((db.restrict userId).sessions.map (·.id)).Nodup :=
    keys.sublist (List.filter_sublist.map _)
  rw [← sameId]
  exact (Table.select_of_nodup keys' mine).trans (Table.select_of_nodup keys inTable).symm

/-- An own step depends on the user's rows only. -/
theorem catalogStep_restrict {stage : CatalogStage} (keys : (db.sessions.map (·.id)).Nodup)
    (own : stage.Own userId db) (fresh : DrawsNewKey db stage) :
    (catalogStep db stage).2 = (catalogStep (db.restrict userId) stage).2 ∧
      (catalogStep db stage).1.restrict userId =
        (catalogStep (db.restrict userId) stage).1.restrict userId := by
  have reads := (restrict_restrict db userId).symm
  cases stage with
  | service stage =>
      have requester : stage.userId = userId := by
        cases stage with
        | update req session => exact own.1
        | _ => exact own
      obtain ⟨result, rows⟩ := serviceStep_restrict requester fresh
      exact ⟨congrArg (afterService stage) result, rows⟩
  | refreshStarted | refreshStopped =>
      simp only [catalogStep, sessionsWith_restrict keys own.1 own.2, restrict_restrict, and_self]
  | history req =>
      obtain rfl : req.userId = userId := own
      have same : (db.restrict req.userId).sessions.filter (·.userId = req.userId) =
          db.sessions.filter (·.userId = req.userId) := Table.select_select req.userId db.sessions
      simp only [catalogStep, same, restrict_restrict, and_self]
  | historyGame todo items => cases todo <;> exact ⟨rfl, reads⟩
  | insertNode node =>
      have same : (db.restrict userId).nodesWith node.id = db.nodesWith node.id := rfl
      simp only [catalogStep, same]
      split_ifs
      · exact ⟨rfl, restrict_catalogue db _ db.gameProfiles userId⟩
      · exact ⟨rfl, reads⟩
  | insertGame game =>
      have same : (db.restrict userId).gamesWith game.id = db.gamesWith game.id := rfl
      have games : (db.restrict userId).gameProfiles = db.gameProfiles := rfl
      simp only [catalogStep, same, games]
      split_ifs
      · exact ⟨rfl, restrict_catalogue db db.nodes _ userId⟩
      · exact ⟨rfl, reads⟩
  | updateNode node update => exact updateNode_restrict db node update userId
  | updateGame game update => exact updateGame_restrict db game update userId
  | selectDeleted | deleteGame | selectStopped | updateStopped | refreshSession => exact own.elim
  | _ => exact ⟨rfl, reads⟩

/-- The steps of other users change nothing of the user's rows. -/
theorem catalogStep_foreign {stage : CatalogStage} (keys : (db.sessions.map (·.id)).Nodup)
    (foreign : stage.Foreign userId db) :
    (catalogStep db stage).1.restrict userId = db.restrict userId := by
  cases stage with
  | service stage => exact serviceStep_foreign keys foreign
  | historyGame todo items => cases todo <;> rfl
  | insertNode | selectNode | updateNode | refreshNode | selectSlug | insertGame | selectGame
  | updateGame | refreshGame | selectDeleted | deleteGame | selectStopped | updateStopped
  | refreshSession => cases foreign
  | _ => rfl

theorem Owned.write {db db' : SessionDb} {session : Session} (owned : Owned db session)
    (write : CatalogWrite db db') : Owned db' session :=
  write.mem_map (fun _ _ => rfl) owned

/-- What is loaded for an answer is followed by what is loaded for it. -/
theorem CatalogNext.loads {stage next : CatalogStage} (leads : CatalogNext db stage next)
    (answers : stage.loads = true ∨ ∃ req, stage = .history req) : next.loads = true := by
  cases leads with
  | refreshStarted | refreshStopped | loadNode | loadGame | loadStopNode | history | historyGame
  | historyNode => rfl
  | _ => simp [CatalogStage.loads] at answers

/-- The service goes on for the same user. -/
theorem own_next {stage next : CatalogStage} (own : stage.Own userId db)
    (goes : (catalogStep db stage).2 = .inl next) : next.Own userId (catalogStep db stage).1 := by
  have write := catalogStep_writes db stage
  cases catalogStep_next goes with
  | @service stage later taken =>
      have requester : stage.userId = userId := by
        cases stage with
        | update req session => exact own.1
        | _ => exact own
      have still : later.userId = userId := (serviceStep_userId taken).trans requester
      cases later with
      | update req session =>
          obtain ⟨inTable, owner⟩ := serviceStep_update taken
          have owned : Owned db session := List.mem_map_of_mem inTable
          exact ⟨still, owner.trans requester, owned.write write⟩
      | _ => exact still
  | started req game node backup accepted =>
      refine ⟨own, ?_⟩
      simp only [catalogStep, serviceStep, if_pos accepted]
      exact List.mem_map_of_mem (List.mem_append_right _ (List.mem_singleton_self _))
  | stopped req session => exact ⟨own.2.1, own.2.2.write write⟩
  | selectDeleted | selectStopped | updateStopped => exact own.elim
  | _ => trivial

theorem foreign_of_loads {stage : CatalogStage} (loads : stage.loads = true) :
    stage.Foreign userId db := by
  cases stage with
  | service | history => cases loads
  | _ => exact loads

theorem foreign_next {stage next : CatalogStage} (foreign : stage.Foreign userId db)
    (goes : (catalogStep db stage).2 = .inl next) :
    next.Foreign userId (catalogStep db stage).1 := by
  cases catalogStep_next goes with
  | @service stage later taken =>
      have other : stage.userId ≠ userId := by
        cases stage with
        | update req session => exact foreign.1
        | _ => exact foreign
      have still : later.userId ≠ userId := fun own =>
        other ((serviceStep_userId taken).symm.trans own)
      cases later with
      | update req session =>
          obtain ⟨inTable, owner⟩ := serviceStep_update taken
          have owned : Owned db session := List.mem_map_of_mem inTable
          exact ⟨still, fun own => other (owner.symm.trans own),
            owned.write (catalogStep_writes db _)⟩
      | _ => exact still
  | started | stopped => rfl
  | history req => exact foreign_of_loads ((catalogStep_next goes).loads (.inr ⟨req, rfl⟩))
  | insertNode | selectNode | updateNode | selectSlug | insertGame | selectGame | updateGame
  | selectDeleted | selectStopped | updateStopped => cases foreign
  | _ => exact foreign_of_loads ((catalogStep_next goes).loads (.inl rfl))

theorem own_kept {stage other : CatalogStage} (own : other.Own userId db) :
    other.Own userId (catalogStep db stage).1 := by
  have write := catalogStep_writes db stage
  cases other with
  | service other =>
      cases other with
      | update req session => exact ⟨own.1, own.2.1, own.2.2.write write⟩
      | _ => exact own
  | refreshStarted | refreshStopped => exact ⟨own.1, own.2.write write⟩
  | _ => exact own

theorem foreign_kept {stage other : CatalogStage} (foreign : other.Foreign userId db) :
    other.Foreign userId (catalogStep db stage).1 := by
  cases other with
  | service other =>
      cases other with
      | update req session =>
          obtain ⟨requester, owner, owned⟩ := foreign
          exact ⟨requester, owner, owned.write (catalogStep_writes db stage)⟩
      | _ => exact foreign
  | _ => exact foreign

theorem CatalogWrite.keys {db' : SessionDb} (write : CatalogWrite db db')
    (keys : (db.sessions.map (·.id)).Nodup) : (db'.sessions.map (·.id)).Nodup := by
  cases write with
  | insertSession row accepted => exact nodup_insertSession keys accepted.1
  | markStopped id now => rwa [map_markStopped fun _ => rfl]
  | _ => exact keys

/-- The catalogue's program as one user sees it. -/
def seenBy (userId : Uuid) : Unwinding catalog SessionDb where
  view := fun db => db.restrict userId
  mine := fun request => !request.isForeign userId
  inv := fun db => (db.sessions.map (·.id)).Nodup
  promised := DrawsNewKey
  own := fun db stage => stage.Own userId db
  foreign := fun db stage => stage.Foreign userId db
  inv_step := fun db stage keys _ => (catalogStep_writes db stage).keys keys
  own_next := fun _ _ _ _ own goes => own_next own goes
  own_kept := fun _ _ _ _ own => own_kept own
  foreign_next := fun _ _ _ _ foreign goes => foreign_next foreign goes
  foreign_kept := fun _ _ _ _ foreign => foreign_kept foreign
  respects := fun _ _ keys foreign => catalogStep_foreign keys foreign
  consistent := by
    intro db db' stage keys keys' own own' same fresh fresh'
    obtain ⟨result, rows⟩ := catalogStep_restrict keys own fresh
    obtain ⟨result', rows'⟩ := catalogStep_restrict keys' own' fresh'
    rw [show db.restrict userId = db'.restrict userId from same] at result rows
    exact ⟨result.trans result'.symm, rows.trans rows'.symm⟩

/-- The two events are the same to the user: the same request of the user or an administrator,
or any two requests of other users. -/
def SameFor (userId : Uuid) : Event CatalogRequest → Event CatalogRequest → Prop
  | .advance i, .advance j => i = j
  | .submit request, .submit request' =>
      request = request' ∧ request.Own userId ∨
        request.first.isForeign userId ∧ request'.first.isForeign userId
  | _, _ => False

theorem isForeign_of_own {request : CatalogRequest} (own : request.Own userId) :
    request.first.isForeign userId = false := by
  cases request with
  | start req =>
      obtain rfl : req.userId = userId := own
      simp [CatalogRequest.first, CatalogStage.isForeign, Stage.userId]
  | stop req =>
      obtain rfl : req.userId = userId := own
      simp [CatalogRequest.first, CatalogStage.isForeign, Stage.userId]
  | history req =>
      obtain rfl : req.userId = userId := own
      simp [CatalogRequest.first, CatalogStage.isForeign]
  | _ => rfl

theorem own_first {request : CatalogRequest} (own : request.Own userId) :
    request.first.Own userId db := by
  cases request with
  | deleteGame | adminStop => exact own.elim
  | start | stop | history => exact own
  | _ => trivial

theorem foreign_first {request : CatalogRequest}
    (other : request.first.isForeign userId = true) : request.first.Foreign userId db := by
  cases request with
  | start req =>
      have notUser : req.userId ≠ userId := of_decide_eq_true other
      exact notUser
  | stop req =>
      have notUser : req.userId ≠ userId := of_decide_eq_true other
      exact notUser
  | history req => trivial
  | _ => cases other

theorem starts_of_own {request : CatalogRequest} (own : request.Own userId) :
    (seenBy userId).Starts request.first := by
  refine ⟨fun _ _ _ => own_first own, fun notMine => ?_⟩
  simp [seenBy, isForeign_of_own own] at notMine

theorem starts_of_isForeign {request : CatalogRequest}
    (other : request.first.isForeign userId = true) :
    (seenBy userId).Starts request.first := by
  refine ⟨fun isMine => ?_, fun _ _ _ => foreign_first other⟩
  simp [seenBy, other] at isMine

theorem agree_of_sameFor {event event' : Event CatalogRequest}
    (same : SameFor userId event event') :
    (seenBy userId).Agree (event.map CatalogRequest.first)
      (event'.map CatalogRequest.first) := by
  cases event with
  | advance i =>
      cases event' with
      | submit request' => exact same.elim
      | advance j => exact same
  | submit request =>
      cases event' with
      | advance j => exact same.elim
      | submit request' =>
          rcases same with ⟨rfl, own⟩ | ⟨other, other'⟩
          · exact ⟨starts_of_own own, starts_of_own own, rfl, fun _ => rfl⟩
          · refine ⟨starts_of_isForeign other, starts_of_isForeign other', ?_, fun mine => ?_⟩
            · simp [seenBy, other, other']
            · simp [seenBy, other] at mine

/-- Two runs in lock-step: where one user's request takes a step in the one, it takes it in the
other, and in between other users do whatever they do in either. The user is answered the same
and has the same rows in both, and so are the nodes and the games, as long as new sessions get
new keys. -/
theorem users_undisturbed {db : SessionDb} (keys : (db.sessions.map (·.id)).Nodup) (userId : Uuid)
    {schedule schedule' : List (Event CatalogRequest)}
    (same : List.Forall₂ (SameFor userId) schedule schedule')
    (fresh : Machine.Legal (StepMeets DrawsNewKey) catalog.worldStep ⟨db, []⟩
      (schedule.map (Event.map CatalogRequest.first)))
    (fresh' : Machine.Legal (StepMeets DrawsNewKey) catalog.worldStep ⟨db, []⟩
      (schedule'.map (Event.map CatalogRequest.first))) :
    let after := Machine.run catalog.worldStep ⟨db, []⟩
      (schedule.map (Event.map CatalogRequest.first))
    let after' := Machine.run catalog.worldStep ⟨db, []⟩
      (schedule'.map (Event.map CatalogRequest.first))
    after.1.db.restrict userId = after'.1.db.restrict userId ∧
      after.2.filter (fun o => !o.1.isForeign userId) =
        after'.2.filter (fun o => !o.1.isForeign userId) := by
  intro after after'
  have sound : (seenBy userId).Sound (⟨db, []⟩ : World SessionDb CatalogStage CatalogOutcome) :=
    ⟨keys, by simp, by simp⟩
  have agree : List.Forall₂ (seenBy userId).Agree (schedule.map (Event.map CatalogRequest.first))
      (schedule'.map (Event.map CatalogRequest.first)) := by
    rw [List.forall₂_map_left_iff, List.forall₂_map_right_iff]
    exact same.imp fun _ _ here => agree_of_sameFor here
  obtain ⟨looks, shows⟩ := Unwinding.unwinding sound sound rfl agree fresh fresh'
  exact ⟨(Prod.mk.inj looks).1, shows⟩

/-- The user 1 starts and stops a session; in between, the user 2 does something of its own. -/
def withNeighbour (request : CatalogRequest) : List (Event CatalogRequest) :=
  [.submit (.start ⟨1, "cs2", 10, false, 100, 7, 0⟩),
    .advance 0, .advance 0, .advance 0, .advance 0,
    .submit request, .advance 0, .advance 1, .advance 1, .advance 0, .advance 0,
    .submit (.stop ⟨100, 1, 9⟩),
    .advance 2, .advance 1, .advance 1, .advance 2, .advance 2, .advance 2]

/-- The user 2 starts a session, or tries to stop the one of the user 1. -/
theorem users_undisturbed_withNeighbour :
    let after := Machine.run catalog.worldStep ⟨emptyDb, []⟩
      ((withNeighbour (.start ⟨2, "cs2", 10, false, 101, 8, 1⟩)).map
        (Event.map CatalogRequest.first))
    let after' := Machine.run catalog.worldStep ⟨emptyDb, []⟩
      ((withNeighbour (.stop ⟨100, 2, 1⟩)).map (Event.map CatalogRequest.first))
    after.1.db.sessions.length = 2 ∧ after'.1.db.sessions.length = 1 ∧
      after.1.db.restrict 1 = after'.1.db.restrict 1 ∧
      after.2.filter (fun o => !o.1.isForeign 1) =
        after'.2.filter (fun o => !o.1.isForeign 1) := by
  have same : List.Forall₂ (SameFor 1) (withNeighbour (.start ⟨2, "cs2", 10, false, 101, 8, 1⟩))
      (withNeighbour (.stop ⟨100, 2, 1⟩)) := by
    simp [withNeighbour, SameFor, CatalogRequest.first, CatalogRequest.Own,
      CatalogStage.isForeign, Stage.userId]
  exact ⟨by decide, by decide,
    users_undisturbed (by decide) 1 same (by decide) (by decide)⟩

end PlgBooster.Server
