import PlgBooster.Client.Boost
import PlgBooster.Server.ActiveSessions

/-!
# Sessions the client forgets

One client, logged in, and the session service, with the client's commands executed one
after another. A session is orphaned when it is active on the server and not the one
the client remembers: the client cannot stop it, and the server refuses every new start.

A start forgets its session on each early return after the API call, and a stop forgets
it whether or not the server was told. Runs without these outcomes, and only these, never
orphan a session.
-/

namespace PlgBooster.System

open Client Server Transaction

/-- What the server draws for one request. -/
structure Draw where
  sessionId : Uuid
  sessionToken : Int
  now : DateTime
  deriving DecidableEq, Repr

/-- The status a service error is answered with. -/
def refusal : ServiceError → ApiError
  | .valueError detail => .server detail
  | .httpException _ detail => .server detail
  | _ => .server "Internal Server Error"

/-- The response to a start, with the node, the game profile and the backup node loaded. -/
def startResponse (db : SessionDb) (session : Session) : Except ApiError SessionStartResponse :=
  match db.nodes.find? (·.id = session.nodeId),
      db.gameProfiles.find? (·.id = session.gameProfileId) with
  | some node, some game =>
      let backup := session.backupNodeId.bind fun id => db.nodes.find? (·.id = id)
      .ok
        { sessionId := session.id
          sessionToken := .ofNat session.sessionToken.toNat
          nodeIp := node.ipAddress
          nodePort := node.relayPort
          backupNodeIp := backup.map (·.ipAddress)
          backupNodePort := backup.map (·.relayPort)
          multipathEnabled := session.multipathEnabled
          gameServerIps := game.serverIps
          gamePorts := game.ports }
  | _, _ => .error (.server "Internal Server Error")

/-- `POST /api/sessions/start` of a user. -/
def apiStart (userId : Uuid) (draw : Draw) (db : SessionDb) (request : SessionStartRequest) :
    SessionDb × Except ApiError SessionStartResponse :=
  let req : StartRequest :=
    { userId := userId
      gameSlug := request.gameSlug
      nodeId := request.nodeId
      multipath := request.multipath.getD false
      sessionId := draw.sessionId
      sessionToken := draw.sessionToken
      now := draw.now }
  match sessionService.exec db (.selectGame req) with
  | (db, some (.ok session)) => (db, startResponse db session)
  | (db, some (.error e)) => (db, .error (refusal e))
  | (db, none) => (db, .error (.server "Internal Server Error"))

/-- `POST /api/sessions/{session_id}/stop` of a user. -/
def apiStop (userId : Uuid) (now : DateTime) (db : SessionDb) (sessionId : Id) :
    SessionDb × Except ApiError Unit :=
  match sessionService.exec db (.selectSession ⟨sessionId, userId, now⟩) with
  | (db, some (.ok _)) => (db, .ok ())
  | (db, some (.error e)) => (db, .error (refusal e))
  | (db, none) => (db, .error (.server "Internal Server Error"))

/-- The API as one user's client sees it during one command. -/
def serverApi (userId : Uuid) (draw : Draw) : Api SessionDb where
  startSession := apiStart userId draw
  stopSession := apiStop userId draw.now

/-- The client and the session tables. -/
structure Deployment where
  app : AppState
  db : SessionDb

inductive Command where
  | startBoost (args : StartArgs) (outcome : StartOutcome) (draw : Draw)
  | stopBoost (exchange : Exchange) (draw : Draw)
  | autoConnect (game : Client.GameProfile) (nodeId : Id) (multipath : Bool)
      (outcome : StartOutcome) (draw : Draw)
  | autoDisconnect (exchange : Exchange) (draw : Draw)

variable (windows : Bool) (userId : Uuid)

/-- Execute one command. The outputs are the errors it shows. -/
def Deployment.step (s : Deployment) : Command → Deployment × List String
  | .startBoost args outcome draw =>
      let result := cmdStartBoost windows (serverApi userId draw) s.app s.db args outcome
      (⟨result.1, result.2.1⟩, match result.2.2 with | .error e => [e] | .ok _ => [])
  | .stopBoost exchange draw =>
      let result := cmdStopBoost (serverApi userId draw) s.app s.db exchange
      (⟨result.1, result.2.1⟩, [])
  | .autoConnect game nodeId multipath outcome draw =>
      let result := autoConnect windows (serverApi userId draw) s.app s.db game nodeId multipath
        outcome
      (⟨result.1, result.2.1⟩, match result.2.2 with | some (.error e) => [e] | _ => [])
  | .autoDisconnect exchange draw =>
      let result := autoDisconnect (serverApi userId draw) s.app s.db exchange
      (⟨result.1, result.2⟩, [])

/-- Every active session of the user is the one the client remembers. -/
def NoOrphan (s : Deployment) : Prop :=
  ∀ row ∈ s.db.activeSessions userId, s.app.activeSessionId = some row.id

/-- If the server creates the session, its answer arrives, the relay address parses and
the boost opens. -/
def StartCompletes (draw : Draw) (s : Deployment) (request : SessionStartRequest)
    (openWith : SessionStartResponse → Rust.SocketAddr → Except String ActiveBoost)
    (exchange : Exchange) : Prop :=
  exchange.decisive.handled = true →
    ∀ resp, (apiStart userId draw s.db request).2 = .ok resp →
      ∃ boost, Opens (serverApi userId draw) s.db request openWith exchange resp boost

/-- If a session is still active, the request to stop it is handled. -/
def StopCompletes (s : Deployment) (exchange : Exchange) : Prop :=
  s.db.activeSessions userId ≠ [] → exchange.decisive.handled = true

/-- No outcome of this command makes the client forget an active session. -/
def Completes (s : Deployment) : Command → Prop
  | .startBoost args outcome draw => s.app.activeProxy.isSome = false →
      StartCompletes userId draw s ⟨args.gameSlug, args.nodeId, args.multipath⟩
        (fun resp relayAddr => openBoost windows resp relayAddr args outcome) outcome.exchange
  | .stopBoost exchange _ => StopCompletes userId s exchange
  | .autoConnect game nodeId multipath outcome draw => s.app.activeProxy.isSome = false →
      StartCompletes userId draw s ⟨game.slug, nodeId, some multipath⟩
        (fun resp relayAddr => openAutoBoost windows resp relayAddr game outcome)
        outcome.exchange
  | .autoDisconnect exchange _ => s.app.activeProxy.isSome = true →
      StopCompletes userId s exchange

/-! ## The endpoints -/

variable {userId}

/-- The foreign keys of a row are what its response loads. -/
theorem startResponse_of_accepts {db : SessionDb} {row : Session} (accepted : db.Accepts row) :
    ∃ resp, startResponse (db.insertSession row) row = .ok resp ∧ resp.sessionId = row.id := by
  obtain ⟨_, _, ⟨n, memberN, nodeId⟩, ⟨g, memberG, gameId⟩, _⟩ := accepted
  have node : (db.nodes.find? (·.id = row.nodeId)).isSome :=
    List.find?_isSome.mpr ⟨n, memberN, by simpa using nodeId⟩
  have game : (db.gameProfiles.find? (·.id = row.gameProfileId)).isSome :=
    List.find?_isSome.mpr ⟨g, memberG, by simpa using gameId⟩
  obtain ⟨n', foundN⟩ := Option.isSome_iff_exists.mp node
  obtain ⟨g', foundG⟩ := Option.isSome_iff_exists.mp game
  simp only [startResponse, SessionDb.insertSession, foundN, foundG]
  exact ⟨_, rfl, rfl⟩

/-- A start at the API leaves the tables alone, or adds the session it answers with,
and then the user had none. -/
inductive ApiStarts (userId : Uuid) (draw : Draw) (db : SessionDb)
    (request : SessionStartRequest) : Prop
  | refused (e : ApiError) (other : e ≠ .unauthorized)
      (failed : apiStart userId draw db request = (db, .error e))
  | created (row : Session) (resp : SessionStartResponse) (free : db.activeSessions userId = [])
      (fresh : ∀ s ∈ db.sessions, s.id ≠ row.id) (mine : row.userId = userId)
      (active : row.status = "active") (named : resp.sessionId = row.id)
      (done : apiStart userId draw db request = (db.insertSession row, .ok resp))

theorem apiStarts (userId : Uuid) (draw : Draw) (db : SessionDb)
    (request : SessionStartRequest) : ApiStarts userId draw db request := by
  let req : StartRequest := ⟨userId, request.gameSlug, request.nodeId,
    request.multipath.getD false, draw.sessionId, draw.sessionToken, draw.now⟩
  have refused {e : ServiceError}
      (failed : sessionService.exec db (.selectGame req) = (db, some (.error e))) :
      ApiStarts userId draw db request :=
    .refused (refusal e) (by cases e <;> simp [refusal]) (by simp only [apiStart, req, failed])
  rcases exec_start db req with ⟨e, failed⟩ | ⟨free, ⟨e, failed⟩ | ⟨game, node, backup, ok, done⟩⟩
  · exact refused failed
  · exact refused failed
  · obtain ⟨resp, answered, named⟩ := startResponse_of_accepts ok
    apply ApiStarts.created (newSession req game node backup) resp free ok.1 rfl rfl named
    simp only [apiStart, req, done, answered]

/-- A stop at the API takes the named session off the active ones. -/
theorem activeSessions_apiStop {db : SessionDb} (distinct : (db.sessions.map (·.id)).Nodup)
    (now : DateTime) {sessionId : Id}
    (only : ∀ row ∈ db.activeSessions userId, row.id = sessionId) :
    (apiStop userId now db sessionId).1.activeSessions userId = [] := by
  have all : (db.sessions.filter fun s =>
      s.id = sessionId ∧ s.userId = userId ∧ s.status = "active") = db.activeSessions userId := by
    refine List.filter_congr fun s member => ?_
    by_cases active : s.userId = userId ∧ s.status = "active"
    · have named := only s (List.mem_filter.mpr ⟨member, by simpa using active⟩)
      simp [named, active]
    · simp [active]
  -- Their keys are distinct and all the same, so there is at most one.
  have once : (db.activeSessions userId).length ≤ 1 := by
    have keys : ((db.activeSessions userId).map (·.id)).Nodup :=
      distinct.sublist (List.filter_sublist.map _)
    have same : (db.activeSessions userId).map (·.id) = List.replicate _ sessionId :=
      List.eq_replicate_of_mem (List.forall_mem_map.mpr only)
    rwa [same, List.nodup_replicate, List.length_map] at keys
  rcases exec_stop db ⟨sessionId, userId, now⟩ with ⟨session, named, done⟩ | ⟨other, e, failed⟩
  · rw [all] at named
    simp only [apiStop, done]
    rw [activeSessions_markStopped, named]
    simp
  · simp only [apiStop, failed]
    rw [all] at other
    obtain ⟨row, found⟩ := scalarOneOrNone_eq_ok.mpr once
    cases row with
    | none => exact scalarOneOrNone_eq_none.mp found
    | some session => exact absurd (scalarOneOrNone_eq_some.mp found) (other session)

theorem apiStop_accepts (userId : Uuid) (now : DateTime) (db : SessionDb) (sessionId : Id) :
    (apiStop userId now db sessionId).2 ≠ .error .unauthorized := by
  rcases exec_stop db ⟨sessionId, userId, now⟩ with ⟨session, _, done⟩ | ⟨_, e, failed⟩
  · simp [apiStop, done]
  · cases e <;> simp [apiStop, failed, refusal]

theorem sessions_apiStop (now : DateTime) (db : SessionDb) (sessionId : Id) :
    (apiStop userId now db sessionId).1.sessions.map (·.id) = db.sessions.map (·.id) := by
  rcases exec_stop db ⟨sessionId, userId, now⟩ with ⟨session, _, done⟩ | ⟨_, e, failed⟩
  · simp only [apiStop, done, SessionDb.markStopped, List.map_map]
    refine List.map_congr_left fun s _ => ?_
    simp only [Function.comp_apply]
    split_ifs <;> rfl
  · simp only [apiStop, failed]

theorem nodup_apiStart (userId : Uuid) {db : SessionDb} (distinct : (db.sessions.map (·.id)).Nodup)
    (draw : Draw) (request : SessionStartRequest) :
    ((apiStart userId draw db request).1.sessions.map (·.id)).Nodup := by
  cases apiStarts userId draw db request with
  | refused e other failed =>
      rw [failed]
      exact distinct
  | created row resp free fresh mine active named done =>
      rw [done]
      exact nodup_insertSession distinct fresh

theorem apiStart_accepts (userId : Uuid) (draw : Draw) (db : SessionDb)
    (request : SessionStartRequest) :
    (apiStart userId draw db request).2 ≠ .error .unauthorized := by
  cases apiStarts userId draw db request with
  | refused e other failed => simp [failed, other]
  | created row resp free fresh mine active named done => simp [done]

/-! ## Commands -/

/-- The client is logged in and remembers a session only with its boost; the table's
keys are distinct. -/
structure Sound (s : Deployment) : Prop where
  loggedIn : s.app.tokens.isSome
  paired : s.app.activeProxy.isSome = false → s.app.activeSessionId = none
  distinct : (s.db.sessions.map (·.id)).Nodup

variable {s : Deployment}

/-- A start forgets no session exactly if it completes. -/
theorem startWith_noOrphan_iff (sound : Sound s) (noOrphan : NoOrphan userId s)
    (idle : s.app.activeProxy.isSome = false) (draw : Draw) (request : SessionStartRequest)
    (openWith : SessionStartResponse → Rust.SocketAddr → Except String ActiveBoost)
    (exchange : Exchange) :
    let result := startWith (serverApi userId draw) s.app s.db request openWith exchange
    Sound ⟨result.1, result.2.1⟩ ∧
      (NoOrphan userId ⟨result.1, result.2.1⟩ ↔
        StartCompletes userId draw s request openWith exchange) := by
  intro result
  obtain ⟨loggedIn, paired, distinct⟩ := sound
  have forgotten := paired idle
  have distinct' := nodup_apiStart userId distinct draw request
  have accepts (server : SessionDb) :
      ((serverApi userId draw).startSession server request).2 ≠ .error .unauthorized :=
    apiStart_accepts userId draw server request
  rcases startWith_cases loggedIn accepts with
      ⟨resp, boost, tokens, opens, loggedIn', done⟩ | ⟨never, tokens, e, loggedIn', done⟩
  · have answer : (apiStart userId draw s.db request).2 = .ok resp := opens.2.1
    rw [show result = _ from done]
    refine ⟨⟨loggedIn', fun none => by simp at none, distinct'⟩, iff_of_true ?_ ?_⟩
    · intro row' active'
      change row' ∈ (apiStart userId draw s.db request).1.activeSessions userId at active'
      cases apiStarts userId draw s.db request with
      | refused e other failed =>
          rw [failed] at answer
          cases answer
      | created row resp' free fresh mine active named created =>
          rw [created] at answer active'
          obtain rfl := Except.ok.inj answer
          rw [activeSessions_insertSession _ active, if_pos mine.symm, free, List.nil_append,
            List.mem_singleton] at active'
          rw [active', named]
    · intro _ resp' answer'
      obtain rfl := Except.ok.inj (answer.symm.trans answer')
      exact ⟨boost, opens⟩
  · rw [show result = _ from done]
    by_cases handled : exchange.decisive.handled
    · rw [if_pos handled]
      refine ⟨⟨loggedIn', paired, distinct'⟩, ?_⟩
      change NoOrphan userId ⟨_, (apiStart userId draw s.db request).1⟩ ↔ _
      cases apiStarts userId draw s.db request with
      | refused e other failed =>
          rw [failed]
          refine iff_of_true noOrphan fun _ resp created => ?_
          rw [failed] at created
          cases created
      | created row resp free fresh mine active named created =>
          -- The server has a session that the client does not know.
          rw [created]
          refine iff_of_false (fun kept => ?_) fun completes => ?_
          · have known := kept row (by
              rw [activeSessions_insertSession _ active, if_pos mine.symm]
              simp)
            rw [forgotten] at known
            cases known
          · obtain ⟨boost, opens⟩ := completes handled resp (by rw [created])
            exact never resp boost opens
    · rw [if_neg handled]
      refine ⟨⟨loggedIn', paired, distinct⟩, iff_of_true noOrphan ?_⟩
      exact fun called => absurd called handled

/-- A stop forgets no active session exactly if its request is handled. -/
theorem stopWith_noOrphan_iff (sound : Sound s) (noOrphan : NoOrphan userId s) (draw : Draw)
    (exchange : Exchange) :
    let result := stopWith (serverApi userId draw) s.app s.db exchange
    Sound ⟨result.1, result.2⟩ ∧
      (NoOrphan userId ⟨result.1, result.2⟩ ↔ StopCompletes userId s exchange) := by
  intro result
  obtain ⟨loggedIn, paired, distinct⟩ := sound
  obtain ⟨tokens, current⟩ := Option.isSome_iff_exists.mp loggedIn
  cases remembered : s.app.activeSessionId with
  | none =>
      have free : s.db.activeSessions userId = [] := by
        refine List.eq_nil_iff_forall_not_mem.mpr fun row active => ?_
        have known := noOrphan row active
        rw [remembered] at known
        cases known
      have done : result = (⟨s.app.tokens, none, none⟩, s.db) := by
        simp [result, stopWith, remembered]
      rw [done]
      refine ⟨⟨loggedIn, fun _ => rfl, distinct⟩, iff_of_true (fun row active => ?_) ?_⟩
      · rw [show (s.db.activeSessions userId) = [] from free] at active
        cases active
      · exact fun active => absurd free active
  | some sessionId =>
      have only : ∀ row ∈ s.db.activeSessions userId, row.id = sessionId := by
        intro row active
        have known := noOrphan row active
        rw [remembered] at known
        exact (Option.some.inj known).symm
      have done : result = (⟨s.app.tokens, none, none⟩,
          if exchange.decisive.handled then (apiStop userId draw.now s.db sessionId).1
          else s.db) := by
        have call := withAutoRefresh_fst exchange
          (fun server => apiStop_accepts userId draw.now server sessionId) s.db
        simp only [result, stopWith, remembered, current, serverApi, call]
      rw [done]
      by_cases handled : exchange.decisive.handled
      · rw [if_pos handled]
        refine ⟨⟨loggedIn, fun _ => rfl, ?_⟩, iff_of_true (fun row active => ?_) fun _ => handled⟩
        · change ((apiStop userId draw.now s.db sessionId).1.sessions.map (·.id)).Nodup
          rw [sessions_apiStop]
          exact distinct
        · rw [show (apiStop userId draw.now s.db sessionId).1.activeSessions userId = [] from
            activeSessions_apiStop distinct draw.now only] at active
          cases active
      · rw [if_neg handled]
        refine ⟨⟨loggedIn, fun _ => rfl, distinct⟩, fun kept active => ?_,
          fun completes row active => ?_⟩
        · obtain ⟨row, member⟩ := List.exists_mem_of_ne_nil _ active
          have known := kept row member
          cases known
        · exact absurd (completes (List.ne_nil_of_mem active)) handled

/-- One command orphans no session exactly if none of its outcomes makes the client
forget an active one. -/
theorem step_noOrphan_iff (sound : Sound s) (noOrphan : NoOrphan userId s) (command : Command) :
    Sound (s.step windows userId command).1 ∧
      (NoOrphan userId (s.step windows userId command).1 ↔
        Completes windows userId s command) := by
  cases command with
  | startBoost args outcome draw =>
      cases idle : s.app.activeProxy.isSome with
      | true =>
          have refused : (s.step windows userId (.startBoost args outcome draw)).1 = s := by
            simp [Deployment.step, cmdStartBoost, idle]
          rw [refused]
          exact ⟨sound, iff_of_true noOrphan fun none => by simp [idle] at none⟩
      | false =>
          obtain ⟨sound', kept_iff⟩ := startWith_noOrphan_iff sound noOrphan idle draw
            ⟨args.gameSlug, args.nodeId, args.multipath⟩
            (fun resp relayAddr => openBoost windows resp relayAddr args outcome) outcome.exchange
          simp only [Deployment.step, cmdStartBoost, Completes, idle, Bool.false_eq_true, if_false,
            forall_const]
          exact ⟨sound', kept_iff⟩
  | stopBoost exchange draw => exact stopWith_noOrphan_iff sound noOrphan draw exchange
  | autoConnect game nodeId multipath outcome draw =>
      cases idle : s.app.activeProxy.isSome with
      | true =>
          have skipped : (s.step windows userId
              (.autoConnect game nodeId multipath outcome draw)).1 = s := by
            simp [Deployment.step, autoConnect, idle]
          rw [skipped]
          exact ⟨sound, iff_of_true noOrphan fun none => by simp [idle] at none⟩
      | false =>
          obtain ⟨sound', kept_iff⟩ := startWith_noOrphan_iff sound noOrphan idle draw
            ⟨game.slug, nodeId, some multipath⟩
            (fun resp relayAddr => openAutoBoost windows resp relayAddr game outcome)
            outcome.exchange
          simp only [Deployment.step, autoConnect, Completes, idle, Bool.false_eq_true, if_false,
            forall_const]
          exact ⟨sound', kept_iff⟩
  | autoDisconnect exchange draw =>
      cases boosted : s.app.activeProxy.isSome with
      | true =>
          obtain ⟨sound', kept_iff⟩ := stopWith_noOrphan_iff sound noOrphan draw exchange
          simp only [Deployment.step, autoDisconnect, Completes, boosted, if_true, forall_const]
          exact ⟨sound', kept_iff⟩
      | false =>
          have nothing : (s.step windows userId (.autoDisconnect exchange draw)).1 = s := by
            simp [Deployment.step, autoDisconnect, boosted]
          rw [nothing]
          exact ⟨sound, iff_of_true noOrphan fun some => by simp [boosted] at some⟩

/-- A client that has just logged in. -/
def loggedIn (tokens : AuthTokens) (db : SessionDb) : Deployment where
  app := { tokens := some tokens, activeProxy := none, activeSessionId := none }
  db := db

/-- In a run of commands from a fresh login no session is ever orphaned if and only if
every start whose session the server creates completes, and every stop of a session
that is still active is handled. -/
theorem noOrphan_iff (tokens : AuthTokens) {db : SessionDb}
    (distinct : (db.sessions.map (·.id)).Nodup) (free : db.activeSessions userId = [])
    (commands : List Command) :
    (∀ n, NoOrphan userId (Machine.run (Deployment.step windows userId) (loggedIn tokens db)
      (commands.take n)).1) ↔
    Machine.Legal (Completes windows userId) (Deployment.step windows userId)
      (loggedIn tokens db) commands := by
  have sound : Sound (loggedIn tokens db) := ⟨rfl, fun _ => rfl, distinct⟩
  have noOrphan : NoOrphan userId (loggedIn tokens db) := by
    intro row active
    rw [show (loggedIn tokens db).db.activeSessions userId = [] from free] at active
    cases active
  exact (Machine.legal_iff_invariant Sound
    (fun s command sound kept => (step_noOrphan_iff windows sound kept command).1)
    (fun s command sound kept => (step_noOrphan_iff windows sound kept command).2)
    sound noOrphan commands).symm

/-- The request is answered at once. -/
def answeredAtOnce : Exchange := ⟨.answered, .error .refreshFailed, .answered⟩

def startGame (bindLocal : Except String UInt16) (sessionId : Uuid) : Command :=
  .startBoost ⟨"cs2", 10, none, none, none, none⟩
    ⟨answeredAtOnce, .error "", ⟨bindLocal, .ok (), .ok (), .ok ()⟩⟩ ⟨sessionId, 7, 0⟩

/-- The local port is taken, so the proxy does not start: the session stays active, and
the next start is refused. -/
theorem busyPort_orphans :
    let taken := startGame (.error "Address already in use (os error 98)") 100
    ¬ NoOrphan 1 (Machine.run (Deployment.step false 1) (loggedIn ⟨"a", "r"⟩ emptyDb)
        [taken]).1 ∧
      (Machine.run (Deployment.step false 1) (loggedIn ⟨"a", "r"⟩ emptyDb)
          [taken, startGame (.ok 27015) 101]).2 =
        ["Failed to bind local UDP socket on 127.0.0.1:27015: Address already in use (os error 98)",
          "Server error: User already has an active session"] := by
  unfold NoOrphan
  decide

/-- A boost is started and stopped, and the monitor starts the next one. -/
def startStopStart : List Command :=
  [startGame (.ok 27015) 100, .stopBoost answeredAtOnce ⟨0, 0, 5⟩,
    .autoConnect ⟨"cs2", ["155.133.232.0/23"], ["27015-27050"]⟩ 10 false
      ⟨answeredAtOnce, .error "", ⟨.ok 27015, .ok (), .ok (), .ok ()⟩⟩ ⟨101, 8, 6⟩]

/-- The answer to a start of user 1 in `emptyDb`. -/
def emptyDbResponse (sessionId : Uuid) (token : UInt32) : SessionStartResponse :=
  ⟨sessionId, token, "203.0.113.1", 443, none, none, false, ["155.133.232.0/23"], ["27015-27050"]⟩

theorem noOrphan_iff_startStopStart :
    (Machine.run (Deployment.step false 1) (loggedIn ⟨"a", "r"⟩ emptyDb) startStopStart).2 = [] ∧
      ∀ n, NoOrphan 1 (Machine.run (Deployment.step false 1) (loggedIn ⟨"a", "r"⟩ emptyDb)
        (startStopStart.take n)).1 := by
  let relay : Rust.SocketAddr := ⟨.V4 ⟨203, 0, 113, 1⟩, 443⟩
  let started := (apiStart 1 ⟨100, 7, 0⟩ emptyDb ⟨"cs2", 10, none⟩).1
  let stopped := (apiStop 1 5 started 100).1
  refine ⟨by decide, (noOrphan_iff false ⟨"a", "r"⟩ (by decide) (by decide) startStopStart).mpr
    ⟨?_, ?_, ?_, trivial⟩⟩
  · intro _ _ resp created
    have answer : (apiStart 1 ⟨100, 7, 0⟩ emptyDb ⟨"cs2", 10, none⟩).2 =
      .ok (emptyDbResponse 100 7) := by decide
    obtain rfl := Except.ok.inj (answer.symm.trans created)
    exact ⟨_, rfl, created, relay, by decide, rfl⟩
  · intro _
    rfl
  · intro _ _ resp created
    have answer : (apiStart 1 ⟨101, 8, 6⟩ stopped ⟨"cs2", 10, some false⟩).2 =
      .ok (emptyDbResponse 101 8) := by decide
    obtain rfl := Except.ok.inj (answer.symm.trans created)
    exact ⟨_, rfl, created, relay, by decide, rfl⟩

end PlgBooster.System
