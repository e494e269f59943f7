import PlgBooster.Client.Commands

/-!
# The boost and its session id

`active_proxy` and `active_session_id` are two cells with a lock each. The four commands that
start and stop boosts write the first and then the second, and a start has looked at the
first long before. They are cut here at every lock and every await, so that any number of
them can run at the same time. What the API answers is an argument of a start.

Once no command is running, the two cells belong together exactly if the last command to
write the session id found the boost as it had left it itself.
-/

namespace PlgBooster.Client

open Rust Transaction

/-- The state of the client. Not in the program: the starts are numbered as they store their
boosts, and the numbers of those that wrote the two cells are kept. -/
structure Cells where
  app : AppState
  proxyStart : Nat
  sessionStart : Nat
  starts : Nat

/-- What `with_auto_refresh` returns to a start. -/
abbrev StartAnswer := Except ApiError (SessionStartResponse × Option AuthTokens)

/-- `found` says that a node was found and auto-connect is on. -/
inductive BoostCommand where
  | cmdStartBoost (args : StartArgs) (outcome : StartOutcome) (answer : StartAnswer)
  | autoConnect (game : GameProfile) (found : Bool) (outcome : StartOutcome)
      (answer : StartAnswer)
  | cmdStopBoost
  | autoDisconnect

/-- What both ways to start have in common. -/
structure StartRun where
  openWith : SessionStartResponse → SocketAddr → Except String ActiveBoost
  answer : StartAnswer

/-- Where a command is: before one of its locks or awaits. -/
inductive BoostStage where
  | checkConnected (start : StartRun)
  | checkBoosting (start : StartRun) (found : Bool)
  | awaitBestNode (start : StartRun) (found : Bool)
  | copyTokens (start : StartRun)
  | awaitSession (start : StartRun)
  | storeTokens (start : StartRun) (resp : SessionStartResponse)
      (newTokens : Option AuthTokens)
  | awaitOpen (start : StartRun) (resp : SessionStartResponse)
  | storeProxy (boost : ActiveBoost) (sessionId : Id)
  | storeSessionId (number : Nat) (sessionId : Id)
  | checkProxy
  | takeProxy
  | takeSessionId
  | copyTokensToStop
  | awaitStop

/-- The first stage of a command. -/
def BoostCommand.start (windows : Bool) : BoostCommand → BoostStage
  | .cmdStartBoost args outcome answer =>
      .checkConnected ⟨fun resp relayAddr => openBoost windows resp relayAddr args outcome, answer⟩
  | .autoConnect game found outcome answer =>
      .checkBoosting
        ⟨fun resp relayAddr => openAutoBoost windows resp relayAddr game outcome, answer⟩ found
  | .cmdStopBoost => .takeProxy
  | .autoDisconnect => .checkProxy

/-- One step of a command. -/
def boostStep (cells : Cells) : BoostStage → Cells × (BoostStage ⊕ Except String Unit)
  | .checkConnected start =>
      if cells.app.activeProxy.isSome then
        (cells, .inr (.error "Already connected. Stop current session first."))
      else (cells, .inl (.copyTokens start))
  | .checkBoosting start found =>
      if cells.app.activeProxy.isSome then (cells, .inr (.ok ()))
      else (cells, .inl (.awaitBestNode start found))
  | .awaitBestNode start found =>
      if found then (cells, .inl (.copyTokens start)) else (cells, .inr (.ok ()))
  | .copyTokens start =>
      match cells.app.tokens with
      | none => (cells, .inr (.error "Not authenticated"))
      | some _ => (cells, .inl (.awaitSession start))
  | .awaitSession start =>
      match start.answer with
      | .error e => (cells, .inr (.error e.message))
      | .ok (resp, newTokens) => (cells, .inl (.storeTokens start resp newTokens))
  | .storeTokens start resp newTokens =>
      ({ cells with app := Command.store cells.app newTokens }, .inl (.awaitOpen start resp))
  | .awaitOpen start resp =>
      match openedBy start.openWith resp with
      | .error e => (cells, .inr (.error e))
      | .ok (boost, sessionId) => (cells, .inl (.storeProxy boost sessionId))
  | .storeProxy boost sessionId =>
      ({ cells with
          app := { cells.app with activeProxy := some boost }
          proxyStart := cells.starts
          starts := cells.starts + 1 },
        .inl (.storeSessionId cells.starts sessionId))
  | .storeSessionId number sessionId =>
      ({ cells with
          app := { cells.app with activeSessionId := some sessionId }
          sessionStart := number }, .inr (.ok ()))
  | .checkProxy =>
      if cells.app.activeProxy.isSome then (cells, .inl .takeProxy) else (cells, .inr (.ok ()))
  | .takeProxy =>
      ({ cells with app := { cells.app with activeProxy := none } }, .inl .takeSessionId)
  | .takeSessionId =>
      let taken := { cells with app := { cells.app with activeSessionId := none } }
      match cells.app.activeSessionId with
      | none => (taken, .inr (.ok ()))
      | some _ => (taken, .inl .copyTokensToStop)
  | .copyTokensToStop =>
      match cells.app.tokens with
      | none => (cells, .inr (.ok ()))
      | some _ => (cells, .inl .awaitStop)
  | .awaitStop => (cells, .inr (.ok ()))

def BoostStage.rank : BoostStage → Nat
  | .checkConnected _ => 8
  | .checkBoosting _ _ => 8
  | .awaitBestNode _ _ => 7
  | .copyTokens _ => 6
  | .awaitSession _ => 5
  | .storeTokens _ _ _ => 4
  | .awaitOpen _ _ => 3
  | .storeProxy _ _ => 2
  | .storeSessionId _ _ => 1
  | .checkProxy => 4
  | .takeProxy => 3
  | .takeSessionId => 2
  | .copyTokensToStop => 1
  | .awaitStop => 0

theorem boostStep_descends (cells : Cells) (stage stage' : BoostStage)
    (next : (boostStep cells stage).2 = .inl stage') : stage'.rank < stage.rank := by
  cases stage <;> simp only [boostStep] at next <;> (try split at next) <;> cases next <;>
    simp [BoostStage.rank]

/-- The commands as a program over the client's state. -/
def boostCommands : Program Cells BoostStage (Except String Unit) where
  step := boostStep
  rank := BoostStage.rank
  descends := boostStep_descends

/-! ## Commands run alone -/

section Alone

variable {σ : Type} (windows : Bool) (api : Api σ) (cells : Cells) (server : σ)

/-- A command run alone takes a step and goes on alone. -/
theorem exec_boostCommands (stage : BoostStage) :
    boostCommands.exec cells stage =
      match boostStep cells stage with
      | (cells', .inl stage') => boostCommands.exec cells' stage'
      | (cells', .inr result) => (cells', some result) := by
  rw [boostCommands.exec_eq]
  cases taken : boostStep cells stage with
  | mk cells' next => cases next <;> simp only [boostCommands, taken]

/-- From its tokens on a start run alone is a start in one step. -/
theorem alone_copyTokens {start : StartRun} {request : SessionStartRequest} {exchange : Exchange}
    (answered : start.answer = (withAutoRefresh exchange (api.startSession · request) server).2) :
    (boostCommands.exec cells (.copyTokens start)).1.app =
      (startWith api cells.app server request start.openWith exchange).1 := by
  rw [exec_boostCommands]
  cases held : cells.app.tokens with
  | none => simp only [boostStep, startWith, held]
  | some tokens =>
      rw [← leaveStart_eq_startWith held api server request start.openWith exchange, ← answered]
      simp only [boostStep, held]
      rw [exec_boostCommands]
      cases answer : start.answer with
      | error e => simp only [boostStep, Command.leaveStart, Command.finish, answer]
      | ok created =>
          obtain ⟨resp, newTokens⟩ := created
          simp only [boostStep, Command.leaveStart, answer]
          rw [exec_boostCommands]
          simp only [boostStep]
          rw [exec_boostCommands]
          cases opened : openedBy start.openWith resp with
          | error e => simp only [boostStep, opened, Command.finish]
          | ok boost =>
              simp only [boostStep, opened]
              rw [exec_boostCommands]
              simp only [boostStep]
              rw [exec_boostCommands]
              rfl

/-- The first lock of `cmd_start_boost`, and all that follows. -/
theorem alone_cmdStartBoost {args : StartArgs} {outcome : StartOutcome} {answer : StartAnswer}
    (answered : answer = (withAutoRefresh outcome.exchange
      (api.startSession · ⟨args.gameSlug, args.nodeId, args.multipath⟩) server).2) :
    (boostCommands.exec cells
        (BoostCommand.start windows (.cmdStartBoost args outcome answer))).1.app =
      (cmdStartBoost windows api cells.app server args outcome).1 := by
  rw [BoostCommand.start, exec_boostCommands]
  by_cases connected : cells.app.activeProxy.isSome = true
  · simp only [boostStep, cmdStartBoost, if_pos connected]
  · simp only [boostStep, cmdStartBoost, if_neg connected]
    exact alone_copyTokens api cells server answered

theorem alone_autoConnect {game : GameProfile} {nodeId : Id} {multipath : Bool}
    {outcome : StartOutcome} {answer : StartAnswer}
    (answered : answer = (withAutoRefresh outcome.exchange
      (api.startSession · ⟨game.slug, nodeId, some multipath⟩) server).2) :
    (boostCommands.exec cells
        (BoostCommand.start windows (.autoConnect game true outcome answer))).1.app =
      (autoConnect windows api cells.app server game nodeId multipath outcome).1 := by
  rw [BoostCommand.start, exec_boostCommands]
  by_cases connected : cells.app.activeProxy.isSome = true
  · simp only [boostStep, autoConnect, if_pos connected]
  · simp only [boostStep, autoConnect, if_neg connected]
    rw [exec_boostCommands]
    exact alone_copyTokens api cells server answered

/-- From the first cell on, both ways to stop are a stop in one step. -/
theorem alone_cmdStopBoost (exchange : Exchange) :
    (boostCommands.exec cells (BoostCommand.start windows .cmdStopBoost)).1.app =
      (cmdStopBoost api cells.app server exchange).1 := by
  rw [BoostCommand.start, exec_boostCommands, cmdStopBoost, stopWith]
  simp only [boostStep]
  rw [exec_boostCommands]
  cases session : cells.app.activeSessionId with
  | none => simp only [boostStep]
  | some sessionId =>
      simp only [boostStep]
      rw [exec_boostCommands]
      cases held : cells.app.tokens with
      | none => simp only [boostStep]
      | some tokens =>
          simp only [boostStep]
          rw [exec_boostCommands]
          rfl

theorem alone_autoDisconnect (exchange : Exchange) :
    (boostCommands.exec cells (BoostCommand.start windows .autoDisconnect)).1.app =
      (autoDisconnect api cells.app server exchange).1 := by
  rw [BoostCommand.start, exec_boostCommands]
  by_cases connected : cells.app.activeProxy.isSome = true
  · simp only [boostStep, autoDisconnect, if_pos connected]
    exact alone_cmdStopBoost windows api cells server exchange
  · simp only [boostStep, autoDisconnect, if_neg connected]

end Alone

/-! ## What the two cells say -/

/-- There is a boost exactly if there is a session id, and one start has written both. -/
def Paired (cells : Cells) : Prop :=
  cells.app.activeProxy.isSome = cells.app.activeSessionId.isSome ∧
    (cells.app.activeProxy.isSome → cells.proxyStart = cells.sessionStart)

instance (cells : Cells) : Decidable (Paired cells) := inferInstanceAs (Decidable (_ ∧ _))

/-- The command has written the boost and not yet the session id. -/
def BoostStage.halfway : BoostStage → Bool
  | .storeSessionId _ _ => true
  | .takeSessionId => true
  | _ => false

/-- The boost is as the command left it: its own after a start, none after a stop. -/
def proxyKept (cells : Cells) : BoostStage → Bool
  | .storeSessionId number _ => cells.app.activeProxy.isSome && cells.proxyStart == number
  | .takeSessionId => cells.app.activeProxy.isNone
  | _ => true

/-- Whether the last command to write the session id found the boost as it had left it. -/
def lastKept (world : World Cells BoostStage (Except String Unit))
    (event : Transaction.Event BoostStage) (before : Bool) : Bool :=
  match event with
  | .submit _ => before
  | .advance i =>
      match world.tasks[i]? with
      | some ⟨_, .inl stage⟩ => if stage.halfway then proxyKept world.db stage else before
      | _ => before

/-- Writing the session id decides whether the cells belong together. -/
theorem paired_of_halfway (cells : Cells) {stage : BoostStage} (halfway : stage.halfway = true) :
    Paired (boostStep cells stage).1 ↔ proxyKept cells stage = true := by
  cases stage with
  | storeSessionId number sessionId =>
      cases active : cells.app.activeProxy <;> simp [boostStep, Paired, proxyKept, active]
  | takeSessionId =>
      cases active : cells.app.activeProxy <;> cases session : cells.app.activeSessionId <;>
        simp [boostStep, Paired, proxyKept, active, session]
  | _ => cases halfway

/-- Only a command that gets halfway changes the cells otherwise. -/
theorem paired_of_not_halfway (cells : Cells) {stage : BoostStage}
    (notHalfway : stage.halfway = false)
    (notNext : ∀ stage', (boostStep cells stage).2 = .inl stage' → stage'.halfway = false) :
    Paired (boostStep cells stage).1 ↔ Paired cells := by
  cases stage with
  | storeProxy boost sessionId => cases notNext _ rfl
  | takeProxy => cases notNext _ rfl
  | storeSessionId number sessionId => cases notHalfway
  | takeSessionId => cases notHalfway
  | storeTokens start resp newTokens => exact Iff.rfl
  | awaitStop => exact Iff.rfl
  | _ =>
      simp only [boostStep]
      split <;> exact Iff.rfl

/-! ## Interleaved runs -/

abbrev BoostWorld := World Cells BoostStage (Except String Unit)

/-- Some command is halfway. -/
def Halfway (world : BoostWorld) : Prop :=
  ∃ task ∈ world.tasks, ∃ stage, task.stage = .inl stage ∧ stage.halfway = true

/-- While no command is halfway, the last one to write the session id decides. -/
def Decided (world : BoostWorld) (kept : Bool) : Prop :=
  ¬ Halfway world → (Paired world.db ↔ kept = true)

/-- The step of one command, whether it is its last or not. -/
theorem decided_advance {world : BoostWorld} {kept : Bool} (decided : Decided world kept) {i : Nat}
    {request stage : BoostStage} {next : BoostStage ⊕ Except String Unit}
    (found : world.tasks[i]? = some ⟨request, .inl stage⟩)
    (taken : (boostStep world.db stage).2 = next) :
    Decided ⟨(boostStep world.db stage).1, world.tasks.set i ⟨request, next⟩⟩
      (if stage.halfway then proxyKept world.db stage else kept) := by
  obtain ⟨front, back, tasks, updated⟩ := Program.split_of_getElem? found ⟨request, next⟩
  intro settled
  cases halfway : stage.halfway with
  | true =>
      simp only [if_true]
      exact paired_of_halfway world.db halfway
  | false =>
      simp only [Bool.false_eq_true, if_false]
      have notNext : ∀ stage', (boostStep world.db stage).2 = .inl stage' →
          stage'.halfway = false := by
        intro stage' here
        by_contra onTheWay
        refine settled ⟨⟨request, next⟩, ?_, stage', taken.symm.trans here, by simpa using onTheWay⟩
        rw [updated]
        exact List.mem_append_right _ List.mem_cons_self
      refine (paired_of_not_halfway world.db halfway notNext).trans (decided ?_)
      -- A command that is halfway now is another one, and is still halfway afterwards.
      rintro ⟨task, member, stage', running, onTheWay⟩
      rw [tasks] at member
      refine settled ⟨task, ?_, stage', running, onTheWay⟩
      rw [updated]
      rcases List.mem_append.mp member with before | here
      · exact List.mem_append_left _ before
      · rcases List.mem_cons.mp here with rfl | after
        · obtain rfl := Sum.inl.inj running
          rw [halfway] at onTheWay
          cases onTheWay
        · exact List.mem_append_right _ (List.mem_cons_of_mem _ after)

theorem decided_step (world : BoostWorld) (event : Transaction.Event BoostStage) (kept : Bool)
    (decided : Decided world kept) :
    Decided (boostCommands.worldStep world event).1 (lastKept world event kept) := by
  cases event with
  | submit request =>
      intro settled
      refine decided fun ⟨task, member, onTheWay⟩ => settled ⟨task, ?_, onTheWay⟩
      exact List.mem_append_left _ member
  | advance i =>
      cases boostCommands.advance world i with
      | idle nothing after =>
          have same : lastKept world (.advance i) kept = kept := by
            simp only [lastKept]
          rw [after, same]
          exact decided
      | proceeds request stage cells stage' found taken after =>
          have next := decided_advance decided found (congrArg Prod.snd taken)
          rw [show (boostStep world.db stage).1 = cells from congrArg Prod.fst taken] at next
          simp only [after, lastKept, found]
          exact next
      | finishes request stage cells result found taken after =>
          have next := decided_advance decided found (congrArg Prod.snd taken)
          rw [show (boostStep world.db stage).1 = cells from congrArg Prod.fst taken] at next
          simp only [after, lastKept, found]
          exact next

/-- A client without a boost. -/
def disconnected (tokens : Option AuthTokens) : Cells :=
  ⟨⟨tokens, none, none⟩, 0, 0, 0⟩

/-- Whatever the commands, their answers and the order of their steps: whenever none is
running, the boost and the session id belong together exactly if the last command to write
the session id found the boost as it had left it. -/
theorem paired_iff (windows : Bool) (tokens : Option AuthTokens)
    (events : List (Transaction.Event BoostCommand))
    (idle : Program.pending (Machine.run boostCommands.worldStep ⟨disconnected tokens, []⟩
      (events.map (Event.map (BoostCommand.start windows)))).1 = []) :
    Paired (Machine.run boostCommands.worldStep ⟨disconnected tokens, []⟩
        (events.map (Event.map (BoostCommand.start windows)))).1.db ↔
      Machine.history lastKept boostCommands.worldStep ⟨disconnected tokens, []⟩
        (events.map (Event.map (BoostCommand.start windows))) true = true := by
  let inputs := events.map (Event.map (BoostCommand.start windows))
  have start : Decided ⟨disconnected tokens, []⟩ true := fun _ =>
    ⟨fun _ => rfl, fun _ => ⟨rfl, fun _ => rfl⟩⟩
  have free : Machine.Legal (fun _ _ => True) boostCommands.worldStep ⟨disconnected tokens, []⟩
    inputs := Machine.legal_of_forall (fun _ _ => trivial) _ _
  have decided : Decided (Machine.run boostCommands.worldStep ⟨disconnected tokens, []⟩ inputs).1
      (Machine.history lastKept boostCommands.worldStep ⟨disconnected tokens, []⟩ inputs true) :=
    Machine.run_history_invariant
      (fun world event kept before _ => decided_step world event kept before) start free
  apply decided
  rintro ⟨task, member, stage, running, _⟩
  have unfinished : task.request ∈ Program.pending
      (Machine.run boostCommands.worldStep ⟨disconnected tokens, []⟩ inputs).1 :=
    List.mem_filterMap.mpr ⟨task, member, by rw [running]⟩
  rw [idle] at unfinished
  cases unfinished

/-- A start that the API answers with session 100 and that opens WinDivert. -/
def startAnswered : BoostCommand :=
  .cmdStartBoost ⟨"cs2", 10, none, none, none, some true⟩
    ⟨⟨.answered, .error .refreshFailed, .answered⟩, .ok (), ⟨.ok 27015, .ok (), .ok (), .ok ()⟩⟩
    (.ok (⟨100, 7, "203.0.113.1", 443, none, none, false, ["155.133.232.1"], ["27015"]⟩, none))

/-- The monitor finds no boost to close while the start is on its way. -/
def closedTooEarly : List (Transaction.Event BoostCommand) :=
  [.submit startAnswered, .advance 0, .submit .autoDisconnect] ++
    List.replicate 4 (.advance 0) ++ [.advance 1, .advance 0, .advance 0]

theorem paired_iff_closedTooEarly :
    ((Machine.run boostCommands.worldStep ⟨disconnected (some ⟨"a", "r"⟩), []⟩
      (closedTooEarly.map (Event.map (BoostCommand.start true)))).1.db.app.activeSessionId =
        some 100) ∧
    (Paired (Machine.run boostCommands.worldStep ⟨disconnected (some ⟨"a", "r"⟩), []⟩
        (closedTooEarly.map (Event.map (BoostCommand.start true)))).1.db ↔
      Machine.history lastKept boostCommands.worldStep ⟨disconnected (some ⟨"a", "r"⟩), []⟩
        (closedTooEarly.map (Event.map (BoostCommand.start true))) true = true) :=
  ⟨by decide, paired_iff true (some ⟨"a", "r"⟩) closedTooEarly (by decide)⟩

/-- A stop between the two writes of a start. -/
def stoppedBetween : List (Transaction.Event BoostCommand) :=
  [.submit startAnswered, .submit .cmdStopBoost] ++ List.replicate 6 (.advance 0) ++
    [.advance 1, .advance 1, .advance 0]

/-- Both commands have ended, and a session id is left without a boost. -/
theorem stoppedBetween_not_paired :
    let world := (Machine.run boostCommands.worldStep ⟨disconnected (some ⟨"a", "r"⟩), []⟩
      (stoppedBetween.map (Event.map (BoostCommand.start true)))).1
    Program.pending world = [] ∧ world.db.app.activeProxy.isNone ∧
      world.db.app.activeSessionId = some 100 ∧ ¬ Paired world.db := by
  decide

end PlgBooster.Client
