import PlgBooster.Client.BestNode
import PlgBooster.Library.Machine

/-!
# The smart monitor

`start_smart_monitor` looks at the running processes every ten seconds. When it detects a
game it connects, and when it detects none any more it disconnects. It remembers one slug,
and the detector reports one game: the first running process that is a listed game's.

A tick is an input: the answers to its requests, the processes in the order in which the
system lists them, and what happens to a start or a stop. A boost that the monitor has started
is stopped at the first tick at which no listed game runs, and not at the first one at which its
own game does not: a second game that is started in time keeps it.
-/

namespace PlgBooster.Client

open Rust

/-- What the monitor looks at of a listed game. -/
structure ListedGame extends GameProfile where
  name : String
  exeNames : List String
  deriving DecidableEq, Repr

/-- The two settings the monitor reads. -/
structure MonitorConfig where
  autoConnect : Bool
  multipath : Bool
  deriving DecidableEq, Repr

/-- `AppConfig::default()`. -/
def MonitorConfig.default : MonitorConfig := ⟨true, false⟩

/-- The games of the last answer and the time at which it came, in nanoseconds. -/
structure GamesCache where
  games : List ListedGame
  cacheTime : Nat

/-- What one tick of the monitor meets. -/
structure Tick (σ α : Type) where
  /-- What others have done to the server since the last tick. -/
  elsewhere : σ → σ
  now : Nat
  getGames : Except ApiError (List ListedGame)
  answered : Nat
  processes : List String
  config : Option MonitorConfig
  getNodes : Except ApiError (List NodeInfo)
  pingNode : Id → Except ApiError (NodePingResponse α)
  outcome : StartOutcome
  stopExchange : Exchange

/-- The events emitted to the frontend. -/
inductive MonitorEvent (α : Type) where
  | gameDetected (game : ListedGame) (bestNode : Option NodeInfo) (autoConnecting : Bool)
  | gameClosed
  | autoConnected (game : ListedGame) (node : NodeInfo) (localPort : UInt16)
  | autoDisconnected
  | bestNode (node : NodeInfo) (pingMs : α)
  deriving DecidableEq, Repr

/-- The state of the client and of the server between two ticks. -/
structure SmartMonitor (σ : Type) where
  app : AppState
  server : σ
  lastDetectedSlug : Option String
  gamesCache : GamesCache

/-- What the monitor is built on. -/
structure MonitorHost (σ : Type) where
  windows : Bool
  api : Api σ
  /-- `str::to_lowercase`. -/
  toLowercase : String → String

/-- Refresh games cache every 5 minutes. -/
def GamesCache.refresh {σ α : Type} (cache : GamesCache) (tick : Tick σ α) :
    Except ApiError GamesCache :=
  if cache.games.isEmpty ∨ 300 * 1000000000 < tick.now - cache.cacheTime then
    tick.getGames.map fun games => ⟨games, tick.answered⟩
  else .ok cache

namespace MonitorHost

section

variable {σ α : Type} [Preorder α] [DecidableLT α] [OfNat α 999] (host : MonitorHost σ)

/-- A process with this name is the game's. -/
def isExeOf (process : String) (game : ListedGame) : Bool :=
  game.exeNames.any fun exe => host.toLowercase process = host.toLowercase exe

/-- Scan running processes and match against known game exe_names. -/
def detectRunningGame (processes : List String) (games : List ListedGame) : Option ListedGame :=
  processes.findSome? fun process => games.find? fun game => host.isExeOf process game

/-- The monitor has found the processes of a game. -/
def gameDetected (monitor : SmartMonitor σ) (tick : Tick σ α) (game : ListedGame) :
    SmartMonitor σ × List (MonitorEvent α) :=
  -- Game was already detected — skip
  if monitor.lastDetectedSlug = some game.slug then (monitor, [])
  else
    let monitor := { monitor with lastDetectedSlug := some game.slug }
    -- Check if already boosting
    if monitor.app.activeProxy.isSome then (monitor, [])
    else
      let config := tick.config.getD .default
      let best := findBestNode tick.pingNode tick.getNodes
      let events := (best.map fun found => .bestNode found.1 found.2).toList ++
        [.gameDetected game (best.map Prod.fst) config.autoConnect]
      match config.autoConnect, best.map Prod.fst with
      | true, some node =>
          match autoConnect host.windows host.api monitor.app monitor.server
            game.toGameProfile node.id config.multipath tick.outcome with
          | (app, server, some (.ok port)) =>
              ({ monitor with app := app, server := server },
                events ++ [.autoConnected game node port])
          | (app, server, _) => ({ monitor with app := app, server := server }, events)
      | _, _ => (monitor, events)

/-- The monitor has found the processes of no game. -/
def noneDetected (monitor : SmartMonitor σ) (tick : Tick σ α) :
    SmartMonitor σ × List (MonitorEvent α) :=
  -- Game was running but now closed
  if monitor.lastDetectedSlug.isSome then
    let (app, server) :=
      autoDisconnect host.api monitor.app monitor.server tick.stopExchange
    ({ monitor with app := app, server := server, lastDetectedSlug := none },
      .gameClosed :: if monitor.app.activeProxy.isSome then [.autoDisconnected] else [])
  else (monitor, [])

/-- One round of the loop. -/
def step (monitor : SmartMonitor σ) (tick : Tick σ α) :
    SmartMonitor σ × List (MonitorEvent α) :=
  let monitor := { monitor with server := tick.elsewhere monitor.server }
  -- Check if user is authenticated
  if monitor.app.tokens.isNone then ({ monitor with lastDetectedSlug := none }, [])
  else
    match monitor.gamesCache.refresh tick with
    | .error _ => (monitor, [])
    | .ok cache =>
        let monitor := { monitor with gamesCache := cache }
        match host.detectRunningGame tick.processes cache.games with
        | some game => host.gameDetected monitor tick game
        | none => host.noneDetected monitor tick

/-! ## What a tick does to the boost -/

/-- Some process is the game's. -/
def Runs (game : ListedGame) (processes : List String) : Prop :=
  ∃ process ∈ processes, host.isExeOf process game

instance (game : ListedGame) (processes : List String) :
    Decidable (host.Runs game processes) :=
  inferInstanceAs (Decidable (∃ process ∈ processes, _ = true))

theorem detectRunningGame_isSome {processes : List String} {games : List ListedGame} :
    (host.detectRunningGame processes games).isSome ↔
      ∃ game ∈ games, host.Runs game processes := by
  unfold detectRunningGame Runs
  rw [List.findSome?_isSome_iff]
  constructor
  · rintro ⟨process, running, found⟩
    obtain ⟨game, listed, isExe⟩ := List.find?_isSome.mp found
    exact ⟨game, listed, process, running, isExe⟩
  · rintro ⟨game, listed, process, running, isExe⟩
    exact ⟨process, running, List.find?_isSome.mpr ⟨game, listed, isExe⟩⟩

/-- The games the detector gets in this tick. -/
def games (monitor : SmartMonitor σ) (tick : Tick σ α) : List ListedGame :=
  match monitor.gamesCache.refresh tick with
  | .error _ => []
  | .ok cache => cache.games

/-- The games list is at hand, from the cache or from the API. -/
def Available (monitor : SmartMonitor σ) (tick : Tick σ α) : Prop :=
  (monitor.gamesCache.refresh tick).isOk

instance (monitor : SmartMonitor σ) (tick : Tick σ α) : Decidable (Available monitor tick) :=
  inferInstanceAs (Decidable (_ = true))

/-- Some process is a listed game's. -/
def SomeListedRuns (monitor : SmartMonitor σ) (tick : Tick σ α) : Prop :=
  ∃ game ∈ games monitor tick, host.Runs game tick.processes

/-- The user is logged in, and the monitor remembers a game while a boost is active. -/
def Watched (monitor : SmartMonitor σ) : Prop :=
  monitor.app.tokens.isSome ∧
    (monitor.app.activeProxy.isSome → monitor.lastDetectedSlug.isSome)

end

end MonitorHost

section Start

variable {σ : Type} {api : Api σ} {app : AppState} {server : σ} {request : SessionStartRequest}
variable {openWith : SessionStartResponse → SocketAddr → Except String ActiveBoost}
variable {exchange : Exchange}

/-- A start keeps the user logged in, and one that succeeds leaves a boost active. -/
theorem startWith_kept (loggedIn : app.tokens.isSome) :
    (startWith api app server request openWith exchange).1.tokens.isSome ∧
      ∀ started, (startWith api app server request openWith exchange).2.2 = .ok started →
        (startWith api app server request openWith exchange).1.activeProxy.isSome := by
  obtain ⟨tokens, held⟩ := Option.isSome_iff_exists.mp loggedIn
  unfold startWith
  rw [held]
  dsimp only
  rcases withAutoRefresh exchange (api.startSession · request) server with
    ⟨server, e | ⟨resp, newTokens⟩⟩
  · refine ⟨loggedIn, ?_⟩
    intro started succeeds
    cases succeeds
  · have renewed : (newTokens.or (some tokens)).isSome := by cases newTokens <;> rfl
    dsimp only
    cases resp.relayAddr with
    | error e =>
        refine ⟨renewed, ?_⟩
        intro started succeeds
        cases succeeds
    | ok relayAddr =>
        dsimp only
        cases openWith resp relayAddr with
        | error e =>
            refine ⟨renewed, ?_⟩
            intro started succeeds
            cases succeeds
        | ok boost => exact ⟨renewed, fun started succeeds => rfl⟩

theorem autoConnect_kept (windows : Bool) (loggedIn : app.tokens.isSome)
    (idle : app.activeProxy = none) (game : GameProfile) (nodeId : Id) (multipath : Bool)
    (outcome : StartOutcome) :
    ∃ app' server' result,
      autoConnect windows api app server game nodeId multipath outcome =
        (app', server', some result) ∧
      app'.tokens.isSome ∧ ∀ port, result = .ok port → app'.activeProxy.isSome := by
  unfold autoConnect
  rw [if_neg (by rw [idle]; exact Bool.false_ne_true)]
  have kept := @startWith_kept σ api app server ⟨game.slug, nodeId, some multipath⟩
    (fun resp relayAddr => openAutoBoost windows resp relayAddr game outcome) outcome.exchange
    loggedIn
  dsimp only
  generalize startWith api app server _ _ outcome.exchange = answer at kept ⊢
  obtain ⟨app', server', result⟩ := answer
  obtain ⟨tokens, active⟩ := kept
  refine ⟨app', server', _, rfl, tokens, ?_⟩
  intro port succeeds
  cases result with
  | error e => cases succeeds
  | ok started => exact active started rfl

theorem autoDisconnect_fst :
    (autoDisconnect api app server exchange).1.tokens = app.tokens ∧
      (autoDisconnect api app server exchange).1.activeProxy = none := by
  unfold autoDisconnect stopWith
  by_cases boosting : app.activeProxy.isSome = true
  · rw [if_pos boosting]
    cases app.activeSessionId <;> cases app.tokens <;> exact ⟨rfl, rfl⟩
  · rw [if_neg boosting]
    exact ⟨rfl, Option.not_isSome_iff_eq_none.mp boosting⟩

end Start

namespace MonitorHost

variable {σ α : Type} (host : MonitorHost σ)
variable {monitor : SmartMonitor σ} {tick : Tick σ α} {game : ListedGame}

theorem noneDetected_spec (monitor : SmartMonitor σ) (tick : Tick σ α) :
    (host.noneDetected monitor tick).1.app.tokens = monitor.app.tokens ∧
      (monitor.lastDetectedSlug.isSome →
        (host.noneDetected monitor tick).1.app.activeProxy = none) ∧
      (monitor.lastDetectedSlug = none → (host.noneDetected monitor tick).1 = monitor) ∧
      ∀ found node port,
        .autoConnected found node port ∉ (host.noneDetected monitor tick).2 := by
  unfold noneDetected
  cases monitor.lastDetectedSlug with
  | none => simp
  | some slug =>
      obtain ⟨tokens, closed⟩ := @autoDisconnect_fst σ host.api monitor.app monitor.server
        tick.stopExchange
      refine ⟨tokens, fun _ => closed, fun remembers => ?_, fun found node port member => ?_⟩
      · cases remembers
      · rcases List.mem_cons.mp member with gone | member
        · cases gone
        · split at member <;> simp at member

theorem autoConnected_notMem_announced {best : Option (NodeInfo × α)} {auto : Bool}
    {found : ListedGame} {node : NodeInfo} {port : UInt16} :
    MonitorEvent.autoConnected found node port ∉
      (best.map fun found => .bestNode found.1 found.2).toList ++
        [MonitorEvent.gameDetected game (best.map Prod.fst) auto] := by
  intro member
  cases best <;> simp at member

variable [Preorder α] [DecidableLT α] [OfNat α 999]

/-- A detected game is remembered, an active boost is left alone, and the event of a
connection says that there was none before and is one now. -/
theorem gameDetected_spec (monitor : SmartMonitor σ) (tick : Tick σ α) (game : ListedGame)
    (loggedIn : monitor.app.tokens.isSome) :
    (host.gameDetected monitor tick game).1.lastDetectedSlug = some game.slug ∧
      (host.gameDetected monitor tick game).1.app.tokens.isSome ∧
      (monitor.app.activeProxy.isSome →
        (host.gameDetected monitor tick game).1.app = monitor.app) ∧
      ∀ found node port,
        .autoConnected found node port ∈ (host.gameDetected monitor tick game).2 →
          found = game ∧ monitor.app.activeProxy = none ∧
            (host.gameDetected monitor tick game).1.app.activeProxy.isSome := by
  unfold gameDetected
  by_cases already : monitor.lastDetectedSlug = some game.slug
  · rw [if_pos already]
    refine ⟨already, loggedIn, fun _ => rfl, ?_⟩
    intro found node port member
    cases member
  rw [if_neg already]
  by_cases boosting : monitor.app.activeProxy.isSome = true
  · rw [if_pos boosting]
    refine ⟨rfl, loggedIn, fun _ => rfl, ?_⟩
    intro found node port member
    cases member
  rw [if_neg boosting]
  have idle : monitor.app.activeProxy = none := Option.not_isSome_iff_eq_none.mp boosting
  dsimp only
  split
  · next node _ _ =>
      obtain ⟨app, server, result, call, tokens, active⟩ :=
        autoConnect_kept host.windows loggedIn idle game.toGameProfile node.id
          (tick.config.getD .default).multipath tick.outcome
      rw [call]
      cases result with
      | error e =>
          refine ⟨rfl, tokens, fun boosted => absurd boosted boosting,
            fun found node port member => ?_⟩
          exact absurd member autoConnected_notMem_announced
      | ok port =>
          refine ⟨rfl, tokens, fun boosted => absurd boosted boosting,
            fun found node' port' member => ?_⟩
          rcases List.mem_append.mp member with early | last
          · exact absurd early autoConnected_notMem_announced
          · cases List.mem_singleton.mp last
            exact ⟨rfl, idle, active port rfl⟩
  · refine ⟨rfl, loggedIn, fun _ => rfl, ?_⟩
    intro found node port member
    exact absurd member autoConnected_notMem_announced

/-- The monitor of a tick, before it looks at the processes. -/
def looking (monitor : SmartMonitor σ) (tick : Tick σ α) (cache : GamesCache) :
    SmartMonitor σ :=
  { monitor with server := tick.elsewhere monitor.server, gamesCache := cache }

/-- What a tick can be: of a logged-out user, without the games list, or decided by the
detector. -/
inductive Ticks (monitor : SmartMonitor σ) (tick : Tick σ α) : Prop
  | loggedOut (nobody : monitor.app.tokens = none)
      (step : host.step monitor tick = ({ monitor with
        server := tick.elsewhere monitor.server
        lastDetectedSlug := none }, []))
  | unlisted (loggedIn : monitor.app.tokens.isSome) (missing : ¬ Available monitor tick)
      (step : host.step monitor tick =
        ({ monitor with server := tick.elsewhere monitor.server }, []))
  | detected (loggedIn : monitor.app.tokens.isSome) (cache : GamesCache)
      (refreshed : monitor.gamesCache.refresh tick = .ok cache) (game : ListedGame)
      (detected : host.detectRunningGame tick.processes cache.games = some game)
      (step : host.step monitor tick = host.gameDetected (looking monitor tick cache) tick game)
  | undetected (loggedIn : monitor.app.tokens.isSome) (cache : GamesCache)
      (refreshed : monitor.gamesCache.refresh tick = .ok cache)
      (undetected : host.detectRunningGame tick.processes cache.games = none)
      (step : host.step monitor tick = host.noneDetected (looking monitor tick cache) tick)

theorem ticks (monitor : SmartMonitor σ) (tick : Tick σ α) : host.Ticks monitor tick := by
  by_cases nobody : monitor.app.tokens.isNone = true
  · apply Ticks.loggedOut (Option.isNone_iff_eq_none.mp nobody)
    unfold step
    rw [if_pos nobody]
  have loggedIn : monitor.app.tokens.isSome :=
    Option.isSome_iff_ne_none.mpr (mt Option.isNone_iff_eq_none.mpr nobody)
  cases refreshed : monitor.gamesCache.refresh tick with
  | error e =>
      apply Ticks.unlisted loggedIn
      · unfold Available
        rw [refreshed]
        exact Bool.false_ne_true
      · unfold step
        dsimp only
        rw [if_neg nobody, refreshed]
  | ok cache =>
      cases detected : host.detectRunningGame tick.processes cache.games with
      | some game =>
          apply Ticks.detected loggedIn cache refreshed game detected
          unfold step
          dsimp only
          rw [if_neg nobody, refreshed]
          dsimp only
          rw [detected]
          rfl
      | none =>
          apply Ticks.undetected loggedIn cache refreshed detected
          unfold step
          dsimp only
          rw [if_neg nobody, refreshed]
          dsimp only
          rw [detected]
          rfl

theorem watched_gameDetected (watched : Watched monitor) :
    Watched (host.gameDetected monitor tick game).1 := by
  obtain ⟨slug, tokens, _⟩ := gameDetected_spec host monitor tick game watched.1
  exact ⟨tokens, fun _ => slug ▸ rfl⟩

omit [Preorder α] [DecidableLT α] [OfNat α 999] in
theorem watched_noneDetected (watched : Watched monitor) :
    Watched (host.noneDetected monitor tick).1 := by
  obtain ⟨tokens, closed, same, _⟩ := noneDetected_spec host monitor tick
  cases slug : monitor.lastDetectedSlug with
  | none => rwa [same slug]
  | some slug' =>
      refine ⟨tokens ▸ watched.1, ?_⟩
      intro boosting
      rw [closed (slug ▸ rfl)] at boosting
      cases boosting

/-- No tick leaves an active boost without a remembered game. -/
theorem watched_step (watched : Watched monitor) : Watched (host.step monitor tick).1 := by
  cases host.ticks monitor tick with
  | loggedOut nobody step => exact absurd watched.1 (by rw [nobody]; exact Bool.false_ne_true)
  | unlisted loggedIn missing step =>
      rw [step]
      exact watched
  | detected loggedIn cache refreshed game detected step =>
      rw [step]
      exact watched_gameDetected host watched
  | undetected loggedIn cache refreshed undetected step =>
      rw [step]
      exact watched_noneDetected host watched

/-- A watched boost goes through a tick exactly if a listed game runs. -/
theorem step_keeps_iff (watched : Watched monitor) (available : Available monitor tick)
    {boost : ActiveBoost} (boosting : monitor.app.activeProxy = some boost) :
    ((host.step monitor tick).1.app.activeProxy = some boost ↔
        host.SomeListedRuns monitor tick) ∧
      ((host.step monitor tick).1.app.activeProxy = none ↔
        ¬ host.SomeListedRuns monitor tick) := by
  have active : monitor.app.activeProxy.isSome := boosting ▸ rfl
  unfold SomeListedRuns games
  cases host.ticks monitor tick with
  | loggedOut nobody step => exact absurd watched.1 (by rw [nobody]; exact Bool.false_ne_true)
  | unlisted loggedIn missing step => exact absurd available missing
  | detected loggedIn cache refreshed game detected step =>
      have kept := (gameDetected_spec host (looking monitor tick cache) tick game watched.1).2.2.1
        active
      rw [refreshed]
      dsimp only
      rw [← detectRunningGame_isSome, step, detected, kept]
      simp [looking, boosting]
  | undetected loggedIn cache refreshed undetected step =>
      have closed := (noneDetected_spec host (looking monitor tick cache) tick).2.1
        (watched.2 active)
      rw [refreshed]
      dsimp only
      rw [← detectRunningGame_isSome, step, undetected, closed]
      simp

/-- The event of a connection tells of a boost that the tick has opened. -/
theorem of_autoConnected {found : ListedGame} {node : NodeInfo} {port : UInt16}
    (connected : .autoConnected found node port ∈ (host.step monitor tick).2) :
    Watched monitor ∧ (host.step monitor tick).1.app.activeProxy.isSome := by
  cases host.ticks monitor tick with
  | loggedOut nobody step =>
      rw [step] at connected
      cases connected
  | unlisted loggedIn missing step =>
      rw [step] at connected
      cases connected
  | detected loggedIn cache refreshed game detected step =>
      rw [step] at connected ⊢
      obtain ⟨_, idle, active⟩ :=
        (gameDetected_spec host (looking monitor tick cache) tick game loggedIn).2.2.2 found node
          port connected
      refine ⟨⟨loggedIn, fun boosting => ?_⟩, active⟩
      change monitor.app.activeProxy = none at idle
      rw [idle] at boosting
      cases boosting
  | undetected loggedIn cache refreshed undetected step =>
      rw [step] at connected
      exact absurd connected ((noneDetected_spec host _ tick).2.2.2 found node port)

/-! ## Runs of the monitor -/

/-- This tick connects for the game. -/
def Connects (monitor : SmartMonitor σ) (tick : Tick σ α) (game : ListedGame) : Prop :=
  ∃ node port, .autoConnected game node port ∈ (host.step monitor tick).2

/-- The boost that a tick leaves goes through the ticks after it, and the last one stops it.
No tick both stops a boost and starts one, so an equal boost is the same one. -/
def StopsThatBoost (opened : SmartMonitor σ) (between : List (Tick σ α)) (last : Tick σ α) :
    Prop :=
  (∀ n, (Machine.run host.step opened (between.take n)).1.app.activeProxy =
      opened.app.activeProxy) ∧
    (Machine.run host.step opened (between ++ [last])).1.app.activeProxy = none

/-- A listed game runs, and it is another one. -/
def AnotherListedRuns (game : ListedGame) (monitor : SmartMonitor σ) (tick : Tick σ α) : Prop :=
  ∃ other ∈ games monitor tick, other ≠ game ∧ host.Runs other tick.processes

/-- A watched boost goes through all ticks at which a listed game runs, and through no
others. -/
theorem legal_someListedRuns_iff {opened : SmartMonitor σ} (watched : Watched opened)
    (active : opened.app.activeProxy.isSome) {ticks : List (Tick σ α)}
    (available : Machine.Legal Available host.step opened ticks) :
    Machine.Legal host.SomeListedRuns host.step opened ticks ↔
      ∀ n, (Machine.run host.step opened (ticks.take n)).1.app.activeProxy =
        opened.app.activeProxy := by
  obtain ⟨boost, boosting⟩ := Option.isSome_iff_exists.mp active
  rw [boosting]
  have kept_iff : ∀ (monitor : SmartMonitor σ) (tick : Tick σ α), Watched monitor →
      monitor.app.activeProxy = some boost → Available monitor tick →
      ((host.step monitor tick).1.app.activeProxy = some boost ↔
        host.SomeListedRuns monitor tick) := by
    intro monitor tick watched boosting available
    exact (step_keeps_iff host watched available boosting).1
  exact Machine.legal_iff_invariant_of_legal Watched
    (fun _ _ watched _ _ => watched_step host watched) kept_iff watched boosting available

/-- While a game runs, it is enough that it stays on the list. -/
theorem legal_listed_iff {opened : SmartMonitor σ} {ticks : List (Tick σ α)}
    (running : ∀ tick ∈ ticks, host.Runs game tick.processes) :
    Machine.Legal
        (fun monitor tick => game ∈ games monitor tick ∨ host.SomeListedRuns monitor tick)
        host.step opened ticks ↔
      Machine.Legal host.SomeListedRuns host.step opened ticks := by
  rw [Machine.legal_iff_getElem?, Machine.legal_iff_getElem?]
  refine forall_congr' fun n => forall_congr' fun tick => imp_congr_right fun found => ?_
  apply or_iff_right_of_imp
  intro listed
  exact ⟨game, listed, running tick (List.mem_of_getElem? found)⟩

omit [Preorder α] [DecidableLT α] [OfNat α 999] in
/-- A listed game that runs is not the one that does not. -/
theorem someListedRuns_iff_another (closed : ¬ host.Runs game tick.processes) :
    host.SomeListedRuns monitor tick ↔ host.AnotherListedRuns game monitor tick := by
  constructor
  · rintro ⟨other, listed, runs⟩
    refine ⟨other, listed, ?_, runs⟩
    rintro rfl
    exact closed runs
  · rintro ⟨other, listed, _, runs⟩
    exact ⟨other, listed, runs⟩

/-- Where the games list is at hand at every tick, a boost that the monitor has started for a
game is stopped at the first tick at which the game does not run exactly if no other listed
game runs then, and until then the game stayed on the list or another one on it ran. -/
theorem stopsThatBoost_iff {game : ListedGame} {between : List (Tick σ α)} {last : Tick σ α}
    (connects : host.Connects monitor tick game)
    (available : Machine.Legal Available host.step (host.step monitor tick).1
      (between ++ [last]))
    (running : ∀ tick ∈ between, host.Runs game tick.processes)
    (closed : ¬ host.Runs game last.processes) :
    host.StopsThatBoost (host.step monitor tick).1 between last ↔
      Machine.Legal
          (fun monitor tick => game ∈ games monitor tick ∨ host.SomeListedRuns monitor tick)
          host.step (host.step monitor tick).1 between ∧
        ¬ host.AnotherListedRuns game
            (Machine.run host.step (host.step monitor tick).1 between).1 last := by
  obtain ⟨node, port, connected⟩ := connects
  obtain ⟨before, active⟩ := of_autoConnected host connected
  have watched : Watched (host.step monitor tick).1 := watched_step host before
  generalize (host.step monitor tick).1 = opened at *
  rw [Machine.legal_append] at available
  obtain ⟨available, atLast, _⟩ := available
  rw [legal_listed_iff host running, legal_someListedRuns_iff host watched active available]
  refine and_congr_right fun kept => ?_
  obtain ⟨boost, boosting⟩ := Option.isSome_iff_exists.mp active
  have still := kept between.length
  rw [List.take_length, boosting] at still
  have watched' : Watched (Machine.run host.step opened between).1 :=
    Machine.run_always Watched (fun _ _ kept => watched_step host kept) watched between
  rw [Machine.run_append, Machine.run_cons, Machine.run_nil,
    (step_keeps_iff host watched' atLast still).2, someListedRuns_iff_another host closed]

end MonitorHost

/-- A game of the list, with its one exe. -/
def oneExe (slug exe : String) : ListedGame where
  slug := slug
  serverIps := ["155.133.232.1"]
  ports := ["27015"]
  name := slug
  exeNames := [exe]

/-- Two games are listed, and everything the monitor asks for succeeds. -/
def fineTick (processes : List String) : Tick Unit Nat where
  elsewhere := id
  now := 0
  getGames := .ok [oneExe "cs2" "cs2.exe", oneExe "dota-2" "dota2.exe"]
  answered := 0
  processes := processes
  config := none
  getNodes := .ok [⟨10, "DE", "203.0.113.1", "online", 443⟩]
  pingNode := fun id => .ok ⟨id, some 20, "online"⟩
  outcome := ⟨⟨.answered, .error .refreshFailed, .answered⟩, .ok (),
    ⟨.ok 27015, .ok (), .ok (), .ok ()⟩⟩
  stopExchange := ⟨.answered, .error .refreshFailed, .answered⟩

/-- A host on Windows with an API that opens session 100. -/
def windowsHost : MonitorHost Unit where
  windows := true
  api :=
    { startSession := fun _ _ => ((), .ok ⟨100, 7, "203.0.113.1", 443, none, none, false,
        ["155.133.232.1"], ["27015"]⟩)
      stopSession := fun _ _ => ((), .ok ()) }
  toLowercase := String.toLower

/-- The client after a login. -/
def afterLogin : SmartMonitor Unit where
  app := ⟨some ⟨"a", "r"⟩, none, none⟩
  server := ()
  lastDetectedSlug := none
  gamesCache := ⟨[], 0⟩

theorem connects_cs2 :
    windowsHost.Connects afterLogin (fineTick ["cs2.exe"]) (oneExe "cs2" "cs2.exe") :=
  ⟨⟨10, "DE", "203.0.113.1", "online", 443⟩, 0, by decide +kernel⟩

/-- No other game is started, and the boost is stopped when the game is closed. -/
theorem stopsThatBoost_closedGame :
    windowsHost.StopsThatBoost
      (windowsHost.step afterLogin (fineTick ["cs2.exe"])).1
      [fineTick ["cs2.exe", "explorer.exe"]] (fineTick ["explorer.exe"]) := by
  refine (windowsHost.stopsThatBoost_iff connects_cs2 ?_ ?_ ?_).mpr ⟨⟨.inl ?_, trivial⟩, ?_⟩
  · decide +kernel
  · decide +kernel
  · decide +kernel
  · decide +kernel
  · unfold MonitorHost.AnotherListedRuns
    decide +kernel

/-- A second game is started before the first one is closed. -/
theorem secondGame_keeps_boost :
    let opened := (windowsHost.step afterLogin (fineTick ["cs2.exe"])).1
    let between := [fineTick ["cs2.exe", "dota2.exe"]]
    let last := fineTick ["dota2.exe"]
    windowsHost.Connects afterLogin (fineTick ["cs2.exe"]) (oneExe "cs2" "cs2.exe") ∧
      Machine.Legal MonitorHost.Available windowsHost.step opened (between ++ [last]) ∧
      (∀ tick ∈ between, windowsHost.Runs (oneExe "cs2" "cs2.exe") tick.processes) ∧
      ¬ windowsHost.Runs (oneExe "cs2" "cs2.exe") last.processes ∧
      ¬ windowsHost.StopsThatBoost opened between last := by
  refine ⟨connects_cs2, by decide +kernel, by decide +kernel, by decide +kernel, ?_⟩
  rintro ⟨_, stopped⟩
  exact absurd (Option.isNone_iff_eq_none.mpr stopped) (by decide +kernel)

end PlgBooster.Client
