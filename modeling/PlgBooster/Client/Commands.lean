import PlgBooster.Client.Boost
import PlgBooster.Library.Transaction

/-!
# Commands from await to await

The client's commands around `with_auto_refresh`, cut at their await points, so that two of
them can run at the same time. A command copies the tokens and sends its request; if the
access token is refused it refreshes, and asks again with the new one; and what comes back is
stored, or not, by the command itself. A start then waits for its boost to open, and for the
lock of the boost.

The server is a parameter: its state and what it does with a refresh. What the endpoint
answers to the two requests is an argument of the command. Between a request and the arrival
of its answer other commands take steps.
-/

namespace PlgBooster.Client

open Rust Transaction

/-- The commands, with how a start opens the boost for what it is answered. -/
inductive Command (α : Type) where
  | cmdGetUser
  | cmdGetUserStats
  | cmdActivateTrial
  | cmdStartSession
  | cmdStopSession
  | cmdGetSessionHistory
  | cmdStartBoost (openBoost : α → Except String (ActiveBoost × Id))
  | autoConnect (openBoost : α → Except String (ActiveBoost × Id))
  | cmdStopBoost
  | autoDisconnect

variable {σ ε α : Type}

namespace Command

/-- `tokens.ok_or("Not authenticated")?`. -/
def authenticated (app : AppState) : AppState × (AuthTokens ⊕ Except String Unit) :=
  match app.tokens with
  | none => (app, .inr (.error "Not authenticated"))
  | some tokens => (app, .inl tokens)

/-- Take the boost and the session out of the state. Without a session or without tokens
nothing is sent. -/
def stopping (app : AppState) : AppState × (AuthTokens ⊕ Except String Unit) :=
  let forgotten := { app with activeProxy := none, activeSessionId := none }
  match app.activeSessionId, app.tokens with
  | some _, some tokens => (forgotten, .inl tokens)
  | _, _ => (forgotten, .inr (.ok ()))

/-- What a command does before `with_auto_refresh`: it gets the tokens for it, or ends. -/
def enter (app : AppState) : Command α → AppState × (AuthTokens ⊕ Except String Unit)
  | .cmdGetUser => authenticated app
  | .cmdGetUserStats => authenticated app
  | .cmdActivateTrial => authenticated app
  | .cmdStartSession => authenticated app
  | .cmdStopSession => authenticated app
  | .cmdGetSessionHistory => authenticated app
  | .cmdStartBoost _ =>
      -- Check if already connected
      if app.activeProxy.isSome then
        (app, .inr (.error "Already connected. Stop current session first."))
      else authenticated app
  | .autoConnect _ => if app.activeProxy.isSome then (app, .inr (.ok ())) else authenticated app
  | .cmdStopBoost => stopping app
  | .autoDisconnect => if app.activeProxy.isSome then stopping app else (app, .inr (.ok ()))

/-- Update tokens if refreshed. -/
def store (app : AppState) (newTokens : Option AuthTokens) : AppState :=
  { app with tokens := newTokens.or app.tokens }

/-- Pass the result on, with the text of an error, and store new tokens. -/
def passOn (text : ApiError → String) (app : AppState) :
    Except ApiError (α × Option AuthTokens) → AppState × Except String Unit
  | .error e => (app, .error (text e))
  | .ok (_, newTokens) => (store app newTokens, .ok ())

/-- An expired session is forgotten. -/
def leaveGetUser (app : AppState) :
    Except ApiError (α × Option AuthTokens) → AppState × Except String Unit
  | .error .refreshFailed =>
      ({ app with tokens := none }, .error "Session expired, please login again")
  | .error .unauthorized =>
      ({ app with tokens := none }, .error "Session expired, please login again")
  | .error e => (app, .error e.message)
  | .ok (_, newTokens) => (store app newTokens, .ok ())

def trialText : ApiError → String
  | .forbidden msg => msg
  | e => e.message

/-- What is left of a command after its call: the opening of a boost, or only its result. -/
abbrev Rest := Except String (ActiveBoost × Id) ⊕ Except String Unit

/-- Store new tokens, and go on to open the boost. -/
def leaveStart (openBoost : α → Except String (ActiveBoost × Id)) (app : AppState) :
    Except ApiError (α × Option AuthTokens) → AppState × Rest
  | .error e => (app, .inr (.error e.message))
  | .ok (resp, newTokens) => (store app newTokens, .inl (openBoost resp))

/-- What a command does with the result of `with_auto_refresh`. -/
def leave (app : AppState) (command : Command α)
    (result : Except ApiError (α × Option AuthTokens)) : AppState × Rest :=
  match command with
  | .cmdGetUser => (leaveGetUser app result).map id .inr
  | .cmdGetUserStats => (passOn ApiError.message app result).map id .inr
  | .cmdActivateTrial => (passOn trialText app result).map id .inr
  | .cmdStartSession => (passOn ApiError.message app result).map id .inr
  | .cmdStopSession => (passOn ApiError.message app result).map id .inr
  | .cmdGetSessionHistory => (passOn ApiError.message app result).map id .inr
  | .cmdStartBoost openBoost => leaveStart openBoost app result
  | .autoConnect openBoost => leaveStart openBoost app result
  -- `let _ = with_auto_refresh(..)`: new tokens are dropped
  | .cmdStopBoost => (app, .inr (.ok ()))
  | .autoDisconnect => (app, .inr (.ok ()))

/-- Store state. -/
def keepBoost (app : AppState) (boost : ActiveBoost) (sessionId : Id) : AppState :=
  { app with activeProxy := some boost, activeSessionId := some sessionId }

/-- The rest of a command without interruption. -/
def finish (app : AppState) : Rest → AppState × Except String Unit
  | .inl (.error e) => (app, .error e)
  | .inl (.ok (boost, sessionId)) => (keepBoost app boost sessionId, .ok ())
  | .inr result => (app, result)

end Command

/-- One execution of a command: what the endpoint answers to its two requests, and what a
refresh draws on the server. -/
structure CommandRun (ε α : Type) where
  command : Command α
  first : Except ApiError α
  retry : Except ApiError α
  draws : ε

/-- How far a command has come. -/
inductive CommandStage (ε α : Type) where
  | enter (run : CommandRun ε α)
  | first (run : CommandRun ε α) (tokens : AuthTokens)
  | refresh (run : CommandRun ε α) (tokens : AuthTokens)
  | retry (run : CommandRun ε α) (newTokens : AuthTokens)
  | leave (run : CommandRun ε α) (accessToken : String)
      (result : Except ApiError (α × Option AuthTokens))
  /-- A start that has its session waits for the boost. -/
  | awaitOpen (accessToken : String) (opened : Except String (ActiveBoost × Id))
  /-- It has the boost, and waits for the lock of `active_proxy`. -/
  | keepBoost (accessToken : String) (boost : ActiveBoost) (sessionId : Id)

/-- What a command returns, and the last access token it has sent. -/
structure CommandOutcome where
  accessToken : Option String
  result : Except String Unit

section Program

-- What the server does with a refresh.
variable (refresh : ε → σ → String → σ × Except ApiError AuthTokens)

/-- One step of a command. -/
def commandStep (world : AppState × σ) :
    CommandStage ε α → (AppState × σ) × (CommandStage ε α ⊕ CommandOutcome)
  | .enter run =>
      match run.command.enter world.1 with
      | (app, .inl tokens) => ((app, world.2), .inl (.first run tokens))
      | (app, .inr result) => ((app, world.2), .inr ⟨none, result⟩)
  -- Try with current access token
  | .first run tokens =>
      (world, .inl (match run.first with
        | .ok value => .leave run tokens.accessToken (.ok (value, none))
        | .error .unauthorized => .refresh run tokens
        | .error e => .leave run tokens.accessToken (.error e)))
  | .refresh run tokens =>
      match refresh run.draws world.2 tokens.refreshToken with
      | (server, .ok newTokens) => ((world.1, server), .inl (.retry run newTokens))
      | (server, .error e) =>
          ((world.1, server), .inl (.leave run tokens.accessToken (.error e)))
  -- Retry with new token
  | .retry run newTokens =>
      (world, .inl (.leave run newTokens.accessToken
        (run.retry.map fun value => (value, some newTokens))))
  | .leave run accessToken result =>
      match run.command.leave world.1 result with
      | (app, .inl opened) => ((app, world.2), .inl (.awaitOpen accessToken opened))
      | (app, .inr result) => ((app, world.2), .inr ⟨some accessToken, result⟩)
  | .awaitOpen accessToken opened =>
      (world, match opened with
        | .error e => .inr ⟨some accessToken, .error e⟩
        | .ok (boost, sessionId) => .inl (.keepBoost accessToken boost sessionId))
  | .keepBoost accessToken boost sessionId =>
      ((Command.keepBoost world.1 boost sessionId, world.2), .inr ⟨some accessToken, .ok ()⟩)

def CommandStage.rank : CommandStage ε α → Nat
  | .enter _ => 6
  | .first _ _ => 5
  | .refresh _ _ => 4
  | .retry _ _ => 3
  | .leave _ _ _ => 2
  | .awaitOpen _ _ => 1
  | .keepBoost _ _ _ => 0

theorem commandStep_descends (world : AppState × σ) (stage stage' : CommandStage ε α)
    (next : (commandStep refresh world stage).2 = .inl stage') : stage'.rank < stage.rank := by
  cases stage with
  | enter run =>
      simp only [commandStep] at next
      split at next <;> cases next
      exact Nat.lt_succ_self _
  | first run tokens =>
      obtain rfl := Sum.inl.inj next
      split <;> simp [CommandStage.rank]
  | refresh run tokens =>
      simp only [commandStep] at next
      split at next <;> cases next <;> simp [CommandStage.rank]
  | retry run newTokens =>
      obtain rfl := Sum.inl.inj next
      exact Nat.lt_succ_self _
  | leave run accessToken result =>
      simp only [commandStep] at next
      split at next <;> cases next
      exact Nat.lt_succ_self _
  | awaitOpen accessToken opened =>
      cases opened with
      | error e => cases next
      | ok boost =>
          cases next
          exact Nat.lt_succ_self _
  | keepBoost accessToken boost sessionId => cases next

/-- A command as a program over the client's state and the server's. -/
def commands : Program (AppState × σ) (CommandStage ε α) CommandOutcome where
  step := commandStep refresh
  rank := CommandStage.rank
  descends := commandStep_descends refresh

/-- `with_auto_refresh` without interruption: the server after it, the last access token sent,
and the result. -/
def CommandRun.call (run : CommandRun ε α) (server : σ) (tokens : AuthTokens) :
    σ × String × Except ApiError (α × Option AuthTokens) :=
  match run.first with
  | .ok value => (server, tokens.accessToken, .ok (value, none))
  | .error .unauthorized =>
      match refresh run.draws server tokens.refreshToken with
      | (server, .ok newTokens) =>
          (server, newTokens.accessToken, run.retry.map fun value => (value, some newTokens))
      | (server, .error e) => (server, tokens.accessToken, .error e)
  | .error e => (server, tokens.accessToken, .error e)

/-- From its first request a command run alone comes to the end of its call. -/
theorem exec_first (world : AppState × σ) (run : CommandRun ε α) (tokens : AuthTokens) :
    let called := run.call refresh world.2 tokens
    (commands refresh).exec world (.first run tokens) =
      (commands refresh).exec (world.1, called.1) (.leave run called.2.1 called.2.2) := by
  intro called
  have asked : (commands refresh).exec world (.first run tokens) =
      (commands refresh).exec world (match run.first with
        | .ok value => .leave run tokens.accessToken (.ok (value, none))
        | .error .unauthorized => .refresh run tokens
        | .error e => .leave run tokens.accessToken (.error e)) :=
    (commands refresh).exec_of_step_inl rfl
  rw [asked]
  simp only [called, CommandRun.call]
  cases run.first with
  | ok value => rfl
  | error e =>
      cases e with
      | unauthorized =>
          cases exchanged : refresh run.draws world.2 tokens.refreshToken with
          | mk server answer =>
              cases answer with
              | error e =>
                  have taken : (commands refresh).step world (.refresh run tokens) =
                      ((world.1, server), .inl (.leave run tokens.accessToken (.error e))) := by
                    simp only [commands, commandStep, exchanged]
                  exact (commands refresh).exec_of_step_inl taken
              | ok newTokens =>
                  have taken : (commands refresh).step world (.refresh run tokens) =
                      ((world.1, server), .inl (.retry run newTokens)) := by
                    simp only [commands, commandStep, exchanged]
                  apply ((commands refresh).exec_of_step_inl taken).trans
                  exact (commands refresh).exec_of_step_inl rfl
      | _ => rfl

/-- A command leaves its call in the client's state, whatever is left to do. -/
theorem commandStep_leave (world : AppState × σ) (run : CommandRun ε α) (accessToken : String)
    (result : Except ApiError (α × Option AuthTokens)) :
    (commandStep refresh world (.leave run accessToken result)).1 =
      ((run.command.leave world.1 result).1, world.2) := by
  simp only [commandStep]
  split <;> simp [*]

/-- From the end of its call a command run alone does the rest. -/
theorem exec_leave (world : AppState × σ) (run : CommandRun ε α) (accessToken : String)
    (result : Except ApiError (α × Option AuthTokens)) :
    (commands refresh).exec world (.leave run accessToken result) =
      let left := run.command.leave world.1 result
      let finished := Command.finish left.1 left.2
      ((finished.1, world.2), some ⟨some accessToken, finished.2⟩) := by
  cases left : run.command.leave world.1 result with
  | mk app rest =>
      cases rest with
      | inr ended =>
          have taken : (commands refresh).step world (.leave run accessToken result) =
              ((app, world.2), .inr ⟨some accessToken, ended⟩) := by
            simp only [commands, commandStep, left]
          exact (commands refresh).exec_of_step_inr taken
      | inl opened =>
          have taken : (commands refresh).step world (.leave run accessToken result) =
              ((app, world.2), .inl (.awaitOpen accessToken opened)) := by
            simp only [commands, commandStep, left]
          rw [(commands refresh).exec_of_step_inl taken]
          cases opened with
          | error e => exact (commands refresh).exec_of_step_inr rfl
          | ok boost =>
              apply ((commands refresh).exec_of_step_inl rfl).trans
              exact (commands refresh).exec_of_step_inr rfl

/-- A command run alone: it ends at once, or deals with the result of its call. -/
theorem exec_enter (app : AppState) (server : σ) (run : CommandRun ε α) :
    (commands refresh).exec (app, server) (.enter run) =
      match run.command.enter app with
      | (app, .inr result) => ((app, server), some ⟨none, result⟩)
      | (app, .inl tokens) =>
          let called := run.call refresh server tokens
          let left := run.command.leave app called.2.2
          let finished := Command.finish left.1 left.2
          ((finished.1, called.1), some ⟨some called.2.1, finished.2⟩) := by
  cases entered : run.command.enter app with
  | mk app' next =>
      cases next with
      | inr result =>
          exact (commands refresh).exec_of_step_inr (by simp only [commands, commandStep, entered])
      | inl tokens =>
          have taken : (commands refresh).step (app, server) (.enter run) =
              ((app', server), .inl (.first run tokens)) := by
            simp only [commands, commandStep, entered]
          apply ((commands refresh).exec_of_step_inl taken).trans
          rw [exec_first, exec_leave]

end Program

/-! ## Commands in one go -/

section Boost

variable {τ : Type} (refresh : ε → σ → String → σ × Except ApiError AuthTokens)

/-- A run is answered as the exchange says, by a handler of the API in its state. -/
structure CommandRun.Follows (run : CommandRun ε α) (server : σ) (exchange : Exchange)
    (handler : τ → τ × Except ApiError α) (api : τ) : Prop where
  first : run.first = (exchange.first.send handler api).2
  retry : run.retry = (exchange.second.send handler (exchange.first.send handler api).1).2
  refreshed : ∀ refreshToken, (refresh run.draws server refreshToken).2 = exchange.refresh

variable {refresh}

theorem CommandRun.Follows.call_eq {run : CommandRun ε α} {server : σ} {exchange : Exchange}
    {handler : τ → τ × Except ApiError α} {api : τ}
    (follows : run.Follows refresh server exchange handler api) (tokens : AuthTokens) :
    (run.call refresh server tokens).2.2 = (withAutoRefresh exchange handler api).2 := by
  obtain ⟨first, retry, refreshed⟩ := follows
  have refreshed := refreshed tokens.refreshToken
  cases asked : exchange.first.send handler api with
  | mk api' answer =>
      rw [asked] at first retry
      simp only [CommandRun.call, first, withAutoRefresh, asked, retry]
      cases answer with
      | ok value => rfl
      | error e =>
          cases e with
          | unauthorized =>
              rw [← refreshed]
              rcases refresh run.draws server tokens.refreshToken with ⟨server', e | newTokens⟩
              · rfl
              · rfl
          | _ => rfl

/-- What a start opens for an answer, with the session it remembers. -/
def openedBy (openWith : SessionStartResponse → SocketAddr → Except String ActiveBoost)
    (resp : SessionStartResponse) : Except String (ActiveBoost × Id) :=
  match resp.relayAddr with
  | .error e => .error e
  | .ok relayAddr => (openWith resp relayAddr).map fun boost => (boost, resp.sessionId)

theorem leaveStart_eq_startWith {app : AppState} {tokens : AuthTokens}
    (held : app.tokens = some tokens) (api : Api τ) (server : τ) (request : SessionStartRequest)
    (openWith : SessionStartResponse → SocketAddr → Except String ActiveBoost)
    (exchange : Exchange) :
    let left := Command.leaveStart (openedBy openWith) app
      (withAutoRefresh exchange (api.startSession · request) server).2
    (Command.finish left.1 left.2).1 =
      (startWith api app server request openWith exchange).1 := by
  obtain ⟨_, activeProxy, activeSessionId⟩ := app
  subst held
  rw [startWith]
  rcases withAutoRefresh exchange (api.startSession · request) server with
    ⟨server', e | ⟨resp, newTokens⟩⟩
  · rfl
  · cases addr : resp.relayAddr with
    | error e => simp only [Command.leaveStart, Command.finish, Command.store, openedBy, addr]
    | ok relayAddr =>
        cases opened : openWith resp relayAddr <;>
          simp only [Command.leaveStart, Command.finish, Command.keepBoost, Command.store, openedBy,
            addr, opened, Except.map]

/-- A command that enters with its tokens, and leaves as a start, is the start of a boost. -/
theorem exec_startWith {run : CommandRun ε SessionStartResponse} {app : AppState} {server : σ}
    {api : Api τ} {apiServer : τ} {request : SessionStartRequest}
    {openWith : SessionStartResponse → SocketAddr → Except String ActiveBoost}
    {exchange : Exchange} (enters : run.command.enter app = Command.authenticated app)
    (leaves : ∀ app result,
      run.command.leave app result = Command.leaveStart (openedBy openWith) app result)
    (follows : run.Follows refresh server exchange (api.startSession · request) apiServer) :
    ((commands refresh).exec (app, server) (.enter run)).1.1 =
      (startWith api app apiServer request openWith exchange).1 := by
  rw [exec_enter, enters]
  cases held : app.tokens with
  | none => simp only [Command.authenticated, startWith, held]
  | some tokens =>
      simp only [Command.authenticated, held, leaves, follows.call_eq]
      exact leaveStart_eq_startWith held api apiServer request openWith exchange

/-- A start without interruption is the start of a boost. -/
theorem exec_cmdStartBoost {run : CommandRun ε SessionStartResponse} {server : σ} {windows : Bool}
    {api : Api τ} {app : AppState} {apiServer : τ} {args : StartArgs} {outcome : StartOutcome}
    (start : run.command = .cmdStartBoost (openedBy fun resp relayAddr =>
      openBoost windows resp relayAddr args outcome))
    (follows : run.Follows refresh server outcome.exchange
      (api.startSession · ⟨args.gameSlug, args.nodeId, args.multipath⟩) apiServer) :
    ((commands refresh).exec (app, server) (.enter run)).1.1 =
      (cmdStartBoost windows api app apiServer args outcome).1 := by
  by_cases connected : app.activeProxy.isSome
  · rw [exec_enter, start]
    simp only [Command.enter, cmdStartBoost, if_pos connected]
  · rw [cmdStartBoost, if_neg connected]
    refine exec_startWith ?_ ?_ follows
    · rw [start, Command.enter, if_neg connected]
    · intro app result
      rw [start]
      rfl

theorem exec_autoConnect {run : CommandRun ε SessionStartResponse} {server : σ} {windows : Bool}
    {api : Api τ} {app : AppState} {apiServer : τ} {game : GameProfile} {nodeId : Id}
    {multipath : Bool} {outcome : StartOutcome}
    (start : run.command = .autoConnect (openedBy fun resp relayAddr =>
      openAutoBoost windows resp relayAddr game outcome))
    (follows : run.Follows refresh server outcome.exchange
      (api.startSession · ⟨game.slug, nodeId, some multipath⟩) apiServer) :
    ((commands refresh).exec (app, server) (.enter run)).1.1 =
      (autoConnect windows api app apiServer game nodeId multipath outcome).1 := by
  by_cases connected : app.activeProxy.isSome
  · rw [exec_enter, start]
    simp only [Command.enter, autoConnect, if_pos connected]
  · rw [autoConnect, if_neg connected]
    refine exec_startWith ?_ ?_ follows
    · rw [start, Command.enter, if_neg connected]
    · intro app result
      rw [start]
      rfl

/-- A command that takes the boost out of the state, and drops what its call returns, is the
stop of a boost. -/
theorem exec_stopWith {run : CommandRun ε α} {app : AppState}
    (enters : run.command.enter app = Command.stopping app)
    (leaves : ∀ app result, run.command.leave app result = (app, .inr (.ok ())))
    (server : σ) (api : Api τ)
    (apiServer : τ) (exchange : Exchange) :
    ((commands refresh).exec (app, server) (.enter run)).1.1 =
      (stopWith api app apiServer exchange).1 := by
  rw [exec_enter, enters]
  cases session : app.activeSessionId with
  | none => simp only [Command.stopping, stopWith, session]
  | some sessionId =>
      cases held : app.tokens <;>
        simp only [Command.stopping, stopWith, session, held, leaves, Command.finish]

/-- A stop without interruption is the stop of a boost. -/
theorem exec_cmdStopBoost {run : CommandRun ε α} (stop : run.command = .cmdStopBoost)
    (app : AppState) (server : σ) (api : Api τ) (apiServer : τ) (exchange : Exchange) :
    ((commands refresh).exec (app, server) (.enter run)).1.1 =
      (cmdStopBoost api app apiServer exchange).1 := by
  refine exec_stopWith ?_ ?_ server api apiServer exchange
  · rw [stop]
    rfl
  · intro app result
    rw [stop]
    rfl

theorem exec_autoDisconnect {run : CommandRun ε α} (stop : run.command = .autoDisconnect)
    (app : AppState) (server : σ) (api : Api τ) (apiServer : τ) (exchange : Exchange) :
    ((commands refresh).exec (app, server) (.enter run)).1.1 =
      (autoDisconnect api app apiServer exchange).1 := by
  by_cases connected : app.activeProxy.isSome
  · rw [autoDisconnect, if_pos connected]
    refine exec_stopWith ?_ ?_ server api apiServer exchange
    · rw [stop, Command.enter, if_pos connected]
    · intro app result
      rw [stop]
      rfl
  · rw [exec_enter, stop]
    simp only [Command.enter, autoDisconnect, if_neg connected]

end Boost

/-! ## The tokens -/

namespace Command

/-- A command enters its call with the tokens the client holds, and leaves them there. -/
theorem enter_tokens (command : Command α) (app : AppState) :
    (command.enter app).1.tokens = app.tokens ∧
      ∀ tokens, (command.enter app).2 = .inl tokens → app.tokens = some tokens := by
  have plain : (authenticated app).1.tokens = app.tokens ∧
      ∀ tokens, (authenticated app).2 = .inl tokens → app.tokens = some tokens := by
    cases held : app.tokens <;> simp [authenticated, held]
  have stops : (stopping app).1.tokens = app.tokens ∧
      ∀ tokens, (stopping app).2 = .inl tokens → app.tokens = some tokens := by
    cases session : app.activeSessionId <;> cases held : app.tokens <;>
      simp [stopping, session, held]
  cases command with
  | cmdStartBoost openBoost =>
      simp only [enter]
      split_ifs
      · simp
      · exact plain
  | autoConnect openBoost =>
      simp only [enter]
      split_ifs
      · simp
      · exact plain
  | cmdStopBoost => exact stops
  | autoDisconnect =>
      simp only [enter]
      split_ifs
      · exact stops
      · simp
  | _ => exact plain

/-- A stop drops what its call returns. -/
def Drops : Command α → Prop
  | .cmdStopBoost => True
  | .autoDisconnect => True
  | _ => False

/-- Only `cmd_get_user` forgets the tokens, if a token has been refused. -/
def Forgets (e : ApiError) : Command α → Prop
  | .cmdGetUser => e = .unauthorized ∨ e = .refreshFailed
  | _ => False

instance : DecidablePred (Drops (α := α)) := fun command => by
  cases command <;> unfold Drops <;> infer_instance

instance (e : ApiError) : DecidablePred (Forgets (α := α) e) := fun command => by
  cases command <;> unfold Forgets <;> infer_instance

theorem leave_error_tokens (command : Command α) (app : AppState) (e : ApiError) :
    (command.leave app (.error e)).1.tokens = if command.Forgets e then none else app.tokens := by
  cases command with
  | cmdGetUser => cases e <;> simp [leave, leaveGetUser, Forgets]
  | _ => simp [leave, passOn, leaveStart, Forgets]

/-- A command whose call has failed has ended. -/
theorem leave_error_isRight (command : Command α) (app : AppState) (e : ApiError) :
    (command.leave app (.error e)).2.isRight := by
  cases command <;> rfl

theorem finish_tokens (app : AppState) (rest : Rest) : (finish app rest).1.tokens = app.tokens := by
  rcases rest with (e | boost) | result <;> rfl

theorem leave_ok_tokens (command : Command α) (app : AppState) (value : α)
    (newTokens : Option AuthTokens) :
    (command.leave app (.ok (value, newTokens))).1.tokens =
      if command.Drops then app.tokens else newTokens.or app.tokens := by
  cases command <;> simp [leave, leaveGetUser, passOn, leaveStart, store, Drops]

end Command

end PlgBooster.Client
