import PlgBooster.Client.Commands
import PlgBooster.Server.Auth

/-!
# The client's tokens and the server's

Every successful refresh revokes the token it was given, so the client's copy is dead until
the new pair is stored. A command stores it if its second request succeeds. It is lost if
that request fails, and always in a stop, which drops whatever its call returns; only
`cmd_get_user` then forgets the tokens, and only if the new token was refused.

Over any sequence of commands the client holds no dead token exactly if no command loses a
pair it was given.
-/

namespace PlgBooster.System

open Transaction Client
open Server (AuthDb RefreshToken RefreshDraws TokenSettings storedToken)

/-- The client's state and the server's refresh tokens. -/
abbrev Login := AppState × AuthDb

section Rotation

variable (settings : TokenSettings) {α : Type}

/-- `ApiClient::refresh_token`, answered by the server. -/
def refreshToken (draws : RefreshDraws) (db : AuthDb) (presented : String) :
    AuthDb × Except ApiError AuthTokens :=
  match (Server.refresh settings).exec db (.select ⟨draws, presented⟩) with
  | (db, some (.ok response)) => (db, .ok ⟨response.accessToken, response.refreshToken⟩)
  | (db, some (.error (.httpException 401 _))) => (db, .error .refreshFailed)
  | (db, _) => (db, .error (.server "Internal Server Error"))

/-- Execute one command without interruption. -/
def execute (login : Login) (run : CommandRun RefreshDraws α) : Login × List CommandOutcome :=
  ((commands (refreshToken settings)).exec login (.enter run)).map id Option.toList

/-- The client holds no token that the server has revoked. -/
def Alive (login : Login) : Prop :=
  ∀ tokens, login.1.tokens = some tokens →
    ∀ row ∈ login.2.tokensWith (settings.hashToken tokens.refreshToken), row.revoked = false

/-- The server knows the token the client holds. -/
def Known (login : Login) : Prop :=
  ∀ tokens, login.1.tokens = some tokens →
    ∃ row, login.2.tokensWith (settings.hashToken tokens.refreshToken) = [row]

/-- What lets the server exchange any unrevoked token: none has expired, the users are there,
and what is drawn is new. -/
structure Rotates (db : AuthDb) (draws : RefreshDraws) : Prop where
  unexpired : ∀ row ∈ db.refreshTokens, draws.verifiedAt < row.expiresAt
  owned : ∀ row ∈ db.refreshTokens, row.userId ∈ db.users
  newKey : ∀ row ∈ db.refreshTokens, row.id ≠ draws.tokenId
  newHash : ∀ row ∈ db.refreshTokens, row.tokenHash ≠ settings.hashToken draws.newRefresh
  inRange : draws.storedAt + settings.refreshTokenExpireDays * Server.day ≤ Server.datetimeMax

instance (db : AuthDb) (draws : RefreshDraws) : Decidable (Rotates settings db draws) :=
  decidable_of_iff
    ((∀ row ∈ db.refreshTokens, draws.verifiedAt < row.expiresAt) ∧
      (∀ row ∈ db.refreshTokens, row.userId ∈ db.users) ∧
      (∀ row ∈ db.refreshTokens, row.id ≠ draws.tokenId) ∧
      (∀ row ∈ db.refreshTokens, row.tokenHash ≠ settings.hashToken draws.newRefresh) ∧
      draws.storedAt + settings.refreshTokenExpireDays * Server.day ≤ Server.datetimeMax)
    ⟨fun ⟨unexpired, owned, newKey, newHash, inRange⟩ =>
      ⟨unexpired, owned, newKey, newHash, inRange⟩,
      fun r => ⟨r.unexpired, r.owned, r.newKey, r.newHash, r.inRange⟩⟩

/-- The command keeps a new pair, or forgets the tokens, depending on what its second request
is answered. -/
def KeepsPair (run : CommandRun RefreshDraws α) : Prop :=
  match run.retry with
  | .ok _ => ¬ run.command.Drops
  | .error e => run.command.Forgets e

/-- If the command refreshes, it keeps what it gets. -/
def KeepsToken (login : Login) (run : CommandRun RefreshDraws α) : Prop :=
  ∀ tokens, (run.command.enter login.1).2 = .inl tokens →
    run.first = .error .unauthorized → KeepsPair run

/-! ## One refresh -/

variable {settings} {db : AuthDb} {draws : RefreshDraws} {presented : String} {row : RefreshToken}

theorem refreshToken_unrevoked (rotates : Rotates settings db draws)
    (known : db.tokensWith (settings.hashToken presented) = [row]) (alive : row.revoked = false) :
    refreshToken settings draws db presented =
      ((db.revoke row.id).insertToken (storedToken settings ⟨draws, presented⟩ row
          (draws.storedAt + settings.refreshTokenExpireDays * Server.day)),
        .ok ⟨settings.createAccessToken row.userId draws.issuedAt, draws.newRefresh⟩) := by
  have stored : row ∈ db.refreshTokens := (Table.of_select_eq_singleton known).1
  have exchanges : Server.Exchanges settings db ⟨draws, presented⟩ row
      (draws.storedAt + settings.refreshTokenExpireDays * Server.day) := by
    refine ⟨?_, Server.addDays_eq_ok.mpr ⟨rotates.inRange, rfl⟩, rotates.newKey,
      rotates.owned row stored⟩
    simp [AuthDb.validTokens, known, alive, rotates.unexpired row stored]
  rw [refreshToken, Server.exec_of_exchanges settings exchanges]
  rfl

theorem refreshToken_revoked (known : db.tokensWith (settings.hashToken presented) = [row])
    (dead : row.revoked = true) :
    refreshToken settings draws db presented = (db, .error .refreshFailed) := by
  rw [refreshToken, Server.exec_refused settings (by simp [AuthDb.validTokens, known, dead])]
  rfl

/-- The stored tokens with a hash after an exchange. -/
theorem tokensWith_exchanged (db : AuthDb) (id : Server.Uuid) (new : RefreshToken)
    (tokenHash : String) :
    ((db.revoke id).insertToken new).tokensWith tokenHash =
      (db.tokensWith tokenHash).map
          (fun rt => if rt.id = id then { rt with revoked := true } else rt) ++
        if new.tokenHash = tokenHash then [new] else [] := by
  have updated (rows : List RefreshToken) :
      Table.select (·.tokenHash) tokenHash
          (Table.update (·.id) id (fun rt => { rt with revoked := true }) rows) =
        Table.update (·.id) id (fun rt => { rt with revoked := true })
          (Table.select (·.tokenHash) tokenHash rows) :=
    Table.select_update_of_keeps (f := fun rt : RefreshToken => { rt with revoked := true })
      (fun _ => rfl) tokenHash id rows
  simp only [AuthDb.tokensWith, AuthDb.insertToken, AuthDb.revoke, Table.select,
    List.filter_append] at updated ⊢
  rw [updated]
  congr 1
  by_cases same : new.tokenHash = tokenHash <;> simp [same]

/-- What an exchange leaves of the token that was presented, and of the one that was issued. -/
structure Exchanged (settings : TokenSettings) (db db' : AuthDb) (presented issued : String) :
    Prop where
  /-- The presented token is revoked. -/
  dead : ∀ row ∈ db'.tokensWith (settings.hashToken presented), row.revoked = true
  known : ∃ row, db'.tokensWith (settings.hashToken presented) = [row]
  /-- The issued token is stored and not revoked. -/
  stored : ∃ row, db'.tokensWith (settings.hashToken issued) = [row] ∧ row.revoked = false

theorem refreshToken_cases (rotates : Rotates settings db draws)
    (known : db.tokensWith (settings.hashToken presented) = [row]) (alive : row.revoked = false) :
    ∃ db' newTokens, refreshToken settings draws db presented = (db', .ok newTokens) ∧
      newTokens.accessToken = settings.createAccessToken row.userId draws.issuedAt ∧
      newTokens.refreshToken = draws.newRefresh ∧
      Exchanged settings db db' presented newTokens.refreshToken := by
  obtain ⟨inTable, sameHash⟩ := Table.of_select_eq_singleton known
  have other : settings.hashToken draws.newRefresh ≠ settings.hashToken presented := by
    intro same
    exact rotates.newHash row inTable (sameHash.trans same.symm)
  have none_new : db.tokensWith (settings.hashToken draws.newRefresh) = [] := by
    refine List.filter_eq_nil_iff.mpr fun rt member => ?_
    simpa using rotates.newHash rt member
  refine ⟨_, _, refreshToken_unrevoked rotates known alive, rfl, rfl, ?_, ?_, ?_⟩
  · simp [tokensWith_exchanged, known, storedToken, other]
  · simp [tokensWith_exchanged, known, storedToken, other]
  · simp [tokensWith_exchanged, none_new, storedToken]

/-! ## One command -/

variable {login : Login} {run : CommandRun RefreshDraws α}

/-- All that a command run alone does to the tokens, where the server knows the client's
token and has not revoked it. -/
inductive Executed (settings : TokenSettings) (login : Login) (run : CommandRun RefreshDraws α) :
    Prop where
  /-- Nothing is refreshed. -/
  | quiet (server : (execute settings login run).1.2 = login.2)
      (client : (execute settings login run).1.1.tokens = login.1.tokens ∨
        (execute settings login run).1.1.tokens = none)
      (keeps : KeepsToken login run)
  /-- The client's token is exchanged. -/
  | refreshed (tokens newTokens : AuthTokens) (held : login.1.tokens = some tokens)
      (exchanged : Exchanged settings login.2 (execute settings login run).1.2 tokens.refreshToken
        newTokens.refreshToken)
      (client : (execute settings login run).1.1.tokens =
        match run.retry with
        | .ok _ => some (if run.command.Drops then tokens else newTokens)
        | .error e => if run.command.Forgets e then none else some tokens)
      (keeps : KeepsToken login run ↔ KeepsPair run)

/-- A command that enters with tokens leaves what its call has answered. -/
theorem execute_of_enter {app app' : AppState} {db db' : AuthDb} {tokens : AuthTokens}
    {token : String} {answer : Except ApiError (α × Option AuthTokens)}
    (entered : run.command.enter app = (app', .inl tokens))
    (call : run.call (refreshToken settings) db tokens = (db', token, answer)) :
    (execute settings (app, db) run).1.2 = db' ∧
      (execute settings (app, db) run).1.1.tokens = (run.command.leave app' answer).1.tokens := by
  have ended := exec_enter (refreshToken settings) app db run
  rw [entered] at ended
  simp only [call] at ended
  rw [execute, ended]
  exact ⟨rfl, Command.finish_tokens _ _⟩

/-- A refused access token has the client's token exchanged. -/
theorem executed_refused {app app' : AppState} {db : AuthDb} {tokens : AuthTokens}
    {row : RefreshToken} (entered : run.command.enter app = (app', .inl tokens))
    (same : app'.tokens = app.tokens) (held : app.tokens = some tokens)
    (found : db.tokensWith (settings.hashToken tokens.refreshToken) = [row])
    (unrevoked : row.revoked = false) (rotates : Rotates settings db run.draws)
    (first : run.first = .error .unauthorized) : Executed settings (app, db) run := by
  obtain ⟨db', newTokens, answered, _, _, exchanged⟩ :=
    refreshToken_cases rotates found unrevoked
  have call : run.call (refreshToken settings) db tokens = (db', newTokens.accessToken,
      run.retry.map fun value => (value, some newTokens)) := by
    simp only [CommandRun.call, first, answered]
  obtain ⟨server, client⟩ := execute_of_enter entered call
  refine .refreshed tokens newTokens held (server ▸ exchanged) ?_ ?_
  · rw [client]
    cases run.retry with
    | ok value =>
        apply (Command.leave_ok_tokens _ _ _ _).trans
        rw [same, held]
        split_ifs <;> rfl
    | error e =>
        apply (Command.leave_error_tokens _ _ _).trans
        rw [same, held]
  · exact ⟨fun keeps => keeps tokens (by rw [entered]) first, fun keeps _ _ _ => keeps⟩

theorem executed (known : Known settings login) (alive : Alive settings login)
    (rotates : Rotates settings login.2 run.draws) : Executed settings login run := by
  obtain ⟨app, db⟩ := login
  obtain ⟨same, holds⟩ := run.command.enter_tokens app
  cases entered : run.command.enter app with
  | mk app' next =>
      rw [entered] at same holds
      cases next with
      | inr result =>
          have ended := exec_enter (refreshToken settings) app db run
          rw [entered] at ended
          refine .quiet ?_ (.inl ?_) ?_
          · rw [execute, ended]
            rfl
          · rw [execute, ended]
            exact same
          · intro tokens here
            rw [entered] at here
            cases here
      | inl tokens =>
          have held : app.tokens = some tokens := holds tokens rfl
          -- Without a refused token nothing is refreshed.
          have unasked (accepted : run.first ≠ .error .unauthorized) :
              KeepsToken (app, db) run := fun _ _ refused => absurd refused accepted
          cases first : run.first with
          | ok value =>
              have call : run.call (refreshToken settings) db tokens =
                  (db, tokens.accessToken, .ok (value, none)) := by
                simp only [CommandRun.call, first]
              obtain ⟨server, client⟩ := execute_of_enter entered call
              refine .quiet server (.inl ?_) (unasked (by simp [first]))
              rw [client, Command.leave_ok_tokens, Option.none_or, ite_self, same]
          | error e =>
              by_cases refused : e = .unauthorized
              · subst refused
                obtain ⟨row, found⟩ := known tokens held
                have unrevoked := alive tokens held row (found ▸ List.mem_singleton_self row)
                exact executed_refused entered same held found unrevoked rotates first
              · have call : run.call (refreshToken settings) db tokens =
                    (db, tokens.accessToken, .error e) := by
                  simp only [CommandRun.call, first]
                obtain ⟨server, client⟩ := execute_of_enter entered call
                refine .quiet server ?_ (unasked (by simp [first, refused]))
                rw [client, Command.leave_error_tokens, same]
                split_ifs
                · exact .inr rfl
                · exact .inl rfl

/-- After a command the client's token is unrevoked exactly if the command has kept what it was
given. -/
theorem alive_execute_iff (known : Known settings login) (alive : Alive settings login)
    (rotates : Rotates settings login.2 run.draws) :
    Alive settings (execute settings login run).1 ↔ KeepsToken login run := by
  cases executed known alive rotates with
  | quiet server client keeps =>
      refine iff_of_true ?_ keeps
      intro tokens held
      rw [server]
      rcases client with same | forgotten
      · exact alive tokens (same ▸ held)
      · rw [forgotten] at held
        cases held
  | refreshed tokens newTokens held exchanged client keeps =>
      obtain ⟨old, foundOld⟩ := exchanged.known
      have dead := exchanged.dead old (foundOld ▸ List.mem_singleton_self old)
      obtain ⟨row, found, unrevoked⟩ := exchanged.stored
      rw [keeps, KeepsPair]
      cases answer : run.retry with
      | ok value =>
          rw [answer] at client
          simp only [Alive, client, Option.some.injEq, forall_eq']
          split_ifs with drops
          · simp [foundOld, dead, drops]
          · simp [found, unrevoked, drops]
      | error e =>
          rw [answer] at client
          simp only [Alive, client]
          split_ifs with forgets
          · simp [forgets]
          · simp [foundOld, dead, forgets]

/-- The server knows what the client holds after a command. -/
theorem known_execute (known : Known settings login) (alive : Alive settings login)
    (rotates : Rotates settings login.2 run.draws) :
    Known settings (execute settings login run).1 := by
  intro tokens' held'
  cases executed known alive rotates with
  | quiet server client keeps =>
      rw [server]
      rcases client with same | forgotten
      · exact known tokens' (same ▸ held')
      · rw [forgotten] at held'
        cases held'
  | refreshed tokens newTokens held exchanged client keeps =>
      obtain ⟨row, found, _⟩ := exchanged.stored
      have either : tokens' = tokens ∨ tokens' = newTokens := by
        rw [client] at held'
        cases answer : run.retry with
        | ok value =>
            simp only [answer, Option.some.injEq] at held'
            split_ifs at held'
            · exact .inl held'.symm
            · exact .inr held'.symm
        | error e =>
            simp only [answer] at held'
            split_ifs at held'
            exact .inl (Option.some.inj held').symm
      rcases either with rfl | rfl
      · exact exchanged.known
      · exact ⟨row, found⟩

/-! ## Sequences of commands -/

/-- Over any sequence of commands that the server answers as it should, the client holds a
revoked token after none of them if and only if every command that refreshes keeps the new
pair, or forgets the tokens. -/
theorem alive_always_iff (known : Known settings login) (alive : Alive settings login)
    (runs : List (CommandRun RefreshDraws α))
    (rotates : Machine.Legal (fun login run => Rotates settings login.2 run.draws)
      (execute settings) login runs) :
    (∀ n, Alive settings (Machine.run (execute settings) login (runs.take n)).1) ↔
      Machine.Legal KeepsToken (execute settings) login runs :=
  (Machine.legal_iff_invariant_of_legal (Known settings)
    (fun _ _ known alive rotates => known_execute known alive rotates)
    (fun _ _ known alive rotates => alive_execute_iff known alive rotates) known alive
    rotates).symm

end Rotation

/-- User 1 is logged in with a boost, and the refresh token `r` is not revoked. -/
def expiredLogin : Login :=
  (⟨some ⟨"a", "r"⟩, some .WinDivert, some 5⟩, Server.oneToken)

/-- A command whose access token is refused, and whose second request succeeds. -/
def refreshingRun (command : Client.Command Unit) : CommandRun RefreshDraws Unit where
  command := command
  first := .error .unauthorized
  retry := .ok ()
  draws := ⟨"s", 11, 1, 2, 3⟩

theorem expiredLogin_known : Known Server.plainSettings expiredLogin := by
  rintro _ ⟨⟩
  exact ⟨⟨10, 1, "r", 1000, false⟩, by decide⟩

theorem expiredLogin_alive : Alive Server.plainSettings expiredLogin := by
  rintro _ ⟨⟩
  decide

theorem alive_always_iff_expiredLogin :
    (∀ n, Alive Server.plainSettings (Machine.run (execute Server.plainSettings) expiredLogin
      ([refreshingRun .cmdGetUserStats].take n)).1) ↔
      Machine.Legal KeepsToken (execute Server.plainSettings) expiredLogin
        [refreshingRun .cmdGetUserStats] :=
  alive_always_iff expiredLogin_known expiredLogin_alive _ (by decide)

/-- A stop refreshes and drops the new pair: the client keeps the revoked token. -/
theorem stop_keeps_revoked :
    ¬ ∀ n, Alive Server.plainSettings (Machine.run (execute Server.plainSettings) expiredLogin
      ([refreshingRun .cmdStopBoost].take n)).1 := by
  intro always
  let stopped := (Machine.run (execute Server.plainSettings) expiredLogin
    [refreshingRun .cmdStopBoost]).1
  have stored : (⟨10, 1, "r", 1000, true⟩ : RefreshToken) ∈
      stopped.2.tokensWith (Server.plainSettings.hashToken "r") := by decide
  exact absurd (always 1 ⟨"a", "r"⟩ rfl _ stored) (by decide)

end PlgBooster.System
