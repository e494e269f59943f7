import PlgBooster.System.Rotation

/-!
# Two commands at the same time

Two commands of a client whose access token has expired, in any order of their steps. Both
copy the tokens before they wait. If the second one does so before the first has stored the
pair it is given, both present the same refresh token, and the server exchanges it once: the
other command is refused. So the commands both get through exactly if the second enters when
the first has stored its pair, though the first may still open a boost then.
-/

namespace PlgBooster.System

open Transaction Client
open Server (AuthDb RefreshDraws TokenSettings)

variable {α : Type}

abbrev CommandWorld (α : Type) := World Login (CommandStage RefreshDraws α) CommandOutcome

/-- Where a command is: at its next step, or at its end. -/
abbrev Position (α : Type) := CommandStage RefreshDraws α ⊕ CommandOutcome

/-- The endpoint refuses exactly the access tokens that are not usable. -/
def ChecksToken (usable : Prop) (answer : Except ApiError α) : Prop :=
  (answer = .error .unauthorized ↔ ¬ usable) ∧ answer ≠ .error .refreshFailed

instance [DecidableEq α] (usable : Prop) [Decidable usable] (answer : Except ApiError α) :
    Decidable (ChecksToken usable answer) :=
  inferInstanceAs (Decidable (_ ∧ _))

/-- A usable access token is not refused, and so the tokens are not forgotten. -/
theorem ChecksToken.not_forgets {e : ApiError}
    (answers : ChecksToken True (.error e : Except ApiError α))
    (command : Client.Command α) : ¬ command.Forgets e := by
  intro forgets
  cases command with
  | cmdGetUser =>
      rcases forgets with rfl | rfl
      · exact answers.1.mp rfl trivial
      · exact answers.2 rfl
  | _ => exact forgets

/-- The server does its part in a step: the endpoints look at the access token, and an
unrevoked refresh token is exchanged. A command with tokens makes its call. -/
def Serves (settings : TokenSettings) (usable : String → Bool) (login : Login) :
    CommandStage RefreshDraws α → Prop
  | .enter run => login.1.tokens.isSome → (run.command.enter login.1).2.isLeft
  | .first run tokens => ChecksToken (usable tokens.accessToken) run.first
  | .refresh run _ => Rotates settings login.2 run.draws
  | .retry run newTokens => ChecksToken (usable newTokens.accessToken) run.retry
  | .leave _ _ _ => True
  | .awaitOpen _ _ => True
  | .keepBoost _ _ _ => True

instance [DecidableEq α] (settings : TokenSettings) (usable : String → Bool) (login : Login)
    (stage : CommandStage RefreshDraws α) : Decidable (Serves settings usable login stage) := by
  cases stage <;> unfold Serves <;> infer_instance

/-- The server does its part in the next step of a command. -/
def Served (settings : TokenSettings) (usable : String → Bool) (world : CommandWorld α) :
    Transaction.Event (CommandStage RefreshDraws α) → Prop
  | .submit _ => False
  | .advance i =>
      match world.tasks[i]? with
      | some ⟨_, .inl stage⟩ => Serves settings usable world.db stage
      | _ => True

instance [DecidableEq α] (settings : TokenSettings) (usable : String → Bool)
    (world : CommandWorld α) (event : Transaction.Event (CommandStage RefreshDraws α)) :
    Decidable (Served settings usable world event) := by
  unfold Served
  split
  · infer_instance
  · split <;> infer_instance

/-- The command stores the pair it is given. -/
def StoresPair (run : CommandRun RefreshDraws α) : Prop :=
  ¬ run.command.Drops ∧ ∃ value, run.retry = .ok value

/-- A command has dealt with the result of its call: it may have a boost to open, or has
ended. -/
inductive HasLeft : Position α → Prop
  | awaitOpen {token : String} {opened : Except String (ActiveBoost × Client.Id)} :
      HasLeft (.inl (.awaitOpen token opened))
  | keepBoost {token : String} {boost : ActiveBoost} {sessionId : Client.Id} :
      HasLeft (.inl (.keepBoost token boost sessionId))
  | ended {outcome : CommandOutcome} : HasLeft (.inr outcome)

theorem HasLeft.ne_enter {x : Position α} (left : HasLeft x) (run : CommandRun RefreshDraws α) :
    x ≠ .inl (.enter run) := by
  rintro rfl
  cases left

/-- A command that enters finds any other one before its entry, or with its pair stored. -/
def EntersAlone (world : CommandWorld α) : Transaction.Event (CommandStage RefreshDraws α) → Prop
  | .submit _ => True
  | .advance i => ∀ request run, world.tasks[i]? = some ⟨request, .inl (.enter run)⟩ →
      ∀ j task, j ≠ i → world.tasks[j]? = some task →
        (∃ other, task.stage = .inl (.enter other)) ∨
        ∃ other, task.request = .enter other ∧ HasLeft task.stage ∧ StoresPair other

/-- Two commands of a client with an expired access token and an unrevoked refresh token, each
run to its end, with the steps in some order. -/
structure TwoCommands (α : Type) where
  settings : TokenSettings
  usable : String → Bool
  login : Login
  tokens : AuthTokens
  one : CommandRun RefreshDraws α
  two : CommandRun RefreshDraws α
  order : List Nat
  held : login.1.tokens = some tokens
  expired : ¬ usable tokens.accessToken
  unrevoked : ∃ row, login.2.tokensWith (settings.hashToken tokens.refreshToken) = [row] ∧
    row.revoked = false
  /-- What the server issues is usable. -/
  issues : ∀ userId, ∀ run ∈ [one, two],
    usable (settings.createAccessToken userId run.draws.issuedAt)
  served : Machine.Legal (Served settings usable) (commands (refreshToken settings)).worldStep
    ⟨login, [⟨.enter one, .inl (.enter one)⟩, ⟨.enter two, .inl (.enter two)⟩]⟩
    (order.map .advance)
  finished : ∀ task ∈ (Machine.run (commands (refreshToken settings)).worldStep
    ⟨login, [⟨.enter one, .inl (.enter one)⟩, ⟨.enter two, .inl (.enter two)⟩]⟩
    (order.map .advance)).1.tasks, task.stage.isRight

namespace TwoCommands

variable (t : TwoCommands α)

def start : CommandWorld α :=
  ⟨t.login, [⟨.enter t.one, .inl (.enter t.one)⟩, ⟨.enter t.two, .inl (.enter t.two)⟩]⟩

def program : Program Login (CommandStage RefreshDraws α) CommandOutcome :=
  commands (refreshToken t.settings)

/-- The two commands and the server at the end. -/
def final : CommandWorld α := (Machine.run t.program.worldStep t.start (t.order.map .advance)).1

/-- The command with an index. -/
def run (i : Nat) : CommandRun RefreshDraws α := if i = 0 then t.one else t.two

/-! ## The positions of the two commands -/

/-- The two commands stand at these positions. -/
structure At (world : CommandWorld α) (f s : Nat) (x y : Position α) : Prop where
  indices : f = 0 ∧ s = 1 ∨ f = 1 ∧ s = 0
  size : world.tasks.length = 2
  here : world.tasks[f]? = some ⟨.enter (t.run f), x⟩
  there : world.tasks[s]? = some ⟨.enter (t.run s), y⟩

variable {t} {world : CommandWorld α} {f s : Nat} {x y : Position α}

theorem At.symm (at' : t.At world f s x y) : t.At world s f y x :=
  ⟨at'.indices.symm.imp And.symm And.symm, at'.size, at'.there, at'.here⟩

theorem At.mem (at' : t.At world f s x y) {task : Task (CommandStage RefreshDraws α) CommandOutcome}
    (member : task ∈ world.tasks) : task.stage = x ∨ task.stage = y := by
  obtain ⟨i, inside, rfl⟩ := List.getElem_of_mem member
  rw [at'.size] at inside
  have either : i = f ∨ i = s := by
    obtain ⟨rfl, rfl⟩ | ⟨rfl, rfl⟩ := at'.indices <;> omega
  rcases either with rfl | rfl
  · exact .inl (congrArg Task.stage (List.getElem?_eq_some_iff.mp at'.here).2)
  · exact .inr (congrArg Task.stage (List.getElem?_eq_some_iff.mp at'.there).2)

theorem At.ne (at' : t.At world f s x y) : f ≠ s := by
  obtain ⟨rfl, rfl⟩ | ⟨rfl, rfl⟩ := at'.indices <;> decide

/-- A command takes a step. -/
theorem At.advance {stage : CommandStage RefreshDraws α} (at' : t.At world f s (.inl stage) y)
    {login : Login} {next : Position α}
    (taken : commandStep (refreshToken t.settings) world.db stage = (login, next)) :
    (t.program.worldStep world (.advance f)).1.db = login ∧
      t.At (t.program.worldStep world (.advance f)).1 f s next y := by
  have after : (t.program.worldStep world (.advance f)).1 =
      ⟨login, world.tasks.set f ⟨.enter (t.run f), next⟩⟩ := by
    have step : t.program.step world.db stage = (login, next) := taken
    cases next <;> simp only [Program.worldStep, at'.here, step]
  have inside : f < world.tasks.length := (List.getElem?_eq_some_iff.mp at'.here).1
  rw [after]
  refine ⟨rfl, at'.indices, ?_, ?_, ?_⟩
  · rw [List.length_set]
    exact at'.size
  · exact List.getElem?_set_self inside
  · rw [List.getElem?_set_ne at'.ne]
    exact at'.there

/-- There are only two commands. -/
theorem At.idle_other (at' : t.At world f s x y) {i : Nat} (notHere : i ≠ f) (notThere : i ≠ s) :
    EntersAlone world (.advance i) ∧ (t.program.worldStep world (.advance i)).1 = world := by
  have absent : world.tasks[i]? = none := by
    rw [List.getElem?_eq_none_iff, at'.size]
    obtain ⟨rfl, rfl⟩ | ⟨rfl, rfl⟩ := at'.indices <;> omega
  refine ⟨fun request run found => ?_, ?_⟩
  · rw [absent] at found
    cases found
  · simp only [Program.worldStep, absent]

/-- A command at its end takes no step. -/
theorem At.idle_ended {outcome : CommandOutcome} (at' : t.At world f s (.inr outcome) y) :
    (t.program.worldStep world (.advance f)).1 = world := by
  simp only [Program.worldStep, at'.here]

theorem At.serves {stage : CommandStage RefreshDraws α} (at' : t.At world f s (.inl stage) y)
    (served : Served t.settings t.usable world (.advance f)) :
    Serves t.settings t.usable world.db stage := by
  simpa only [Served, at'.here] using served

/-- Whether a command enters alone is a question about the other one. -/
theorem At.entersAlone_iff {run : CommandRun RefreshDraws α}
    (at' : t.At world f s (.inl (.enter run)) y) :
    EntersAlone world (.advance f) ↔
      (∃ other, y = .inl (.enter other)) ∨ HasLeft y ∧ StoresPair (t.run s) := by
  constructor
  · intro alone
    rcases alone _ run at'.here s _ (Ne.symm at'.ne) at'.there with
      waits | ⟨other, same, left, stores⟩
    · exact .inl waits
    · obtain rfl := CommandStage.enter.inj same
      exact .inr ⟨left, stores⟩
  · intro alone request run' _ j task different found
    have isOther : j = s := by
      have inside : j < world.tasks.length := (List.getElem?_eq_some_iff.mp found).1
      rw [at'.size] at inside
      obtain ⟨rfl, rfl⟩ | ⟨rfl, rfl⟩ := at'.indices <;> omega
    subst isOther
    obtain rfl := Option.some.inj (at'.there.symm.trans found)
    rcases alone with waits | ⟨left, stores⟩
    · exact .inl waits
    · exact .inr ⟨_, rfl, left, stores⟩

theorem At.not_entersAlone {run : CommandRun RefreshDraws α} {stage : CommandStage RefreshDraws α}
    (at' : t.At world f s (.inl (.enter run)) (.inl stage)) (calls : ¬ HasLeft (.inl stage))
    (entered : ∀ other, stage ≠ .enter other) : ¬ EntersAlone world (.advance f) := by
  intro alone
  rcases at'.entersAlone_iff.mp alone with ⟨other, waits⟩ | ⟨left, _⟩
  · exact entered other (Sum.inl.inj waits)
  · exact calls left

/-- Only a command that enters can enter with another one. -/
theorem At.entersAlone {stage : Position α} (at' : t.At world f s stage y)
    (entered : ∀ run, stage ≠ .inl (.enter run)) : EntersAlone world (.advance f) := by
  intro request run found
  have same := Option.some.inj (at'.here.symm.trans found)
  exact absurd (congrArg Task.stage same) (entered run)

variable (t)

/-- The presented token is revoked. -/
def Dead (db : AuthDb) : Prop :=
  ∃ row, db.tokensWith (t.settings.hashToken t.tokens.refreshToken) = [row] ∧ row.revoked = true

/-- The client holds a usable pair. -/
def Holds (login : Login) (tokens : AuthTokens) : Prop :=
  login.1.tokens = some tokens ∧ t.usable tokens.accessToken ∧
    ∃ row, login.2.tokensWith (t.settings.hashToken tokens.refreshToken) = [row] ∧
      row.revoked = false

/-- A command has dealt with the result of its call, and this is the last access token it has
sent. -/
inductive LeftWith (token : String) : Position α → Prop
  | awaitOpen {opened : Except String (ActiveBoost × Client.Id)} :
      LeftWith token (.inl (.awaitOpen token opened))
  | keepBoost {boost : ActiveBoost} {sessionId : Client.Id} :
      LeftWith token (.inl (.keepBoost token boost sessionId))
  | ended {outcome : CommandOutcome} (sent : outcome.accessToken = some token) :
      LeftWith token (.inr outcome)

/-- A command that needs no refresh: the client has let it in with these tokens. -/
def Fresh (s : Nat) (newTokens : AuthTokens) (y : Position α) : Prop :=
  y = .inl (.first (t.run s) newTokens) ∨
    (ChecksToken True (t.run s).first ∧ y = .inl (.leave (t.run s) newTokens.accessToken
      ((t.run s).first.map fun value => (value, none)))) ∨
    LeftWith newTokens.accessToken y

/-- How two commands that take turns go on. The command `f` is the first to enter. -/
inductive Turns (world : CommandWorld α) : Prop where
  /-- The first command has the old tokens. -/
  | asks (f s : Nat) (stage : CommandStage RefreshDraws α)
      (at' : t.At world f s (.inl stage) (.inl (.enter (t.run s))))
      (early : stage = .enter (t.run f) ∨ stage = .first (t.run f) t.tokens ∨
        stage = .refresh (t.run f) t.tokens)
      (client : world.db.1.tokens = some t.tokens)
      (server : ∃ row,
        world.db.2.tokensWith (t.settings.hashToken t.tokens.refreshToken) = [row] ∧
          row.revoked = false)
  /-- It has been given a new pair. -/
  | given (f s : Nat) (stage : CommandStage RefreshDraws α) (newTokens : AuthTokens)
      (at' : t.At world f s (.inl stage) (.inl (.enter (t.run s))))
      (late : stage = .retry (t.run f) newTokens ∨
        ChecksToken True (t.run f).retry ∧ stage = .leave (t.run f) newTokens.accessToken
          ((t.run f).retry.map fun value => (value, some newTokens)))
      (client : world.db.1.tokens = some t.tokens) (usable : t.usable newTokens.accessToken)
      (dead : t.Dead world.db.2)
      (server : ∃ row,
        world.db.2.tokensWith (t.settings.hashToken newTokens.refreshToken) = [row] ∧
          row.revoked = false)
  /-- It has stored its pair or not. -/
  | between (f s : Nat) (x : Position α) (token : String)
      (at' : t.At world f s x (.inl (.enter (t.run s))))
      (left : LeftWith token x) (usable : t.usable token)
      (pair : StoresPair (t.run f) ∧ (∃ newTokens, t.Holds world.db newTokens) ∨
        ¬ StoresPair (t.run f) ∧ world.db.1.tokens = some t.tokens ∧ t.Dead world.db.2)
  /-- The second command has the new tokens. -/
  | follows (f s : Nat) (x : Position α) (token : String) (newTokens : AuthTokens)
      (y : Position α) (at' : t.At world f s x y) (left : LeftWith token x)
      (usable : t.usable token) (holds : t.Holds world.db newTokens)
      (late : t.Fresh s newTokens y)

/-- A command has no usable access token and will get none from a revoked token. -/
def Behind (f : Nat) (x : Position α) : Prop :=
  x = .inl (.first (t.run f) t.tokens) ∨ x = .inl (.refresh (t.run f) t.tokens) ∨
    (∃ run e, x = .inl (.leave run t.tokens.accessToken (.error e))) ∨
    ∃ outcome, x = .inr outcome ∧ outcome.accessToken = some t.tokens.accessToken

/-- A command has had its one refresh. -/
def Past (x : Position α) : Prop :=
  (∃ run newTokens, x = .inl (.retry run newTokens)) ∨
    (∃ run token result, x = .inl (.leave run token result)) ∨ HasLeft x

/-- Two commands that have entered with the old tokens: one of them is behind, and so is the
other, unless the token is revoked. -/
structure Clash (world : CommandWorld α) (f s : Nat) (x y : Position α) : Prop where
  at' : t.At world f s x y
  behind : t.Behind f x
  known : ∃ row, world.db.2.tokensWith (t.settings.hashToken t.tokens.refreshToken) = [row]
  other : t.Behind s y ∨ Past y ∧ t.Dead world.db.2

variable {t}

theorem LeftWith.hasLeft {token : String} {x : Position α} (left : LeftWith token x) :
    HasLeft x := by
  cases left with
  | awaitOpen => exact .awaitOpen
  | keepBoost => exact .keepBoost
  | ended sent => exact .ended

/-- A command that has left its call changes neither the tokens nor the server. -/
theorem left_step (at' : t.At world f s x y) (left : HasLeft x) :
    let world' := (t.program.worldStep world (.advance f)).1
    world'.db.1.tokens = world.db.1.tokens ∧ world'.db.2 = world.db.2 ∧
      ∃ x', t.At world' f s x' y ∧ HasLeft x' ∧ ∀ token, LeftWith token x → LeftWith token x' := by
  intro world'
  cases left with
  | @awaitOpen token opened =>
      cases opened with
      | error e =>
          obtain ⟨after, next⟩ := at'.advance (rfl : commandStep (refreshToken t.settings) world.db
            (.awaitOpen token (.error e)) = _)
          refine ⟨by rw [after], by rw [after], _, next, .ended, ?_⟩
          rintro _ ⟨⟩
          exact .ended rfl
      | ok boost =>
          obtain ⟨after, next⟩ := at'.advance (rfl : commandStep (refreshToken t.settings) world.db
            (.awaitOpen token (.ok boost)) = _)
          refine ⟨by rw [after], by rw [after], _, next, .keepBoost, ?_⟩
          rintro _ ⟨⟩
          exact .keepBoost
  | @keepBoost token boost sessionId =>
      obtain ⟨after, next⟩ := at'.advance (rfl : commandStep (refreshToken t.settings) world.db
        (.keepBoost token boost sessionId) = _)
      refine ⟨by rw [after]; rfl, by rw [after], _, next, .ended, ?_⟩
      rintro _ ⟨⟩
      exact .ended rfl
  | ended =>
      have same : world' = world := at'.idle_ended
      rw [same]
      exact ⟨rfl, rfl, _, at', .ended, fun _ left => left⟩

/-- A command that deals with the result of its call. -/
theorem leave_step {run : CommandRun RefreshDraws α} {token : String}
    {result : Except ApiError (α × Option AuthTokens)}
    (at' : t.At world f s (.inl (.leave run token result)) y) :
    let world' := (t.program.worldStep world (.advance f)).1
    world'.db.1.tokens = (run.command.leave world.db.1 result).1.tokens ∧
      world'.db.2 = world.db.2 ∧ ∃ x', t.At world' f s x' y ∧ LeftWith token x' := by
  cases left : run.command.leave world.db.1 result with
  | mk app rest =>
      cases rest with
      | inl opened =>
          have taken : commandStep (refreshToken t.settings) world.db (.leave run token result) =
              ((app, world.db.2), .inl (.awaitOpen token opened)) := by
            simp only [commandStep, left]
          obtain ⟨after, next⟩ := at'.advance taken
          exact ⟨by rw [after], by rw [after], _, next, .awaitOpen⟩
      | inr ended =>
          have taken : commandStep (refreshToken t.settings) world.db (.leave run token result) =
              ((app, world.db.2), .inr ⟨some token, ended⟩) := by
            simp only [commandStep, left]
          obtain ⟨after, next⟩ := at'.advance taken
          exact ⟨by rw [after], by rw [after], _, next, .ended rfl⟩

theorem issues_run (t : TwoCommands α) (userId : Server.Uuid) (f : Nat) :
    t.usable (t.settings.createAccessToken userId (t.run f).draws.issuedAt) := by
  apply t.issues userId
  unfold run
  split_ifs <;> simp

/-- The server refuses the old access token. -/
theorem first_step (at' : t.At world f s (.inl (.first (t.run f) t.tokens)) y)
    (served : Served t.settings t.usable world (.advance f)) :
    let world' := (t.program.worldStep world (.advance f)).1
    world'.db = world.db ∧ t.At world' f s (.inl (.refresh (t.run f) t.tokens)) y := by
  have refused : (t.run f).first = .error .unauthorized := (at'.serves served).1.mpr t.expired
  have taken : commandStep (refreshToken t.settings) world.db (.first (t.run f) t.tokens) =
      (world.db, .inl (.refresh (t.run f) t.tokens)) := by
    simp only [commandStep, refused]
  exact at'.advance taken

/-- The server exchanges the old refresh token, if it is not revoked. -/
theorem refresh_step (at' : t.At world f s (.inl (.refresh (t.run f) t.tokens)) y)
    {row : Server.RefreshToken}
    (found : world.db.2.tokensWith (t.settings.hashToken t.tokens.refreshToken) = [row])
    (unrevoked : row.revoked = false) (served : Served t.settings t.usable world (.advance f)) :
    let world' := (t.program.worldStep world (.advance f)).1
    world'.db.1 = world.db.1 ∧ t.Dead world'.db.2 ∧
      ∃ newTokens, t.At world' f s (.inl (.retry (t.run f) newTokens)) y ∧
        t.usable newTokens.accessToken ∧
        ∃ row, world'.db.2.tokensWith (t.settings.hashToken newTokens.refreshToken) = [row] ∧
          row.revoked = false := by
  obtain ⟨db', newTokens, answered, issued, _, exchanged⟩ :=
    refreshToken_cases (at'.serves served) found unrevoked
  have taken : commandStep (refreshToken t.settings) world.db (.refresh (t.run f) t.tokens) =
      ((world.db.1, db'), .inl (.retry (t.run f) newTokens)) := by
    simp only [commandStep, answered]
  obtain ⟨after, next⟩ := at'.advance taken
  obtain ⟨old, foundOld⟩ := exchanged.known
  have dead := exchanged.dead old (foundOld ▸ List.mem_singleton_self old)
  intro world'
  refine ⟨?_, ?_, newTokens, next, issued ▸ t.issues_run row.userId f, ?_⟩
  · rw [after]
  · rw [after]
    exact ⟨old, foundOld, dead⟩
  · rw [after]
    exact exchanged.stored

/-- A command that is behind stays behind, unless it is the one that exchanges the token. -/
theorem behind_step (at' : t.At world f s x y) (behind : t.Behind f x)
    (known : ∃ row, world.db.2.tokensWith (t.settings.hashToken t.tokens.refreshToken) = [row])
    (served : Served t.settings t.usable world (.advance f)) :
    let world' := (t.program.worldStep world (.advance f)).1
    (world'.db.2 = world.db.2 ∧ ∃ x', t.At world' f s x' y ∧ t.Behind f x') ∨
      ¬ t.Dead world.db.2 ∧ t.Dead world'.db.2 ∧
        ∃ newTokens, t.At world' f s (.inl (.retry (t.run f) newTokens)) y := by
  intro world'
  rcases behind with rfl | rfl | ⟨run, e, rfl⟩ | ⟨outcome, rfl, sent⟩
  · obtain ⟨after, next⟩ := first_step at' served
    exact .inl ⟨congrArg Prod.snd after, _, next, .inr (.inl rfl)⟩
  · obtain ⟨row, found⟩ := known
    cases revoked : row.revoked with
    | true =>
        have taken : commandStep (refreshToken t.settings) world.db (.refresh (t.run f) t.tokens) =
            (world.db, .inl (.leave (t.run f) t.tokens.accessToken (.error .refreshFailed))) := by
          simp only [commandStep, refreshToken_revoked found revoked]
        obtain ⟨after, next⟩ := at'.advance taken
        exact .inl ⟨congrArg Prod.snd after, _, next, .inr (.inr (.inl ⟨_, _, rfl⟩))⟩
    | false =>
        obtain ⟨_, dead, newTokens, next, _⟩ := refresh_step at' found revoked served
        refine .inr ⟨?_, dead, newTokens, next⟩
        rintro ⟨row', found', revoked'⟩
        obtain rfl := List.singleton_inj.mp (found.symm.trans found')
        rw [revoked] at revoked'
        cases revoked'
  · obtain ⟨ended, failed⟩ := Sum.isRight_iff.mp (run.command.leave_error_isRight world.db.1 e)
    have taken : commandStep (refreshToken t.settings) world.db
        (.leave run t.tokens.accessToken (.error e)) =
          (((run.command.leave world.db.1 (.error e)).1, world.db.2),
            .inr ⟨some t.tokens.accessToken, ended⟩) := by
      cases left : run.command.leave world.db.1 (.error e) with
      | mk app rest =>
          rw [left] at failed
          obtain rfl : rest = .inr ended := failed
          simp only [commandStep, left]
    obtain ⟨after, next⟩ := at'.advance taken
    exact .inl ⟨by rw [after], _, next, .inr (.inr (.inr ⟨_, rfl, rfl⟩))⟩
  · have same : world' = world := at'.idle_ended
    rw [same]
    exact .inl ⟨rfl, _, at', .inr (.inr (.inr ⟨outcome, rfl, sent⟩))⟩

/-- A command past its refresh leaves the server alone. -/
theorem past_step (at' : t.At world f s x y) (past : Past x) :
    let world' := (t.program.worldStep world (.advance f)).1
    world'.db.2 = world.db.2 ∧ ∃ x', t.At world' f s x' y ∧ Past x' := by
  intro world'
  rcases past with ⟨run, newTokens, rfl⟩ | ⟨run, token, result, rfl⟩ | left
  · obtain ⟨after, next⟩ := at'.advance (rfl : commandStep (refreshToken t.settings) world.db
      (.retry run newTokens) = _)
    exact ⟨congrArg Prod.snd after, _, next, .inr (.inl ⟨_, _, _, rfl⟩)⟩
  · obtain ⟨_, server, x', next, left⟩ := leave_step at'
    exact ⟨server, x', next, .inr (.inr left.hasLeft)⟩
  · obtain ⟨_, server, x', next, left', _⟩ := left_step at' left
    exact ⟨server, x', next, .inr (.inr left')⟩

/-- A clash goes on to the end. -/
theorem clash_step {x y : Position α} (clash : t.Clash world f s x y)
    {event : Transaction.Event (CommandStage RefreshDraws α)}
    (served : Served t.settings t.usable world event) :
    ∃ f s x y, t.Clash (t.program.worldStep world event).1 f s x y := by
  obtain ⟨at', behind, known, other⟩ := clash
  cases event with
  | submit request => exact served.elim
  | advance i =>
      by_cases here : i = f
      · subst here
        rcases behind_step at' behind known served with
          ⟨same, x', next, behind'⟩ | ⟨alive, dead, newTokens, next⟩
        · refine ⟨i, s, x', y, next, behind', ?_, ?_⟩
          · rw [same]
            exact known
          · rw [same]
            exact other
        · obtain ⟨row, found, _⟩ := id dead
          -- Now the other command is the one that is behind.
          have behindOther := other.resolve_right fun past => alive past.2
          exact ⟨s, i, _, _, next.symm, behindOther, ⟨row, found⟩, .inr ⟨.inl ⟨_, _, rfl⟩, dead⟩⟩
      · by_cases there : i = s
        · subst there
          rcases other with behindOther | ⟨past, dead⟩
          · rcases behind_step at'.symm behindOther known served with
              ⟨same, y', next, behind'⟩ | ⟨_, dead, newTokens, next⟩
            · refine ⟨f, i, x, y', next.symm, behind, ?_, .inl behind'⟩
              rw [same]
              exact known
            · obtain ⟨row, found, _⟩ := id dead
              exact ⟨f, i, x, _, next.symm, behind, ⟨row, found⟩, .inr ⟨.inl ⟨_, _, rfl⟩, dead⟩⟩
          · obtain ⟨same, y', next, past'⟩ := past_step at'.symm past
            refine ⟨f, i, x, y', next.symm, behind, ?_, .inr ⟨past', ?_⟩⟩
            · rw [same]
              exact known
            · rw [same]
              exact dead
        · rw [(at'.idle_other here there).2]
          exact ⟨f, s, x, y, at', behind, known, other⟩

/-! ## Taking turns -/

/-- A command that enters copies the tokens the client holds. -/
theorem enter_step {run : CommandRun RefreshDraws α} (at' : t.At world f s (.inl (.enter run)) y)
    {tokens : AuthTokens} (client : world.db.1.tokens = some tokens)
    (served : Served t.settings t.usable world (.advance f)) :
    let world' := (t.program.worldStep world (.advance f)).1
    world'.db.1.tokens = some tokens ∧ world'.db.2 = world.db.2 ∧
      t.At world' f s (.inl (.first run tokens)) y := by
  intro world'
  have calls : (run.command.enter world.db.1).2 = .inl tokens := by
    have left := at'.serves served (by rw [client]; rfl)
    obtain ⟨copied, entered⟩ := Sum.isLeft_iff.mp left
    have same := (run.command.enter_tokens world.db.1).2 copied entered
    rw [entered, Option.some.inj (same.symm.trans client)]
  have taken : commandStep (refreshToken t.settings) world.db (.enter run) =
      (((run.command.enter world.db.1).1, world.db.2), .inl (.first run tokens)) := by
    cases entered : run.command.enter world.db.1 with
    | mk app next =>
        rw [entered] at calls
        dsimp only at calls
        simp only [commandStep, entered, calls]
  obtain ⟨after, next⟩ := at'.advance taken
  refine ⟨?_, (congrArg Prod.snd after).trans rfl, next⟩
  refine (congrArg (fun login : Login => login.1.tokens) after).trans ?_
  exact ((run.command.enter_tokens world.db.1).1).trans client

/-- What the commands come to in a step: they take turns, or one enters out of turn. -/
def Onward (t : TwoCommands α) (world : CommandWorld α) (i : Nat) : Prop :=
  let world' := (t.program.worldStep world (.advance i)).1
  EntersAlone world (.advance i) ∧ t.Turns world' ∨
    ¬ EntersAlone world (.advance i) ∧ ∃ f s x y, t.Clash world' f s x y

/-- A step of neither command changes nothing. -/
theorem onward_other (turns : t.Turns world) (at' : t.At world f s x y) {i : Nat}
    (notHere : i ≠ f) (notThere : i ≠ s) : t.Onward world i := by
  obtain ⟨alone, same⟩ := at'.idle_other notHere notThere
  refine .inl ⟨alone, ?_⟩
  rw [same]
  exact turns

/-- The second command enters while the first has the old tokens, or the first goes on. -/
theorem onward_asks {stage : CommandStage RefreshDraws α} {i : Nat}
    (at' : t.At world f s (.inl stage) (.inl (.enter (t.run s))))
    (early : stage = .enter (t.run f) ∨ stage = .first (t.run f) t.tokens ∨
      stage = .refresh (t.run f) t.tokens)
    (client : world.db.1.tokens = some t.tokens)
    (server : ∃ row,
      world.db.2.tokensWith (t.settings.hashToken t.tokens.refreshToken) = [row] ∧
        row.revoked = false)
    (served : Served t.settings t.usable world (.advance i)) : t.Onward world i := by
  by_cases here : i = f
  · subst here
    rcases early with rfl | rfl | rfl
    · obtain ⟨client', server', next⟩ := enter_step at' client served
      refine .inl ⟨at'.entersAlone_iff.mpr (.inl ⟨_, rfl⟩), ?_⟩
      exact .asks i s _ next (.inr (.inl rfl)) client' (server' ▸ server)
    · refine .inl ⟨at'.entersAlone (by simp), ?_⟩
      obtain ⟨after, next⟩ := first_step at' served
      exact .asks i s _ next (.inr (.inr rfl)) (after ▸ client) (after ▸ server)
    · refine .inl ⟨at'.entersAlone (by simp), ?_⟩
      obtain ⟨row, found, unrevoked⟩ := server
      obtain ⟨after, dead, newTokens, next, usable, stored⟩ :=
        refresh_step at' found unrevoked served
      exact .given i s _ newTokens next (.inl rfl) (after ▸ client) usable dead stored
  · by_cases there : i = s
    · subst there
      obtain ⟨client', server', next⟩ := enter_step at'.symm client served
      have known : ∃ row, (t.program.worldStep world (.advance i)).1.db.2.tokensWith
          (t.settings.hashToken t.tokens.refreshToken) = [row] := by
        obtain ⟨row, found, _⟩ := server
        exact ⟨row, server' ▸ found⟩
      rcases early with rfl | rfl | rfl
      · refine .inl ⟨at'.symm.entersAlone_iff.mpr (.inl ⟨_, rfl⟩), ?_⟩
        exact .asks i f _ next (.inr (.inl rfl)) client' (server' ▸ server)
      · have notAlone := at'.symm.not_entersAlone (by rintro ⟨⟩) (by rintro _ ⟨⟩)
        exact .inr ⟨notAlone, f, i, _, _, next.symm, .inl rfl, known, .inl (.inl rfl)⟩
      · have notAlone := at'.symm.not_entersAlone (by rintro ⟨⟩) (by rintro _ ⟨⟩)
        exact .inr ⟨notAlone, f, i, _, _, next.symm, .inr (.inl rfl), known, .inl (.inl rfl)⟩
    · exact onward_other (.asks f s stage at' early client server) at' here there

/-- The first command puts its new pair in its place, unless it drops the pair or has failed. -/
theorem turns_leave {newTokens : AuthTokens}
    (at' : t.At world f s (.inl (.leave (t.run f) newTokens.accessToken
      ((t.run f).retry.map fun value => (value, some newTokens)))) (.inl (.enter (t.run s))))
    (answers : ChecksToken True (t.run f).retry) (client : world.db.1.tokens = some t.tokens)
    (usable : t.usable newTokens.accessToken) (dead : t.Dead world.db.2)
    (server : ∃ row,
      world.db.2.tokensWith (t.settings.hashToken newTokens.refreshToken) = [row] ∧
        row.revoked = false) :
    t.Turns (t.program.worldStep world (.advance f)).1 := by
  obtain ⟨client', server', x', next, left⟩ := leave_step at'
  refine .between f s x' _ next left usable ?_
  cases answer : (t.run f).retry with
  | ok value =>
      have stored := (t.run f).command.leave_ok_tokens world.db.1 value (some newTokens)
      rw [answer] at client'
      by_cases drops : (t.run f).command.Drops
      · rw [if_pos drops] at stored
        exact .inr ⟨fun stores => stores.1 drops, client'.trans (stored.trans client),
          server' ▸ dead⟩
      · rw [if_neg drops] at stored
        exact .inl ⟨⟨drops, value, answer⟩, newTokens, client'.trans stored, usable,
          server' ▸ server⟩
  | error e =>
      have kept := (t.run f).command.leave_error_tokens world.db.1 e
      rw [answer] at answers
      rw [if_neg (answers.not_forgets _)] at kept
      rw [answer] at client'
      refine .inr ⟨?_, client'.trans (kept.trans client), server' ▸ dead⟩
      rintro ⟨_, value, ok⟩
      rw [answer] at ok
      cases ok

/-- The second command enters while the first has a new pair in its hand, or the first goes on. -/
theorem onward_given {stage : CommandStage RefreshDraws α} {newTokens : AuthTokens} {i : Nat}
    (at' : t.At world f s (.inl stage) (.inl (.enter (t.run s))))
    (late : stage = .retry (t.run f) newTokens ∨
      ChecksToken True (t.run f).retry ∧ stage = .leave (t.run f) newTokens.accessToken
        ((t.run f).retry.map fun value => (value, some newTokens)))
    (client : world.db.1.tokens = some t.tokens) (usable : t.usable newTokens.accessToken)
    (dead : t.Dead world.db.2)
    (server : ∃ row,
      world.db.2.tokensWith (t.settings.hashToken newTokens.refreshToken) = [row] ∧
        row.revoked = false)
    (served : Served t.settings t.usable world (.advance i)) : t.Onward world i := by
  by_cases here : i = f
  · subst here
    rcases late with rfl | ⟨answers, rfl⟩
    · refine .inl ⟨at'.entersAlone (by simp), ?_⟩
      have answers : ChecksToken True (t.run i).retry := by
        have answers : ChecksToken (t.usable newTokens.accessToken) (t.run i).retry :=
          at'.serves served
        rwa [eq_true usable] at answers
      obtain ⟨after, next⟩ := at'.advance (rfl : commandStep (refreshToken t.settings) world.db
        (.retry (t.run i) newTokens) = _)
      exact .given i s _ newTokens next (.inr ⟨answers, rfl⟩) (after ▸ client) usable
        (after ▸ dead) (after ▸ server)
    · refine .inl ⟨at'.entersAlone (by simp), ?_⟩
      exact turns_leave at' answers client usable dead server
  · by_cases there : i = s
    · subst there
      obtain ⟨client', server', next⟩ := enter_step at'.symm client served
      obtain ⟨row, found, _⟩ := id dead
      have known : ∃ row, (t.program.worldStep world (.advance i)).1.db.2.tokensWith
          (t.settings.hashToken t.tokens.refreshToken) = [row] := ⟨row, server' ▸ found⟩
      rcases late with rfl | ⟨_, rfl⟩
      · have notAlone := at'.symm.not_entersAlone (by rintro ⟨⟩) (by rintro _ ⟨⟩)
        exact .inr ⟨notAlone, i, f, _, _, next, .inl rfl, known,
          .inr ⟨.inl ⟨_, _, rfl⟩, server' ▸ dead⟩⟩
      · have notAlone := at'.symm.not_entersAlone (by rintro ⟨⟩) (by rintro _ ⟨⟩)
        exact .inr ⟨notAlone, i, f, _, _, next, .inl rfl, known,
          .inr ⟨.inr (.inl ⟨_, _, _, rfl⟩), server' ▸ dead⟩⟩
    · exact onward_other (.given f s stage newTokens at' late client usable dead server) at' here
        there

/-- The second command enters with what the first has left. -/
theorem onward_between {x : Position α} {token : String} {i : Nat}
    (at' : t.At world f s x (.inl (.enter (t.run s)))) (left : LeftWith token x)
    (usable : t.usable token)
    (pair : StoresPair (t.run f) ∧ (∃ newTokens, t.Holds world.db newTokens) ∨
      ¬ StoresPair (t.run f) ∧ world.db.1.tokens = some t.tokens ∧ t.Dead world.db.2)
    (served : Served t.settings t.usable world (.advance i)) : t.Onward world i := by
  by_cases here : i = f
  · subst here
    obtain ⟨client', server', x', next, _, with'⟩ := left_step at' left.hasLeft
    refine .inl ⟨at'.entersAlone left.hasLeft.ne_enter, ?_⟩
    refine .between i s x' token next (with' token left) usable ?_
    rcases pair with ⟨stores, newTokens, client, fresh, server⟩ | ⟨loses, client, dead⟩
    · exact .inl ⟨stores, newTokens, client'.trans client, fresh, server' ▸ server⟩
    · exact .inr ⟨loses, client'.trans client, server' ▸ dead⟩
  · by_cases there : i = s
    · subst there
      rcases pair with ⟨stores, newTokens, client, fresh, server⟩ | ⟨loses, client, dead⟩
      · obtain ⟨client', server', next⟩ := enter_step at'.symm client served
        refine .inl ⟨at'.symm.entersAlone_iff.mpr (.inr ⟨left.hasLeft, stores⟩), ?_⟩
        exact .follows f i x token newTokens _ next.symm left usable
          ⟨client', fresh, server' ▸ server⟩ (.inl rfl)
      · obtain ⟨client', server', next⟩ := enter_step at'.symm client served
        obtain ⟨row, found, _⟩ := id dead
        refine .inr ⟨fun alone => ?_, i, f, _, _, next, .inl rfl, ⟨row, server' ▸ found⟩,
          .inr ⟨.inr (.inr left.hasLeft), server' ▸ dead⟩⟩
        rcases at'.symm.entersAlone_iff.mp alone with ⟨other, waits⟩ | ⟨_, stores⟩
        · exact left.hasLeft.ne_enter other waits
        · exact loses stores
    · exact onward_other (.between f s x token at' left usable pair) at' here there

theorem Fresh.ne_enter {newTokens : AuthTokens} (late : t.Fresh s newTokens y)
    (run : CommandRun RefreshDraws α) : y ≠ .inl (.enter run) := by
  rcases late with rfl | ⟨_, rfl⟩ | left
  · simp
  · simp
  · exact left.hasLeft.ne_enter run

/-- Its step keeps the tokens. -/
theorem Fresh.step {newTokens : AuthTokens} (at' : t.At world f s x y)
    (late : t.Fresh f newTokens x) (holds : t.Holds world.db newTokens)
    (served : Served t.settings t.usable world (.advance f)) :
    let world' := (t.program.worldStep world (.advance f)).1
    t.Holds world'.db newTokens ∧ ∃ x', t.At world' f s x' y ∧ t.Fresh f newTokens x' := by
  obtain ⟨client, fresh, server⟩ := holds
  rcases late with rfl | ⟨answers, rfl⟩ | left
  · have answers : ChecksToken (t.usable newTokens.accessToken) (t.run f).first :=
      at'.serves served
    rw [eq_true fresh] at answers
    have taken : commandStep (refreshToken t.settings) world.db (.first (t.run f) newTokens) =
        (world.db, .inl (.leave (t.run f) newTokens.accessToken
          ((t.run f).first.map fun value => (value, none)))) := by
      cases answer : (t.run f).first with
      | ok value => simp only [commandStep, answer, Except.map]
      | error e =>
          have accepted : e ≠ .unauthorized := by
            rintro rfl
            exact answers.1.mp answer trivial
          simp only [commandStep, answer, Except.map]
    obtain ⟨after, next⟩ := at'.advance taken
    exact ⟨after ▸ ⟨client, fresh, server⟩, _, next, .inr (.inl ⟨answers, rfl⟩)⟩
  · obtain ⟨client', server', x', next, left⟩ := leave_step at'
    refine ⟨⟨client'.trans ?_, fresh, server' ▸ server⟩, x', next, .inr (.inr left)⟩
    cases answer : (t.run f).first with
    | ok value =>
        apply ((t.run f).command.leave_ok_tokens world.db.1 value none).trans
        rw [Option.none_or, ite_self]
        exact client
    | error e =>
        rw [answer] at answers
        apply ((t.run f).command.leave_error_tokens world.db.1 e).trans
        rw [if_neg (answers.not_forgets _)]
        exact client
  · obtain ⟨client', server', x', next, _, with'⟩ := left_step at' left.hasLeft
    exact ⟨⟨client'.trans client, fresh, server' ▸ server⟩, x', next, .inr (.inr (with' _ left))⟩

/-- The second command needs no refresh. -/
theorem onward_follows {token : String} {newTokens : AuthTokens} {i : Nat}
    (at' : t.At world f s x y) (left : LeftWith token x) (usable : t.usable token)
    (holds : t.Holds world.db newTokens) (late : t.Fresh s newTokens y)
    (served : Served t.settings t.usable world (.advance i)) : t.Onward world i := by
  by_cases here : i = f
  · subst here
    obtain ⟨client, fresh, server⟩ := holds
    obtain ⟨client', server', x', next, _, with'⟩ := left_step at' left.hasLeft
    refine .inl ⟨at'.entersAlone left.hasLeft.ne_enter, ?_⟩
    exact .follows i s x' token newTokens y next (with' token left) usable
      ⟨client'.trans client, fresh, server' ▸ server⟩ late
  · by_cases there : i = s
    · subst there
      obtain ⟨holds', y', next, late'⟩ := late.step at'.symm holds served
      refine .inl ⟨at'.symm.entersAlone late.ne_enter, ?_⟩
      exact .follows f i x token newTokens y' next.symm left usable holds' late'
    · exact onward_other (.follows f s x token newTokens y at' left usable holds late) at' here
        there

/-! ## Whole runs -/

theorem turns_step (turns : t.Turns world) {event : Transaction.Event (CommandStage RefreshDraws α)}
    (served : Served t.settings t.usable world event) :
    let world' := (t.program.worldStep world event).1
    EntersAlone world event ∧ t.Turns world' ∨
      ¬ EntersAlone world event ∧ ∃ f s x y, t.Clash world' f s x y := by
  cases event with
  | submit request => exact served.elim
  | advance i =>
      cases turns with
      | asks f s stage at' early client server => exact onward_asks at' early client server served
      | given f s stage newTokens at' late client usable dead server =>
          exact onward_given at' late client usable dead server served
      | between f s x token at' left usable pair =>
          exact onward_between at' left usable pair served
      | follows f s x token newTokens y at' left usable holds late =>
          exact onward_follows at' left usable holds late served

theorem clash_run {x y : Position α} (clash : t.Clash world f s x y)
    {events : List (Transaction.Event (CommandStage RefreshDraws α))}
    (served : Machine.Legal (Served t.settings t.usable) t.program.worldStep world events) :
    ∃ f s x y, t.Clash (Machine.run t.program.worldStep world events).1 f s x y := by
  induction events generalizing world f s x y with
  | nil => exact ⟨f, s, x, y, clash⟩
  | cons event events ih =>
      obtain ⟨f', s', x', y', clash'⟩ := clash_step clash served.1
      exact ih clash' served.2

/-- The commands take turns to the end, or clash from the first step out of turn. -/
theorem turns_run (turns : t.Turns world)
    {events : List (Transaction.Event (CommandStage RefreshDraws α))}
    (served : Machine.Legal (Served t.settings t.usable) t.program.worldStep world events) :
    Machine.Legal EntersAlone t.program.worldStep world events ∧
        t.Turns (Machine.run t.program.worldStep world events).1 ∨
      ¬ Machine.Legal EntersAlone t.program.worldStep world events ∧
        ∃ f s x y, t.Clash (Machine.run t.program.worldStep world events).1 f s x y := by
  induction events generalizing world with
  | nil => exact .inl ⟨trivial, turns⟩
  | cons event events ih =>
      rcases turns_step turns served.1 with ⟨alone, turns'⟩ | ⟨notAlone, f, s, x, y, clash⟩
      · rcases ih turns' served.2 with ⟨later, turned⟩ | ⟨notLater, clashed⟩
        · exact .inl ⟨⟨alone, later⟩, turned⟩
        · exact .inr ⟨fun legal => notLater legal.2, clashed⟩
      · exact .inr ⟨fun legal => notAlone legal.1, clash_run clash served.2⟩

/-- The last access token a command has sent is usable. -/
def Obtained (usable : String → Bool)
    (task : Task (CommandStage RefreshDraws α) CommandOutcome) : Prop :=
  ∃ outcome token, task.stage = .inr outcome ∧ outcome.accessToken = some token ∧ usable token

/-- The client holds a refresh token that the server has stored and has not revoked. -/
def LoggedIn (settings : TokenSettings) (login : Login) : Prop :=
  ∃ tokens, login.1.tokens = some tokens ∧
    ∃ row, login.2.tokensWith (settings.hashToken tokens.refreshToken) = [row] ∧
      row.revoked = false

theorem turns_start (t : TwoCommands α) : t.Turns t.start :=
  .asks 0 1 (.enter t.one) ⟨.inl ⟨rfl, rfl⟩, rfl, rfl, rfl⟩ (.inl rfl) t.held t.unrevoked

theorem LeftWith.obtained {usable : String → Bool}
    {task : Task (CommandStage RefreshDraws α) CommandOutcome} {token : String}
    (left : LeftWith token task.stage) (fresh : usable token)
    (finished : ∃ outcome, task.stage = .inr outcome) : Obtained usable task := by
  obtain ⟨outcome, ended⟩ := finished
  rw [ended] at left
  cases left with
  | ended sent => exact ⟨outcome, token, ended, sent, fresh⟩

/-- Both commands get a usable access token and the client stays logged in, if and only if the
second command enters when the first one has stored its pair. -/
theorem stays_logged_in_iff (t : TwoCommands α) :
    (∀ task ∈ t.final.tasks, Obtained t.usable task) ∧ LoggedIn t.settings t.final.db ↔
      Machine.Legal EntersAlone t.program.worldStep t.start (t.order.map .advance) := by
  have finished : ∀ task ∈ t.final.tasks, ∃ outcome, task.stage = .inr outcome :=
    fun task member => Sum.isRight_iff.mp (t.finished task member)
  rcases turns_run t.turns_start t.served with ⟨alone, turns⟩ | ⟨clashes, f, s, x, y, clash⟩
  · refine iff_of_true ?_ alone
    have entered (run : CommandRun RefreshDraws α) (position : Position α) {f s : Nat}
        (at' : t.At t.final f s position (.inl (.enter run))) : False := by
      obtain ⟨outcome, ended⟩ := finished _ (List.mem_of_getElem? at'.there)
      cases ended
    cases turns with
    | asks f s stage at' early client server => exact (entered _ _ at').elim
    | given f s stage newTokens at' late client usable dead server => exact (entered _ _ at').elim
    | between f s x token at' left usable pair => exact (entered _ _ at').elim
    | follows f s x token newTokens y at' left usable holds late =>
        obtain ⟨client, fresh, server⟩ := holds
        refine ⟨fun task member => ?_, newTokens, client, server⟩
        rcases at'.mem member with first | second
        · exact LeftWith.obtained (first ▸ left) usable (finished task member)
        · obtain ⟨outcome, rfl⟩ := finished _ (List.mem_of_getElem? at'.there)
          rcases late with early | ⟨_, early⟩ | later
          · cases early
          · cases early
          · exact LeftWith.obtained (second ▸ later) fresh (finished task member)
  · refine iff_of_false ?_ clashes
    rintro ⟨obtained, _⟩
    have member := List.mem_of_getElem? clash.at'.here
    obtain ⟨outcome, token, ended, sent, usable⟩ := obtained _ member
    obtain rfl : x = .inr outcome := ended
    rcases clash.behind with early | early | ⟨_, _, early⟩ | ⟨_, same, old⟩
    · cases early
    · cases early
    · cases early
    · obtain rfl := Sum.inr.inj same
      obtain rfl := Option.some.inj (old.symm.trans sent)
      exact t.expired usable

end TwoCommands

/-- `cmd_get_user` and `cmd_get_user_stats` with an expired access token. Both read the tokens,
and the stats are refreshed first. -/
def userAndStats : TwoCommands Unit where
  settings := Server.plainSettings
  usable := (1 < ·.length)
  login := expiredLogin
  tokens := ⟨"a", "r"⟩
  one := ⟨.cmdGetUser, .error .unauthorized, .ok (), ⟨"s", 11, 1, 2, 3⟩⟩
  two := ⟨.cmdGetUserStats, .error .unauthorized, .ok (), ⟨"t", 12, 1, 2, 3⟩⟩
  order := [0, 1, 0, 1, 1, 0, 1, 1, 0]
  held := rfl
  expired := by decide
  unrevoked := ⟨⟨10, 1, "r", 1000, false⟩, by decide⟩
  issues := by
    intro userId run _
    have middle : " at ".length = 4 := by decide
    simp only [Server.plainSettings, String.length_append, middle, decide_eq_true_eq]
    omega
  served := by decide
  finished := by decide

/-- The user is logged out, though the stats have stored a new pair. -/
theorem two_commands_log_out :
    ¬ ((∀ task ∈ userAndStats.final.tasks, TwoCommands.Obtained userAndStats.usable task) ∧
      TwoCommands.LoggedIn userAndStats.settings userAndStats.final.db) := by
  rintro ⟨_, tokens, held, _⟩
  have forgotten : userAndStats.final.db.1.tokens = none := by rfl
  rw [forgotten] at held
  cases held

end PlgBooster.System
