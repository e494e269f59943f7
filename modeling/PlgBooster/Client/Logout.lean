import PlgBooster.Client.Commands

/-!
# Logging out while commands are on their way

`cmd_logout` removes the token file and forgets the tokens. A command that has copied the
tokens before goes on with them, and stores what a refresh gives it when its call returns. So
a logout is final exactly if no such call comes back with a new pair that is kept.

The commands are those of every call of `with_auto_refresh`. They are cut at all of their
awaits here, also where the smart monitor looks at the boost, and the token file is part of the
state.
-/

namespace PlgBooster.Client

open Transaction

variable {σ ε α : Type}

/-- The client's state with its token file, and the server's. -/
structure Desktop (σ : Type) where
  app : AppState
  file : Option AuthTokens
  /-- Not in the program: how often the file was written. -/
  writes : Nat
  server : σ

/-- Where a command is: before one of its awaits. -/
inductive DesktopStage (ε α : Type) where
  | command (stage : CommandStage ε α)
  | checkBoosting (run : CommandRun ε α) (found : Bool)
  | awaitBestNode (run : CommandRun ε α) (found : Bool)
  | checkProxy (run : CommandRun ε α)
  | takeBoost (run : CommandRun ε α)
  | logout

/-- For an auto-connect `found` says that a node was found and auto-connect is on. -/
inductive DesktopCommand (ε α : Type) where
  | command (run : CommandRun ε α) (found : Bool)
  | cmdLogout

/-- The first stage of a command. -/
def DesktopCommand.start : DesktopCommand ε α → DesktopStage ε α
  | .cmdLogout => .logout
  | .command run found =>
      match run.command with
      | .autoConnect _ => .checkBoosting run found
      | .autoDisconnect => .checkProxy run
      | _ => .command (.enter run)

/-- What a command writes to the file as it leaves. -/
def CommandStage.saved : CommandStage ε α → Option AuthTokens
  | .leave run _ (.ok (_, newTokens)) => if run.command.Drops then none else newTokens
  | _ => none

/-- `AuthTokens::clear()`, where the tokens are forgotten. -/
def CommandStage.clears : CommandStage ε α → Bool
  | .leave run _ (.error e) => run.command.Forgets e
  | _ => false

namespace Desktop

/-- `new_auth.save()`, if there are new tokens. -/
def save (desktop : Desktop σ) (newTokens : Option AuthTokens) : Desktop σ :=
  { desktop with
    file := newTokens.or desktop.file
    writes := desktop.writes + newTokens.toList.length }

/-- `AuthTokens::clear()`. -/
def clear (desktop : Desktop σ) : Desktop σ :=
  { desktop with file := none }

/-- Send the first request with the tokens, or end. -/
def ask (desktop : Desktop σ) (run : CommandRun ε α) :
    AppState × (AuthTokens ⊕ Except String Unit) →
      Desktop σ × (DesktopStage ε α ⊕ Option CommandOutcome)
  | (app, .inl tokens) => ({ desktop with app }, .inl (.command (.first run tokens)))
  | (app, .inr result) => ({ desktop with app }, .inr (some ⟨none, result⟩))

end Desktop

section Program

variable (refresh : ε → σ → String → σ × Except ApiError AuthTokens)

/-- A step between two awaits. -/
def desktopStep (desktop : Desktop σ) :
    DesktopStage ε α → Desktop σ × (DesktopStage ε α ⊕ Option CommandOutcome)
  | .command stage =>
      let result := commandStep refresh (desktop.app, desktop.server) stage
      let written := (if stage.clears then desktop.clear else desktop).save stage.saved
      ({ written with app := result.1.1, server := result.1.2 }, result.2.map .command some)
  | .checkBoosting run found =>
      if desktop.app.activeProxy.isSome then (desktop, .inr (some ⟨none, .ok ()⟩))
      else (desktop, .inl (.awaitBestNode run found))
  | .awaitBestNode run found =>
      if found then desktop.ask run (Command.authenticated desktop.app)
      else (desktop, .inr (some ⟨none, .ok ()⟩))
  | .checkProxy run =>
      if desktop.app.activeProxy.isSome then (desktop, .inl (.takeBoost run))
      else (desktop, .inr (some ⟨none, .ok ()⟩))
  | .takeBoost run => desktop.ask run (Command.stopping desktop.app)
  | .logout =>
      ({ desktop.clear with app := { desktop.app with tokens := none } }, .inr none)

def DesktopStage.rank : DesktopStage ε α → Nat
  | .checkBoosting _ _ => 7
  | .awaitBestNode _ _ => 6
  | .checkProxy _ => 7
  | .takeBoost _ => 6
  | .command stage => stage.rank
  | .logout => 0

theorem desktopStep_descends (desktop : Desktop σ) (stage stage' : DesktopStage ε α)
    (next : (desktopStep refresh desktop stage).2 = .inl stage') : stage'.rank < stage.rank := by
  have asked {run : CommandRun ε α} {entered : AppState × (AuthTokens ⊕ Except String Unit)}
      (next : (desktop.ask run entered).2 = .inl stage') : stage'.rank < 6 := by
    obtain ⟨app, tokens | result⟩ := entered
    · cases next
      simp [DesktopStage.rank, CommandStage.rank]
    · cases next
  cases stage with
  | command stage =>
      simp only [desktopStep] at next
      cases taken : (commandStep refresh (desktop.app, desktop.server) stage).2 with
      | inr outcome =>
          rw [taken] at next
          cases next
      | inl later =>
          rw [taken] at next
          obtain rfl := Sum.inl.inj next
          exact commandStep_descends refresh _ stage later taken
  | awaitBestNode run found =>
      cases found with
      | true => exact asked next
      | false => cases next
  | takeBoost run => exact asked next
  | logout => cases next
  | _ =>
      simp only [desktopStep] at next
      split at next <;> cases next
      simp [DesktopStage.rank]

/-- The commands and logouts as a program over the client's state. -/
def desktopCommands : Program (Desktop σ) (DesktopStage ε α) (Option CommandOutcome) where
  step := desktopStep refresh
  rank := DesktopStage.rank
  descends := desktopStep_descends refresh

end Program

/-! ## Commands run alone -/

section Alone

variable (refresh : ε → σ → String → σ × Except ApiError AuthTokens)

/-- Run alone, the two come to the same state and result. -/
def AgreeAlone (desktop : Desktop σ) (stage : DesktopStage ε α) (whole : CommandStage ε α) :
    Prop :=
  let here := (desktopCommands refresh).exec desktop stage
  let there := (commands refresh).exec (desktop.app, desktop.server) whole
  (here.1.app, here.1.server) = there.1 ∧ here.2 = there.2.map some

variable {refresh} {desktop : Desktop σ}

/-- A look at the boost changes nothing. -/
theorem AgreeAlone.after {stage stage' : DesktopStage ε α} {whole : CommandStage ε α}
    (agree : AgreeAlone refresh desktop stage' whole)
    (looked : desktopStep refresh desktop stage = (desktop, .inl stage')) :
    AgreeAlone refresh desktop stage whole := by
  rw [AgreeAlone, (desktopCommands refresh).exec_of_step_inl looked]
  exact agree

/-- By the rank: from every stage of a call a command goes on in the same way. -/
theorem agreeAlone_command (desktop : Desktop σ) (stage : CommandStage ε α) :
    AgreeAlone refresh desktop (.command stage) stage := by
  induction below : stage.rank using Nat.strongRecOn generalizing desktop stage with
  | ind rank ih =>
      let written := (if stage.clears then desktop.clear else desktop).save stage.saved
      cases taken : commandStep refresh (desktop.app, desktop.server) stage with
      | mk world next =>
          cases next with
          | inr outcome =>
              have here : (desktopCommands refresh).step desktop (.command stage) =
                  ({ written with app := world.1, server := world.2 }, .inr (some outcome)) := by
                simp only [desktopCommands, desktopStep, taken]
                rfl
              rw [AgreeAlone, (commands refresh).exec_of_step_inr taken,
                (desktopCommands refresh).exec_of_step_inr here]
              exact ⟨rfl, rfl⟩
          | inl later =>
              have here : (desktopCommands refresh).step desktop (.command stage) =
                  ({ written with app := world.1, server := world.2 },
                    .inl (.command later)) := by
                simp only [desktopCommands, desktopStep, taken]
                rfl
              have down := commandStep_descends refresh _ stage later (by rw [taken])
              rw [AgreeAlone, (commands refresh).exec_of_step_inl taken,
                (desktopCommands refresh).exec_of_step_inl here]
              exact ih _ (below ▸ down) _ later rfl

/-- A command that gets its tokens at an await of its own. -/
theorem agreeAlone_ask {stage : DesktopStage ε α} {run : CommandRun ε α}
    (taken : desktopStep refresh desktop stage =
      desktop.ask run (run.command.enter desktop.app)) :
    AgreeAlone refresh desktop stage (.enter run) := by
  cases entered : run.command.enter desktop.app with
  | mk app next =>
      rw [entered] at taken
      cases next with
      | inr result =>
          have alone : (commands refresh).step (desktop.app, desktop.server) (.enter run) =
              ((app, desktop.server), .inr ⟨none, result⟩) := by
            simp only [commands, commandStep, entered]
          rw [AgreeAlone, (commands refresh).exec_of_step_inr alone,
            (desktopCommands refresh).exec_of_step_inr taken]
          exact ⟨rfl, rfl⟩
      | inl tokens =>
          have alone : (commands refresh).step (desktop.app, desktop.server) (.enter run) =
              ((app, desktop.server), .inl (.first run tokens)) := by
            simp only [commands, commandStep, entered]
          rw [AgreeAlone, (commands refresh).exec_of_step_inl alone,
            (desktopCommands refresh).exec_of_step_inl taken]
          exact agreeAlone_command { desktop with app } (.first run tokens)

/-- Cut at its awaits, a command run alone does what it does otherwise. -/
theorem agreeAlone_start (desktop : Desktop σ) (run : CommandRun ε α) :
    AgreeAlone refresh desktop (DesktopCommand.start (.command run true)) (.enter run) := by
  cases asked : run.command with
  | autoConnect openBoost =>
      simp only [DesktopCommand.start, asked]
      by_cases connected : desktop.app.activeProxy.isSome = true
      · apply agreeAlone_ask
        simp only [desktopStep, asked, Command.enter, if_pos connected]
        rfl
      · have looked : desktopStep refresh desktop (.checkBoosting run true) =
            (desktop, .inl (.awaitBestNode run true)) := by
          simp only [desktopStep, if_neg connected]
        refine (agreeAlone_ask ?_).after looked
        simp only [desktopStep, asked, Command.enter, if_neg connected, if_true]
  | autoDisconnect =>
      simp only [DesktopCommand.start, asked]
      by_cases connected : desktop.app.activeProxy.isSome = true
      · have looked : desktopStep refresh desktop (.checkProxy run) =
            (desktop, .inl (.takeBoost run)) := by
          simp only [desktopStep, if_pos connected]
        refine (agreeAlone_ask ?_).after looked
        simp only [desktopStep, asked, Command.enter, if_pos connected]
      · apply agreeAlone_ask
        simp only [desktopStep, asked, Command.enter, if_neg connected]
        rfl
  | _ =>
      simp only [DesktopCommand.start, asked]
      exact agreeAlone_command desktop (.enter run)

end Alone

/-! ## After a logout -/

/-- There are no tokens, and the file was not written since. -/
def StaysOut (writes : Nat) (desktop : Desktop σ) : Prop :=
  desktop.app.tokens = none ∧ desktop.writes = writes

instance (writes : Nat) (desktop : Desktop σ) : Decidable (StaysOut writes desktop) :=
  inferInstanceAs (Decidable (_ ∧ _))

/-- The step stores no new pair: no call has come back with one, or it is dropped. -/
def StoresNoPair (_ : Desktop σ) : DesktopStage ε α → Prop
  | .command (.leave run _ (.ok (_, some _))) => run.command.Drops
  | _ => True

instance (desktop : Desktop σ) : (stage : DesktopStage ε α) → Decidable (StoresNoPair desktop stage)
  | .command (.leave run _ (.ok (_, some _))) => inferInstanceAs (Decidable run.command.Drops)
  | .command (.leave _ _ (.ok (_, none))) => .isTrue trivial
  | .command (.leave _ _ (.error _)) => .isTrue trivial
  | .command (.enter _) => .isTrue trivial
  | .command (.first _ _) => .isTrue trivial
  | .command (.refresh _ _) => .isTrue trivial
  | .command (.retry _ _) => .isTrue trivial
  | .command (.awaitOpen _ _) => .isTrue trivial
  | .command (.keepBoost _ _ _) => .isTrue trivial
  | .checkBoosting _ _ => .isTrue trivial
  | .awaitBestNode _ _ => .isTrue trivial
  | .checkProxy _ => .isTrue trivial
  | .takeBoost _ => .isTrue trivial
  | .logout => .isTrue trivial

variable (refresh : ε → σ → String → σ × Except ApiError AuthTokens) {writes : Nat}
  {desktop : Desktop σ}

theorem StaysOut.ask (out : StaysOut writes desktop) (run : CommandRun ε α)
    {entered : AppState × (AuthTokens ⊕ Except String Unit)}
    (kept : entered.1.tokens = desktop.app.tokens) :
    StaysOut writes (desktop.ask run entered).1 := by
  obtain ⟨app, tokens | result⟩ := entered
  · exact ⟨kept.trans out.1, out.2⟩
  · exact ⟨kept.trans out.1, out.2⟩

theorem staysOut_command_iff (out : StaysOut writes desktop) (stage : CommandStage ε α) :
    StaysOut writes (desktopStep refresh desktop (.command stage)).1 ↔
      StoresNoPair desktop (.command stage) := by
  obtain ⟨none, same⟩ := out
  have here : (desktopStep refresh desktop (.command stage)).1.app.tokens =
      (commandStep refresh (desktop.app, desktop.server) stage).1.1.tokens ∧
      (desktopStep refresh desktop (.command stage)).1.writes =
        writes + stage.saved.toList.length := by
    constructor
    · rfl
    · simp only [desktopStep, ← same]
      cases stage.clears with
      | true => rfl
      | false => rfl
  rw [StaysOut, here.1, here.2]
  cases stage with
  | enter run =>
      have kept := (run.command.enter_tokens desktop.app).1
      refine iff_of_true ⟨?_, rfl⟩ trivial
      simp only [commandStep]
      split
      · next app tokens entered =>
          rw [entered] at kept
          exact kept.trans none
      · next app result entered =>
          rw [entered] at kept
          exact kept.trans none
  | first run tokens => exact iff_of_true ⟨none, rfl⟩ trivial
  | refresh run tokens =>
      refine iff_of_true ⟨?_, rfl⟩ trivial
      simp only [commandStep]
      split <;> exact none
  | retry run newTokens => exact iff_of_true ⟨none, rfl⟩ trivial
  | awaitOpen accessToken opened => exact iff_of_true ⟨none, rfl⟩ trivial
  | keepBoost accessToken boost sessionId => exact iff_of_true ⟨none, rfl⟩ trivial
  | leave run accessToken result =>
      rw [commandStep_leave]
      cases result with
      | error e =>
          refine iff_of_true ⟨?_, rfl⟩ trivial
          simp only [Command.leave_error_tokens, none, ite_self]
      | ok answered =>
          obtain ⟨value, newTokens⟩ := answered
          simp only [Command.leave_ok_tokens, CommandStage.saved, none]
          cases newTokens with
          | none => exact iff_of_true (by simp) trivial
          | some pair =>
              by_cases drops : run.command.Drops
              · exact iff_of_true (by simp [drops]) drops
              · exact iff_of_false (by simp [drops]) drops

/-- Out of the tokens only the store of a new pair leads back. -/
theorem staysOut_step_iff (out : StaysOut writes desktop) (stage : DesktopStage ε α) :
    StaysOut writes (desktopStep refresh desktop stage).1 ↔ StoresNoPair desktop stage := by
  cases stage with
  | command stage => exact staysOut_command_iff refresh out stage
  | checkBoosting run found =>
      refine iff_of_true ?_ trivial
      simp only [desktopStep]
      split <;> exact out
  | awaitBestNode run found =>
      refine iff_of_true ?_ trivial
      cases found with
      | true => exact out.ask run (Command.cmdGetUser.enter_tokens (α := α) desktop.app).1
      | false => exact out
  | checkProxy run =>
      refine iff_of_true ?_ trivial
      simp only [desktopStep]
      split <;> exact out
  | takeBoost run =>
      exact iff_of_true
        (out.ask run (Command.cmdStopBoost.enter_tokens (α := α) desktop.app).1) trivial
  | logout => exact iff_of_true ⟨rfl, out.2⟩ trivial

/-- Once `cmd_logout` has returned, there are never again tokens or a new token file, whatever
was on its way and whatever comes later, if and only if no call comes back with a new pair to
a command that keeps it. -/
theorem logout_final_iff (desktop : Desktop σ) (before after : List (Event (DesktopCommand ε α)))
    (i : Nat)
    (logout : (Machine.run (desktopCommands refresh).worldStep ⟨desktop, []⟩
      (before.map (Event.map DesktopCommand.start))).1.tasks[i]? = some ⟨.logout, .inl .logout⟩) :
    let atLogout := (Machine.run (desktopCommands refresh).worldStep ⟨desktop, []⟩
      (before.map (Event.map DesktopCommand.start))).1
    let out := ((desktopCommands refresh).worldStep atLogout (.advance i)).1
    (∀ n, StaysOut out.db.writes (Machine.run (desktopCommands refresh).worldStep out
        ((after.map (Event.map DesktopCommand.start)).take n)).1.db) ↔
      Machine.Legal (StepMeets StoresNoPair) (desktopCommands refresh).worldStep out
        (after.map (Event.map DesktopCommand.start)) := by
  intro atLogout out
  have returned : out = ⟨{ atLogout.db.clear with
      app := { atLogout.db.app with tokens := none } },
      atLogout.tasks.set i ⟨.logout, .inr none⟩⟩ :=
    Program.worldStep_of_running logout
  have start : StaysOut out.db.writes out.db := by
    rw [returned]
    exact ⟨rfl, rfl⟩
  have step (world : World (Desktop σ) (DesktopStage ε α) (Option CommandOutcome))
      (event : Event (DesktopStage ε α)) (stays : StaysOut out.db.writes world.db) :
      StaysOut out.db.writes ((desktopCommands refresh).worldStep world event).1.db ↔
        StepMeets StoresNoPair world event :=
    Program.inv_worldStep_iff (StaysOut out.db.writes) stays
      (fun _ _ stage _ => staysOut_step_iff refresh stays stage) event
  exact (Machine.legal_iff_invariant (fun _ => True) (fun _ _ _ _ => trivial)
    (fun world event _ stays => step world event stays) trivial start _).symm

/-! ## A logout while the statistics are being asked for -/

/-- A server that refreshes every session. -/
def renews (_ : Unit) (server : Unit) (_ : String) : Unit × Except ApiError AuthTokens :=
  (server, .ok ⟨"a2", "r2"⟩)

def loggedIn : Desktop Unit :=
  ⟨⟨some ⟨"a1", "r1"⟩, none, none⟩, some ⟨"a1", "r1"⟩, 0, ()⟩

/-- The statistics are asked for, and the client is logged out before the answer. -/
def logoutMeanwhile (first : Except ApiError Unit) :
    List (Event (DesktopCommand Unit Unit)) :=
  [.submit (.command ⟨.cmdGetUserStats, first, .ok (), ()⟩ true), .advance 0,
    .submit .cmdLogout]

theorem logout_final_iff_accepted :
    let out := ((desktopCommands renews).worldStep
      (Machine.run (desktopCommands renews).worldStep ⟨loggedIn, []⟩
        ((logoutMeanwhile (.ok ())).map (Event.map DesktopCommand.start))).1 (.advance 1)).1
    out.db.app.tokens = none ∧ ∀ n, StaysOut out.db.writes
      (Machine.run (desktopCommands renews).worldStep out
        (([.advance 0, .advance 0] : List (Event (DesktopCommand Unit Unit))).map
          (Event.map DesktopCommand.start) |>.take n)).1.db :=
  ⟨by decide, (logout_final_iff renews loggedIn (logoutMeanwhile (.ok ()))
    [.advance 0, .advance 0] 1 (by rfl)).mpr (by decide)⟩

/-- The access token is refused: the command refreshes, and logs in again. -/
theorem refreshed_after_logout :
    let out := ((desktopCommands renews).worldStep
      (Machine.run (desktopCommands renews).worldStep ⟨loggedIn, []⟩
        ((logoutMeanwhile (.error .unauthorized)).map (Event.map DesktopCommand.start))).1
      (.advance 1)).1
    let later := (Machine.run (desktopCommands renews).worldStep out
      (List.replicate 4 (.advance 0))).1
    out.db.app.tokens = none ∧ out.db.file = none ∧
      later.db.app.tokens = some ⟨"a2", "r2"⟩ ∧ later.db.file = some ⟨"a2", "r2"⟩ ∧
      ¬ StaysOut out.db.writes later.db := by
  decide

end PlgBooster.Client
