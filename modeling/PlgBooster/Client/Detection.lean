import PlgBooster.Client.Monitor
import PlgBooster.Library.FirstHit

/-!
# Which game is detected

The detector scans the process table, a hash map, and for every process the games list. Only
the games list has an order, so where the running processes belong to several listed games,
the one that is reported depends on the order in which the map happens to be enumerated.
Where they all lead to one game the reports agree, and the monitor stays quiet for as long as
the same programs run.
-/

namespace PlgBooster.Client

/-- `GameProfile` as the API sends it. -/
structure FullProfile extends ListedGame where
  id : String
  protocol : String
  category : String
  isPopular : Bool
  createdAt : String
  deriving DecidableEq, Repr

namespace MonitorHost

variable {σ : Type} (host : MonitorHost σ)

/-- The profile a process belongs to: the first one with its name. -/
def profileOf (games : List FullProfile) (process : String) : Option FullProfile :=
  games.find? fun game => host.isExeOf process game.toListedGame

/-- `detect_running_game`, on the names of the processes in the order of the table. -/
def detectRunningProfile (processes : List String) (games : List FullProfile) :
    Option FullProfile :=
  processes.findSome? (host.profileOf games)

/-- The monitor's detector reports what it looks at of this profile. -/
theorem map_detectRunningProfile (processes : List String) (games : List FullProfile) :
    (host.detectRunningProfile processes games).map FullProfile.toListedGame =
      host.detectRunningGame processes (games.map FullProfile.toListedGame) := by
  unfold detectRunningProfile detectRunningGame
  rw [List.map_findSome?]
  congr 1
  funext process
  rw [List.find?_map]
  rfl

/-- Every order in which the same processes are enumerated gives the same answer. -/
def OrderIndependent (processes : List String) (games : List FullProfile) : Prop :=
  ∀ first second : List String, first.Perm processes → second.Perm processes →
    host.detectRunningProfile first games = host.detectRunningProfile second games

/-- All running processes that belong to a profile belong to the same one. -/
def OneProfileRuns (processes : List String) (games : List FullProfile) : Prop :=
  FirstHit.Agree (host.profileOf games) processes

instance (processes : List String) (games : List FullProfile) :
    Decidable (host.OneProfileRuns processes games) :=
  inferInstanceAs (Decidable (FirstHit.Agree _ _))

/-- The report does not depend on the order of the process table exactly if the running
processes belong to one profile at most. -/
theorem orderIndependent_iff (processes : List String) (games : List FullProfile) :
    host.OrderIndependent processes games ↔ host.OneProfileRuns processes games :=
  FirstHit.forall_perm_iff

/-! ## What this means for the monitor -/

section Steady

variable {α : Type} [Preorder α] [DecidableLT α] [OfNat α 999]
variable {processes : List String} {games : List FullProfile}

/-- What the monitor's detector says of these processes. -/
def reported (processes : List String) (games : List FullProfile) : Option ListedGame :=
  (host.detectRunningProfile processes games).map FullProfile.toListedGame

/-- This tick sees these games and, in some order, these processes. -/
def Sees (processes : List String) (games : List FullProfile) (monitor : SmartMonitor σ)
    (tick : Tick σ α) : Prop :=
  tick.processes.Perm processes ∧ ∃ cache, monitor.gamesCache.refresh tick = .ok cache ∧
    cache.games = games.map FullProfile.toListedGame

/-- The monitor of a logged-in user remembers what its detector says. -/
def Remembers (processes : List String) (games : List FullProfile) (monitor : SmartMonitor σ) :
    Prop :=
  monitor.app.tokens.isSome ∧
    monitor.lastDetectedSlug = (host.reported processes games).map fun game => game.slug

omit [Preorder α] [DecidableLT α] [OfNat α 999] in
theorem lastDetectedSlug_noneDetected (monitor : SmartMonitor σ) (tick : Tick σ α) :
    (host.noneDetected monitor tick).1.lastDetectedSlug = none := by
  unfold noneDetected
  cases slug : monitor.lastDetectedSlug with
  | none => exact slug
  | some slug => rfl

/-- Where one profile runs at most, the order of a tick does not show in what it does. -/
theorem step_of_sees (one : host.OneProfileRuns processes games) {monitor : SmartMonitor σ}
    {tick : Tick σ α} (loggedIn : monitor.app.tokens.isSome)
    (sees : Sees processes games monitor tick) :
    ∃ found : SmartMonitor σ, found.app = monitor.app ∧
      found.lastDetectedSlug = monitor.lastDetectedSlug ∧
      ((∃ game, host.reported processes games = some game ∧
          host.step monitor tick = host.gameDetected found tick game) ∨
        (host.reported processes games = none ∧
          host.step monitor tick = host.noneDetected found tick)) := by
  obtain ⟨order, cache, refreshed, same⟩ := sees
  have answer : host.detectRunningGame tick.processes cache.games =
      host.reported processes games := by
    rw [same, ← map_detectRunningProfile]
    exact congrArg _ (one.findSome?_perm order)
  cases host.ticks monitor tick with
  | loggedOut nobody step =>
      rw [nobody] at loggedIn
      cases loggedIn
  | unlisted loggedIn missing step =>
      apply absurd _ missing
      rw [Available, refreshed]
      rfl
  | detected loggedIn cache' refreshed' game detected step =>
      obtain rfl : cache = cache' := Except.ok.inj (refreshed.symm.trans refreshed')
      exact ⟨looking monitor tick cache, rfl, rfl, .inl ⟨game, answer.symm.trans detected, step⟩⟩
  | undetected loggedIn cache' refreshed' undetected step =>
      obtain rfl : cache = cache' := Except.ok.inj (refreshed.symm.trans refreshed')
      exact ⟨looking monitor tick cache, rfl, rfl, .inr ⟨answer.symm.trans undetected, step⟩⟩

/-- After a tick the monitor remembers what the tick has reported. -/
theorem remembers_step (one : host.OneProfileRuns processes games) {monitor : SmartMonitor σ}
    {tick : Tick σ α} (loggedIn : monitor.app.tokens.isSome)
    (sees : Sees processes games monitor tick) :
    host.Remembers processes games (host.step monitor tick).1 := by
  obtain ⟨found, app, _, ⟨game, detected, step⟩ | ⟨detected, step⟩⟩ :=
    host.step_of_sees one loggedIn sees
  · obtain ⟨slug, tokens, _⟩ := gameDetected_spec host found tick game (app ▸ loggedIn)
    rw [Remembers, step, detected]
    exact ⟨tokens, slug⟩
  · have tokens := (noneDetected_spec host found tick).1
    rw [Remembers, step, detected, tokens, app]
    exact ⟨loggedIn, host.lastDetectedSlug_noneDetected found tick⟩

/-- A monitor that remembers what is reported does nothing. -/
theorem step_outputs_of_remembers (one : host.OneProfileRuns processes games)
    {monitor : SmartMonitor σ} {tick : Tick σ α}
    (remembers : host.Remembers processes games monitor)
    (sees : Sees processes games monitor tick) : (host.step monitor tick).2 = [] := by
  obtain ⟨found, _, slug, ⟨game, detected, step⟩ | ⟨detected, step⟩⟩ :=
    host.step_of_sees one remembers.1 sees
  · have already : found.lastDetectedSlug = some game.slug := by
      rw [slug, remembers.2, detected]
      rfl
    rw [step, gameDetected, if_pos already]
  · have nothing : found.lastDetectedSlug = none := by
      rw [slug, remembers.2, detected]
      rfl
    rw [step, noneDetected, nothing]
    rfl

/-- While the same programs run, and one profile at most among them, the monitor reports
what its first tick has found, and nothing after it. -/
theorem run_quiet (one : host.OneProfileRuns processes games) {monitor : SmartMonitor σ}
    {tick : Tick σ α} (loggedIn : monitor.app.tokens.isSome)
    (sees : Sees processes games monitor tick) {ticks : List (Tick σ α)}
    (legal : Machine.Legal (Sees processes games) host.step (host.step monitor tick).1 ticks) :
    (Machine.run host.step (host.step monitor tick).1 ticks).2 = [] := by
  have quiet := Machine.run_outputs (host.Remembers processes games)
    (fun _ _ remembers sees => host.remembers_step one remembers.1 sees)
    (P := fun _ => False)
    (fun _ _ remembers sees => by simp [host.step_outputs_of_remembers one remembers sees])
    (host.remembers_step one loggedIn sees) legal
  exact List.eq_nil_iff_forall_not_mem.mpr quiet

end Steady

end MonitorHost

/-- A profile of the list, with its one exe. -/
def oneExeProfile (slug exe : String) : FullProfile where
  toListedGame := oneExe slug exe
  id := slug
  protocol := "UDP"
  category := "fps"
  isPopular := true
  createdAt := "2024-01-01"

/-- Two listed games run. -/
theorem twoGames_orderDependent :
    ¬ windowsHost.OrderIndependent ["cs2.exe", "dota2.exe"]
      [oneExeProfile "cs2" "cs2.exe", oneExeProfile "dota-2" "dota2.exe"] := by
  intro same
  exact absurd (same ["cs2.exe", "dota2.exe"] ["dota2.exe", "cs2.exe"] (List.Perm.refl _)
    (List.Perm.swap _ _ _)) (by decide +kernel)

end PlgBooster.Client
