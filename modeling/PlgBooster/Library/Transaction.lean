import PlgBooster.Library.Machine
import Mathlib.Data.List.Perm.Basic

/-!
# Transactions that interleave

A program runs against a shared store in atomic steps and keeps what it has read in
a local state between them. Any number of requests run at once; the schedule decides
which takes the next step. A step that reads leaves the store as it is, and a step
that writes applies its writes to the store it finds, not to the one it read earlier.

A finishing step is atomic if it leaves the store as the whole program, run alone at
that moment, would. When all are, an interleaved run has the effect of the same
requests one at a time, in the order in which they finish.
-/

open scoped List

namespace Transaction

variable {δ κ ρ : Type}

/-- A program over a store `δ` with local states `κ` and results `ρ`. The rank counts
down, so a program run alone ends. -/
structure Program (δ κ ρ : Type) where
  step : δ → κ → δ × (κ ⊕ ρ)
  rank : κ → Nat
  descends : ∀ db l l', (step db l).2 = .inl l' → rank l' < rank l

/-- A request with the local state it has reached, or its result. -/
structure Task (κ ρ : Type) where
  request : κ
  stage : κ ⊕ ρ

structure World (δ κ ρ : Type) where
  db : δ
  tasks : List (Task κ ρ)

inductive Event (κ : Type) where
  | submit (request : κ)
  | advance (task : Nat)

/-- The event of a program whose requests are calls, each of which starts at one place. -/
def Event.map {α : Type} (start : α → κ) : Event α → Event κ
  | .submit call => .submit (start call)
  | .advance i => .advance i

/-- A submitted request stands where a call starts. -/
def Event.Starts {α : Type} (start : α → κ) (event : Event κ) : Prop :=
  ∀ request, event = .submit request → ∃ call, request = start call

/-- What holds where the submitted calls start holds of all that is submitted. -/
theorem forall_submit_map {α : Type} {start : α → κ} {events : List (Event α)} {Good : κ → Prop}
    (each : ∀ call, .submit call ∈ events → Good (start call)) :
    ∀ event ∈ events.map (Event.map start), ∀ request, event = .submit request → Good request := by
  rintro _ member request rfl
  obtain ⟨event, here, same⟩ := List.mem_map.mp member
  cases event with
  | advance i => cases same
  | submit call =>
      obtain rfl := Event.submit.inj same
      exact each call here

/-- If the event is the next step of a task, the step meets a condition on the store it finds. -/
def StepMeets (condition : δ → κ → Prop) (world : World δ κ ρ) : Event κ → Prop
  | .submit _ => True
  | .advance i =>
      match world.tasks[i]? with
      | some ⟨_, .inl l⟩ => condition world.db l
      | _ => True

instance {condition : δ → κ → Prop} [∀ db l, Decidable (condition db l)] (world : World δ κ ρ)
    (event : Event κ) : Decidable (StepMeets condition world event) := by
  unfold StepMeets
  split
  · infer_instance
  · split <;> infer_instance

theorem stepMeets_advance {condition : δ → κ → Prop} {world : World δ κ ρ} {i : Nat} :
    StepMeets condition world (.advance i) ↔
      ∀ request l, world.tasks[i]? = some ⟨request, .inl l⟩ → condition world.db l := by
  cases found : world.tasks[i]? with
  | none => simp [StepMeets, found]
  | some task =>
      obtain ⟨request, stage⟩ := task
      cases stage <;> simp [StepMeets, found]

namespace Program

variable (P : Program δ κ ρ)

/-- Run a program alone for a number of steps. -/
def runFor : Nat → δ → κ → δ × Option ρ
  | 0, db, _ => (db, none)
  | fuel + 1, db, l =>
      match P.step db l with
      | (db', .inl l') => runFor fuel db' l'
      | (db', .inr r) => (db', some r)

/-- Run a program alone to its end. -/
def exec (db : δ) (l : κ) : δ × Option ρ := P.runFor (P.rank l + 1) db l

/-- Requests one at a time. -/
def serial (db : δ) (requests : List κ) : δ :=
  requests.foldl (fun db l => (P.exec db l).1) db

/-- One step of an interleaved run. The output is the request that finishes, if any,
with its result. -/
def worldStep (world : World δ κ ρ) : Event κ → World δ κ ρ × List (κ × ρ)
  | .submit request => ({ world with tasks := world.tasks ++ [⟨request, .inl request⟩] }, [])
  | .advance i =>
      match world.tasks[i]? with
      | some ⟨request, .inl l⟩ =>
          match P.step world.db l with
          | (db, .inl l') => ({ db := db, tasks := world.tasks.set i ⟨request, .inl l'⟩ }, [])
          | (db, .inr r) =>
              ({ db := db, tasks := world.tasks.set i ⟨request, .inr r⟩ }, [(request, r)])
      | _ => (world, [])

/-- Reads leave the store alone, and the last step of a request does what the whole
request would do now. -/
def Atomic (world : World δ κ ρ) : Event κ → Prop
  | .submit _ => True
  | .advance i => ∀ request l, world.tasks[i]? = some ⟨request, .inl l⟩ →
      match P.step world.db l with
      | (db, .inl _) => db = world.db
      | (db, .inr r) => P.exec world.db request = (db, some r)

/-! ## Programs run alone -/

/-- Fuel beyond the rank makes no difference. -/
theorem runFor_eq_exec {fuel : Nat} (db : δ) {l : κ} (enough : P.rank l < fuel) :
    P.runFor fuel db l = P.exec db l := by
  have general : ∀ n m db l, P.rank l < n → P.rank l < m → P.runFor n db l = P.runFor m db l := by
    intro n
    induction n with
    | zero =>
        intro m db l below
        exact absurd below (Nat.not_lt_zero _)
    | succ n ih =>
        intro m db l belowN belowM
        obtain ⟨m, rfl⟩ := Nat.exists_eq_succ_of_ne_zero (Nat.ne_zero_of_lt belowM)
        rw [runFor, runFor]
        cases taken : P.step db l with
        | mk db' next =>
            cases next with
            | inl l' =>
                have down : P.rank l' < P.rank l := P.descends db l l' (by rw [taken])
                exact ih m db' l' (by omega) (by omega)
            | inr r => rfl
  exact general _ _ db l enough (Nat.lt_succ_self _)

/-- A program run alone takes one step and then runs alone. -/
theorem exec_eq (db : δ) (l : κ) :
    P.exec db l =
      match P.step db l with
      | (db', .inl l') => P.exec db' l'
      | (db', .inr r) => (db', some r) := by
  rw [exec, runFor]
  cases taken : P.step db l with
  | mk db' next =>
      cases next with
      | inl l' => exact P.runFor_eq_exec db' (P.descends db l l' (by rw [taken]))
      | inr r => rfl

theorem exec_of_step_inl {db db' : δ} {l l' : κ} (taken : P.step db l = (db', .inl l')) :
    P.exec db l = P.exec db' l' := by
  rw [P.exec_eq db l, taken]

theorem exec_of_step_inr {db db' : δ} {l : κ} {r : ρ} (taken : P.step db l = (db', .inr r)) :
    P.exec db l = (db', some r) := by
  rw [P.exec_eq db l, taken]

/-! ## Programs that are cut off -/

/-- Run a program alone up to a fault, if there is one: the store as the steps before the
fault have left it, and the result, which a fault keeps from the caller. -/
def runUntil : Option Nat → δ → κ → δ × Option ρ
  | none, db, l => P.exec db l
  | some steps, db, l => ((P.runFor steps db l).1, none)

theorem runUntil_succ_of_step_inl {db db' : δ} {l l' : κ} (taken : P.step db l = (db', .inl l'))
    (steps : Nat) : P.runUntil (some (steps + 1)) db l = P.runUntil (some steps) db' l' := by
  simp only [runUntil, runFor, taken]

theorem runUntil_succ_of_step_inr {db db' : δ} {l : κ} {r : ρ} (taken : P.step db l = (db', .inr r))
    (steps : Nat) : P.runUntil (some (steps + 1)) db l = (db', none) := by
  simp only [runUntil, runFor, taken]

/-! ## Interleaved runs -/

variable {P}

/-- What the next step of a task can be, with the world after it. -/
inductive Advance (P : Program δ κ ρ) (world : World δ κ ρ) (i : Nat) : Prop where
  | idle (nothing : ∀ request l, world.tasks[i]? ≠ some ⟨request, .inl l⟩)
      (after : P.worldStep world (.advance i) = (world, []))
  | proceeds (request l : κ) (db : δ) (l' : κ)
      (found : world.tasks[i]? = some ⟨request, .inl l⟩)
      (taken : P.step world.db l = (db, .inl l'))
      (after : P.worldStep world (.advance i) =
        (⟨db, world.tasks.set i ⟨request, .inl l'⟩⟩, []))
  | finishes (request l : κ) (db : δ) (r : ρ)
      (found : world.tasks[i]? = some ⟨request, .inl l⟩)
      (taken : P.step world.db l = (db, .inr r))
      (after : P.worldStep world (.advance i) =
        (⟨db, world.tasks.set i ⟨request, .inr r⟩⟩, [(request, r)]))

theorem advance (P : Program δ κ ρ) (world : World δ κ ρ) (i : Nat) : P.Advance world i := by
  cases found : world.tasks[i]? with
  | none => exact .idle (by simp [found]) (by simp only [worldStep, found])
  | some task =>
      obtain ⟨request, stage⟩ := task
      cases stage with
      | inr r => exact .idle (by simp [found]) (by simp only [worldStep, found])
      | inl l =>
          cases taken : P.step world.db l with
          | mk db next =>
              cases next with
              | inl l' =>
                  exact .proceeds request l db l' found taken
                    (by simp only [worldStep, found, taken])
              | inr r =>
                  exact .finishes request l db r found taken
                    (by simp only [worldStep, found, taken])

/-- The step of a running task, whether it is its last or not. -/
theorem worldStep_of_running {world : World δ κ ρ} {i : Nat} {request l : κ}
    (found : world.tasks[i]? = some ⟨request, .inl l⟩) :
    (P.worldStep world (.advance i)).1 =
      ⟨(P.step world.db l).1, world.tasks.set i ⟨request, (P.step world.db l).2⟩⟩ := by
  cases taken : P.step world.db l with
  | mk db next => cases next <;> simp only [worldStep, found, taken]

/-- What an event does to the store is what the step of a task does, or nothing. -/
theorem worldStep_db (world : World δ κ ρ) (event : Event κ) :
    (P.worldStep world event).1.db = world.db ∧
      (∀ condition : δ → κ → Prop, StepMeets condition world event) ∨
    ∃ i request l, event = .advance i ∧ world.tasks[i]? = some ⟨request, .inl l⟩ ∧
      (P.worldStep world event).1.db = (P.step world.db l).1 := by
  cases event with
  | submit request => exact .inl ⟨rfl, fun _ => trivial⟩
  | advance i =>
      cases P.advance world i with
      | idle nothing after =>
          rw [after]
          exact .inl ⟨rfl, fun _ => stepMeets_advance.mpr fun _ _ found =>
            absurd found (nothing _ _)⟩
      | proceeds request l db l' found taken after =>
          rw [after]
          exact .inr ⟨i, request, l, rfl, found, by rw [taken]⟩
      | finishes request l db r found taken after =>
          rw [after]
          exact .inr ⟨i, request, l, rfl, found, by rw [taken]⟩

/-- An invariant of the store that each step keeps exactly under a condition. -/
theorem inv_worldStep_iff (Inv : δ → Prop) {condition : δ → κ → Prop} {world : World δ κ ρ}
    (inv : Inv world.db)
    (step_iff : ∀ task ∈ world.tasks, ∀ l, task.stage = .inl l →
      (Inv (P.step world.db l).1 ↔ condition world.db l)) (event : Event κ) :
    Inv (P.worldStep world event).1.db ↔ StepMeets condition world event := by
  rcases worldStep_db (P := P) world event with ⟨same, met⟩ | ⟨i, request, l, rfl, found, after⟩
  · rw [same]
    exact iff_of_true inv (met condition)
  · rw [after, step_iff _ (List.mem_of_getElem? found) l rfl]
    simp only [StepMeets, found]

theorem worldStep_db_of_atomic {world : World δ κ ρ} {event : Event κ}
    (atomic : P.Atomic world event) :
    (P.worldStep world event).1.db =
      P.serial world.db ((P.worldStep world event).2.map Prod.fst) := by
  cases event with
  | submit request => rfl
  | advance i =>
      cases P.advance world i with
      | idle nothing after =>
          rw [after]
          rfl
      | proceeds request l db l' found taken after =>
          have here := atomic request l found
          rw [taken] at here
          rw [after]
          exact here
      | finishes request l db r found taken after =>
          have here := atomic request l found
          rw [taken] at here
          simp only [after, serial, List.map_cons, List.map_nil, List.foldl_cons, List.foldl_nil]
          rw [here]

theorem legal_starts {α : Type} (start : α → κ) (world : World δ κ ρ) (events : List (Event α)) :
    Machine.Legal (fun _ event => event.Starts start) P.worldStep world
      (events.map (Event.map start)) := by
  induction events generalizing world with
  | nil => trivial
  | cons event events ih =>
      refine ⟨fun request submitted => ?_, ih _⟩
      cases event with
      | submit call =>
          cases submitted
          exact ⟨call, rfl⟩
      | advance i => cases submitted

/-- A relation between every running request and the local state it has reached. -/
def Kept (Good : κ → κ → Prop) (world : World δ κ ρ) : Prop :=
  ∀ task ∈ world.tasks, ∀ l, task.stage = .inl l → Good task.request l

/-- What holds where a request starts and follows the steps of the program holds of all
running requests. -/
theorem kept_worldStep {Good : κ → κ → Prop} {world : World δ κ ρ} {event : Event κ}
    (follows : ∀ db request l l', Good request l → P.step world.db l = (db, .inl l') →
      Good request l')
    (starts : ∀ request, event = .submit request → Good request request)
    (kept : Kept Good world) : Kept Good (P.worldStep world event).1 := by
  intro task member l running
  cases event with
  | submit request =>
      rcases List.mem_append.mp member with old | new
      · exact kept task old l running
      · obtain rfl := List.mem_singleton.mp new
        obtain rfl := Sum.inl.inj running
        exact starts request rfl
  | advance i =>
      cases P.advance world i with
      | idle nothing after =>
          rw [after] at member
          exact kept task member l running
      | proceeds request stage db l' found taken after =>
          have here := kept ⟨request, .inl stage⟩ (List.mem_of_getElem? found) stage rfl
          rw [after] at member
          rcases List.mem_or_eq_of_mem_set member with old | rfl
          · exact kept task old l running
          · obtain rfl := Sum.inl.inj running
            exact follows db request stage l' here taken
      | finishes request stage db r found taken after =>
          rw [after] at member
          rcases List.mem_or_eq_of_mem_set member with old | rfl
          · exact kept task old l running
          · cases running

/-- A run whose finishing steps are atomic has the effect of its finished requests,
one at a time in the order in which they finish. -/
theorem run_eq_serial {world : World δ κ ρ} {events : List (Event κ)}
    (atomic : Machine.Legal P.Atomic P.worldStep world events) :
    (Machine.run P.worldStep world events).1.db =
      P.serial world.db ((Machine.run P.worldStep world events).2.map Prod.fst) := by
  induction events generalizing world with
  | nil => rfl
  | cons event events ih =>
      rw [Machine.run_cons, ih atomic.2, worldStep_db_of_atomic atomic.1, List.map_append, serial,
        serial, serial, List.foldl_append]

/-- The requests that have been submitted in a run. -/
def submitted (events : List (Event κ)) : List κ :=
  events.filterMap fun e => match e with
    | .submit request => some request
    | .advance _ => none

/-- The requests that are still running. -/
def pending (world : World δ κ ρ) : List κ :=
  world.tasks.filterMap fun task => match task.stage with
    | .inl _ => some task.request
    | .inr _ => none

/-- Setting a task replaces it where it stands. -/
theorem split_of_getElem? {tasks : List (Task κ ρ)} {i : Nat} {task : Task κ ρ}
    (found : tasks[i]? = some task) (task' : Task κ ρ) :
    ∃ front back, tasks = front ++ task :: back ∧ tasks.set i task' = front ++ task' :: back := by
  obtain ⟨inside, here⟩ := List.getElem?_eq_some_iff.mp found
  obtain ⟨front, back, split, _, updated⟩ := List.exists_of_set inside
  rw [here] at split
  exact ⟨front, back, split, updated⟩

theorem submitted_cons (event : Event κ) (events : List (Event κ)) :
    submitted (event :: events) = submitted [event] ++ submitted events := by
  rw [submitted, submitted, submitted, ← List.filterMap_append]
  rfl

theorem submitted_map {α : Type} (start : α → κ) (events : List (Event α)) :
    submitted (events.map (Event.map start)) = (submitted events).map start := by
  induction events with
  | nil => rfl
  | cons event events ih =>
      rw [List.map_cons, submitted_cons _ (events.map _), submitted_cons event events, ih,
        List.map_append]
      cases event <;> rfl

/-- The tasks of a world are the requests it was sent, in this order. -/
theorem requests_worldStep (world : World δ κ ρ) (event : Event κ) :
    (P.worldStep world event).1.tasks.map (·.request) =
      world.tasks.map (·.request) ++ submitted [event] := by
  cases event with
  | submit request => simp [worldStep, submitted]
  | advance i =>
      cases P.advance world i with
      | idle nothing after => simp [after, submitted]
      | proceeds request l db l' found taken after =>
          obtain ⟨front, back, tasks, updated⟩ := split_of_getElem? found ⟨request, .inl l'⟩
          simp only [after, updated]
          rw [tasks]
          simp [submitted]
      | finishes request l db r found taken after =>
          obtain ⟨front, back, tasks, updated⟩ := split_of_getElem? found ⟨request, .inr r⟩
          simp only [after, updated]
          rw [tasks]
          simp [submitted]

theorem pending_worldStep (world : World δ κ ρ) (event : Event κ) :
    (pending (P.worldStep world event).1 ++ (P.worldStep world event).2.map Prod.fst).Perm
      (pending world ++ submitted [event]) := by
  cases event with
  | submit request => simp [worldStep, pending, submitted]
  | advance i =>
      cases P.advance world i with
      | idle nothing after => simp [after, submitted]
      | proceeds request l db l' found taken after =>
          obtain ⟨front, back, tasks, updated⟩ := split_of_getElem? found ⟨request, .inl l'⟩
          simp only [after, pending, updated, submitted]
          rw [tasks]
          simp
      | finishes request l db r found taken after =>
          obtain ⟨front, back, tasks, updated⟩ := split_of_getElem? found ⟨request, .inr r⟩
          simp only [after, pending, updated, submitted]
          rw [tasks]
          simp only [List.filterMap_append, List.filterMap_cons, List.filterMap_nil,
            List.map_cons, List.map_nil, List.append_nil]
          exact (List.perm_append_singleton _ _).trans List.perm_middle.symm

/-- No request is lost or finishes twice. -/
theorem pending_run (world : World δ κ ρ) (events : List (Event κ)) :
    (pending (Machine.run P.worldStep world events).1 ++
      (Machine.run P.worldStep world events).2.map Prod.fst).Perm
        (pending world ++ submitted events) := by
  induction events generalizing world with
  | nil => simp [submitted]
  | cons event events ih =>
      let rest := Machine.run P.worldStep (P.worldStep world event).1 events
      let here := (P.worldStep world event).2.map Prod.fst
      calc
        _ = pending rest.1 ++ (here ++ rest.2.map Prod.fst) := by
          rw [Machine.run_cons, List.map_append]
        _ ~ here ++ (pending rest.1 ++ rest.2.map Prod.fst) := by
          rw [← List.append_assoc, ← List.append_assoc]
          exact List.perm_append_comm.append_right _
        _ ~ here ++ (pending (P.worldStep world event).1 ++ submitted events) :=
          (ih _).append_left _
        _ ~ (pending (P.worldStep world event).1 ++ here) ++ submitted events := by
          rw [← List.append_assoc]
          exact List.perm_append_comm.append_right _
        _ ~ (pending world ++ submitted [event]) ++ submitted events :=
          (pending_worldStep world event).append_right _
        _ = pending world ++ submitted (event :: events) := by
          rw [submitted_cons event events, List.append_assoc]

/-- When nothing is running any more, the run had the effect of some serial order of
all its requests. -/
theorem run_serializable {db : δ} {events : List (Event κ)}
    (atomic : Machine.Legal P.Atomic P.worldStep ⟨db, []⟩ events)
    (finished : pending (Machine.run P.worldStep ⟨db, []⟩ events).1 = []) :
    ∃ order, order ~ submitted events ∧
      (Machine.run P.worldStep ⟨db, []⟩ events).1.db = P.serial db order := by
  refine ⟨_, ?_, run_eq_serial atomic⟩
  have conserved := pending_run (P := P) ⟨db, []⟩ events
  rwa [finished] at conserved

end Program

end Transaction
