import PlgBooster.Library.Transaction

/-!
# What an observer sees of interleaved programs

An observer sees a part of the store and the requests that are its own. The requests of others
do not disturb it if their steps leave its part of the store alone, and if its own steps depend
on that part only. Then two runs in which the observer does the same, whatever others do in
either, look the same to it. What each step is promised, and an invariant of the store, may be
used for both.
-/

namespace Transaction

variable {δ κ ρ ω : Type}

/-- The conditions for an observer of a program. -/
structure Unwinding (P : Program δ κ ρ) (ω : Type) where
  view : δ → ω
  /-- The requests of the observer. -/
  mine : κ → Bool
  inv : δ → Prop
  promised : δ → κ → Prop
  /-- The local states of the observer's requests, with what is known of the store there. -/
  own : δ → κ → Prop
  /-- Those of other requests. -/
  foreign : δ → κ → Prop
  inv_step : ∀ db l, inv db → promised db l → inv (P.step db l).1
  own_next : ∀ db l l', inv db → own db l → (P.step db l).2 = .inl l' →
    own (P.step db l).1 l'
  own_kept : ∀ db l other, inv db → own db other → own (P.step db l).1 other
  foreign_next : ∀ db l l', inv db → foreign db l → (P.step db l).2 = .inl l' →
    foreign (P.step db l).1 l'
  foreign_kept : ∀ db l other, inv db → foreign db other → foreign (P.step db l).1 other
  /-- The steps of others leave the observer's part of the store alone. -/
  respects : ∀ db l, inv db → foreign db l → view (P.step db l).1 = view db
  /-- The observer's own steps depend on its part only. -/
  consistent : ∀ db db' l, inv db → inv db' → own db l → own db' l → view db = view db' →
    promised db l → promised db' l →
    (P.step db l).2 = (P.step db' l).2 ∧ view (P.step db l).1 = view (P.step db' l).1

namespace Unwinding

variable {P : Program δ κ ρ} (U : Unwinding P ω)

/-- A task as the observer sees it: those of others it does not. -/
def seen (task : Task κ ρ) : Option (Task κ ρ) := if U.mine task.request then some task else none

def observe (world : World δ κ ρ) : ω × List (Option (Task κ ρ)) :=
  (U.view world.db, world.tasks.map U.seen)

/-- The results the observer gets. -/
def results (outputs : List (κ × ρ)) : List (κ × ρ) := outputs.filter fun o => U.mine o.1

/-- A request starts where it may. -/
def Starts (request : κ) : Prop :=
  (U.mine request = true → ∀ db, U.inv db → U.own db request) ∧
    (U.mine request = false → ∀ db, U.inv db → U.foreign db request)

/-- The two events are the same to the observer: it submits the same, or others submit
something. -/
def Agree : Event κ → Event κ → Prop
  | .advance i, .advance j => i = j
  | .submit request, .submit request' =>
      U.Starts request ∧ U.Starts request' ∧ U.mine request = U.mine request' ∧
        (U.mine request = true → request = request')
  | _, _ => False

/-- The invariant holds, and every running task is where it may be. -/
structure Sound (world : World δ κ ρ) : Prop where
  inv : U.inv world.db
  own : ∀ task ∈ world.tasks, U.mine task.request = true → ∀ l, task.stage = .inl l →
    U.own world.db l
  foreign : ∀ task ∈ world.tasks, U.mine task.request = false → ∀ l, task.stage = .inl l →
    U.foreign world.db l

variable {U} {world world' : World δ κ ρ}

theorem Sound.running (sound : U.Sound world) {i : Nat} {request l : κ}
    (found : world.tasks[i]? = some ⟨request, .inl l⟩) (promised : U.promised world.db l) :
    U.Sound ⟨(P.step world.db l).1, world.tasks.set i ⟨request, (P.step world.db l).2⟩⟩ where
  inv := U.inv_step world.db l sound.inv promised
  own := by
    intro task member here stage running
    rcases List.mem_or_eq_of_mem_set member with old | rfl
    · exact U.own_kept world.db l stage sound.inv (sound.own task old here stage running)
    · exact U.own_next world.db l stage sound.inv
        (sound.own _ (List.mem_of_getElem? found) here l rfl) running
  foreign := by
    intro task member here stage running
    rcases List.mem_or_eq_of_mem_set member with old | rfl
    · exact U.foreign_kept world.db l stage sound.inv (sound.foreign task old here stage running)
    · exact U.foreign_next world.db l stage sound.inv
        (sound.foreign _ (List.mem_of_getElem? found) here l rfl) running

theorem Sound.worldStep (sound : U.Sound world) {event : Event κ}
    (starts : ∀ request, event = .submit request → U.Starts request)
    (promised : StepMeets U.promised world event) : U.Sound (P.worldStep world event).1 := by
  cases event with
  | submit request =>
      obtain ⟨own, foreign⟩ := starts request rfl
      refine ⟨sound.inv, ?_, ?_⟩
      · intro task member here l running
        rcases List.mem_append.mp member with old | new
        · exact sound.own task old here l running
        · obtain rfl := List.mem_singleton.mp new
          obtain rfl := Sum.inl.inj running
          exact own here world.db sound.inv
      · intro task member here l running
        rcases List.mem_append.mp member with old | new
        · exact sound.foreign task old here l running
        · obtain rfl := List.mem_singleton.mp new
          obtain rfl := Sum.inl.inj running
          exact foreign here world.db sound.inv
  | advance i =>
      cases P.advance world i with
      | idle nothing after =>
          rw [after]
          exact sound
      | proceeds request l db l' found taken after =>
          rw [Program.worldStep_of_running found]
          exact sound.running found (stepMeets_advance.mp promised request l found)
      | finishes request l db r found taken after =>
          rw [Program.worldStep_of_running found]
          exact sound.running found (stepMeets_advance.mp promised request l found)

/-- The output of a running task is its result, if it has one now. -/
theorem results_of_running {i : Nat} {request l : κ}
    (found : world.tasks[i]? = some ⟨request, .inl l⟩) :
    (P.worldStep world (.advance i)).2 =
      match (P.step world.db l).2 with
      | .inl _ => []
      | .inr r => [(request, r)] := by
  cases taken : P.step world.db l with
  | mk db next => cases next <;> simp only [Program.worldStep, found, taken]

theorem set_of_getElem? {α : Type} {l : List α} {i : Nat} {a : α} (here : l[i]? = some a) :
    l.set i a = l := by
  obtain ⟨inside, rfl⟩ := List.getElem?_eq_some_iff.mp here
  exact List.set_getElem_self inside

/-- The step of a task of somebody else shows nothing. -/
theorem observe_foreign (sound : U.Sound world) {i : Nat}
    (other : (world.tasks.map U.seen)[i]? = some none) :
    U.observe (P.worldStep world (.advance i)).1 = U.observe world ∧
      U.results (P.worldStep world (.advance i)).2 = [] := by
  rw [List.getElem?_map, Option.map_eq_some_iff] at other
  obtain ⟨⟨request, stage⟩, found, unseen⟩ := other
  have notMine : U.mine request = false := by
    by_contra mine
    rw [Bool.not_eq_false] at mine
    simp [seen, mine] at unseen
  cases stage with
  | inr r =>
      have idle : P.worldStep world (.advance i) = (world, []) := by
        simp only [Program.worldStep, found]
      rw [idle]
      exact ⟨rfl, rfl⟩
  | inl l =>
      have foreign := sound.foreign _ (List.mem_of_getElem? found) notMine l rfl
      rw [Program.worldStep_of_running found, results_of_running found]
      constructor
      · have hidden : U.seen (⟨request, (P.step world.db l).2⟩ : Task κ ρ) = none := by
          simp [seen, notMine]
        simp only [observe, U.respects world.db l sound.inv foreign, List.map_set, hidden]
        rw [set_of_getElem?]
        rw [List.getElem?_map, found]
        exact congrArg some unseen
      · cases (P.step world.db l).2 with
        | inl l' => rfl
        | inr r => simp [results, notMine]

/-- A task of the observer is the same in two worlds that look the same. -/
theorem found_of_seen {task : Task κ ρ} {i : Nat}
    (here : (world.tasks.map U.seen)[i]? = some (some task)) :
    world.tasks[i]? = some task ∧ U.mine task.request = true := by
  rw [List.getElem?_map, Option.map_eq_some_iff] at here
  obtain ⟨other, found, same⟩ := here
  unfold seen at same
  split_ifs at same with mine
  obtain rfl := Option.some.inj same
  exact ⟨found, mine⟩

/-- One step of two worlds that look the same, on events that do. -/
theorem observe_step (sound : U.Sound world) (sound' : U.Sound world')
    (same : U.observe world = U.observe world') {event event' : Event κ}
    (agree : U.Agree event event') (promised : StepMeets U.promised world event)
    (promised' : StepMeets U.promised world' event') :
    U.observe (P.worldStep world event).1 = U.observe (P.worldStep world' event').1 ∧
      U.results (P.worldStep world event).2 = U.results (P.worldStep world' event').2 := by
  obtain ⟨sameView, sameTasks⟩ := Prod.mk.inj same
  cases event with
  | submit request =>
      cases event' with
      | advance j => exact agree.elim
      | submit request' =>
          obtain ⟨_, _, both, equal⟩ := agree
          refine ⟨?_, rfl⟩
          have seen : U.seen (⟨request, .inl request⟩ : Task κ ρ) =
              U.seen ⟨request', .inl request'⟩ := by
            cases mine : U.mine request with
            | true => rw [equal mine]
            | false => simp [Unwinding.seen, mine, ← both]
          simp only [observe, Program.worldStep, List.map_append, List.map_cons, List.map_nil,
            sameView, sameTasks, seen]
  | advance i =>
      cases event' with
      | submit request' => exact agree.elim
      | advance j =>
          obtain rfl : i = j := agree
          cases here : (world.tasks.map U.seen)[i]? with
          | none =>
              have idle {w : World δ κ ρ} (nothing : (w.tasks.map U.seen)[i]? = none) :
                  P.worldStep w (.advance i) = (w, []) := by
                rw [List.getElem?_map, Option.map_eq_none_iff] at nothing
                simp only [Program.worldStep, nothing]
              rw [idle here, idle (sameTasks ▸ here)]
              exact ⟨same, rfl⟩
          | some seen =>
              cases seen with
              | none =>
                  obtain ⟨looks, shows⟩ := observe_foreign sound here
                  obtain ⟨looks', shows'⟩ := observe_foreign sound' (sameTasks ▸ here)
                  exact ⟨looks.trans (same.trans looks'.symm), shows.trans shows'.symm⟩
              | some task =>
                  obtain ⟨found, mine⟩ := found_of_seen here
                  obtain ⟨found', _⟩ := found_of_seen (sameTasks ▸ here)
                  obtain ⟨request, stage⟩ := task
                  cases stage with
                  | inr r =>
                      have idle {w : World δ κ ρ} (ended : w.tasks[i]? = some ⟨request, .inr r⟩) :
                          P.worldStep w (.advance i) = (w, []) := by
                        simp only [Program.worldStep, ended]
                      rw [idle found, idle found']
                      exact ⟨same, rfl⟩
                  | inl l =>
                      obtain ⟨result, view⟩ := U.consistent world.db world'.db l sound.inv
                        sound'.inv (sound.own _ (List.mem_of_getElem? found) mine l rfl)
                        (sound'.own _ (List.mem_of_getElem? found') mine l rfl) sameView
                        (stepMeets_advance.mp promised request l found)
                        (stepMeets_advance.mp promised' request l found')
                      rw [Program.worldStep_of_running found, Program.worldStep_of_running found',
                        results_of_running found, results_of_running found', result]
                      simp only [observe, view, List.map_set, sameTasks, and_self]

theorem Agree.starts {event event' : Event κ} (agree : U.Agree event event') :
    (∀ request, event = .submit request → U.Starts request) ∧
      ∀ request, event' = .submit request → U.Starts request := by
  cases event with
  | submit request =>
      cases event' with
      | advance j => exact agree.elim
      | submit request' =>
          constructor
          · rintro _ ⟨⟩
            exact agree.1
          · rintro _ ⟨⟩
            exact agree.2.1
  | advance i =>
      cases event' with
      | submit request' => exact agree.elim
      | advance j => exact ⟨nofun, nofun⟩

/-- Two runs in which the observer does the same look the same to it. -/
theorem unwinding (sound : U.Sound world) (sound' : U.Sound world')
    (same : U.observe world = U.observe world') {events events' : List (Event κ)}
    (agree : List.Forall₂ U.Agree events events')
    (promised : Machine.Legal (StepMeets U.promised) P.worldStep world events)
    (promised' : Machine.Legal (StepMeets U.promised) P.worldStep world' events') :
    U.observe (Machine.run P.worldStep world events).1 =
        U.observe (Machine.run P.worldStep world' events').1 ∧
      U.results (Machine.run P.worldStep world events).2 =
        U.results (Machine.run P.worldStep world' events').2 := by
  induction agree generalizing world world' with
  | nil => exact ⟨same, rfl⟩
  | cons first _ ih =>
      obtain ⟨looks, shows⟩ := observe_step sound sound' same first promised.1 promised'.1
      obtain ⟨starts, starts'⟩ := first.starts
      obtain ⟨end_, rest⟩ := ih (sound.worldStep starts promised.1)
        (sound'.worldStep starts' promised'.1) looks promised.2 promised'.2
      refine ⟨end_, ?_⟩
      simp only [results, Machine.run_cons, List.filter_append] at shows rest ⊢
      rw [shows, rest]

end Unwinding

end Transaction
