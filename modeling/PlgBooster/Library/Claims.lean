import PlgBooster.Library.Transaction

/-!
# What concurrent requests claim

Requests that interleave compete for what only one of them may get. On its way a request may
make a claim, in a step that finds the claimed value free and leaves it taken; what it ends
with may rest on that claim. If no step frees a value, then no value is claimed twice,
whatever the schedule, and none that was taken from the start.
-/

open scoped List

namespace Transaction

variable {δ κ ρ β : Type}

/-- How the requests of a program claim values. `claim` is what a request holds at a local
state, and `earned` what it got with its result. -/
structure Claiming (P : Program δ κ ρ) (β : Type) where
  /-- The local states a request can get to. -/
  Reaches : κ → κ → Prop
  taken : δ → β → Prop
  claim : κ → κ → Option β
  earned : κ → ρ → Option β
  reaches_step : ∀ db request l l', Reaches request l → (P.step db l).2 = .inl l' →
    Reaches request l'
  taken_step : ∀ db l b, taken db b → taken (P.step db l).1 b
  /-- A step keeps the claim, or makes one where the value is free. -/
  claim_step : ∀ db request l l', Reaches request l → (P.step db l).2 = .inl l' →
    claim request l' = claim request l ∨
      claim request l = none ∧ ∀ b, claim request l' = some b →
        ¬ taken db b ∧ taken (P.step db l).1 b
  earned_step : ∀ db request l r, Reaches request l → (P.step db l).2 = .inr r →
    ∀ b, earned request r = some b → claim request l = some b

namespace Claiming

variable {P : Program δ κ ρ} (C : Claiming P β)

/-- What a task holds. -/
def held (task : Task κ ρ) : Option β :=
  match task.stage with
  | .inl l => C.claim task.request l
  | .inr _ => none

/-- What the finished requests of a run have got. -/
def gains (outputs : List (κ × ρ)) : List β := outputs.filterMap fun o => C.earned o.1 o.2

/-- All that has been got, and what is claimed by requests that are running. -/
def all (world : World δ κ ρ) (past : List β) : List β := past ++ world.tasks.filterMap C.held

/-- Each value is got or claimed once, is taken now, and was free at the start. -/
structure InOrder (start : δ) (world : World δ κ ρ) (past : List β) : Prop where
  once : (C.all world past).Nodup
  isTaken : ∀ b ∈ C.all world past, C.taken world.db b
  wasFree : ∀ b ∈ C.all world past, ¬ C.taken start b
  grown : ∀ b, C.taken start b → C.taken world.db b
  reached : Program.Kept C.Reaches world

/-- A request starts without a claim at a local state of its own. -/
def Starts (event : Event κ) : Prop :=
  ∀ request, event = .submit request → C.Reaches request request ∧ C.claim request request = none

/-- The claims before and after the step of one task. -/
theorem held_set {tasks : List (Task κ ρ)} {i : Nat} {task : Task κ ρ}
    (found : tasks[i]? = some task) (task' : Task κ ρ) :
    ∃ rest, tasks.filterMap C.held ~ (C.held task).toList ++ rest ∧
      (tasks.set i task').filterMap C.held ~ (C.held task').toList ++ rest := by
  obtain ⟨front, back, split, updated⟩ := Program.split_of_getElem? found task'
  have around (t : Task κ ρ) : (front ++ t :: back).filterMap C.held ~
      (C.held t).toList ++ (front.filterMap C.held ++ back.filterMap C.held) := by
    rw [List.filterMap_append, List.filterMap_cons]
    cases C.held t with
    | none => exact .refl _
    | some b => exact List.perm_middle
  exact ⟨_, split ▸ around task, updated ▸ around task'⟩

variable {C} {start : δ} {world : World δ κ ρ} {past : List β}

theorem inOrder_start (C : Claiming P β) (start : δ) : C.InOrder start ⟨start, []⟩ [] where
  once := List.nodup_nil
  isTaken := by simp [all]
  wasFree := by simp [all]
  grown _ taken := taken
  reached := by simp [Program.Kept]

/-- A step that makes no claim: the same values are claimed, or fewer. -/
theorem InOrder.keep (order : C.InOrder start world past) {world' : World δ κ ρ} {past' : List β}
    (grows : ∀ b, C.taken world.db b → C.taken world'.db b)
    (fewer : C.all world' past' <+~ C.all world past) (reached : Program.Kept C.Reaches world') :
    C.InOrder start world' past' where
  once := by
    obtain ⟨values, perm, sub⟩ := fewer
    exact perm.nodup_iff.mp (sub.nodup order.once)
  isTaken b member := grows b (order.isTaken b (fewer.subset member))
  wasFree b member := order.wasFree b (fewer.subset member)
  grown b taken := grows b (order.grown b taken)
  reached := reached

/-- A step that claims a free value. -/
theorem InOrder.claims (order : C.InOrder start world past) {world' : World δ κ ρ}
    {past' : List β} {b : β} (isFree : ¬ C.taken world.db b) (nowTaken : C.taken world'.db b)
    (grows : ∀ b, C.taken world.db b → C.taken world'.db b)
    (more : C.all world' past' ~ b :: C.all world past)
    (reached : Program.Kept C.Reaches world') : C.InOrder start world' past' where
  once := by
    refine more.nodup_iff.mpr (List.nodup_cons.mpr ⟨?_, order.once⟩)
    intro claimed
    exact isFree (order.isTaken b claimed)
  isTaken value member := by
    rcases List.mem_cons.mp (more.subset member) with rfl | old
    · exact nowTaken
    · exact grows value (order.isTaken value old)
  wasFree value member := by
    rcases List.mem_cons.mp (more.subset member) with rfl | old
    · exact fun before => isFree (order.grown value before)
    · exact order.wasFree value old
  grown value taken := grows value (order.grown value taken)
  reached := reached

theorem inOrder_step (order : C.InOrder start world past) (event : Event κ)
    (starts : C.Starts event) :
    C.InOrder start (P.worldStep world event).1
      (past ++ C.gains (P.worldStep world event).2) := by
  have reached : Program.Kept C.Reaches (P.worldStep world event).1 :=
    Program.kept_worldStep
      (fun db request l l' here taken =>
        C.reaches_step world.db request l l' here (by rw [taken]))
      (fun request submitted => (starts request submitted).1) order.reached
  cases event with
  | submit request =>
      have same : C.all ⟨world.db, world.tasks ++ [⟨request, .inl request⟩]⟩ (past ++ C.gains []) =
          C.all world past := by
        simp [all, gains, held, (starts request rfl).2]
      exact order.keep (fun _ taken => taken) (same ▸ .refl _) reached
  | advance i =>
      cases P.advance world i with
      | idle nothing after =>
          simpa only [after, gains, List.filterMap_nil, List.append_nil] using order
      | proceeds request l db l' found taken after =>
          rw [after] at reached ⊢
          have here := order.reached _ (List.mem_of_getElem? found) l rfl
          have grows (b : β) (before : C.taken world.db b) : C.taken db b := by
            simpa only [taken] using C.taken_step world.db l b before
          obtain ⟨rest, before, behind⟩ := C.held_set found ⟨request, .inl l'⟩
          simp only [gains, List.filterMap_nil, List.append_nil]
          rcases C.claim_step world.db request l l' here (by rw [taken]) with same | ⟨free, new⟩
          · refine order.keep grows ?_ reached
            have equal : C.held ⟨request, .inl l'⟩ = C.held ⟨request, .inl l⟩ := same
            rw [equal] at behind
            exact ((behind.trans before.symm).append_left past).subperm
          · have idle : C.held ⟨request, .inl l⟩ = none := free
            rw [idle] at before
            cases claimed : C.claim request l' with
            | none =>
                have idle' : C.held ⟨request, .inl l'⟩ = none := claimed
                rw [idle'] at behind
                exact order.keep grows ((behind.trans before.symm).append_left past).subperm
                  reached
            | some b =>
                obtain ⟨isFree, nowTaken⟩ := new b claimed
                have holds : C.held ⟨request, .inl l'⟩ = some b := claimed
                rw [holds] at behind
                rw [taken] at nowTaken
                refine order.claims isFree nowTaken grows ?_ reached
                calc past ++ (world.tasks.set i ⟨request, .inl l'⟩).filterMap C.held
                    ~ past ++ ([b] ++ rest) := behind.append_left past
                  _ ~ b :: (past ++ rest) := List.perm_middle
                  _ ~ b :: (past ++ world.tasks.filterMap C.held) :=
                    (before.symm.append_left past).cons b
      | finishes request l db r found taken after =>
          rw [after] at reached ⊢
          have here := order.reached _ (List.mem_of_getElem? found) l rfl
          have grows (b : β) (before : C.taken world.db b) : C.taken db b := by
            simpa only [taken] using C.taken_step world.db l b before
          obtain ⟨rest, before, behind⟩ := C.held_set found ⟨request, .inr r⟩
          refine order.keep grows ?_ reached
          -- What the request has got is at most what it held.
          have got : (C.gains [(request, r)]) <+ (C.held ⟨request, .inl l⟩).toList := by
            have rests := C.earned_step world.db request l r here (by rw [taken])
            cases earned : C.earned request r with
            | none => simp [gains, earned]
            | some b =>
                have holds : C.held ⟨request, .inl l⟩ = some b := rests b earned
                simp [gains, earned, holds]
          have released : C.all ⟨db, world.tasks.set i ⟨request, .inr r⟩⟩
              (past ++ C.gains [(request, r)]) ~ past ++ (C.gains [(request, r)] ++ rest) := by
            rw [← List.append_assoc]
            exact behind.append_left _
          have less : past ++ (C.gains [(request, r)] ++ rest) <+
              past ++ ((C.held ⟨request, .inl l⟩).toList ++ rest) :=
            (got.append_right rest).append_left past
          exact released.subperm.trans
            (less.subperm.trans (before.symm.append_left past).subperm)

/-- In every run, no value is got twice or while another request claims it, and none that was
taken from the start. -/
theorem inOrder_run (C : Claiming P β) (start : δ) {events : List (Event κ)}
    (starts : ∀ event ∈ events, C.Starts event) :
    let after := Machine.run P.worldStep ⟨start, []⟩ events
    C.InOrder start after.1 (C.gains after.2) := by
  have general (world : World δ κ ρ) (past : List β) (order : C.InOrder start world past)
      (events : List (Event κ)) (starts : ∀ event ∈ events, C.Starts event) :
      C.InOrder start (Machine.run P.worldStep world events).1
        (past ++ C.gains (Machine.run P.worldStep world events).2) := by
    induction events generalizing world past with
    | nil => simpa [gains] using order
    | cons event events ih =>
        have next := inOrder_step order event (starts event List.mem_cons_self)
        have later := ih _ _ next fun other member => starts other (List.mem_cons_of_mem _ member)
        simpa only [Machine.run_cons, gains, List.filterMap_append, List.append_assoc] using later
  simpa using general ⟨start, []⟩ [] (inOrder_start C start) events starts

end Claiming

end Transaction
