import Mathlib.Algebra.Ring.Nat
import Mathlib.Data.List.Basic

/-!
# Machines driven by a sequence of inputs

A machine is a step function from a state and an input to the next state and
the outputs emitted on the way. Nondeterminism of the environment (clock
readings, results of system calls, the scheduler) is part of the input, so a
run is a fold and two runs can be compared input by input.

`Legal` records what the environment promises at the state where an input
arrives. It is a proof-side condition, never a runtime check of the machine.
The slice rule describes the part of a run that one observer sees as a run of
a smaller machine on the inputs addressed to it; two runs that agree on those
inputs therefore look the same to that observer.
-/

namespace Machine

variable {σ ι ο ω : Type*}

/-- Feed the inputs in order, and collect the outputs in the order of emission. -/
def run (step : σ → ι → σ × List ο) : σ → List ι → σ × List ο
  | state, [] => (state, [])
  | state, input :: inputs =>
      ((run step (step state input).1 inputs).1,
        (step state input).2 ++ (run step (step state input).1 inputs).2)

/-- Each input is admissible at the state in which it arrives. -/
def Legal (admissible : σ → ι → Prop) (step : σ → ι → σ × List ο) : σ → List ι → Prop
  | _, [] => True
  | state, input :: inputs =>
      admissible state input ∧ Legal admissible step (step state input).1 inputs

/-- A history variable: what `record` keeps of the run but the machine does not store. -/
def history {γ : Type*} (record : σ → ι → γ → γ) (step : σ → ι → σ × List ο) :
    σ → List ι → γ → γ
  | _, [], past => past
  | state, input :: inputs, past =>
      history record step (step state input).1 inputs (record state input past)

/-- The sum of an amount over the steps of a run. -/
def total (amount : σ → ι → Nat) (step : σ → ι → σ × List ο) : σ → List ι → Nat
  | _, [] => 0
  | state, input :: inputs =>
      amount state input + total amount step (step state input).1 inputs

variable {step : σ → ι → σ × List ο} {admissible : σ → ι → Prop}

@[simp] theorem run_nil (state : σ) : run step state [] = (state, []) := rfl

@[simp] theorem run_cons (state : σ) (input : ι) (inputs : List ι) :
    run step state (input :: inputs) =
      ((run step (step state input).1 inputs).1,
        (step state input).2 ++ (run step (step state input).1 inputs).2) := rfl

@[simp] theorem legal_nil (state : σ) : Legal admissible step state [] := trivial

@[simp] theorem legal_cons (state : σ) (input : ι) (inputs : List ι) :
    Legal admissible step state (input :: inputs) ↔
      admissible state input ∧ Legal admissible step (step state input).1 inputs := Iff.rfl

/-- Cutting the inputs cuts the run: the second part starts where the first stops. -/
theorem run_append (state : σ) (first second : List ι) :
    run step state (first ++ second) =
      ((run step (run step state first).1 second).1,
        (run step state first).2 ++ (run step (run step state first).1 second).2) := by
  induction first generalizing state with
  | nil => simp
  | cons input first ih => simp [ih, List.append_assoc]

theorem legal_append (state : σ) (first second : List ι) :
    Legal admissible step state (first ++ second) ↔
      Legal admissible step state first ∧
        Legal admissible step (run step state first).1 second := by
  induction first generalizing state with
  | nil => simp
  | cons input first ih => simp [ih, and_assoc]

instance [∀ s i, Decidable (admissible s i)] :
    ∀ (state : σ) (inputs : List ι), Decidable (Legal admissible step state inputs)
  | _, [] => .isTrue trivial
  | state, input :: inputs =>
      have : Decidable (Legal admissible step (step state input).1 inputs) :=
        instDecidableLegal _ inputs
      inferInstanceAs (Decidable (_ ∧ _))

theorem Legal.mono {weaker : σ → ι → Prop} (weaken : ∀ s i, admissible s i → weaker s i)
    {state : σ} {inputs : List ι} (legal : Legal admissible step state inputs) :
    Legal weaker step state inputs := by
  induction inputs generalizing state with
  | nil => trivial
  | cons input inputs ih => exact ⟨weaken _ _ legal.1, ih legal.2⟩

theorem legal_of_forall (admits : ∀ s i, admissible s i) (state : σ) (inputs : List ι) :
    Legal admissible step state inputs := by
  induction inputs generalizing state with
  | nil => trivial
  | cons input inputs ih => exact ⟨admits _ _, ih _⟩

/-- A condition on all steps of a run, by the position of the step. -/
theorem legal_iff_getElem? {state : σ} {inputs : List ι} :
    Legal admissible step state inputs ↔ ∀ n input, inputs[n]? = some input →
      admissible (run step state (inputs.take n)).1 input := by
  induction inputs generalizing state with
  | nil => simp
  | cons input inputs ih =>
      rw [legal_cons, ih]
      constructor
      · rintro ⟨here, later⟩ n input' found
        cases n with
        | zero =>
            obtain rfl := Option.some.inj found
            exact here
        | succ n => exact later n input' found
      · intro all
        exact ⟨all 0 input rfl, fun n input' found => all (n + 1) input' found⟩

/-- The inputs of a run are among its inputs. -/
theorem legal_mem (state : σ) (inputs : List ι) :
    Legal (fun _ input => input ∈ inputs) step state inputs :=
  legal_iff_getElem?.mpr fun _ _ found => List.mem_of_getElem? found

/-- Two conditions that agree wherever an invariant holds admit the same runs. -/
theorem legal_congr {promised other : σ → ι → Prop} {Inv : σ → Prop}
    (preserved : ∀ s i, Inv s → promised s i → Inv (step s i).1)
    (agree : ∀ s i, Inv s → promised s i → (admissible s i ↔ other s i))
    {state : σ} (start : Inv state) {inputs : List ι} (legal : Legal promised step state inputs) :
    Legal admissible step state inputs ↔ Legal other step state inputs := by
  induction inputs generalizing state with
  | nil => exact Iff.rfl
  | cons input inputs ih =>
      obtain ⟨promise, legal⟩ := legal
      exact and_congr (agree _ _ start promise) (ih (preserved _ _ start promise) legal)

/-- An invariant that relates the state to a history variable. -/
theorem run_history_invariant {γ : Type*} {record : σ → ι → γ → γ} {Inv : σ → γ → Prop}
    (preserved : ∀ s i past, Inv s past → admissible s i → Inv (step s i).1 (record s i past))
    {state : σ} {past : γ} (start : Inv state past) {inputs : List ι}
    (legal : Legal admissible step state inputs) :
    Inv (run step state inputs).1 (history record step state inputs past) := by
  induction inputs generalizing state past with
  | nil => exact start
  | cons input inputs ih => exact ih (preserved _ _ _ start legal.1) legal.2

/-- Where each step keeps the invariant exactly if its input is admissible, the legal
runs are the ones all of whose states satisfy the invariant. `Aux` is what is known of
the states anyway, and `promised` what the environment keeps in every run. -/
theorem legal_iff_invariant_of_legal {promised : σ → ι → Prop} (Aux : σ → Prop) {Inv : σ → Prop}
    (aux_kept : ∀ s i, Aux s → Inv s → promised s i → Aux (step s i).1)
    (kept_iff : ∀ s i, Aux s → Inv s → promised s i → (Inv (step s i).1 ↔ admissible s i))
    {state : σ} (aux : Aux state) (start : Inv state) {inputs : List ι}
    (legal : Legal promised step state inputs) :
    Legal admissible step state inputs ↔ ∀ n, Inv (run step state (inputs.take n)).1 := by
  induction inputs generalizing state with
  | nil => simpa using start
  | cons input inputs ih =>
      obtain ⟨promise, legal⟩ := legal
      have later := aux_kept state input aux start promise
      constructor
      · rintro ⟨here, rest⟩ n
        have next := (kept_iff state input aux start promise).mpr here
        cases n with
        | zero => exact start
        | succ n => exact (ih later next legal).mp rest n
      · intro always
        have next : Inv (step state input).1 := always 1
        exact ⟨(kept_iff state input aux start promise).mp next,
          (ih later next legal).mpr fun n => always (n + 1)⟩

/-- The same for an environment that promises nothing. -/
theorem legal_iff_invariant (Aux : σ → Prop) {Inv : σ → Prop}
    (aux_kept : ∀ s i, Aux s → Inv s → Aux (step s i).1)
    (kept_iff : ∀ s i, Aux s → Inv s → (Inv (step s i).1 ↔ admissible s i)) {state : σ}
    (aux : Aux state) (start : Inv state) (inputs : List ι) :
    Legal admissible step state inputs ↔ ∀ n, Inv (run step state (inputs.take n)).1 :=
  legal_iff_invariant_of_legal Aux
    (fun s i aux inv _ => aux_kept s i aux inv) (fun s i aux inv _ => kept_iff s i aux inv) aux
    start (legal_of_forall (fun _ _ => trivial) state inputs)

/-- Where each step relates its two states exactly if its input is admissible, the legal
runs are the ones whose consecutive states are all related. -/
theorem legal_iff_related {R : σ → σ → Prop} (refl : ∀ s, R s s)
    (step_iff : ∀ s i, R s (step s i).1 ↔ admissible s i) (state : σ) (inputs : List ι) :
    Legal admissible step state inputs ↔
      ∀ n, R (run step state (inputs.take n)).1 (run step state (inputs.take (n + 1))).1 := by
  induction inputs generalizing state with
  | nil => simp [refl]
  | cons input inputs ih =>
      rw [legal_cons, ih, ← step_iff]
      constructor
      · rintro ⟨here, later⟩ n
        cases n with
        | zero => exact here
        | succ n => exact later n
      · intro related
        exact ⟨related 0, fun n => related (n + 1)⟩

/-- What every step preserves, whatever its input, holds at the end of every run. -/
theorem run_always (Inv : σ → Prop) (kept : ∀ s i, Inv s → Inv (step s i).1) {state : σ}
    (start : Inv state) (inputs : List ι) : Inv (run step state inputs).1 := by
  induction inputs generalizing state with
  | nil => exact start
  | cons input inputs ih => exact ih (kept _ _ start)

/-- Where each step acts on a view of the state as another machine does, and emits the images
of what that one emits, so does every run. -/
theorem run_simulates {τ μ : Type*} (Inv : σ → Prop) (view : σ → τ) (image : μ → ο)
    {other : τ → ι → τ × List μ} (kept : ∀ s i, Inv s → Inv (step s i).1)
    (same : ∀ s i, Inv s → view (step s i).1 = (other (view s) i).1 ∧
      (step s i).2 = (other (view s) i).2.map image)
    (state : σ) (start : Inv state) (inputs : List ι) :
    view (run step state inputs).1 = (run other (view state) inputs).1 ∧
      (run step state inputs).2 = (run other (view state) inputs).2.map image := by
  induction inputs generalizing state with
  | nil => exact ⟨rfl, rfl⟩
  | cons input inputs ih =>
      obtain ⟨views, outputs⟩ := same state input start
      obtain ⟨later, emitted⟩ := ih _ (kept state input start)
      rw [views] at later emitted
      simp only [run_cons, later, emitted, outputs, List.map_append, and_self]

/-- The simulation rule. Where related states stay related at every admissible input, and the
two machines emit the same at it, so it is along every legal run. -/
theorem run_simulation {τ : Type*} {abstract : τ → ι → τ × List ο} (Sim : σ → τ → Prop)
    (square : ∀ s t i, Sim s t → admissible s i →
      Sim (step s i).1 (abstract t i).1 ∧ (step s i).2 = (abstract t i).2)
    {state : σ} {other : τ} (start : Sim state other) {inputs : List ι}
    (legal : Legal admissible step state inputs) :
    Sim (run step state inputs).1 (run abstract other inputs).1 ∧
      (run step state inputs).2 = (run abstract other inputs).2 := by
  induction inputs generalizing state other with
  | nil => exact ⟨start, rfl⟩
  | cons input inputs ih =>
      obtain ⟨next, outputs⟩ := square state other input start legal.1
      obtain ⟨final, emitted⟩ := ih next legal.2
      exact ⟨final, by rw [run_cons, run_cons, outputs, emitted]⟩

/-! ## Amounts -/

/-- The balance rule. Where every step changes two measures of the state by the same, but for
an amount that only the first one gains, a run changes them by the same but for the total. -/
theorem run_balance (gains loses : σ → Nat) {amount : σ → ι → Nat}
    (each : ∀ s i, gains (step s i).1 + loses s = gains s + loses (step s i).1 + amount s i)
    (state : σ) (inputs : List ι) :
    gains (run step state inputs).1 + loses state =
      gains state + loses (run step state inputs).1 + total amount step state inputs := by
  induction inputs generalizing state with
  | nil =>
      simp only [run_nil, total]
      omega
  | cons input inputs ih =>
      have here := each state input
      have later := ih (step state input).1
      simp only [run_cons, total]
      omega

theorem total_add (first second : σ → ι → Nat) (state : σ) (inputs : List ι) :
    total (fun s i => first s i + second s i) step state inputs =
      total first step state inputs + total second step state inputs := by
  induction inputs generalizing state with
  | nil => rfl
  | cons input inputs ih =>
      have later := ih (step state input).1
      simp only [total]
      omega

/-- Counting outputs step by step counts them over the run. -/
theorem total_countP_outputs (p : ο → Bool) (state : σ) (inputs : List ι) :
    total (fun s i => (step s i).2.countP p) step state inputs =
      (run step state inputs).2.countP p := by
  induction inputs generalizing state with
  | nil => rfl
  | cons input inputs ih => rw [run_cons, List.countP_append, ← ih, total]

/-- Summing a weight of the outputs step by step sums it over the run. -/
theorem total_sum_outputs (weight : ο → Nat) (state : σ) (inputs : List ι) :
    total (fun s i => ((step s i).2.map weight).sum) step state inputs =
      ((run step state inputs).2.map weight).sum := by
  induction inputs generalizing state with
  | nil => rfl
  | cons input inputs ih => rw [run_cons, List.map_append, List.sum_append, ← ih, total]

/-- Nothing is counted in the runs that stay clear of what is counted, and only in those. -/
theorem total_eq_zero_iff [∀ s i, Decidable (admissible s i)] (state : σ) (inputs : List ι) :
    total (fun s i => if admissible s i then 0 else 1) step state inputs = 0 ↔
      Legal admissible step state inputs := by
  induction inputs generalizing state with
  | nil => simp [total]
  | cons input inputs ih =>
      have here : (if admissible state input then 0 else 1) = 0 ↔ admissible state input := by
        split_ifs with admits <;> simp [admits]
      rw [total, legal_cons, Nat.add_eq_zero_iff, here, ih]

section Invariant

variable (Inv : σ → Prop)
variable (preserved : ∀ s i, Inv s → admissible s i → Inv (step s i).1)
include preserved

/-- What every admissible step preserves holds at the end of every legal run. -/
theorem run_invariant {state : σ} (start : Inv state) {inputs : List ι}
    (legal : Legal admissible step state inputs) : Inv (run step state inputs).1 := by
  induction inputs generalizing state with
  | nil => exact start
  | cons input inputs ih => exact ih (preserved _ _ start legal.1) legal.2

/-- The steps of a legal run are all taken in states with the invariant. -/
theorem legal_and_invariant {state : σ} (start : Inv state) {inputs : List ι}
    (legal : Legal admissible step state inputs) :
    Legal (fun s i => Inv s ∧ admissible s i) step state inputs := by
  induction inputs generalizing state with
  | nil => trivial
  | cons input inputs ih =>
      exact ⟨⟨start, legal.1⟩, ih (preserved _ _ start legal.1) legal.2⟩

/-- A property of the outputs of one step, under the invariant, is a property of
every output of the run. -/
theorem run_outputs {P : ο → Prop}
    (emitted : ∀ s i, Inv s → admissible s i → ∀ o ∈ (step s i).2, P o)
    {state : σ} (start : Inv state) {inputs : List ι}
    (legal : Legal admissible step state inputs) :
    ∀ o ∈ (run step state inputs).2, P o := by
  induction inputs generalizing state with
  | nil => simp
  | cons input inputs ih =>
      intro o member
      rcases List.mem_append.mp member with here | later
      · exact emitted _ _ start legal.1 o here
      · exact ih (preserved _ _ start legal.1) legal.2 o later

/-- The slice rule. An observer sees `view` of the state and the outputs that are
`shown`. Inputs that are `mine` act on the view as `slice` does, all others leave
it alone and show nothing. Then the observed run is the run of `slice` on the
inputs that are mine. -/
theorem run_slice (view : σ → ω) {mine : ι → Bool} {shown : ο → Bool}
    {slice : ω → ι → ω × List ο}
    (own : ∀ s i, Inv s → admissible s i → mine i = true →
      view (step s i).1 = (slice (view s) i).1 ∧
        (step s i).2.filter shown = (slice (view s) i).2)
    (other : ∀ s i, Inv s → admissible s i → mine i = false →
      view (step s i).1 = view s ∧ (step s i).2.filter shown = [])
    {state : σ} (start : Inv state) {inputs : List ι}
    (legal : Legal admissible step state inputs) :
    view (run step state inputs).1 = (run slice (view state) (inputs.filter mine)).1 ∧
      (run step state inputs).2.filter shown =
        (run slice (view state) (inputs.filter mine)).2 := by
  induction inputs generalizing state with
  | nil => simp
  | cons input inputs ih =>
      obtain ⟨views, outputs⟩ := ih (preserved _ _ start legal.1) legal.2
      cases here : mine input with
      | true =>
          obtain ⟨same, shows⟩ := own _ _ start legal.1 here
          simp only [run_cons, List.filter_cons_of_pos here, List.filter_append, views, outputs,
            same, shows, and_self]
      | false =>
          obtain ⟨same, shows⟩ := other _ _ start legal.1 here
          simp only [run_cons, List.filter_append, views, outputs, same, shows,
            List.filter_cons_of_neg (by simp [here] : ¬ mine input = true), List.nil_append,
            and_self]

/-- The refinement rule. Where each admissible step acts on a view of the state as a more
abstract machine does, and emits the same, the view of a legal run is the abstract run. -/
theorem run_refines {τ : Type*} (view : σ → τ) {abstract : τ → ι → τ × List ο}
    (same : ∀ s i, Inv s → admissible s i →
      view (step s i).1 = (abstract (view s) i).1 ∧ (step s i).2 = (abstract (view s) i).2)
    {state : σ} (start : Inv state) {inputs : List ι}
    (legal : Legal admissible step state inputs) :
    view (run step state inputs).1 = (run abstract (view state) inputs).1 ∧
      (run step state inputs).2 = (run abstract (view state) inputs).2 := by
  induction inputs generalizing state with
  | nil => exact ⟨rfl, rfl⟩
  | cons input inputs ih =>
      obtain ⟨views, outputs⟩ := same state input start legal.1
      obtain ⟨later, emitted⟩ := ih (preserved _ _ start legal.1) legal.2
      rw [views] at later emitted
      simp only [run_cons, later, emitted, outputs, and_self]

end Invariant

end Machine
