import PlgBooster.Library.Transaction

/-!
# Assertions at the local states of interleaved programs

An outline asserts something of the store at every local state of a request. It is valid if a
step leads from its assertion to the next one, or to a result as asserted, and if no step of one
request takes away what is asserted of another. Then the assertions hold in every interleaved run.

Assertions can be added to an outline in layers. Over an outline, what a request has written and
not yet answered for is a debt, and a run loses no debt.
-/

namespace Transaction

variable {δ κ ρ : Type}

/-- An outline of a program, with an invariant of the store. -/
structure Outline (P : Program δ κ ρ) where
  inv : δ → Prop
  /-- What holds of the store where a request has reached a local state. -/
  asserts : κ → δ → κ → Prop
  /-- What holds of the result of a request. -/
  ends : κ → ρ → Prop
  inv_step : ∀ request db l, inv db → asserts request db l → inv (P.step db l).1
  asserts_step : ∀ request db l l', inv db → asserts request db l → (P.step db l).2 = .inl l' →
    asserts request (P.step db l).1 l'
  ends_step : ∀ request db l r, inv db → asserts request db l → (P.step db l).2 = .inr r →
    ends request r
  /-- The step of one request does not interfere with the assertion of another. -/
  free : ∀ request db l other stage, inv db → asserts request db l → asserts other db stage →
    asserts other (P.step db l).1 stage

namespace Outline

variable {P : Program δ κ ρ} (O : Outline P)

/-- The invariant and the assertions of all running requests hold. -/
structure Holds (world : World δ κ ρ) : Prop where
  inv : O.inv world.db
  running : ∀ task ∈ world.tasks, ∀ l, task.stage = .inl l → O.asserts task.request world.db l

/-- A request may start at any time. -/
def Starts (request : κ) : Prop := ∀ db, O.inv db → O.asserts request db request

variable {O} {world : World δ κ ρ}

theorem Holds.worldStep (holds : O.Holds world) (event : Event κ)
    (starts : ∀ request, event = .submit request → O.Starts request) :
    O.Holds (P.worldStep world event).1 ∧ ∀ o ∈ (P.worldStep world event).2, O.ends o.1 o.2 := by
  cases event with
  | submit request =>
      refine ⟨⟨holds.inv, ?_⟩, by simp [Program.worldStep]⟩
      intro task member l running
      rcases List.mem_append.mp member with old | new
      · exact holds.running task old l running
      · obtain rfl := List.mem_singleton.mp new
        obtain rfl := Sum.inl.inj running
        exact starts request rfl world.db holds.inv
  | advance i =>
      cases P.advance world i with
      | idle nothing after =>
          rw [after]
          exact ⟨holds, by simp⟩
      | proceeds request l db l' found taken after =>
          have here := holds.running _ (List.mem_of_getElem? found) l rfl
          have inv := O.inv_step request world.db l holds.inv here
          have next := O.asserts_step request world.db l l' holds.inv here (by rw [taken])
          rw [taken] at inv next
          rw [after]
          refine ⟨⟨inv, ?_⟩, by simp⟩
          intro task member stage running
          rcases List.mem_or_eq_of_mem_set member with old | rfl
          · have kept := O.free request world.db l task.request stage holds.inv here
              (holds.running task old stage running)
            rwa [taken] at kept
          · obtain rfl := Sum.inl.inj running
            exact next
      | finishes request l db r found taken after =>
          have here := holds.running _ (List.mem_of_getElem? found) l rfl
          have inv := O.inv_step request world.db l holds.inv here
          have result := O.ends_step request world.db l r holds.inv here (by rw [taken])
          rw [taken] at inv
          rw [after]
          refine ⟨⟨inv, ?_⟩, ?_⟩
          · intro task member stage running
            rcases List.mem_or_eq_of_mem_set member with old | rfl
            · have kept := O.free request world.db l task.request stage holds.inv here
                (holds.running task old stage running)
              rwa [taken] at kept
            · cases running
          · intro o member
            obtain rfl := List.mem_singleton.mp member
            exact result

/-- In every run of requests that may start, the outline holds at the end, and every result
is as asserted. -/
theorem run (holds : O.Holds world) {events : List (Event κ)}
    (starts : ∀ event ∈ events, ∀ request, event = .submit request → O.Starts request) :
    O.Holds (Machine.run P.worldStep world events).1 ∧
      ∀ o ∈ (Machine.run P.worldStep world events).2, O.ends o.1 o.2 := by
  induction events generalizing world with
  | nil => exact ⟨holds, by simp⟩
  | cons event events ih =>
      obtain ⟨next, here⟩ := holds.worldStep event (starts event List.mem_cons_self)
      obtain ⟨last, later⟩ := ih next fun other member =>
        starts other (List.mem_cons_of_mem _ member)
      refine ⟨last, ?_⟩
      intro o member
      rcases List.mem_append.mp member with first | rest
      · exact here o first
      · exact later o rest

/-- More assertions over an outline, which may use what it asserts. -/
structure Layer (O : Outline P) where
  inv : δ → Prop
  asserts : κ → δ → κ → Prop
  ends : κ → ρ → Prop
  inv_step : ∀ request db l, O.inv db → O.asserts request db l → inv db → asserts request db l →
    inv (P.step db l).1
  asserts_step : ∀ request db l l', O.inv db → O.asserts request db l → inv db →
    asserts request db l → (P.step db l).2 = .inl l' → asserts request (P.step db l).1 l'
  ends_step : ∀ request db l r, O.inv db → O.asserts request db l → inv db →
    asserts request db l → (P.step db l).2 = .inr r → ends request r
  free : ∀ request db l other stage, O.inv db → O.asserts request db l → inv db →
    asserts request db l → asserts other db stage → asserts other (P.step db l).1 stage

/-- An outline with one layer more. -/
def Layer.outline {O : Outline P} (L : O.Layer) : Outline P where
  inv := fun db => O.inv db ∧ L.inv db
  asserts := fun request db l => O.asserts request db l ∧ L.asserts request db l
  ends := fun request r => O.ends request r ∧ L.ends request r
  inv_step := fun request db l inv here =>
    ⟨O.inv_step request db l inv.1 here.1, L.inv_step request db l inv.1 here.1 inv.2 here.2⟩
  asserts_step := fun request db l l' inv here taken =>
    ⟨O.asserts_step request db l l' inv.1 here.1 taken,
      L.asserts_step request db l l' inv.1 here.1 inv.2 here.2 taken⟩
  ends_step := fun request db l r inv here taken =>
    ⟨O.ends_step request db l r inv.1 here.1 taken,
      L.ends_step request db l r inv.1 here.1 inv.2 here.2 taken⟩
  free := fun request db l other stage inv here there =>
    ⟨O.free request db l other stage inv.1 here.1 there.1,
      L.free request db l other stage inv.1 here.1 inv.2 here.2 there.2⟩

/-- What requests write to the store and then have to answer for: one that has written it owes
the answer, and keeps owing it until its result pays. -/
structure Debt (O : Outline P) (ι : Type) where
  written : δ → ι → Prop
  owes : κ → Option ι
  pays : ρ → Option ι
  incurred : ∀ request db l i, O.inv db → O.asserts request db l → written (P.step db l).1 i →
    written db i ∨ Sum.elim owes pays (P.step db l).2 = some i
  kept : ∀ request db l i, O.inv db → O.asserts request db l → owes l = some i →
    Sum.elim owes pays (P.step db l).2 = some i

namespace Debt

variable {ι : Type} (D : O.Debt ι)

def Owed (world : World δ κ ρ) (i : ι) : Prop :=
  ∃ task ∈ world.tasks, ∃ l, task.stage = .inl l ∧ D.owes l = some i

def Paid (outputs : List (κ × ρ)) (i : ι) : Prop := ∃ o ∈ outputs, D.pays o.2 = some i

variable {D}

/-- A step pays what was owed or goes on owing it, and so with what it writes itself. -/
theorem worldStep (holds : O.Holds world) (event : Event κ) (i : ι) :
    (D.written (P.worldStep world event).1.db i → D.written world.db i ∨
      D.Owed (P.worldStep world event).1 i ∨ D.Paid (P.worldStep world event).2 i) ∧
    (D.Owed world i →
      D.Owed (P.worldStep world event).1 i ∨ D.Paid (P.worldStep world event).2 i) := by
  cases event with
  | submit request =>
      refine ⟨.inl, ?_⟩
      rintro ⟨task, member, owing⟩
      exact .inl ⟨task, List.mem_append_left _ member, owing⟩
  | advance n =>
      cases P.advance world n with
      | idle nothing after =>
          rw [after]
          exact ⟨.inl, .inl⟩
      | proceeds request l db l' found taken after =>
          have here := holds.running _ (List.mem_of_getElem? found) l rfl
          have incurred := D.incurred request world.db l i holds.inv here
          have kept := D.kept request world.db l i holds.inv here
          simp only [taken, Sum.elim_inl] at incurred kept
          have next (owing : D.owes l' = some i) :
              D.Owed ⟨db, world.tasks.set n ⟨request, .inl l'⟩⟩ i :=
            ⟨_, List.mem_set (List.getElem?_eq_some_iff.mp found).1 _, l', rfl, owing⟩
          rw [after]
          refine ⟨fun written => (incurred written).imp_right fun owing => .inl (next owing), ?_⟩
          rintro ⟨task, member, stage, running, owing⟩
          left
          obtain ⟨m, at_m⟩ := List.mem_iff_getElem?.mp member
          by_cases same : m = n
          · subst same
            obtain rfl := Option.some.inj (at_m.symm.trans found)
            obtain rfl := Sum.inl.inj running
            exact next (kept owing)
          · exact ⟨task, List.mem_of_getElem? ((List.getElem?_set_ne (Ne.symm same)).trans at_m),
              stage, running, owing⟩
      | finishes request l db r found taken after =>
          have here := holds.running _ (List.mem_of_getElem? found) l rfl
          have incurred := D.incurred request world.db l i holds.inv here
          have kept := D.kept request world.db l i holds.inv here
          simp only [taken, Sum.elim_inr] at incurred kept
          have paid (pays : D.pays r = some i) : D.Paid [(request, r)] i :=
            ⟨_, List.mem_singleton_self _, pays⟩
          rw [after]
          refine ⟨fun written => (incurred written).imp_right fun pays => .inr (paid pays), ?_⟩
          rintro ⟨task, member, stage, running, owing⟩
          obtain ⟨m, at_m⟩ := List.mem_iff_getElem?.mp member
          by_cases same : m = n
          · subst same
            obtain rfl := Option.some.inj (at_m.symm.trans found)
            obtain rfl := Sum.inl.inj running
            exact .inr (paid (kept owing))
          · exact .inl ⟨task,
              List.mem_of_getElem? ((List.getElem?_set_ne (Ne.symm same)).trans at_m),
              stage, running, owing⟩

/-- In every run, what is written is paid for by some result, or is still owed. -/
theorem run (holds : O.Holds world) {events : List (Event κ)}
    (starts : ∀ event ∈ events, ∀ request, event = .submit request → O.Starts request) (i : ι) :
    let after := Machine.run P.worldStep world events
    (D.written after.1.db i → D.written world.db i ∨ D.Owed after.1 i ∨ D.Paid after.2 i) ∧
      (D.Owed world i → D.Owed after.1 i ∨ D.Paid after.2 i) := by
  induction events generalizing world with
  | nil => exact ⟨.inl, .inl⟩
  | cons event events ih =>
      obtain ⟨incurred, kept⟩ := worldStep (D := D) holds event i
      obtain ⟨next, _⟩ := holds.worldStep event (starts event List.mem_cons_self)
      obtain ⟨later, still⟩ := ih next fun other member =>
        starts other (List.mem_cons_of_mem _ member)
      have first (paid : D.Paid (P.worldStep world event).2 i) :
          D.Paid (Machine.run P.worldStep world (event :: events)).2 i := by
        obtain ⟨o, member, pays⟩ := paid
        exact ⟨o, List.mem_append_left _ member, pays⟩
      have rest (paid : D.Paid
          (Machine.run P.worldStep (P.worldStep world event).1 events).2 i) :
          D.Paid (Machine.run P.worldStep world (event :: events)).2 i := by
        obtain ⟨o, member, pays⟩ := paid
        exact ⟨o, List.mem_append_right _ member, pays⟩
      have settle (here : D.Owed (P.worldStep world event).1 i ∨
          D.Paid (P.worldStep world event).2 i) :
          D.Owed (Machine.run P.worldStep world (event :: events)).1 i ∨
            D.Paid (Machine.run P.worldStep world (event :: events)).2 i := by
        rcases here with owed | paid
        · exact (still owed).imp_right rest
        · exact .inr (first paid)
      refine ⟨fun written => ?_, fun owed => settle (kept owed)⟩
      rcases later written with before | owed | paid
      · exact (incurred before).imp_right settle
      · exact .inr (.inl owed)
      · exact .inr (.inr (rest paid))

end Debt

end Outline

end Transaction
