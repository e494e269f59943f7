import PlgBooster.Library.Machine
import Mathlib.Data.List.Induction

/-!
# Dropping what was seen before

A receiver remembers the keys of the items it accepts and drops an item whose key it
remembers; when it would remember too many, it forgets them all. The items are sorted into
classes, each with a memory of its own.

Two receivers that sort the same items differently accept the same items exactly while their
memories agree on each item that arrives. As long as nothing is forgotten, one common memory
accepts what separate memories accept exactly if no key occurs in two classes.
-/

namespace Dedup

variable {α β κ π ρ : Type*} [DecidableEq κ] [DecidableEq π] [DecidableEq ρ]

/-- The keys remembered after a new one. -/
def remember (limit : Nat) (seen : List κ) (key : κ) : List κ :=
  let seen := key :: seen
  if seen.length > limit then [] else seen

section Receiver

variable (limit : Nat) (key : α → κ) (cls : α → π)

/-- An item is accepted if its class does not remember its key. -/
def step (seen : π → List κ) (item : α) : (π → List κ) × List α :=
  if key item ∈ seen (cls item) then (seen, [])
  else
    (Function.update seen (cls item) (remember limit (seen (cls item)) (key item)), [item])

/-- What is remembered after the items. -/
def memory (items : List α) : π → List κ :=
  (Machine.run (step limit key cls) (fun _ => []) items).1

/-- The items that are accepted. -/
def accepted (items : List α) : List α :=
  (Machine.run (step limit key cls) (fun _ => []) items).2

theorem memory_concat (items : List α) (item : α) :
    memory limit key cls (items ++ [item]) =
      if key item ∈ memory limit key cls items (cls item) then memory limit key cls items
      else
        Function.update (memory limit key cls items) (cls item)
          (remember limit (memory limit key cls items (cls item)) (key item)) := by
  rw [memory, memory, Machine.run_append]
  by_cases known : key item ∈ (Machine.run (step limit key cls) (fun _ => []) items).1 (cls item)
  · simp [step, known]
  · simp [step, known]

theorem accepted_concat (items : List α) (item : α) :
    accepted limit key cls (items ++ [item]) = accepted limit key cls items ++
      if key item ∈ memory limit key cls items (cls item) then [] else [item] := by
  rw [accepted, accepted, memory, Machine.run_append]
  by_cases known : key item ∈ (Machine.run (step limit key cls) (fun _ => []) items).1 (cls item)
  · simp [step, known]
  · simp [step, known]

end Receiver

theorem take_succ_of_getElem? {items : List α} {n : Nat} {item : α}
    (here : items[n]? = some item) : items.take (n + 1) = items.take n ++ [item] := by
  rw [List.take_add_one, here]
  rfl

variable (limit : Nat) (key : α → κ)

/-- Two receivers have accepted the same up to every point exactly if their memories agree
on every item when it arrives. -/
theorem perm_accepted_iff (payload : α → β) (cls : α → π) (cls' : α → ρ) (items : List α) :
    (∀ n, ((accepted limit key cls (items.take n)).map payload).Perm
      ((accepted limit key cls' (items.take n)).map payload)) ↔
    ∀ n item, items[n]? = some item →
      (key item ∈ memory limit key cls (items.take n) (cls item) ↔
        key item ∈ memory limit key cls' (items.take n) (cls' item)) := by
  constructor
  · intro same n item here
    have before := (same n).length_eq
    have after := (same (n + 1)).length_eq
    rw [take_succ_of_getElem? here, accepted_concat, accepted_concat] at after
    simp only [List.map_append, List.length_append, List.length_map] at before after
    have last := Nat.add_left_cancel (before ▸ after)
    by_cases known : key item ∈ memory limit key cls (items.take n) (cls item) <;>
      by_cases known' : key item ∈ memory limit key cls' (items.take n) (cls' item) <;>
      simp [known, known'] at last ⊢
  · intro agree n
    induction n with
    | zero => exact .refl _
    | succ n ih =>
        cases here : items[n]? with
        | none =>
            rw [List.take_add_one, here]
            simpa using ih
        | some item =>
            rw [take_succ_of_getElem? here, accepted_concat, accepted_concat, List.map_append,
              List.map_append]
            simp only [agree n item here]
            exact ih.append_right _

/-! ## While nothing is forgotten -/

/-- The memory of a class is no longer than the list of all items. -/
theorem length_memory_le (cls : α → π) (items : List α) (c : π) :
    (memory limit key cls items c).length ≤ items.length := by
  induction items using List.reverseRecOn with
  | nil => exact Nat.le_refl 0
  | append_singleton items item ih =>
      rw [memory_concat, List.length_append, List.length_singleton]
      split_ifs
      · exact Nat.le_succ_of_le ih
      · by_cases same : c = cls item
        · subst same
          rw [Function.update_self, remember]
          split_ifs
          · exact Nat.zero_le _
          · exact Nat.succ_le_succ ih
        · rw [Function.update_of_ne same]
          exact Nat.le_succ_of_le ih

/-- A short list is remembered completely. -/
theorem mem_memory_iff (cls : α → π) {items : List α} (short : items.length ≤ limit) (c : π)
    (k : κ) : k ∈ memory limit key cls items c ↔ ∃ item ∈ items, cls item = c ∧ key item = k := by
  induction items using List.reverseRecOn with
  | nil => simp [memory]
  | append_singleton items item ih =>
      rw [List.length_append, List.length_singleton] at short
      have ih := ih (by omega)
      have added : (∃ x ∈ items ++ [item], cls x = c ∧ key x = k) ↔
          (∃ x ∈ items, cls x = c ∧ key x = k) ∨ cls item = c ∧ key item = k := by
        simp only [List.mem_append, List.mem_singleton, or_and_right, exists_or, exists_eq_left]
      rw [added, ← ih, memory_concat]
      split_ifs with known
      · constructor
        · exact .inl
        · rintro (here | ⟨rfl, rfl⟩)
          · exact here
          · exact known
      · by_cases same : c = cls item
        · subst same
          have room : ¬ (key item :: memory limit key cls items (cls item)).length > limit := by
            have := length_memory_le limit key cls items (cls item)
            rw [List.length_cons]
            omega
          rw [Function.update_self, remember]
          simp only [room, if_false, List.mem_cons, true_and, or_comm, eq_comm]
        · rw [Function.update_of_ne same]
          simp [Ne.symm same]

theorem length_concat (cls : α → π) (items : List α) (item : α) :
    (accepted limit key cls (items ++ [item])).length = (accepted limit key cls items).length +
      if key item ∈ memory limit key cls items (cls item) then 0 else 1 := by
  rw [accepted_concat, List.length_append]
  split_ifs <;> rfl

/-- No key occurs in two classes. -/
def Apart (key : α → κ) (cls : α → π) (items : List α) : Prop :=
  ∀ x ∈ items, ∀ y ∈ items, key x = key y → cls x = cls y

instance (key : α → κ) (cls : α → π) (items : List α) : Decidable (Apart key cls items) :=
  inferInstanceAs (Decidable (∀ x ∈ items, ∀ y ∈ items, key x = key y → cls x = cls y))

omit [DecidableEq κ] [DecidableEq π] in
theorem apart_concat {key : α → κ} {cls : α → π} {items : List α} {item : α} :
    Apart key cls (items ++ [item]) ↔
      Apart key cls items ∧ ∀ y ∈ items, key y = key item → cls y = cls item := by
  constructor
  · intro apart
    have old {x : α} (member : x ∈ items) : x ∈ items ++ [item] := List.mem_append_left _ member
    have new : item ∈ items ++ [item] := List.mem_append_right _ (List.mem_singleton.mpr rfl)
    exact ⟨fun x hx y hy => apart x (old hx) y (old hy), fun y hy => apart y (old hy) item new⟩
  · rintro ⟨apart, last⟩ x hx y hy same
    rw [List.mem_append, List.mem_singleton] at hx hy
    rcases hx with hx | rfl <;> rcases hy with hy | rfl
    · exact apart x hx y hy same
    · exact last x hx same
    · exact (last y hy same.symm).symm
    · rfl

/-- One common memory accepts no more than separate memories, and fewer as soon as a key has
occurred in two classes. -/
theorem length_accepted (cls : α → π) {items : List α} (short : items.length ≤ limit) :
    (accepted limit key (fun _ => ()) items).length ≤ (accepted limit key cls items).length ∧
      ((accepted limit key (fun _ => ()) items).length = (accepted limit key cls items).length →
        Apart key cls items) := by
  induction items using List.reverseRecOn with
  | nil => exact ⟨Nat.le_refl 0, fun _ x hx => nomatch hx⟩
  | append_singleton items item ih =>
      rw [List.length_append, List.length_singleton] at short
      have short : items.length ≤ limit := by omega
      obtain ⟨fewer, apart⟩ := ih short
      have common := mem_memory_iff limit key (fun _ : α => ()) short () (key item)
      have separate := mem_memory_iff limit key cls short (cls item) (key item)
      rw [length_concat, length_concat, apart_concat]
      by_cases own : key item ∈ memory limit key cls items (cls item)
      · -- Both drop the item.
        obtain ⟨z, here, sameClass, sameKey⟩ := separate.mp own
        have known := common.mpr ⟨z, here, rfl, sameKey⟩
        simp only [known, own, if_true, Nat.add_zero]
        refine ⟨fewer, fun equal => ⟨apart equal, fun y hy same => ?_⟩⟩
        rw [apart equal y hy z here (same.trans sameKey.symm), sameClass]
      · by_cases known : key item ∈ memory limit key (fun _ => ()) items ()
        · -- Only the separate memories accept it.
          simp only [known, own, if_true, if_false]
          exact ⟨by omega, fun equal => absurd equal (by omega)⟩
        · simp only [known, own, if_false]
          refine ⟨by omega, fun equal => ⟨apart (by omega), fun y hy same => ?_⟩⟩
          exact absurd (common.mpr ⟨y, hy, rfl, same⟩) known

/-- On a short list the two accept the same exactly if no key occurs in two classes. -/
theorem perm_accepted_iff_apart (payload : α → β) (cls : α → π) {items : List α}
    (short : items.length ≤ limit) :
    ((accepted limit key (fun _ => ()) items).map payload).Perm
      ((accepted limit key cls items).map payload) ↔ Apart key cls items := by
  constructor
  · intro perm
    have equal := perm.length_eq
    rw [List.length_map, List.length_map] at equal
    exact (length_accepted limit key cls short).2 equal
  · intro apart
    have always := (perm_accepted_iff limit key payload (fun _ => ()) cls items).mpr
      fun n item here => ?_
    · have whole := always items.length
      rwa [List.take_length] at whole
    · have member := List.mem_of_getElem? here
      have short : (items.take n).length ≤ limit := Nat.le_trans (List.length_take_le' _ _) short
      rw [mem_memory_iff limit key (fun _ => ()) short, mem_memory_iff limit key cls short]
      constructor
      · rintro ⟨y, before, _, same⟩
        exact ⟨y, before, apart y (List.mem_of_mem_take before) item member same, same⟩
      · rintro ⟨y, before, _, same⟩
        exact ⟨y, before, rfl, same⟩

end Dedup
