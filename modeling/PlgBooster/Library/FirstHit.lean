import Mathlib.Data.List.Perm.Basic

/-!
# The first hit of a scan

A scan stops at the first element that yields a value. Its answer depends on the order of
the list only where two elements yield different values, so the lists whose order does not
matter are the ones all of whose values agree.
-/

namespace FirstHit

variable {α β : Type*} {f : α → Option β} {l : List α}

/-- All elements that yield a value yield the same one. -/
def Agree (f : α → Option β) (l : List α) : Prop :=
  ∀ x ∈ l, ∀ y ∈ l, ∀ b ∈ f x, ∀ c ∈ f y, b = c

instance [DecidableEq β] : Decidable (Agree f l) :=
  inferInstanceAs (Decidable (∀ x ∈ l, ∀ y ∈ l, ∀ b ∈ f x, ∀ c ∈ f y, b = c))

theorem Agree.perm {l' : List α} (agree : Agree f l) (order : l'.Perm l) : Agree f l' := by
  intro x here y there
  exact agree x (order.mem_iff.mp here) y (order.mem_iff.mp there)

/-- Where the values agree, any of them is the answer. -/
theorem Agree.findSome?_eq (agree : Agree f l) {x : α} (here : x ∈ l) {b : β}
    (hit : f x = some b) : l.findSome? f = some b := by
  have found : (l.findSome? f).isSome := by
    rw [List.findSome?_isSome_iff]
    exact ⟨x, here, by rw [hit]; rfl⟩
  obtain ⟨c, first⟩ := Option.isSome_iff_exists.mp found
  obtain ⟨y, there, hits⟩ := List.exists_of_findSome?_eq_some first
  rw [first, agree x here y there b hit c hits]

theorem Agree.findSome?_perm {l' : List α} (agree : Agree f l) (order : l'.Perm l) :
    l'.findSome? f = l.findSome? f := by
  cases first : l'.findSome? f with
  | none =>
      rw [List.findSome?_eq_none_iff] at first
      symm
      rw [List.findSome?_eq_none_iff]
      intro x here
      exact first x (order.mem_iff.mpr here)
  | some b =>
      obtain ⟨x, here, hit⟩ := List.exists_of_findSome?_eq_some first
      exact (agree.findSome?_eq (order.mem_iff.mp here) hit).symm

/-- Any element may come first. -/
theorem exists_perm_findSome?_eq {x : α} (here : x ∈ l) {b : β} (hit : f x = some b) :
    ∃ l' : List α, l'.Perm l ∧ l'.findSome? f = some b := by
  obtain ⟨before, after, rfl⟩ := List.append_of_mem here
  refine ⟨x :: (before ++ after), List.perm_middle.symm, ?_⟩
  rw [List.findSome?_cons, hit]

/-- The order matters exactly where two values differ. -/
theorem forall_perm_iff :
    (∀ first second : List α, first.Perm l → second.Perm l →
      first.findSome? f = second.findSome? f) ↔ Agree f l := by
  constructor
  · intro same x here y there b hit c hits
    obtain ⟨first, order, answer⟩ := exists_perm_findSome?_eq here hit
    obtain ⟨second, order', answer'⟩ := exists_perm_findSome?_eq there hits
    have equal := same first second order order'
    rw [answer, answer'] at equal
    exact Option.some.inj equal
  · intro agree first second order order'
    rw [agree.findSome?_perm order, agree.findSome?_perm order']

end FirstHit
