import Mathlib.Data.List.Nodup
import Mathlib.Data.List.Perm.Subperm
import Mathlib.Order.Lattice

/-!
# Pages of an ordered answer

A query orders its rows by a key, descending, and leaves the order of rows with equal keys
open. A list cut into pages, each out of the answer to a query of its own, has every row once
whatever the answers are exactly if no tie reaches over the end of a page. A row then is on
one page in all answers; a tie that does reach over can be broken in two ways, so that one of
its rows is the last of a page and the first of the next one.
-/

namespace Pagination

variable {α κ : Type*} [LinearOrder κ]

/-- An answer to the query: the rows by descending key, those with equal keys in any order. -/
structure Arrangement (key : α → κ) (rows : List α) where
  list : List α
  perm : list.Perm rows
  sorted : list.Pairwise fun x y => key y ≤ key x

/-- A page of a list. The first page has number 0. -/
def page (size k : Nat) (l : List α) : List α := (l.drop (k * size)).take size

variable (key : α → κ) (rows : List α) (size : Nat)

/-- The number of rows that come before a row in every answer. -/
def above (row : α) : Nat := rows.countP fun other => key row < key other

/-- The number of rows that do not come after a row in every answer. -/
def upTo (row : α) : Nat := rows.countP fun other => key row ≤ key other

/-- The rows that are tied with a row are all on one page. -/
def OnOnePage (row : α) : Prop := above key rows row / size = (upTo key rows row - 1) / size

instance (row : α) : Decidable (OnOnePage key rows size row) :=
  inferInstanceAs (Decidable (_ = _))

variable {key rows size}

/-- So many pages, one after the other, each out of an answer of its own. -/
def pages (size count : Nat) (answer : Nat → Arrangement key rows) : List α :=
  (List.range count).flatMap fun k => page size k (answer k).list

/-! ## Where a row may be -/

theorem exists_split_of_getElem? {l : List α} {i : Nat} {x : α} (here : l[i]? = some x) :
    ∃ before after, l = before ++ x :: after ∧ before.length = i := by
  obtain ⟨inside, rfl⟩ := List.getElem?_eq_some_iff.mp here
  refine ⟨l.take i, l.drop (i + 1), ?_, ?_⟩
  · rw [← List.drop_eq_getElem_cons inside, List.take_append_drop]
  · rw [List.length_take]
    omega

namespace Arrangement

variable (answer : Arrangement key rows) {i : Nat} {x y : α}

theorem above_le (here : answer.list[i]? = some x) : above key rows x ≤ i := by
  obtain ⟨before, after, split, rfl⟩ := exists_split_of_getElem? here
  have sorted := answer.sorted
  rw [split, List.pairwise_append, List.pairwise_cons] at sorted
  have none_later : (x :: after).countP (fun other => key x < key other) = 0 := by
    rw [List.countP_eq_zero]
    intro other later
    rcases List.mem_cons.mp later with rfl | later
    · simp
    · simpa using sorted.2.1.1 other later
  rw [above, ← answer.perm.countP_eq, split, List.countP_append, none_later]
  exact List.countP_le_length

theorem lt_upTo (here : answer.list[i]? = some x) : i < upTo key rows x := by
  obtain ⟨before, after, split, rfl⟩ := exists_split_of_getElem? here
  have sorted := answer.sorted
  rw [split, List.pairwise_append] at sorted
  have all_before : before.countP (fun other => key x ≤ key other) = before.length := by
    rw [List.countP_eq_length]
    intro other earlier
    simpa using sorted.2.2 other earlier x List.mem_cons_self
  rw [upTo, ← answer.perm.countP_eq, split, List.countP_append, all_before]
  simp

/-- Whoever takes a place among the rows tied with a row is tied with it. -/
theorem key_eq_of_getElem? (here : answer.list[i]? = some y) (low : above key rows x ≤ i)
    (high : i < upTo key rows x) : key y = key x := by
  have lowest := answer.above_le here
  have highest := answer.lt_upTo here
  rcases lt_trichotomy (key y) (key x) with less | same | more
  · have : upTo key rows x ≤ above key rows y := by
      apply List.countP_mono_left
      intro other _ reached
      simp only [decide_eq_true_eq] at reached ⊢
      exact lt_of_lt_of_le less reached
    omega
  · exact same
  · have : upTo key rows y ≤ above key rows x := by
      apply List.countP_mono_left
      intro other _ reached
      simp only [decide_eq_true_eq] at reached ⊢
      exact lt_of_lt_of_le more reached
    omega

end Arrangement

theorem mem_page {k : Nat} {l : List α} {x : α} (positive : 0 < size) :
    x ∈ page size k l ↔ ∃ i, l[i]? = some x ∧ i / size = k := by
  rw [page, List.mem_iff_getElem?]
  constructor
  · rintro ⟨j, here⟩
    rw [List.getElem?_take] at here
    split_ifs at here with inside
    · rw [List.getElem?_drop] at here
      refine ⟨k * size + j, here, ?_⟩
      rw [Nat.mul_comm, Nat.mul_add_div positive, Nat.div_eq_of_lt inside, Nat.add_zero]
  · rintro ⟨i, here, rfl⟩
    refine ⟨i % size, ?_⟩
    rw [List.getElem?_take, if_pos (Nat.mod_lt i positive), List.getElem?_drop,
      Nat.mul_comm, Nat.div_add_mod]
    exact here

/-- A row whose ties are on one page is on that page in every answer. -/
theorem mem_page_iff (positive : 0 < size) (answer : Arrangement key rows) {k : Nat} {x : α}
    (clean : ∀ row ∈ rows, OnOnePage key rows size row) :
    x ∈ page size k answer.list ↔ x ∈ rows ∧ above key rows x / size = k := by
  have same {i : Nat} (here : answer.list[i]? = some x) : i / size = above key rows x / size := by
    have member : x ∈ rows := answer.perm.mem_iff.mp (List.mem_of_getElem? here)
    have low := Nat.div_le_div_right (c := size) (answer.above_le here)
    have high := Nat.div_le_div_right (c := size) (Nat.le_sub_one_of_lt (answer.lt_upTo here))
    have one := clean x member
    unfold OnOnePage at one
    omega
  rw [mem_page positive]
  constructor
  · rintro ⟨i, here, rfl⟩
    exact ⟨answer.perm.mem_iff.mp (List.mem_of_getElem? here), (same here).symm⟩
  · rintro ⟨member, rfl⟩
    obtain ⟨i, here⟩ := List.mem_iff_getElem?.mp (answer.perm.mem_iff.mpr member)
    exact ⟨i, here, same here⟩

/-! ## Ties that stay on their page -/

theorem above_lt_length {x : α} (member : x ∈ rows) : above key rows x < rows.length := by
  unfold above
  apply Nat.lt_of_le_of_ne List.countP_le_length
  intro full
  rw [List.countP_eq_length] at full
  exact absurd (of_decide_eq_true (full x member)) (lt_irrefl (key x))

theorem upTo_eq (row : α) :
    upTo key rows row = above key rows row + (rows.map key).count (key row) := by
  induction rows with
  | nil => rfl
  | cons other rows ih =>
      simp only [upTo, above, List.countP_cons, List.map_cons, List.count_cons, beq_iff_eq,
        decide_eq_true_eq] at ih ⊢
      rcases lt_trichotomy (key row) (key other) with less | same | more
      · simp only [less, less.le, less.ne', if_true, if_false]
        omega
      · simp only [same, le_refl, lt_irrefl, if_true, if_false] at ih ⊢
        omega
      · simp only [not_lt_of_gt more, not_le_of_gt more, more.ne, if_false]
        omega

/-- Without ties there is nothing to reach over. -/
theorem onOnePage_of_nodup (distinct : (rows.map key).Nodup) {row : α} (member : row ∈ rows) :
    OnOnePage key rows size row := by
  have single := List.count_eq_one_of_mem distinct (List.mem_map_of_mem member)
  rw [OnOnePage, upTo_eq, single, Nat.add_sub_cancel]

/-- Pages that no tie reaches over have every row once, if there are enough of them. -/
theorem perm_pages (positive : 0 < size) (distinct : rows.Nodup) {count : Nat}
    (clean : ∀ row ∈ rows, OnOnePage key rows size row) (enough : rows.length ≤ count * size)
    (answer : Nat → Arrangement key rows) : (pages size count answer).Perm rows := by
  have each (k : Nat) : (page size k (answer k).list).Nodup := by
    apply List.Nodup.sublist ((List.take_sublist _ _).trans (List.drop_sublist _ _))
    exact (answer k).perm.nodup_iff.mpr distinct
  have apart : (List.range count).Pairwise
      (fun j k => List.Disjoint (page size j (answer j).list) (page size k (answer k).list)) := by
    apply List.nodup_range.imp
    intro j k other x here there
    rw [mem_page_iff positive (answer _) clean] at here there
    exact other (here.2.symm.trans there.2)
  unfold pages
  rw [List.perm_ext_iff_of_nodup (List.nodup_flatMap.mpr ⟨fun k _ => each k, apart⟩) distinct]
  intro x
  rw [List.mem_flatMap]
  constructor
  · rintro ⟨k, _, here⟩
    exact ((mem_page_iff positive (answer k) clean).mp here).1
  · intro member
    refine ⟨above key rows x / size, ?_, (mem_page_iff positive (answer _) clean).mpr ⟨member, rfl⟩⟩
    rw [List.mem_range, Nat.div_lt_iff_lt_mul positive]
    exact Nat.lt_of_lt_of_le (above_lt_length member) enough

/-! ## Ties that do not -/

/-- The pages of one answer are what it begins with. -/
theorem flatMap_page (l : List α) (count : Nat) :
    ((List.range count).flatMap fun k => page size k l) = l.take (count * size) := by
  induction count with
  | zero => simp
  | succ count ih =>
      rw [List.range_succ, List.flatMap_append, ih, List.flatMap_singleton, page,
        Nat.succ_mul, List.take_add]

/-- The answer that keeps the order of the table in every tie. -/
def stable (key : α → κ) (rows : List α) : Arrangement key rows where
  list := rows.mergeSort fun x y => key y ≤ key x
  perm := List.mergeSort_perm ..
  sorted := by
    have sorted := @List.pairwise_mergeSort α (fun x y => decide (key y ≤ key x))
      (fun _ _ _ first second => decide_eq_true
        (le_trans (of_decide_eq_true second) (of_decide_eq_true first)))
      (fun x y => by simpa using le_total (key y) (key x)) rows
    exact sorted.imp fun le => of_decide_eq_true le

/-- Two neighbours with equal keys can change places. -/
theorem exists_swapped (answer : Arrangement key rows) {before after : List α} {y z : α}
    (split : answer.list = before ++ y :: z :: after) (tied : key y = key z) :
    ∃ other : Arrangement key rows, other.list = before ++ z :: y :: after := by
  refine ⟨⟨before ++ z :: y :: after, ?_, ?_⟩, rfl⟩
  · apply List.Perm.trans _ answer.perm
    rw [split]
    exact (List.Perm.swap y z after).append_left before
  · have sorted := answer.sorted
    rw [split] at sorted
    rw [List.pairwise_append, List.pairwise_cons, List.pairwise_cons] at sorted ⊢
    obtain ⟨sortedBefore, ⟨afterY, afterZ, sortedAfter⟩, across⟩ := sorted
    refine ⟨sortedBefore, ⟨?_, ?_, sortedAfter⟩, ?_⟩
    · intro other later
      rcases List.mem_cons.mp later with rfl | later
      · exact le_of_eq tied
      · exact afterZ other later
    · intro other later
      exact afterY other (List.mem_cons_of_mem _ later)
    · intro first earlier other later
      apply across first earlier other
      simp only [List.mem_cons] at later ⊢
      tauto

/-- A tie that reaches over the end of a page can put one row on both pages. -/
theorem exists_row_twice (positive : 0 < size) {x : α} (member : x ∈ rows)
    (reaches : ¬ OnOnePage key rows size x) :
    ∃ (k : Nat) (y : α) (first second : Arrangement key rows), (k + 1) * size < rows.length ∧
      y ∈ page size k first.list ∧ y ∈ page size (k + 1) second.list := by
  let answer := stable key rows
  -- The last page of the tie starts at `(k + 1) * size`, after the first row of the tie.
  have low : above key rows x / size < (upTo key rows x - 1) / size := by
    obtain ⟨i, here⟩ := List.mem_iff_getElem?.mp (answer.perm.mem_iff.mpr member)
    have before := answer.above_le here
    have within := answer.lt_upTo here
    exact Nat.lt_of_le_of_ne (Nat.div_le_div_right (by omega)) reaches
  obtain ⟨k, last⟩ := Nat.exists_eq_succ_of_ne_zero (Nat.ne_of_gt (Nat.zero_lt_of_lt low))
  have ends := Nat.div_mul_le_self (upTo key rows x - 1) size
  rw [last, Nat.succ_mul] at ends
  rw [last, Nat.div_lt_iff_lt_mul positive, Nat.succ_mul] at low
  have within : upTo key rows x ≤ rows.length := List.countP_le_length
  have length := answer.perm.length_eq
  have size_eq : (k + 1) * size = k * size + size := Nat.succ_mul k size
  -- The rows on the two sides of the page's end belong to the tie, and change places.
  obtain ⟨y, last_here⟩ : ∃ y, answer.list[k * size + size - 1]? = some y :=
    ⟨_, List.getElem?_eq_getElem (by omega)⟩
  obtain ⟨before, rest, split, place⟩ := exists_split_of_getElem? last_here
  cases rest with
  | nil =>
      rw [split, List.length_append, List.length_singleton] at length
      omega
  | cons z after =>
      have first_here : answer.list[k * size + size]? = some z := by
        rw [split, List.getElem?_append_right (by omega),
          show k * size + size - before.length = 1 by omega]
        rfl
      have tied_last := answer.key_eq_of_getElem? last_here (x := x) (by omega) (by omega)
      have tied_first := answer.key_eq_of_getElem? first_here (x := x) (by omega) (by omega)
      obtain ⟨swapped, list⟩ := exists_swapped answer split (tied_last.trans tied_first.symm)
      refine ⟨k, y, answer, swapped, by omega, ?_, ?_⟩
      · refine (mem_page positive).mpr ⟨k * size + size - 1, last_here, ?_⟩
        apply Nat.div_eq_of_lt_le
        · omega
        · omega
      · refine (mem_page positive).mpr ⟨(k + 1) * size, ?_, Nat.mul_div_cancel _ positive⟩
        rw [list, List.getElem?_append_right (by omega),
          show (k + 1) * size - before.length = 1 by omega]
        rfl

/-- The pages have every row once in all answers exactly if no tie reaches over the end of a
page and the pages are enough. -/
theorem forall_perm_pages_iff (positive : 0 < size) (distinct : rows.Nodup) (count : Nat) :
    (∀ answer : Nat → Arrangement key rows, (pages size count answer).Perm rows) ↔
      (∀ row ∈ rows, OnOnePage key rows size row) ∧ rows.length ≤ count * size := by
  constructor
  · intro all
    have enough : rows.length ≤ count * size := by
      have length := (all fun _ => stable key rows).length_eq
      rw [pages, flatMap_page, List.length_take, (stable key rows).perm.length_eq] at length
      omega
    refine ⟨?_, enough⟩
    intro x member
    by_contra reaches
    obtain ⟨k, y, first, second, inside, early, late⟩ := exists_row_twice positive member reaches
    -- The first page of the two is asked for when the tie is broken in one way, the second
    -- one when it is broken in the other way.
    have nodup := (all fun j => if j = k then first else second).nodup_iff.mpr distinct
    have apart := (List.nodup_flatMap.mp nodup).2
    have next : k + 1 < count := Nat.lt_of_mul_lt_mul_right (Nat.lt_of_lt_of_le inside enough)
    have disjoint := List.pairwise_iff_getElem.mp apart k (k + 1) (by simp; omega)
      (by simpa using next) (by omega)
    simp only [List.getElem_range] at disjoint
    exact disjoint (by simpa using early) (by simpa using late)
  · rintro ⟨clean, enough⟩ answer
    exact perm_pages positive distinct clean enough answer

theorem mem_of_mem_pages {count : Nat} {answer : Nat → Arrangement key rows} {x : α}
    (listed : x ∈ pages size count answer) : x ∈ rows := by
  obtain ⟨k, _, here⟩ := List.mem_flatMap.mp listed
  exact (answer k).perm.mem_iff.mp (List.mem_of_mem_drop (List.mem_of_mem_take here))

/-- There is nothing else on the pages, so it is enough to count the rows. -/
theorem forall_count_eq_one_iff [DecidableEq α] (distinct : rows.Nodup) {count : Nat}
    {answer : Nat → Arrangement key rows} :
    (∀ row ∈ rows, (pages size count answer).count row = 1) ↔
      (pages size count answer).Perm rows := by
  constructor
  · intro once
    rw [List.perm_iff_count]
    intro x
    by_cases member : x ∈ rows
    · rw [once x member, List.count_eq_one_of_mem distinct member]
    · rw [List.count_eq_zero_of_not_mem member,
        List.count_eq_zero_of_not_mem fun listed => member (mem_of_mem_pages listed)]
  · intro perm row member
    rw [perm.count_eq, List.count_eq_one_of_mem distinct member]

end Pagination
