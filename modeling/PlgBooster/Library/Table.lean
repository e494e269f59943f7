import Mathlib.Data.List.Basic

/-!
# Tables with a key column

A table is the list of its rows. `select` and `update` address the rows by a key. They
commute as long as the update keeps the keys, whether or not the keys are distinct.
-/

namespace Table

variable {α β κ : Type*} [DecidableEq κ] (key : α → κ)

/-- The rows with a key. -/
def select (id : κ) (rows : List α) : List α := rows.filter fun row => key row = id

/-- Rewrite the rows with a key. -/
def update (id : κ) (f : α → α) (rows : List α) : List α :=
  rows.map fun row => if key row = id then f row else row

variable {key}

theorem mem_select {id : κ} {rows : List α} {row : α} :
    row ∈ select key id rows ↔ row ∈ rows ∧ key row = id := by
  simp [select]

theorem of_select_eq_singleton {id : κ} {rows : List α} {row : α}
    (only : select key id rows = [row]) : row ∈ rows ∧ key row = id :=
  mem_select.mp (only ▸ List.mem_singleton_self row)

/-- A row is the only one with its key where the keys are distinct. -/
theorem select_of_nodup {rows : List α} {row : α} (distinct : (rows.map key).Nodup)
    (member : row ∈ rows) : select key (key row) rows = [row] := by
  induction rows with
  | nil => cases member
  | cons first rows ih =>
      obtain ⟨new, distinct⟩ := List.nodup_cons.mp distinct
      have others {id : κ} (absent : id ∉ rows.map key) : select key id rows = [] := by
        refine List.filter_eq_nil_iff.mpr fun other inTable => ?_
        simp only [decide_eq_true_eq]
        rintro rfl
        exact absent (List.mem_map_of_mem inTable)
      rcases List.mem_cons.mp member with rfl | later
      · have rest := others new
        simp only [select] at rest
        simp [select, rest]
      · have other : key first ≠ key row := fun same =>
          new (same ▸ List.mem_map_of_mem later)
        have rest := ih distinct later
        simp only [select] at rest ⊢
        simp [other, rest]

/-- A row with a new key keeps the keys distinct. -/
theorem nodup_map_append {γ : Type*} {view : α → γ} {rows : List α} {row : α}
    (distinct : (rows.map view).Nodup) (fresh : ∀ old ∈ rows, view old ≠ view row) :
    ((rows ++ [row]).map view).Nodup := by
  rw [List.map_append, List.map_singleton]
  refine List.nodup_append.mpr ⟨distinct, by simp, ?_⟩
  intro value there other single same
  obtain ⟨old, inTable, rfl⟩ := List.mem_map.mp there
  exact fresh old inTable (same.trans (List.mem_singleton.mp single))

theorem select_append (id : κ) (rows rows' : List α) :
    select key id (rows ++ rows') = select key id rows ++ select key id rows' :=
  List.filter_append ..

theorem select_select (id : κ) (rows : List α) :
    select key id (select key id rows) = select key id rows := by
  simp [select]

/-- An update of rows that are not there changes nothing. -/
theorem update_of_absent {id : κ} {f : α → α} {rows : List α}
    (absent : ∀ row ∈ rows, key row ≠ id) : update key id f rows = rows := by
  conv_rhs => rw [← List.map_id rows]
  exact List.map_congr_left fun row inTable => if_neg (absent row inTable)

theorem mem_update {id : κ} {f : α → α} {rows : List α} {new : α} :
    new ∈ update key id f rows ↔
      (∃ row ∈ rows, key row = id ∧ f row = new) ∨ new ∈ rows ∧ key new ≠ id := by
  constructor
  · intro member
    obtain ⟨row, inTable, rfl⟩ := List.mem_map.mp member
    by_cases same : key row = id
    · rw [if_pos same]
      exact .inl ⟨row, inTable, same, rfl⟩
    · rw [if_neg same]
      exact .inr ⟨inTable, same⟩
  · rintro (⟨row, inTable, same, rfl⟩ | ⟨inTable, other⟩)
    · exact List.mem_map.mpr ⟨row, inTable, if_pos same⟩
    · exact List.mem_map.mpr ⟨new, inTable, if_neg other⟩

/-- A row stays as it is or is changed as the update says. -/
theorem exists_mem_update {r : α → α → Prop} {id : κ} {f : α → α} (same : ∀ row, r row row)
    (changed : ∀ row, key row = id → r row (f row)) {rows : List α} {row : α}
    (member : row ∈ rows) : ∃ new ∈ update key id f rows, r row new := by
  by_cases here : key row = id
  · exact ⟨f row, mem_update.mpr (.inl ⟨row, member, here, rfl⟩), changed row here⟩
  · exact ⟨row, mem_update.mpr (.inr ⟨member, here⟩), same row⟩

/-- What an update keeps in each row it keeps in the table. -/
theorem map_update {view : α → β} {f : α → α} (keeps : ∀ row, view (f row) = view row) (id : κ)
    (rows : List α) : (update key id f rows).map view = rows.map view := by
  rw [update, List.map_map]
  refine List.map_congr_left fun row _ => ?_
  simp only [Function.comp_apply]
  split_ifs
  · exact keeps row
  · rfl

/-- An update by one key keeps what is selected by another, if it keeps that key. -/
theorem select_update_of_keeps {ι : Type*} [DecidableEq ι] {other : α → ι} {f : α → α}
    (keeps : ∀ row, other (f row) = other row) (i : ι) (id : κ) (rows : List α) :
    select other i (update key id f rows) = update key id f (select other i rows) := by
  have same (row : α) : other (if key row = id then f row else row) = other row := by
    split_ifs
    · exact keeps row
    · rfl
  rw [select, update, List.filter_map]
  simp only [Function.comp_def, same]
  rfl

theorem select_update {f : α → α} (keeps : ∀ row, key (f row) = key row) (id id' : κ)
    (rows : List α) :
    select key id' (update key id f rows) =
      if id' = id then (select key id rows).map f else select key id' rows := by
  induction rows with
  | nil => simp [select, update]
  | cons row rows ih =>
      simp only [select, update, List.map_cons, List.filter_cons] at ih ⊢
      rw [ih]
      by_cases here : key row = id
      · by_cases same : id' = id
        · simp [here, keeps, same]
        · simp [here, keeps, same, Ne.symm same]
      · by_cases same : id' = id
        · simp [here, same]
        · simp [here, same]

end Table
