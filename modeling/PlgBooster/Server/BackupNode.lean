import PlgBooster.Server.Sessions

/-!
# The choice of a backup node

`find_backup_node` reads the result of each of its two selects as at most one row. A second
row is an error, and not a second candidate.
-/

namespace PlgBooster.Server

section

variable (db : SessionDb) (primary : Node)

/-- The other active nodes at a different location. -/
def elsewhereNodes : List Node :=
  db.nodes.filter fun n =>
    n.id ≠ primary.id ∧ n.status = "active" ∧ n.location ≠ primary.location

/-- The other active nodes. -/
def otherNodes : List Node :=
  db.nodes.filter fun n => n.id ≠ primary.id ∧ n.status = "active"

variable {db primary} in
theorem mem_otherNodes {n : Node} :
    n ∈ otherNodes db primary ↔ n ∈ db.nodes ∧ n.id ≠ primary.id ∧ n.status = "active" := by
  simp [otherNodes]

variable {db primary} in
theorem mem_elsewhereNodes {n : Node} :
    n ∈ elsewhereNodes db primary ↔
      n ∈ otherNodes db primary ∧ n.location ≠ primary.location := by
  simp [elsewhereNodes, otherNodes, and_assoc]

/-- What the search comes to, by the rows of its first select. -/
theorem findBackupNode_cases :
    (2 ≤ (elsewhereNodes db primary).length ∧
      findBackupNode db primary = .error .multipleResultsFound) ∨
    (∃ backup, elsewhereNodes db primary = [backup] ∧
      findBackupNode db primary = .ok (some backup)) ∨
    (elsewhereNodes db primary = [] ∧
      findBackupNode db primary = scalarOneOrNone (otherNodes db primary)) := by
  unfold findBackupNode
  rw [← elsewhereNodes, ← otherNodes]
  cases rows : elsewhereNodes db primary with
  | nil => exact .inr (.inr ⟨rfl, rfl⟩)
  | cons backup rest =>
      cases rest with
      | nil => exact .inr (.inl ⟨backup, rfl, rfl⟩)
      | cons second rest => exact .inl ⟨by simp, rfl⟩

/-- At most one other active node is elsewhere, and if none is, then at most one other node
is active at all. -/
def FewCandidates : Prop :=
  (elsewhereNodes db primary).length ≤ 1 ∧
    (elsewhereNodes db primary = [] → (otherNodes db primary).length ≤ 1)

instance : Decidable (FewCandidates db primary) :=
  inferInstanceAs (Decidable (_ ∧ _))

theorem findBackupNode_returns_iff :
    (∃ answer, findBackupNode db primary = .ok answer) ↔ FewCandidates db primary := by
  unfold FewCandidates
  rcases findBackupNode_cases db primary with
    ⟨many, raised⟩ | ⟨backup, only, found⟩ | ⟨nowhere, search⟩
  · rw [raised]
    constructor
    · rintro ⟨answer, returned⟩
      cases returned
    · rintro ⟨few, _⟩
      omega
  · rw [only]
    exact ⟨fun _ => ⟨Nat.le_refl 1, fun empty => absurd empty (List.cons_ne_nil _ _)⟩,
      fun _ => ⟨some backup, found⟩⟩
  · rw [search, nowhere, scalarOneOrNone_eq_ok]
    exact ⟨fun few => ⟨Nat.zero_le 1, fun _ => few⟩, fun few => few.2 rfl⟩

/-- The only way not to return. -/
theorem findBackupNode_of_many (many : ¬ FewCandidates db primary) :
    findBackupNode db primary = .error .multipleResultsFound := by
  rw [← findBackupNode_returns_iff] at many
  rcases findBackupNode_cases db primary with
    ⟨_, raised⟩ | ⟨backup, _, found⟩ | ⟨_, search⟩
  · exact raised
  · exact absurd ⟨some backup, found⟩ many
  · rw [search, scalarOneOrNone_eq_ok] at many
    rw [search]
    exact scalarOneOrNone_of_many many

variable {db primary}

/-- A node that the search returns may serve as a backup, and it is elsewhere if there is
such a node. -/
theorem otherNode_of_findBackupNode {backup : Node}
    (found : findBackupNode db primary = .ok (some backup)) :
    backup ∈ otherNodes db primary ∧
      ((∃ n ∈ otherNodes db primary, n.location ≠ primary.location) →
        backup.location ≠ primary.location) := by
  rcases findBackupNode_cases db primary with
    ⟨_, raised⟩ | ⟨only, rows, returned⟩ | ⟨nowhere, search⟩
  · rw [raised] at found
    cases found
  · rw [returned] at found
    cases found
    have elsewhere : backup ∈ elsewhereNodes db primary := by
      rw [rows]
      exact List.mem_singleton_self backup
    obtain ⟨other, away⟩ := mem_elsewhereNodes.mp elsewhere
    exact ⟨other, fun _ => away⟩
  · rw [search, scalarOneOrNone_eq_some] at found
    refine ⟨by rw [found]; exact List.mem_singleton_self backup, ?_⟩
    rintro ⟨n, other, away⟩
    have elsewhere := mem_elsewhereNodes.mpr ⟨other, away⟩
    rw [nowhere] at elsewhere
    cases elsewhere

/-- The search returns no node only if no other node is active. -/
theorem otherNodes_eq_nil_of_findBackupNode
    (found : findBackupNode db primary = .ok none) : otherNodes db primary = [] := by
  rcases findBackupNode_cases db primary with
    ⟨_, raised⟩ | ⟨only, _, returned⟩ | ⟨_, search⟩
  · rw [raised] at found
    cases found
  · rw [returned] at found
    cases found
  · rw [search] at found
    exact scalarOneOrNone_eq_none.mp found

end

/-- The search returns: a node that may serve as a backup, elsewhere if there is such a
node, or none if no other node is active. -/
def ChoosesBackup (db : SessionDb) (primary : Node) : Prop :=
  ∃ answer, findBackupNode db primary = .ok answer ∧
    (∀ backup ∈ answer,
      (backup ∈ db.nodes ∧ backup.id ≠ primary.id ∧ backup.status = "active") ∧
      ((∃ n ∈ db.nodes, (n.id ≠ primary.id ∧ n.status = "active") ∧
          n.location ≠ primary.location) →
        backup.location ≠ primary.location)) ∧
    (answer = none → ¬ ∃ n ∈ db.nodes, n.id ≠ primary.id ∧ n.status = "active")

theorem choosesBackup_iff (db : SessionDb) (primary : Node) :
    ChoosesBackup db primary ↔ FewCandidates db primary := by
  rw [← findBackupNode_returns_iff]
  constructor
  · rintro ⟨answer, returned, _⟩
    exact ⟨answer, returned⟩
  · rintro ⟨answer, returned⟩
    refine ⟨answer, returned, ?_, ?_⟩
    · rintro backup ⟨⟩
      obtain ⟨other, away⟩ := otherNode_of_findBackupNode returned
      refine ⟨mem_otherNodes.mp other, ?_⟩
      rintro ⟨n, listed, active, elsewhere⟩
      exact away ⟨n, mem_otherNodes.mpr ⟨listed, active⟩, elsewhere⟩
    · rintro rfl ⟨n, listed, active⟩
      have other := mem_otherNodes.mpr ⟨listed, active⟩
      rw [otherNodes_eq_nil_of_findBackupNode returned] at other
      cases other

/-- The nodes that the migrations put into an empty database. -/
def seedNodes : List Node :=
  [⟨1, "DE", "0.0.0.0", "active", 443, 8443⟩, ⟨2, "SE", "0.0.0.0", "active", 443, 8443⟩,
    ⟨3, "US", "0.0.0.0", "active", 443, 8443⟩, ⟨4, "LV", "0.0.0.0", "active", 443, 8443⟩]

/-- With the first of them as the primary node. -/
theorem seedNodes_raises :
    ¬ ChoosesBackup ⟨[], seedNodes, [], []⟩ ⟨1, "DE", "0.0.0.0", "active", 443, 8443⟩ := by
  rintro ⟨answer, returned, _⟩
  rw [findBackupNode_of_many _ _ (by decide)] at returned
  cases returned

end PlgBooster.Server
