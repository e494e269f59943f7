import PlgBooster.Server.Sessions

/-!
# One active session per user

`start_session` decides on what it read some steps ago. Its insert keeps the table in
order exactly when the select of the existing active session, repeated at the commit,
would still find nothing. Over any schedule this is the exact condition for every
committed state to have at most one active session per user, and for the lookup of
the existing session never to raise.
-/

namespace PlgBooster.Server

open Transaction

/-- At most one active session per user. -/
def AtMostOneActive (db : SessionDb) : Prop :=
  ∀ userId, (db.activeSessions userId).length ≤ 1

/-- Every insert that the table accepts comes while its user has no active session. -/
def CheckStillHolds (world : World SessionDb Stage Outcome) : Event Stage → Prop
  | .submit _ => True
  | .advance i =>
      match world.tasks[i]? with
      | some ⟨_, .inl (.insert req game node backup)⟩ =>
          world.db.Accepts (newSession req game node backup) →
            world.db.activeSessions req.userId = []
      | _ => True

instance (world : World SessionDb Stage Outcome) (event : Event Stage) :
    Decidable (CheckStillHolds world event) := by
  unfold CheckStillHolds
  split
  · infer_instance
  · split <;> infer_instance

theorem activeSessions_insertSession (db : SessionDb) {row : Session}
    (active : row.status = "active") (userId : Uuid) :
    (db.insertSession row).activeSessions userId =
      if userId = row.userId then db.activeSessions userId ++ [row]
      else db.activeSessions userId := by
  by_cases same : userId = row.userId
  · subst same
    simp [SessionDb.insertSession, SessionDb.activeSessions, active]
  · simp [SessionDb.insertSession, SessionDb.activeSessions, same, Ne.symm same]

/-- Stopping a session at most takes it off the active ones. -/
theorem activeSessions_markStopped (db : SessionDb) (id : Uuid) (now : DateTime)
    (userId : Uuid) :
    (db.markStopped id now).activeSessions userId =
      (db.activeSessions userId).filter (·.id ≠ id) := by
  obtain ⟨users, nodes, gameProfiles, sessions⟩ := db
  simp only [SessionDb.markStopped, SessionDb.activeSessions]
  induction sessions with
  | nil => rfl
  | cons s sessions ih =>
      by_cases same : s.id = id
      · by_cases active : s.userId = userId ∧ s.status = "active" <;> simp_all
      · by_cases active : s.userId = userId ∧ s.status = "active" <;> simp_all

/-- All that one database step does to the sessions: an accepted insert, the update of
a stop, or nothing. -/
theorem serviceStep_cases (db : SessionDb) (stage : Stage) :
    ((serviceStep db stage).1 = db ∧ ∀ req game node backup,
      stage = .insert req game node backup → ¬ db.Accepts (newSession req game node backup)) ∨
    (∃ req game node backup, stage = .insert req game node backup ∧
      db.Accepts (newSession req game node backup) ∧
      serviceStep db stage = (db.insertSession (newSession req game node backup),
        .inr (.ok (newSession req game node backup)))) ∨
    ∃ req session, stage = .update req session ∧
      (serviceStep db stage).1 = db.markStopped session.id req.now := by
  cases stage with
  | selectGame req => exact .inl ⟨rfl, by simp⟩
  | selectNode req game => exact .inl ⟨rfl, by simp⟩
  | selectExisting req game node => exact .inl ⟨rfl, by simp⟩
  | selectBackupElsewhere req game node => exact .inl ⟨rfl, by simp⟩
  | selectBackupAny req game node => exact .inl ⟨rfl, by simp⟩
  | insert req game node backup =>
      by_cases accepted : db.Accepts (newSession req game node backup)
      · exact .inr (.inl ⟨req, game, node, backup, rfl, accepted,
          by simp [serviceStep, accepted]⟩)
      · refine .inl ⟨by simp [serviceStep, accepted], fun _ _ _ _ same => ?_⟩
        cases same
        exact accepted
  | selectSession req => exact .inl ⟨rfl, by simp⟩
  | update req session => exact .inr (.inr ⟨req, session, rfl, rfl⟩)

/-- One database step keeps the table in order exactly if it is no accepted insert, or
the user has no active session. -/
theorem atMostOneActive_serviceStep {db : SessionDb} (ordered : AtMostOneActive db)
    (stage : Stage) :
    AtMostOneActive (serviceStep db stage).1 ↔
      ∀ req game node backup, stage = .insert req game node backup →
        db.Accepts (newSession req game node backup) → db.activeSessions req.userId = [] := by
  rcases serviceStep_cases db stage with
    ⟨same, refused⟩ | ⟨req, game, node, backup, rfl, accepted, inserted⟩ |
      ⟨req, session, rfl, stopped⟩
  · rw [same]
    apply iff_of_true ordered
    intro req game node backup insert accepted
    exact absurd accepted (refused req game node backup insert)
  · rw [inserted]
    constructor
    · intro after req' game' node' backup' same _
      cases same
      have bound := after req.userId
      have grown : (db.insertSession (newSession req game node backup)).activeSessions
          req.userId = db.activeSessions req.userId ++ [_] :=
        (activeSessions_insertSession _ rfl _).trans (if_pos rfl)
      rw [grown, List.length_append] at bound
      exact List.length_eq_zero_iff.mp (Nat.le_zero.mp (Nat.le_of_succ_le_succ bound))
    · intro check userId
      rw [activeSessions_insertSession _ rfl]
      split_ifs with same
      · rw [same]
        change (db.activeSessions req.userId ++ [_]).length ≤ 1
        rw [check req game node backup rfl accepted]
        exact Nat.le_refl 1
      · exact ordered userId
  · rw [stopped]
    refine iff_of_true ?_ ?_
    · intro userId
      rw [activeSessions_markStopped]
      exact Nat.le_trans (List.length_filter_le _ _) (ordered userId)
    · intro _ _ _ _ insert
      cases insert

theorem checkStillHolds_iff {world : World SessionDb Stage Outcome} {i : Nat}
    {request stage : Stage} (found : world.tasks[i]? = some ⟨request, .inl stage⟩) :
    CheckStillHolds world (.advance i) ↔
      ∀ req game node backup, stage = .insert req game node backup →
        world.db.Accepts (newSession req game node backup) →
          world.db.activeSessions req.userId = [] := by
  cases stage with
  | insert req game node backup =>
      simp only [CheckStillHolds, found]
      refine ⟨fun check _ _ _ _ same => ?_, fun check => check req game node backup rfl⟩
      cases same
      exact check
  | _ => simp [CheckStillHolds, found]

/-- One step keeps the table in order exactly if its check still holds. -/
theorem atMostOneActive_step (world : World SessionDb Stage Outcome) (event : Event Stage)
    (ordered : AtMostOneActive world.db) :
    AtMostOneActive (sessionService.worldStep world event).1.db ↔
      CheckStillHolds world event := by
  cases event with
  | submit request => exact iff_of_true ordered trivial
  | advance i =>
      cases sessionService.advance world i with
      | idle nothing after =>
          rw [after]
          apply iff_of_true ordered
          simp only [CheckStillHolds]
          split
          next found => exact absurd found (nothing _ _)
          next => trivial
      | proceeds request stage db stage' found taken after =>
          have step : (serviceStep world.db stage).1 = db := congrArg Prod.fst taken
          rw [after, checkStillHolds_iff found, ← atMostOneActive_serviceStep ordered, step]
      | finishes request stage db outcome found taken after =>
          have step : (serviceStep world.db stage).1 = db := congrArg Prod.fst taken
          rw [after, checkStillHolds_iff found, ← atMostOneActive_serviceStep ordered, step]

/-- Over any schedule, all committed states have at most one active session per user, so
that the lookup never raises, if and only if every insert comes while the lookup of the
existing session, repeated, would find nothing. -/
theorem atMostOneActive_iff {db : SessionDb} (ordered : AtMostOneActive db)
    (schedule : List (Event Stage)) :
    (∀ n userId,
      let committed := (Machine.run sessionService.worldStep ⟨db, []⟩ (schedule.take n)).1.db
      (committed.activeSessions userId).length ≤ 1 ∧
        ∃ row, scalarOneOrNone (committed.activeSessions userId) = .ok row) ↔
      Machine.Legal CheckStillHolds sessionService.worldStep ⟨db, []⟩ schedule := by
  rw [Machine.legal_iff_invariant (fun _ => True) (fun _ _ _ _ => trivial)
    (fun world event _ => atMostOneActive_step world event) trivial ordered]
  refine forall_congr' fun n => forall_congr' fun userId => ?_
  simp only [scalarOneOrNone_eq_ok, and_self]

/-- One node, one game, two users and no session. -/
def emptyDb : SessionDb where
  users := [1, 2]
  nodes := [⟨10, "DE", "203.0.113.1", "active", 443, 8443⟩]
  gameProfiles := [⟨20, "cs2", ["155.133.232.0/23"], ["27015-27050"]⟩]
  sessions := []

def startOf (userId sessionId : Uuid) : Stage :=
  .selectGame ⟨userId, "cs2", 10, false, sessionId, 7, 0⟩

/-- Two starts of one user: both have checked before either inserts. -/
def doubleStart : List (Event Stage) :=
  [.submit (startOf 1 100), .submit (startOf 1 101), .advance 0, .advance 0, .advance 0,
    .advance 1, .advance 1, .advance 1, .advance 0, .advance 1]

theorem doubleStart_two_active :
    ¬ AtMostOneActive (Machine.run sessionService.worldStep ⟨emptyDb, []⟩ doubleStart).1.db :=
  fun ordered => absurd (ordered 1) (by decide)

/-- One user starts, stops and starts again, while another one starts. -/
def startStopStart : List (Event Stage) :=
  [.submit (startOf 1 100), .submit (startOf 2 101), .advance 0, .advance 1, .advance 0,
    .advance 1, .advance 0, .advance 1, .advance 0, .advance 1,
    .submit (.selectSession ⟨100, 1, 5⟩), .advance 2, .submit (startOf 1 102), .advance 3,
    .advance 2, .advance 3, .advance 3, .advance 3]

theorem atMostOneActive_iff_startStopStart :
    (Machine.run sessionService.worldStep ⟨emptyDb, []⟩ startStopStart).1.db.sessions.length = 3 ∧
      ∀ n userId,
        let committed :=
          (Machine.run sessionService.worldStep ⟨emptyDb, []⟩ (startStopStart.take n)).1.db
        (committed.activeSessions userId).length ≤ 1 ∧
          ∃ row, scalarOneOrNone (committed.activeSessions userId) = .ok row := by
  have ordered : AtMostOneActive emptyDb := fun _ => Nat.zero_le 1
  exact ⟨by decide, (atMostOneActive_iff ordered startStopStart).mpr (by decide)⟩

end PlgBooster.Server
