import PlgBooster.System.Fleet

/-!
# Sessions that collide on a relay

A relay knows a session by its token alone, and `generate_session_token` draws tokens at
random. Nothing compares a new token with those of the active sessions, so whether the
sessions of two users stay apart is up to what is drawn.
-/

namespace PlgBooster.System

open Server Relay Transaction

/-- Two sessions that use the same node. -/
def ShareNode (session other : Server.Session) : Prop :=
  ∃ nodeId, Uses session nodeId ∧ Uses other nodeId

/-- Active sessions that share a node have different tokens. -/
def Separate (db : SessionDb) : Prop :=
  ∀ session other, Active db session → Active db other → session.id ≠ other.id →
    ShareNode session other → session.sessionToken ≠ other.sessionToken

/-- A start that is accepted draws a token that no active session on its nodes has. -/
def DrawsSeparate (s : Fleet) : Call → Prop
  | .startSession req _ => ∀ game node backup, Starts s.db req game node backup →
      ∀ session, Active s.db session → ShareNode session (newSession req game node backup) →
        session.sessionToken ≠ req.sessionToken
  | _ => True

/-- The user a call is for; none is the administrator. -/
def Call.userId : Call → Option Uuid
  | .startSession req _ => some req.userId
  | .stopSession req _ => some req.userId
  | .adminStopSession _ _ => none

/-- A call leaves the active sessions of other users as they are on the relays of their nodes. -/
def LeavesOthers (s : Fleet) (call : Call) : Prop :=
  ∀ session, Active s.db session → call.userId ≠ some session.userId →
    ∀ node ∈ s.db.nodes, Uses session node.id →
      ∀ token, u32OfInt session.sessionToken = some token →
        ((s.step call).1.relays (apiAddress node)).cache.get token =
          (s.relays (apiAddress node)).cache.get token

/-- The keys are unique. -/
structure Keyed (db : SessionDb) : Prop where
  sessionIds : (db.sessions.map (·.id)).Nodup
  ownRelay : OwnRelay db

theorem ShareNode.symm {session other : Server.Session} (share : ShareNode session other) :
    ShareNode other session :=
  share.imp fun _ both => both.symm

theorem Keyed.markStopped {db : SessionDb} (keyed : Keyed db) (id : Uuid) (now : DateTime) :
    Keyed (db.markStopped id now) := by
  refine ⟨?_, keyed.ownRelay⟩
  rw [map_markStopped fun _ => rfl]
  exact keyed.sessionIds

theorem keyed_step {s : Fleet} (keyed : Keyed s.db) (call : Call) : Keyed (s.step call).1.db := by
  cases s.served call with
  | startFails req reply fails after => exact after ▸ keyed
  | starts req reply game node backup gameServerIps gamePorts starts after =>
      rw [after]
      exact ⟨nodup_insertSession keyed.sessionIds starts.accepted.1, keyed.ownRelay⟩
  | stopFails req reached after => exact after ▸ keyed
  | stops req reached session active owner after =>
      rw [after]
      exact keyed.markStopped session.id req.now
  | adminFails sessionId now after fails => exact after ▸ keyed
  | adminStops now session active after =>
      rw [after]
      exact keyed.markStopped session.id now

theorem Separate.markStopped {db : SessionDb} (separate : Separate db) (id : Uuid)
    (now : DateTime) : Separate (db.markStopped id now) :=
  fun session other active active' =>
    separate session other ((active_markStopped session).mp active).1
      ((active_markStopped other).mp active').1

/-- A new session keeps the sessions apart exactly if its token is new on its nodes. -/
theorem separate_insertSession_iff {db : SessionDb} (separate : Separate db)
    {row : Server.Session} (active : row.status = "active") (accepted : db.Accepts row) :
    Separate (db.insertSession row) ↔
      ∀ session, Active db session → ShareNode session row →
        session.sessionToken ≠ row.sessionToken := by
  have here (r : Server.Session) : Active (db.insertSession row) r ↔ Active db r ∨ r = row :=
    active_insertSession active r
  constructor
  · intro after session active' share
    exact after session row ((here session).mpr (.inl active')) ((here row).mpr (.inr rfl))
      (accepted.1 session active'.1) share
  · intro new session other active' active'' different share
    rcases (here session).mp active' with old | rfl
    · rcases (here other).mp active'' with old' | rfl
      · exact separate session other old old' different share
      · exact new session old share
    · rcases (here other).mp active'' with old' | rfl
      · exact (new other old' share.symm).symm
      · exact absurd rfl different

/-- One call keeps the sessions apart exactly if the token it draws does. -/
theorem separate_step_iff {s : Fleet} (separate : Separate s.db) (call : Call) :
    Separate (s.step call).1.db ↔ DrawsSeparate s call := by
  cases s.served call with
  | startFails req reply fails after =>
      apply iff_of_true (after ▸ separate)
      intro game node backup starts
      exact absurd starts (fails game node backup)
  | starts req reply game node backup gameServerIps gamePorts starts after =>
      rw [after]
      apply (separate_insertSession_iff separate rfl starts.accepted).trans
      constructor
      · intro new game' node' backup' starts'
        obtain ⟨rfl, rfl, rfl⟩ := starts.unique starts'
        exact new
      · intro draws
        exact draws game node backup starts
  | stopFails req reached after => exact iff_of_true (after ▸ separate) trivial
  | stops req reached session active owner after =>
      rw [after]
      exact iff_of_true (separate.markStopped session.id req.now) trivial
  | adminFails sessionId now after fails => exact iff_of_true (after ▸ separate) trivial
  | adminStops now session active after =>
      rw [after]
      exact iff_of_true (separate.markStopped session.id now) trivial

/-- While the sessions are apart, no call touches another user's session. -/
theorem leavesOthers {s : Fleet} (keyed : Keyed s.db) (separate : Separate s.db) {call : Call}
    (draws : DrawsSeparate s call) : LeavesOthers s call := by
  intro session active notOwn node member uses token read
  cases s.served call with
  | startFails req reply fails after => rw [after]
  | starts req reply game primary backup gameServerIps gamePorts starts after =>
      rw [after]
      refine get_registerAll keyed.ownRelay member (fun uses' read' => ?_) _ _ _ _
      exact draws game primary backup starts session active ⟨node.id, uses, uses'⟩
        (u32OfInt_inj read read')
  | stopFails req reached after => rw [after]
  | stops req reached stopped active' owner after =>
      rw [after]
      refine get_unregisterAll keyed.ownRelay member (fun uses' read' => ?_) _ _
      have different : session.id ≠ stopped.id := by
        intro same
        obtain rfl := List.inj_on_of_nodup_map keyed.sessionIds active.1 active'.1 same
        exact notOwn (congrArg some owner.symm)
      exact separate session stopped active active' different ⟨node.id, uses, uses'⟩
        (u32OfInt_inj read read')
  | adminFails sessionId now after fails => rw [after]
  | adminStops now stopped active' after => rw [after]

/-- In every run, active sessions that share a node have different tokens at all times, and no
call touches another user's session on a relay, if and only if every start that is accepted
draws a token that no active session on its nodes has. -/
theorem separate_always_iff {s : Fleet} (keyed : Keyed s.db) (separate : Separate s.db)
    (calls : List Call) :
    ((∀ n, Separate (Machine.run Fleet.step s (calls.take n)).1.db) ∧
      Machine.Legal LeavesOthers Fleet.step s calls) ↔
      Machine.Legal DrawsSeparate Fleet.step s calls := by
  have exactly := Machine.legal_iff_invariant (fun s : Fleet => Keyed s.db)
    (fun s call keyed (_ : Separate s.db) => keyed_step keyed call)
    (fun s call _ separate => separate_step_iff separate call) keyed separate calls
  rw [← exactly]
  refine and_iff_left_of_imp fun draws => ?_
  have apart : Machine.Legal (fun s call => (Keyed s.db ∧ Separate s.db) ∧ DrawsSeparate s call)
      Fleet.step s calls :=
    Machine.legal_and_invariant (fun s : Fleet => Keyed s.db ∧ Separate s.db)
      (fun s call both draws => ⟨keyed_step both.1 call, (separate_step_iff both.2 call).mpr draws⟩)
      ⟨keyed, separate⟩ draws
  exact apart.mono fun s call here => leavesOthers here.1.1 here.1.2 here.2

/-- One node and its relay, and two users without a session. -/
def twoUsers : Fleet where
  db :=
    { users := [1, 2]
      nodes := [⟨5, "DE", "10.0.0.1", "active", 443, 8443⟩]
      gameProfiles := [⟨3, "cs2", ["155.133.232.1"], ["27015"]⟩]
      sessions := [] }
  relays := fun _ => Relay.start 1000 300

/-- A user starts a session, and the generator draws a token. -/
def drawsToken (userId sessionId : Uuid) (sessionToken : Int) (port : UInt16) : Call :=
  .startSession ⟨userId, "cs2", 5, false, sessionId, sessionToken, 0⟩ fun _ =>
    some (.bound port, 0)

theorem twoUsers_keyed : Keyed twoUsers.db := ⟨by decide, by simp [OwnRelay, twoUsers]⟩

theorem twoUsers_separate : Separate twoUsers.db := by
  rintro session other ⟨inTable, _⟩
  cases inTable

/-- Both users draw the same token. When the second one stops, the first one's session is gone
from the relay, although it is still active. -/
theorem same_token_removed :
    let calls := [drawsToken 1 100 7 40000, drawsToken 2 101 7 40001,
      .stopSession ⟨101, 2, 1⟩ fun _ => true]
    let final := (Machine.run Fleet.step twoUsers calls).1
    (∃ session, Active final.db session ∧ session.userId = 1 ∧ session.sessionToken = 7) ∧
      (final.relays ("10.0.0.1", 8443)).cache.get 7 = none ∧
      ¬ ∀ n, Separate (Machine.run Fleet.step twoUsers (calls.take n)).1.db := by
  intro calls final
  refine ⟨⟨⟨100, 1, 5, 3, 7, "active", some 0, none, none, false⟩, by decide, by decide⟩,
    by decide, fun always => ?_⟩
  exact always 2 ⟨100, 1, 5, 3, 7, "active", some 0, none, none, false⟩
    ⟨101, 2, 5, 3, 7, "active", some 0, none, none, false⟩ (by decide) (by decide) (by decide)
    ⟨5, by decide⟩ rfl

/-- The users draw different tokens. -/
theorem separate_always_twoTokens :
    let calls := [drawsToken 1 100 7 40000, drawsToken 2 101 8 40001,
      .stopSession ⟨101, 2, 1⟩ fun _ => true]
    ((∀ n, Separate (Machine.run Fleet.step twoUsers (calls.take n)).1.db) ∧
      Machine.Legal LeavesOthers Fleet.step twoUsers calls) ↔
      Machine.Legal DrawsSeparate Fleet.step twoUsers calls :=
  separate_always_iff twoUsers_keyed twoUsers_separate _

end PlgBooster.System
