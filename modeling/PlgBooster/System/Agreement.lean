import PlgBooster.System.Fleet

/-!
# The relays and the sessions table in step

While every call to a relay succeeds, a start and a user's stop keep the relays in step with
the active rows. A stop by the administrator takes the row off the active ones and tells no
relay, so the session's nodes go on forwarding for it.
-/

namespace PlgBooster.System

open Server Relay Transaction

/-- The keys and tokens are unique, and every session has its node. -/
structure Consistent (db : SessionDb) : Prop where
  sessionIds : (db.sessions.map (·.id)).Nodup
  tokens : (db.sessions.map (·.sessionToken)).Nodup
  primary : ∀ row ∈ db.sessions, ∃ node ∈ db.nodes, node.id = row.nodeId
  ownRelay : OwnRelay db

/-- For every node, its relay has sessions for the tokens of the active rows with that node. -/
def InStep (s : Fleet) : Prop :=
  ∀ node ∈ s.db.nodes, ∀ sessionToken, Registered s node sessionToken ↔
    ∃ row, Active s.db row ∧ Uses row node.id ∧ row.sessionToken = sessionToken

/-- A new session draws a new token. -/
def DrawsNew (s : Fleet) : Call → Prop
  | .startSession req _ => ∀ row ∈ s.db.sessions, row.sessionToken ≠ req.sessionToken
  | _ => True

/-- The calls to the relays succeed, and tokens are distinct. -/
structure Proceeds (s : Fleet) (call : Call) : Prop where
  succeeds : ∀ result ∈ (s.step call).2, result = true
  fresh : DrawsNew s call

/-- The administrator stops no active session. -/
def NoAdminStop (s : Fleet) : Call → Prop
  | .adminStopSession sessionId _ =>
      ∀ row ∈ s.db.sessions, row.status = "active" → row.id ≠ sessionId
  | _ => True

instance (s : Fleet) (call : Call) : Decidable (Proceeds s call) :=
  have : Decidable (DrawsNew s call) := by
    unfold DrawsNew
    split <;> infer_instance
  decidable_of_iff ((∀ result ∈ (s.step call).2, result = true) ∧ DrawsNew s call)
    ⟨fun ⟨succeeds, fresh⟩ => ⟨succeeds, fresh⟩, fun ⟨succeeds, fresh⟩ => ⟨succeeds, fresh⟩⟩

instance (s : Fleet) (call : Call) : Decidable (NoAdminStop s call) := by
  unfold NoAdminStop
  split <;> infer_instance

theorem Consistent.markStopped {db : SessionDb} (consistent : Consistent db) (id : Uuid)
    (now : DateTime) : Consistent (db.markStopped id now) := by
  refine ⟨?_, ?_, ?_, consistent.ownRelay⟩
  · rw [map_markStopped fun _ => rfl]
    exact consistent.sessionIds
  · rw [map_markStopped fun _ => rfl]
    exact consistent.tokens
  · intro row member
    have listed : row.nodeId ∈ (db.markStopped id now).sessions.map (·.nodeId) :=
      List.mem_map_of_mem member
    rw [map_markStopped fun _ => rfl] at listed
    obtain ⟨old, inTable, same⟩ := List.mem_map.mp listed
    exact same ▸ consistent.primary old inTable

theorem Consistent.insertSession {db : SessionDb} (consistent : Consistent db)
    {row : Server.Session} (accepted : db.Accepts row)
    (fresh : ∀ old ∈ db.sessions, old.sessionToken ≠ row.sessionToken) :
    Consistent (db.insertSession row) := by
  refine ⟨nodup_insertSession consistent.sessionIds accepted.1,
    nodup_insertSession consistent.tokens fresh, ?_, consistent.ownRelay⟩
  intro r member
  rcases List.mem_append.mp member with old | new
  · exact consistent.primary r old
  · obtain rfl := List.mem_singleton.mp new
    exact accepted.2.2.1

theorem consistent_step {s : Fleet} {call : Call} (consistent : Consistent s.db)
    (proceeds : Proceeds s call) : Consistent (s.step call).1.db := by
  cases s.served call with
  | startFails req reply fails after => exact after ▸ consistent
  | starts req reply game node backup gameServerIps gamePorts starts after =>
      rw [after]
      exact consistent.insertSession starts.accepted proceeds.fresh
  | stopFails req reached after => exact after ▸ consistent
  | stops req reached session active owner after =>
      rw [after]
      exact consistent.markStopped session.id req.now
  | adminFails sessionId now after fails => exact after ▸ consistent
  | adminStops now session active after =>
      rw [after]
      exact consistent.markStopped session.id now

section Step

variable {s : Fleet} (consistent : Consistent s.db) (inStep : InStep s)
include consistent inStep

/-- A start whose calls succeed keeps the relays in step. -/
theorem inStep_registerAll {row : Server.Session} (active : row.status = "active")
    {gameServerIps gamePorts : List String} {reply : Uuid → Reply}
    (ok : ∀ result ∈ (registerAll s.relays row gameServerIps gamePorts reply
      (nodesOf s.db row)).2, result = true) :
    InStep ⟨s.db.insertSession row,
      (registerAll s.relays row gameServerIps gamePorts reply (nodesOf s.db row)).1⟩ := by
  intro node member sessionToken
  have inTable : node ∈ s.db.nodes := member
  simp only [active_insertSession active]
  by_cases new : Uses row node.id ∧ row.sessionToken = sessionToken
  · refine iff_of_true ?_ ⟨row, .inr rfl, new⟩
    obtain ⟨uses, rfl⟩ := new
    exact callAll_establishes (P := fun relay => ∃ token, u32OfInt row.sessionToken = some token ∧
        (relay.cache.get token).isSome)
      (fun relays node _ elsewhere =>
        registerSessionOnRelay_elsewhere relays node _ _ _ _ elsewhere)
      (fun relays node done => isSome_registerSessionOnRelay relays node _ _ _ _ done) ok node
      (mem_nodesOf.mpr ⟨inTable, uses⟩)
  · have same : Registered ⟨s.db.insertSession row,
        (registerAll s.relays row gameServerIps gamePorts reply (nodesOf s.db row)).1⟩ node
          sessionToken ↔ Registered s node sessionToken := by
      refine exists_congr fun token => and_congr_right fun read => ?_
      rw [get_registerAll consistent.ownRelay inTable fun uses read' =>
        new ⟨uses, u32OfInt_inj read' read⟩]
    rw [same, inStep node inTable sessionToken]
    refine exists_congr fun r => ⟨fun ⟨here, rest⟩ => ⟨.inl here, rest⟩, ?_⟩
    rintro ⟨here | rfl, rest⟩
    · exact ⟨here, rest⟩
    · exact absurd rest new

/-- A stop whose calls succeed keeps the relays in step. -/
theorem inStep_unregisterAll {session : Server.Session} (active : Active s.db session)
    {reached : Uuid → Bool} (now : DateTime)
    (ok : ∀ result ∈ (unregisterAll s.relays session reached (nodesOf s.db session)).2,
      result = true) :
    InStep ⟨s.db.markStopped session.id now,
      (unregisterAll s.relays session reached (nodesOf s.db session)).1⟩ := by
  intro node member sessionToken
  have inTable : node ∈ s.db.nodes := member
  simp only [active_markStopped]
  by_cases gone : Uses session node.id ∧ session.sessionToken = sessionToken
  · obtain ⟨uses, rfl⟩ := gone
    refine iff_of_false ?_ ?_
    · rintro ⟨token, read, live⟩
      have none' := callAll_establishes (P := fun relay => relay.cache.get token = none)
        (fun relays node _ elsewhere =>
          unregisterSessionOnRelay_elsewhere relays node _ _ elsewhere)
        (fun relays node done => get_unregisterSessionOnRelay_self relays node _ _ done read) ok
        node (mem_nodesOf.mpr ⟨inTable, uses⟩)
      exact absurd (none' ▸ live) (by simp)
    · rintro ⟨row, ⟨here, other⟩, _, same⟩
      exact other (congrArg _ (List.inj_on_of_nodup_map consistent.tokens here.1 active.1 same))
  · have same : Registered ⟨s.db.markStopped session.id now,
        (unregisterAll s.relays session reached (nodesOf s.db session)).1⟩ node sessionToken ↔
          Registered s node sessionToken := by
      refine exists_congr fun token => and_congr_right fun read => ?_
      rw [get_unregisterAll consistent.ownRelay inTable fun uses read' =>
        gone ⟨uses, u32OfInt_inj read' read⟩]
    rw [same, inStep node inTable sessionToken]
    refine exists_congr fun row => ⟨fun ⟨here, rest⟩ => ⟨⟨here, fun id => ?_⟩, rest⟩, ?_⟩
    · obtain rfl := List.inj_on_of_nodup_map consistent.sessionIds here.1 active.1 id
      exact gone rest
    · rintro ⟨⟨here, _⟩, rest⟩
      exact ⟨here, rest⟩

/-- A row that is stopped without a word to its relays leaves them ahead of the table. -/
theorem not_inStep_markStopped {session : Server.Session} (active : Active s.db session)
    (now : DateTime) : ¬ InStep ⟨s.db.markStopped session.id now, s.relays⟩ := by
  intro after
  obtain ⟨node, member, primary⟩ := consistent.primary session active.1
  have uses : Uses session node.id := .inl primary.symm
  have before := (inStep node member session.sessionToken).mpr ⟨session, active, uses, rfl⟩
  obtain ⟨row, here, _, same⟩ := (after node member session.sessionToken).mp before
  obtain ⟨here, other⟩ := (active_markStopped row).mp here
  exact other (congrArg _ (List.inj_on_of_nodup_map consistent.tokens here.1 active.1 same))

/-- One call keeps the relays in step exactly if it is no stop by the administrator. -/
theorem inStep_step_iff {call : Call} (proceeds : Proceeds s call) :
    InStep (s.step call).1 ↔ NoAdminStop s call := by
  have ok := proceeds.succeeds
  cases s.served call with
  | startFails req reply fails after => exact iff_of_true (after ▸ inStep) trivial
  | starts req reply game node backup gameServerIps gamePorts starts after =>
      rw [after] at ok ⊢
      exact iff_of_true (inStep_registerAll consistent inStep rfl ok) trivial
  | stopFails req reached after => exact iff_of_true (after ▸ inStep) trivial
  | stops req reached session active owner after =>
      rw [after] at ok ⊢
      exact iff_of_true (inStep_unregisterAll consistent inStep active req.now ok) trivial
  | adminFails sessionId now after fails =>
      apply iff_of_true (after ▸ inStep)
      rintro row member active rfl
      exact fails row (Table.select_of_nodup consistent.sessionIds member) active
  | adminStops now session active after =>
      rw [after]
      exact iff_of_false (not_inStep_markStopped consistent inStep active now)
        fun none' => none' session active.1 active.2 rfl

end Step

/-- In every run whose calls to the relays succeed and whose tokens are distinct, the relays
agree with the table after every call if and only if the administrator never stops an
active session. -/
theorem inStep_always_iff {s : Fleet} (consistent : Consistent s.db) (inStep : InStep s)
    {calls : List Call} (proceeds : Machine.Legal Proceeds Fleet.step s calls) :
    (∀ n, InStep (Machine.run Fleet.step s (calls.take n)).1) ↔
      Machine.Legal NoAdminStop Fleet.step s calls := by
  have kept (s : Fleet) (call : Call) (consistent : Consistent s.db) (_ : InStep s)
      (proceeds : Proceeds s call) : Consistent (s.step call).1.db :=
    consistent_step consistent proceeds
  have exactly (s : Fleet) (call : Call) (consistent : Consistent s.db) (inStep : InStep s)
      (proceeds : Proceeds s call) : InStep (s.step call).1 ↔ NoAdminStop s call :=
    inStep_step_iff consistent inStep proceeds
  exact (Machine.legal_iff_invariant_of_legal (fun s : Fleet => Consistent s.db) kept exactly
    consistent inStep proceeds).symm

/-- One node and its relay, and a user without a session. -/
def oneNode : Fleet where
  db :=
    { users := [1]
      nodes := [⟨5, "DE", "10.0.0.1", "active", 443, 8443⟩]
      gameProfiles := [⟨3, "cs2", ["155.133.232.1"], ["27015"]⟩]
      sessions := [] }
  relays := fun _ => Relay.start 1000 300

/-- The user starts a session. -/
def startOnNode : Call :=
  .startSession ⟨1, "cs2", 5, false, 100, 7, 0⟩ fun _ => some (.bound 40000, 0)

theorem oneNode_consistent : Consistent oneNode.db :=
  ⟨by decide, by decide, by decide, by simp [OwnRelay, oneNode]⟩

theorem oneNode_inStep : InStep oneNode := by
  intro node member sessionToken
  refine iff_of_false ?_ ?_
  · rintro ⟨token, _, live⟩
    exact absurd live (by simp [oneNode, Relay.start])
  · rintro ⟨row, ⟨inTable, _⟩, _⟩
    cases inTable

/-- The administrator stops the session, and the relay keeps its token. -/
theorem adminStop_leaves_token :
    Machine.Legal Proceeds Fleet.step oneNode [startOnNode, .adminStopSession 100 1] ∧
      ¬ ∀ n, InStep (Machine.run Fleet.step oneNode
        ([startOnNode, .adminStopSession 100 1].take n)).1 := by
  refine ⟨by decide, ?_⟩
  intro always
  have registered : Registered
      (Machine.run Fleet.step oneNode [startOnNode, .adminStopSession 100 1]).1
      ⟨5, "DE", "10.0.0.1", "active", 443, 8443⟩ 7 := ⟨7, by decide, by decide⟩
  obtain ⟨row, active, _⟩ := (always 2 _ (by decide) 7).mp registered
  have stopped : ∀ row ∈
      (Machine.run Fleet.step oneNode [startOnNode, .adminStopSession 100 1]).1.db.sessions,
        row.status ≠ "active" := by decide
  exact stopped row active.1 active.2

/-- The user stops the session. -/
theorem inStep_always_userStop :
    (∀ n, InStep (Machine.run Fleet.step oneNode
      ([startOnNode, .stopSession ⟨100, 1, 1⟩ fun _ => true].take n)).1) ↔
      Machine.Legal NoAdminStop Fleet.step oneNode
        [startOnNode, .stopSession ⟨100, 1, 1⟩ fun _ => true] :=
  inStep_always_iff oneNode_consistent oneNode_inStep (by decide)

end PlgBooster.System
