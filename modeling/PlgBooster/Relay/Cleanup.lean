import PlgBooster.Relay.Registration

/-!
# Cleanups that overlap with traffic

`cleanup_stale` reads the clock once, collects the tokens of the stale sessions and then
removes them one by one, without looking at them again. Between the two, packets arrive and
registrations go on. So a session is removed in time exactly if nothing has used its token
since it was collected, or the use is itself longer ago than the timeout.

An access of a registration is any step of its handler, so all interleavings of concurrent
registrations are among the runs.
-/

namespace PlgBooster.Relay

open Rust

/-- The relay with its cleanup task. -/
structure CleanupState where
  relay : RelayState
  /-- The last reading of the clock. -/
  clock : Instant
  /-- The collected tokens that are still to be removed. -/
  staleTokens : List UInt32
  /-- Not in the program: the tokens used since they were collected, the last use first. -/
  usedSince : List (UInt32 × Instant)

inductive CleanupEvent where
  | clientDatagram (datagram : List UInt8) (source : SocketAddr) (now : Instant)
      (sendTo : SendResult)
  | gameDatagram (localPort : UInt16) (datagram : List UInt8) (sendTo : SendResult)
  | handler (stage : HandlerStage)
  | scan (now : Instant)
  | removeNext (now : Instant)
  deriving DecidableEq

/-- A registration inserts a session, or a live session receives a datagram. -/
def CleanupState.use (state : CleanupState) : CleanupEvent → Option (UInt32 × Instant)
  | .clientDatagram datagram _ now _ =>
      (addressee state.relay.cache datagram).map fun found => (found.1.sessionId, now)
  | .handler (.insertSession req _) => some (req.sessionToken, req.now)
  | _ => none

def CleanupState.access (state : CleanupState) : CleanupEvent → CleanupState
  | .clientDatagram datagram source now sendTo =>
      let result := clientListener state.relay.cache datagram source now sendTo
      { state with relay := { state.relay with cache := result.1 }, clock := now }
  | .gameDatagram localPort datagram sendTo =>
      { state with relay := (onGameDatagram state.relay localPort datagram sendTo).1 }
  | .handler stage => { state with relay := (handlerStep state.relay stage).1 }
  | .scan now =>
      -- There is one cleanup task, and it scans again after its last removal.
      if state.staleTokens = [] then
        { state with clock := now, staleTokens := state.relay.cache.staleTokens now,
                     usedSince := [] }
      else state
  | .removeNext now =>
      match state.staleTokens with
      | [] => state
      | token :: rest =>
          { state with relay := unregisterSession state.relay token, clock := now,
                       staleTokens := rest }

def cleanupStep (state : CleanupState) (event : CleanupEvent) : CleanupState × List Empty :=
  let after := state.access event
  ({ after with usedSince := (state.use event).toList ++ after.usedSince }, [])

def cleanupStart (maxSessions : Nat) (sessionTimeout : Duration) : CleanupState where
  relay := start maxSessions sessionTimeout
  clock := 0
  staleTokens := []
  usedSince := []

/-- The clock does not go back. -/
def ClockForward (state : CleanupState) : CleanupEvent → Prop
  | .clientDatagram _ _ now _ => state.clock ≤ now
  | .scan now => state.clock ≤ now
  | .removeNext now => state.clock ≤ now
  | _ => True

/-- The session that is removed was not seen for longer than the timeout. -/
def EvictsUnseen (state : CleanupState) : CleanupEvent → Prop
  | .removeNext now =>
      match state.staleTokens with
      | [] => True
      | token :: _ => ∀ info ∈ state.relay.cache.get token,
          now.durationSince info.lastSeen > state.relay.cache.sessionTimeout
  | _ => True

/-- The token of the session that is removed was not used since it was collected, or longer
ago than the timeout. -/
def NotUsedSince (state : CleanupState) : CleanupEvent → Prop
  | .removeNext now =>
      match state.staleTokens with
      | [] => True
      | token :: _ => (state.relay.cache.get token).isSome →
          ∀ used ∈ state.usedSince.lookup token,
            now.durationSince used > state.relay.cache.sessionTimeout
  | _ => True

instance (state : CleanupState) (event : CleanupEvent) : Decidable (ClockForward state event) := by
  unfold ClockForward
  split <;> infer_instance

instance (state : CleanupState) (event : CleanupEvent) : Decidable (EvictsUnseen state event) := by
  unfold EvictsUnseen
  split
  · split <;> infer_instance
  · infer_instance

instance (state : CleanupState) (event : CleanupEvent) : Decidable (NotUsedSince state event) := by
  unfold NotUsedSince
  split
  · split <;> infer_instance
  · infer_instance

/-! ## What a step does to one session -/

theorem get_handlerStep (state : RelayState) (stage : HandlerStage) (u : UInt32) :
    (∃ req port, stage = .insertSession req port ∧ u = req.sessionToken ∧
      (handlerStep state stage).1.cache.get u = some (req.session port)) ∨
    (∀ req port, stage = .insertSession req port → u ≠ req.sessionToken) ∧
      ((handlerStep state stage).1.cache.get u = state.cache.get u ∨
        (handlerStep state stage).1.cache.get u = none) := by
  have removed (token : UInt32) : (state.cache.unregister token).get u = state.cache.get u ∨
      (state.cache.unregister token).get u = none := by
    rw [SessionCache.get_unregister]
    split_ifs
    · exact .inr rfl
    · exact .inl rfl
  cases stage with
  | insertSession req port =>
      have put : (handlerStep state (.insertSession req port)).1.cache.get u = _ :=
        state.cache.get_put req.sessionToken (req.session port) u
      by_cases same : u = req.sessionToken
      · exact .inl ⟨req, port, rfl, same, put.trans (if_pos same)⟩
      · refine .inr ⟨?_, .inl (put.trans (if_neg same))⟩
        intro req' port' equal
        cases equal
        exact same
  | removeOld req => exact .inr ⟨by simp, removed req.sessionToken⟩
  | unregister token => exact .inr ⟨by simp, removed token⟩
  | checkCapacity req =>
      refine .inr ⟨by simp, .inl ?_⟩
      simp only [handlerStep]
      split_ifs <;> rfl
  | awaitBind req =>
      refine .inr ⟨by simp, .inl ?_⟩
      simp only [handlerStep]
      split <;> rfl
  | insertPort req port => exact .inr ⟨by simp, .inl rfl⟩
  | lookUp req port =>
      refine .inr ⟨by simp, .inl ?_⟩
      simp only [handlerStep]
      split <;> rfl
  | spawnListener req port socket => exact .inr ⟨by simp, .inl rfl⟩

/-- What a step can do to the session under a token. -/
inductive Seen (state : CleanupState) (event : CleanupEvent) (u : UInt32) (info' : SessionInfo) :
    Prop
  | inserted (used : state.use event = some (u, info'.lastSeen)) (named : info'.sessionToken = u)
  | received (used : state.use event = some (u, info'.lastSeen)) (info : SessionInfo)
      (before : state.relay.cache.get u = some info)
      (named : info'.sessionToken = info.sessionToken)
  | unused (used : (state.use event).map Prod.fst ≠ some u) (info : SessionInfo)
      (before : state.relay.cache.get u = some info) (seen : info'.lastSeen = info.lastSeen)
      (named : info'.sessionToken = info.sessionToken)

/-- A session's `last_seen` is the time of its last use. -/
theorem seen_access (state : CleanupState) (event : CleanupEvent) {u : UInt32}
    {info' : SessionInfo} (live : (state.access event).relay.cache.get u = some info') :
    Seen state event u info' := by
  cases event with
  | clientDatagram datagram source now sendTo =>
      replace live : (clientListener state.relay.cache datagram source now sendTo).1.get u =
        some info' := live
      rcases get_clientListener state.relay.cache datagram source now sendTo u with
        ⟨same, other⟩ | ⟨packet, session, addressed, rfl, here, after⟩
      · refine .unused ?_ info' (same.symm.trans live) rfl rfl
        simpa [CleanupState.use, Option.map_map] using other
      · obtain rfl := Option.some.inj (after.symm.trans live)
        exact .received (by simp [CleanupState.use, addressed]) session here (by simp)
  | gameDatagram port datagram sendTo =>
      rcases get_onGameDatagram state.relay port datagram sendTo u with
        same | ⟨session, here, after⟩
      · exact .unused (by simp [CleanupState.use]) info' (same.symm.trans live) rfl rfl
      · obtain rfl := Option.some.inj (after.symm.trans live)
        exact .unused (by simp [CleanupState.use]) session here (by simp) (by simp)
  | handler stage =>
      rcases get_handlerStep state.relay stage u with
        ⟨req, port, rfl, rfl, after⟩ | ⟨other, same | gone⟩
      · obtain rfl := Option.some.inj (after.symm.trans live)
        exact .inserted rfl rfl
      · refine .unused ?_ info' (same.symm.trans live) rfl rfl
        cases stage with
        | insertSession req port => simpa [CleanupState.use] using (other req port rfl).symm
        | _ => simp [CleanupState.use]
      · cases gone.symm.trans live
  | scan now =>
      refine .unused (by simp [CleanupState.use]) info' ?_ rfl rfl
      simp only [CleanupState.access] at live
      split_ifs at live <;> exact live
  | removeNext now =>
      refine .unused (by simp [CleanupState.use]) info' ?_ rfl rfl
      simp only [CleanupState.access] at live
      split at live
      · exact live
      next token rest collected =>
        have removed : (state.relay.cache.unregister token).get u = some info' := live
        rw [SessionCache.get_unregister] at removed
        split_ifs at removed
        exact removed

theorem sessionTimeout_access (state : CleanupState) (event : CleanupEvent) :
    (state.access event).relay.cache.sessionTimeout = state.relay.cache.sessionTimeout := by
  cases event with
  | clientDatagram datagram source now sendTo =>
      exact congrArg Prod.snd
        (limits_clientListener state.relay.cache datagram source now sendTo)
  | gameDatagram port datagram sendTo =>
      exact congrArg Prod.snd (limits_onGameDatagram state.relay port datagram sendTo)
  | handler stage => exact congrArg Prod.snd (limits_handlerStep state.relay stage)
  | scan now =>
      simp only [CleanupState.access]
      split_ifs <;> rfl
  | removeNext now =>
      simp only [CleanupState.access]
      split
      · rfl
      · exact congrArg Prod.snd (state.relay.cache.limits_unregister _)

/-! ## What is known of the collected tokens -/

/-- A collected session was stale when the clock was last read, or was used since. -/
structure Collected (state : CleanupState) : Prop where
  named : ∀ token info, state.relay.cache.get token = some info → info.sessionToken = token
  stale : ∀ token ∈ state.staleTokens, ∀ info, state.relay.cache.get token = some info →
    match state.usedSince.lookup token with
    | some used => info.lastSeen = used
    | none => state.clock.durationSince info.lastSeen > state.relay.cache.sessionTimeout

theorem named_access {state : CleanupState} (event : CleanupEvent)
    (named : ∀ token info, state.relay.cache.get token = some info → info.sessionToken = token)
    (token : UInt32) (info : SessionInfo)
    (live : (state.access event).relay.cache.get token = some info) :
    info.sessionToken = token := by
  cases seen_access state event live with
  | inserted used same => exact same
  | received used old before same => exact same.trans (named token old before)
  | unused used old before seen same => exact same.trans (named token old before)

/-- What holds of a collected token follows every step but a scan. -/
theorem Collected.carry {state : CleanupState} {event : CleanupEvent} (collected : Collected state)
    (tokens : (state.access event).staleTokens ⊆ state.staleTokens)
    (uses : (state.access event).usedSince = state.usedSince)
    (forward : state.clock ≤ (state.access event).clock) :
    Collected (cleanupStep state event).1 where
  named := named_access event collected.named
  stale token member info live := by
    have lookup : (cleanupStep state event).1.usedSince.lookup token =
        ((state.use event).toList ++ state.usedSince).lookup token := by
      rw [← uses]
      rfl
    rw [lookup]
    have used (now : state.use event = some (token, info.lastSeen)) :
        ((state.use event).toList ++ state.usedSince).lookup token = some info.lastSeen := by
      simp [now]
    cases seen_access state event live with
    | inserted now named => rw [used now]
    | received now old before named => rw [used now]
    | unused other old before seen named =>
        have same : ((state.use event).toList ++ state.usedSince).lookup token =
            state.usedSince.lookup token := by
          cases use : state.use event with
          | none => rfl
          | some entry =>
              have apart : token ≠ entry.1 := fun same => other (by rw [use, same]; rfl)
              change (entry :: state.usedSince).lookup token = _
              rw [List.lookup_cons, beq_false_of_ne apart]
        have known := collected.stale token (tokens member) old before
        rw [same, seen]
        cases listed : state.usedSince.lookup token with
        | some last => simpa only [listed] using known
        | none =>
            simp only [listed] at known ⊢
            change (state.access event).relay.cache.sessionTimeout <
              (state.access event).clock.durationSince old.lastSeen
            rw [sessionTimeout_access]
            exact Nat.lt_of_lt_of_le known (Instant.durationSince_le forward _)

theorem collected_step {state : CleanupState} {event : CleanupEvent} (collected : Collected state)
    (forward : ClockForward state event) : Collected (cleanupStep state event).1 := by
  cases event with
  | scan now =>
      by_cases idle : state.staleTokens = []
      · have after : (cleanupStep state (.scan now)).1 =
            { state with clock := now, staleTokens := state.relay.cache.staleTokens now,
                         usedSince := [] } := by
          simp [cleanupStep, CleanupState.access, CleanupState.use, idle]
        rw [after]
        refine ⟨collected.named, ?_⟩
        intro token member info live
        obtain ⟨info', live', stale⟩ := (SessionCache.mem_staleTokens collected.named).mp member
        obtain rfl := Option.some.inj (live'.symm.trans live)
        exact stale
      · have after : (cleanupStep state (.scan now)).1 = state := by
          simp [cleanupStep, CleanupState.access, CleanupState.use, idle]
        rw [after]
        exact collected
  | removeNext now =>
      cases tokens : state.staleTokens with
      | nil =>
          have access : state.access (.removeNext now) = state := by
            simp only [CleanupState.access]
            split
            · rfl
            next token rest listed => cases tokens.symm.trans listed
          refine collected.carry ?_ ?_ ?_
          all_goals rw [access]
          · exact List.Subset.refl _
      | cons token rest =>
          refine collected.carry ?_ ?_ ?_
          all_goals simp only [CleanupState.access, tokens]
          · exact List.subset_cons_self token rest
          · exact forward
  | clientDatagram datagram source now sendTo =>
      exact collected.carry (List.Subset.refl _) rfl forward
  | gameDatagram port datagram sendTo =>
      exact collected.carry (List.Subset.refl _) rfl (Nat.le_refl _)
  | handler stage => exact collected.carry (List.Subset.refl _) rfl (Nat.le_refl _)

/-- A removal is in time exactly if the last use since the scan is. -/
theorem evictsUnseen_iff {state : CleanupState} {event : CleanupEvent}
    (collected : Collected state) (forward : ClockForward state event) :
    EvictsUnseen state event ↔ NotUsedSince state event := by
  cases event with
  | removeNext now =>
      cases tokens : state.staleTokens with
      | nil => simp [EvictsUnseen, NotUsedSince, tokens]
      | cons token rest =>
          have member : token ∈ state.staleTokens := tokens ▸ List.mem_cons_self
          simp only [EvictsUnseen, NotUsedSince, tokens]
          cases live : state.relay.cache.get token with
          | none => simp
          | some info =>
              have known := collected.stale token member info live
              cases listed : state.usedSince.lookup token with
              | none =>
                  simp only [listed] at known
                  have late := Nat.lt_of_lt_of_le known
                    (Instant.durationSince_le forward info.lastSeen)
                  simpa using late
              | some last =>
                  simp only [listed] at known
                  simp [known]
  | _ => exact Iff.rfl

/-- Over any interleaving, each session a cleanup removes was unseen for longer than the
timeout if and only if each was not used since it was collected, or longer ago than the
timeout. -/
theorem evictsUnseen_run_iff (maxSessions : Nat) (sessionTimeout : Duration)
    {events : List CleanupEvent}
    (forward : Machine.Legal ClockForward cleanupStep (cleanupStart maxSessions sessionTimeout)
      events) :
    (∀ n event, events[n]? = some event → EvictsUnseen
      (Machine.run cleanupStep (cleanupStart maxSessions sessionTimeout) (events.take n)).1 event) ↔
      Machine.Legal NotUsedSince cleanupStep (cleanupStart maxSessions sessionTimeout) events := by
  have empty : Collected (cleanupStart maxSessions sessionTimeout) := by
    refine ⟨fun token info live => ?_, by simp [cleanupStart]⟩
    simp [cleanupStart, start] at live
  rw [← Machine.legal_iff_getElem?]
  exact Machine.legal_congr (fun _ _ collected forward => collected_step collected forward)
    (fun _ _ collected forward => evictsUnseen_iff collected forward) empty forward

/-- The datagram of a keepalive for token 7. -/
def keepaliveSeven : List UInt8 := (PlgPacket.keepalive 7 1).encode

/-- Two sessions, one of which goes silent. -/
def oneGoesSilent : List CleanupEvent :=
  [.handler (.insertSession (registrationOf 7 40000) 40000),
    .handler (.insertSession (registrationOf 8 40001) 40001),
    .clientDatagram keepaliveSeven ⟨.V4 ⟨198, 51, 100, 7⟩, 50000⟩ 2 .failed, .scan 4,
    .clientDatagram keepaliveSeven ⟨.V4 ⟨198, 51, 100, 7⟩, 50000⟩ 5 .failed, .removeNext 6]

theorem evictsUnseen_run_iff_oneGoesSilent :
    (Machine.run cleanupStep (cleanupStart 4 3) oneGoesSilent).1.relay.cache.get 8 = none ∧
      ∀ n event, oneGoesSilent[n]? = some event → EvictsUnseen
        (Machine.run cleanupStep (cleanupStart 4 3) (oneGoesSilent.take n)).1 event :=
  ⟨by decide, (evictsUnseen_run_iff 4 3 (by decide)).mpr (by decide)⟩

/-- A session that is collected, and gets a packet before it is removed. -/
def seenTooLate : List CleanupEvent :=
  [.handler (.insertSession (registrationOf 7 40000) 40000), .scan 4,
    .clientDatagram keepaliveSeven ⟨.V4 ⟨198, 51, 100, 7⟩, 50000⟩ 5 .failed, .removeNext 6]

/-- It is removed one nanosecond after the packet. -/
theorem seenTooLate_evicts :
    Machine.Legal ClockForward cleanupStep (cleanupStart 4 3) seenTooLate ∧
      let state := (Machine.run cleanupStep (cleanupStart 4 3) (seenTooLate.take 3)).1
      ((state.relay.cache.get 7).map (·.lastSeen)) = some 5 ∧
        (state.access (.removeNext 6)).relay.cache.get 7 = none ∧
        ¬ EvictsUnseen state (.removeNext 6) := by
  decide

end PlgBooster.Relay
