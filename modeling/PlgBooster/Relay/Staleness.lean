import PlgBooster.Relay.Cleanup

/-!
# How long a silent session stays

The cleanup task scans once a minute and removes what it collected one token at a time, while
packets arrive and registration handlers go on between any two of its steps. Once the removals
of a scan are through, every live session was seen within the timeout before that scan. So a
session outlives its client's last packet by the timeout and one interval at most.
-/

namespace PlgBooster.Relay

open Rust

/-- `Duration::from_secs(60)` of the cleanup task. -/
def cleanupInterval : Duration := 60 * 1000000000

/-- The last scan that began. A scan waits until the removals of the one before are through. -/
def recordScan (state : CleanupState) : CleanupEvent → Instant → Instant
  | .scan now, past => if state.staleTokens = [] then now else past
  | _, past => past

/-- The time of the last scan of a run. -/
def lastScan (maxSessions : Nat) (sessionTimeout : Duration) (events : List CleanupEvent) :
    Instant :=
  Machine.history recordScan cleanupStep (cleanupStart maxSessions sessionTimeout) events 0

/-- The clock does not go back, and a new session is stamped with its current reading. -/
def ClockRuns (state : CleanupState) (event : CleanupEvent) : Prop :=
  ClockForward state event ∧
    match event with
    | .handler (.insertSession req _) => state.clock ≤ req.now
    | _ => True

instance (state : CleanupState) (event : CleanupEvent) : Decidable (ClockRuns state event) := by
  unfold ClockRuns
  refine @instDecidableAnd _ _ inferInstance ?_
  split <;> infer_instance

/-- Every live session was seen within the timeout before the last scan, or is about to be
removed. -/
structure Swept (state : CleanupState) (scan : Instant) : Prop where
  past : scan ≤ state.clock
  named : ∀ token info, state.relay.cache.get token = some info → info.sessionToken = token
  seen : ∀ token info, state.relay.cache.get token = some info →
    scan.durationSince info.lastSeen ≤ state.relay.cache.sessionTimeout ∨
      token ∈ state.staleTokens

theorem swept_start (maxSessions : Nat) (sessionTimeout : Duration) :
    Swept (cleanupStart maxSessions sessionTimeout) 0 := by
  refine ⟨Nat.le_refl _, ?_, ?_⟩
  all_goals
    intro token info live
    simp [cleanupStart, start] at live

/-- A use is stamped with a reading of the clock that is not before the last one. -/
theorem use_not_before {state : CleanupState} {event : CleanupEvent} (runs : ClockRuns state event)
    {token : UInt32} {now : Instant} (used : state.use event = some (token, now)) :
    state.clock ≤ now := by
  obtain ⟨forward, stamped⟩ := runs
  cases event with
  | clientDatagram datagram source arrival sendTo =>
      simp only [CleanupState.use, Option.map_eq_some_iff] at used
      obtain ⟨found, addressed, same⟩ := used
      cases same
      exact forward
  | handler stage =>
      cases stage with
      | insertSession req port =>
          cases used
          exact stamped
      | _ => cases used
  | gameDatagram port datagram sendTo => cases used
  | scan reading => cases used
  | removeNext reading => cases used

/-- What was seen in time, or is about to be removed, stays so over every step but a scan. -/
theorem Swept.carry {state : CleanupState} {event : CleanupEvent} {scan : Instant}
    (swept : Swept state scan) (runs : ClockRuns state event)
    (forward : state.clock ≤ (state.access event).clock)
    (removed : ∀ token info, (state.access event).relay.cache.get token = some info →
      token ∈ state.staleTokens → token ∈ (state.access event).staleTokens) :
    Swept (cleanupStep state event).1 scan where
  past := Nat.le_trans swept.past forward
  named := named_access event swept.named
  seen token info live := by
    change _ ≤ (state.access event).relay.cache.sessionTimeout ∨ _
    rw [sessionTimeout_access]
    -- A session that was just used was seen after the scan.
    have just (used : state.use event = some (token, info.lastSeen)) :
        scan.durationSince info.lastSeen ≤ state.relay.cache.sessionTimeout := by
      have after : scan ≤ info.lastSeen := Nat.le_trans swept.past (use_not_before runs used)
      rw [Instant.durationSince, Nat.sub_eq_zero_of_le after]
      exact Nat.zero_le _
    cases seen_access state event live with
    | inserted used named => exact .inl (just used)
    | received used old before named => exact .inl (just used)
    | unused other old before seen named =>
        rw [seen]
        rcases swept.seen token old before with inTime | collected
        · exact .inl inTime
        · exact .inr (removed token info live collected)

theorem swept_step {state : CleanupState} {event : CleanupEvent} {scan : Instant}
    (swept : Swept state scan) (runs : ClockRuns state event) :
    Swept (cleanupStep state event).1 (recordScan state event scan) := by
  have keeps : ∀ token info, (state.access event).relay.cache.get token = some info →
      token ∈ state.staleTokens → token ∈ state.staleTokens := fun _ _ _ member => member
  cases event with
  | clientDatagram datagram source now sendTo => exact swept.carry runs runs.1 keeps
  | gameDatagram port datagram sendTo => exact swept.carry runs (Nat.le_refl _) keeps
  | handler stage => exact swept.carry runs (Nat.le_refl _) keeps
  | scan now =>
      by_cases idle : state.staleTokens = []
      · rw [show recordScan state (.scan now) scan = now from if_pos idle]
        have after : state.access (.scan now) =
            { state with clock := now, staleTokens := state.relay.cache.staleTokens now,
                         usedSince := [] } := if_pos idle
        refine ⟨?_, named_access _ swept.named, ?_⟩
        · change now ≤ (state.access (.scan now)).clock
          rw [after]
        · intro token info live
          -- What is not collected is not stale.
          change (state.access (.scan now)).relay.cache.get token = some info at live
          change _ ≤ (state.access (.scan now)).relay.cache.sessionTimeout ∨
            token ∈ (state.access (.scan now)).staleTokens
          rw [after] at live ⊢
          by_cases inTime : now.durationSince info.lastSeen ≤ state.relay.cache.sessionTimeout
          · exact .inl inTime
          · exact .inr ((SessionCache.mem_staleTokens swept.named).mpr
              ⟨info, live, Nat.lt_of_not_le inTime⟩)
      · rw [show recordScan state (.scan now) scan = scan from if_neg idle]
        have after : state.access (.scan now) = state := if_neg idle
        refine swept.carry runs ?_ ?_
        all_goals rw [after]
        · intro token info _ member
          exact member
  | removeNext now =>
      cases tokens : state.staleTokens with
      | nil =>
          have after : state.access (.removeNext now) = state := by
            simp only [CleanupState.access]
            split
            · rfl
            next token rest listed => cases tokens.symm.trans listed
          refine swept.carry runs ?_ ?_
          all_goals rw [after]
          · intro token info _ member
            exact member
      | cons first rest =>
          have after : state.access (.removeNext now) =
              { state with relay := unregisterSession state.relay first, clock := now,
                           staleTokens := rest } := by
            simp only [CleanupState.access, tokens]
          refine swept.carry runs ?_ ?_
          all_goals rw [after]
          · exact runs.1
          · intro token info live member
            have left : (state.relay.cache.unregister first).get token = some info := live
            rw [SessionCache.get_unregister] at left
            split_ifs at left with same
            rw [tokens] at member
            exact (List.mem_cons.mp member).resolve_left same

theorem swept_run {maxSessions : Nat} {sessionTimeout : Duration} {events : List CleanupEvent}
    (runs : Machine.Legal ClockRuns cleanupStep (cleanupStart maxSessions sessionTimeout) events) :
    Swept (Machine.run cleanupStep (cleanupStart maxSessions sessionTimeout) events).1
      (lastScan maxSessions sessionTimeout events) := by
  refine Machine.run_history_invariant ?_ (swept_start maxSessions sessionTimeout) runs
  intro state event scan swept runs
  exact swept_step swept runs

/-- Over any interleaving of packets, registration handlers and the cleanup task: whenever no
removal is pending, each live session was seen within the timeout before the last scan, and so
until one interval has passed since that scan it is unseen for the timeout and an interval at
most. -/
theorem unseen_at_most_timeout_and_interval {maxSessions : Nat} {sessionTimeout : Duration}
    {events : List CleanupEvent}
    (runs : Machine.Legal ClockRuns cleanupStep (cleanupStart maxSessions sessionTimeout) events) :
    let state := (Machine.run cleanupStep (cleanupStart maxSessions sessionTimeout) events).1
    let scan := lastScan maxSessions sessionTimeout events
    state.staleTokens = [] → ∀ token info, state.relay.cache.get token = some info →
      scan.durationSince info.lastSeen ≤ sessionTimeout ∧
        ∀ now, now ≤ scan + cleanupInterval →
          now.durationSince info.lastSeen ≤ sessionTimeout + cleanupInterval := by
  intro state scan through token info live
  have swept : Swept state scan := swept_run runs
  have timeout : state.relay.cache.sessionTimeout = sessionTimeout :=
    Machine.run_always (fun state => state.relay.cache.sessionTimeout = sessionTimeout)
      (fun state event same => (sessionTimeout_access state event).trans same) rfl events
  have inTime : scan.durationSince info.lastSeen ≤ sessionTimeout := by
    rcases swept.seen token info live with inTime | collected
    · rwa [timeout] at inTime
    · rw [through] at collected
      cases collected
  refine ⟨inTime, ?_⟩
  intro now before
  have bound : scan ≤ sessionTimeout + info.lastSeen := Nat.sub_le_iff_le_add.mp inTime
  apply Nat.sub_le_iff_le_add.mpr
  calc
    now ≤ scan + cleanupInterval := before
    _ ≤ sessionTimeout + info.lastSeen + cleanupInterval := Nat.add_le_add_right bound _
    _ = sessionTimeout + cleanupInterval + info.lastSeen := Nat.add_right_comm _ _ _

theorem unseen_at_most_timeout_and_interval_oneGoesSilent :
    let state := (Machine.run cleanupStep (cleanupStart 4 3) oneGoesSilent).1
    ∃ info, state.relay.cache.get 7 = some info ∧
      (lastScan 4 3 oneGoesSilent).durationSince info.lastSeen ≤ 3 ∧
        ∀ now, now ≤ lastScan 4 3 oneGoesSilent + cleanupInterval →
          now.durationSince info.lastSeen ≤ 3 + cleanupInterval :=
  have ⟨info, live⟩ := Option.isSome_iff_exists.mp (by decide)
  ⟨info, live, unseen_at_most_timeout_and_interval (by decide) (by decide) 7 info live⟩

end PlgBooster.Relay
