import PlgBooster.Library.Transaction
import PlgBooster.Relay.Capacity

/-!
# Registrations that overlap

The handlers of the management API run concurrently. `register_session` gives way to others
between its accesses to the two maps, above all while it awaits the socket. Here it is a
program of these accesses; run alone it is `registerSession`.

The capacity is checked at the first access and the session inserted at the fourth. So the
limit holds over a run exactly when each insertion finds room, apart from what it replaces.
-/

namespace PlgBooster.Relay

open Rust Transaction

/-- The body of `POST /sessions`, with the answers of the system to this call. -/
structure RegisterRequest where
  sessionToken : UInt32
  gameServerIps : List String
  gamePorts : List String
  bind : BindResult
  now : Instant
  deriving DecidableEq

/-- The session a call inserts, once its socket is bound. -/
def RegisterRequest.session (req : RegisterRequest) (localPort : UInt16) : SessionInfo :=
  SessionCache.newSession req.sessionToken placeholderAddr req.gameServerIps
    (registeredPorts req.gamePorts) ⟨localPort⟩ req.now

/-- Where a handler stands. -/
inductive HandlerStage where
  | checkCapacity (req : RegisterRequest)
  /-- Remove existing session with same token if any. -/
  | removeOld (req : RegisterRequest)
  | awaitBind (req : RegisterRequest)
  | insertSession (req : RegisterRequest) (localPort : UInt16)
  | insertPort (req : RegisterRequest) (localPort : UInt16)
  | lookUp (req : RegisterRequest) (localPort : UInt16)
  | spawnListener (req : RegisterRequest) (localPort : UInt16) (socket : UdpSocket)
  | unregister (token : UInt32)
  deriving DecidableEq

inductive Reply where
  | registered (localPort : UInt16)
  | unavailable (error : String)
  | unregistered
  deriving DecidableEq

/-- `port_to_token.insert` and the gauge. -/
def SessionCache.insertPort (cache : SessionCache) (localPort : UInt16) (token : UInt32) :
    SessionCache :=
  setGauge { cache with portToToken := cache.portToToken.insert localPort token }

/-- One access of a handler. -/
def handlerStep (state : RelayState) : HandlerStage → RelayState × (HandlerStage ⊕ Reply)
  | .checkCapacity req =>
      if state.cache.maxSessions ≤ state.cache.activeCount then
        (state, .inr (.unavailable "max sessions reached or socket bind failed"))
      else (state, .inl (.removeOld req))
  | .removeOld req =>
      ({ state with cache := state.cache.unregister req.sessionToken }, .inl (.awaitBind req))
  | .awaitBind req =>
      match req.bind with
      | .bound localPort => (state, .inl (.insertSession req localPort))
      | _ => (state, .inr (.unavailable "max sessions reached or socket bind failed"))
  | .insertSession req localPort =>
      ({ state with cache := state.cache.put req.sessionToken (req.session localPort) },
        .inl (.insertPort req localPort))
  | .insertPort req localPort =>
      ({ state with cache := state.cache.insertPort localPort req.sessionToken },
        .inl (.lookUp req localPort))
  | .lookUp req localPort =>
      match state.cache.get req.sessionToken with
      | some session => (state, .inl (.spawnListener req localPort session.forwardSocket))
      | none => (state, .inr (.registered localPort))
  | .spawnListener _ localPort socket =>
      ({ state with listeners := socket :: state.listeners }, .inr (.registered localPort))
  | .unregister token => (unregisterSession state token, .inr .unregistered)

def HandlerStage.rank : HandlerStage → Nat
  | .checkCapacity _ => 6
  | .removeOld _ => 5
  | .awaitBind _ => 4
  | .insertSession _ _ => 3
  | .insertPort _ _ => 2
  | .lookUp _ _ => 1
  | .spawnListener _ _ _ => 0
  | .unregister _ => 0

theorem handlerStep_descends (state : RelayState) (stage stage' : HandlerStage)
    (taken : (handlerStep state stage).2 = .inl stage') : stage'.rank < stage.rank := by
  cases stage with
  | checkCapacity req =>
      simp only [handlerStep] at taken
      split_ifs at taken
      cases taken
      exact Nat.lt_succ_self _
  | removeOld req =>
      cases taken
      exact Nat.lt_succ_self _
  | awaitBind req =>
      simp only [handlerStep] at taken
      split at taken <;> cases taken
      exact Nat.lt_succ_self _
  | insertSession req localPort =>
      cases taken
      exact Nat.lt_succ_self _
  | insertPort req localPort =>
      cases taken
      exact Nat.lt_succ_self _
  | lookUp req localPort =>
      simp only [handlerStep] at taken
      split at taken <;> cases taken
      exact Nat.lt_succ_self _
  | spawnListener req localPort socket => cases taken
  | unregister token => cases taken

def handlers : Program RelayState HandlerStage Reply where
  step := handlerStep
  rank := HandlerStage.rank
  descends := handlerStep_descends

theorem insertPort_put (cache : SessionCache) (token : UInt32) (info : SessionInfo)
    (localPort : UInt16) :
    (cache.put token info).insertPort localPort token =
      cache.insertSession token info localPort := rfl

theorem exec_insertSession (state : RelayState) (req : RegisterRequest) (port : UInt16) :
    handlers.exec state (.insertSession req port) =
      ({ cache := state.cache.insertSession req.sessionToken (req.session port) port,
         listeners := ⟨port⟩ :: state.listeners }, some (.registered port)) := by
  have inserted : handlers.exec state (.insertSession req port) =
      handlers.exec { state with cache := state.cache.put req.sessionToken (req.session port) }
        (.insertPort req port) := handlers.exec_of_step_inl rfl
  have mapped (state : RelayState) : handlers.exec state (.insertPort req port) =
      handlers.exec { state with cache := state.cache.insertPort port req.sessionToken }
        (.lookUp req port) := handlers.exec_of_step_inl rfl
  have found {state : RelayState}
      (live : state.cache.get req.sessionToken = some (req.session port)) :
      handlers.exec state (.lookUp req port) =
        handlers.exec state (.spawnListener req port ⟨port⟩) := by
    apply handlers.exec_of_step_inl
    simp only [handlers, handlerStep, live]
    rfl
  rw [inserted, mapped, found]
  · exact handlers.exec_of_step_inr rfl
  · rw [insertPort_put, SessionCache.get_insertSession, if_pos rfl]

/-- A registration that nothing interrupts is `registerSession`. -/
theorem exec_checkCapacity (state : RelayState) (req : RegisterRequest) :
    (handlers.exec state (.checkCapacity req)).1 =
      (registerSession state req.sessionToken req.gameServerIps req.gamePorts req.bind
        req.now).1 := by
  have checked (room : state.cache.activeCount < state.cache.maxSessions) :
      handlers.exec state (.checkCapacity req) =
        handlers.exec (unregisterSession state req.sessionToken) (.awaitBind req) := by
    have passes : handlers.step state (.checkCapacity req) = (state, .inl (.removeOld req)) :=
      if_neg (Nat.not_le.mpr room)
    rw [handlers.exec_of_step_inl passes]
    exact handlers.exec_of_step_inl rfl
  cases state.cache.registered req.sessionToken placeholderAddr req.gameServerIps
    (registeredPorts req.gamePorts) req.bind req.now with
  | refused full result =>
      have refuses : handlers.step state (.checkCapacity req) =
          (state, .inr (.unavailable _)) := if_pos full
      rw [handlers.exec_of_step_inr refuses]
      simp [registerSession, result]
  | failed unbound room result =>
      have fails (state : RelayState) : handlers.step state (.awaitBind req) =
          (state, .inr (.unavailable "max sessions reached or socket bind failed")) := by
        rcases unbound with failed | failed <;> simp [handlers, handlerStep, failed]
      rw [checked room, handlers.exec_of_step_inr (fails _)]
      simp [registerSession, result, unregisterSession]
  | bound port yields room result =>
      have binds (state : RelayState) : handlers.step state (.awaitBind req) =
          (state, .inl (.insertSession req port)) := by
        simp [handlers, handlerStep, yields]
      rw [checked room, handlers.exec_of_step_inl (binds _), exec_insertSession]
      simp [registerSession, result, unregisterSession, SessionCache.get_insertSession,
        RegisterRequest.session, SessionCache.newSession]

/-- A world in which no handler runs yet. -/
def idle (state : RelayState) : World RelayState HandlerStage Reply := ⟨state, []⟩

/-! ## The limit -/

/-- The step inserts no session, or there is room for it beside those of other tokens. -/
def FindsRoom (state : RelayState) : HandlerStage → Prop
  | .insertSession req _ =>
      (state.cache.unregister req.sessionToken).activeCount < state.cache.maxSessions
  | _ => True

instance (state : RelayState) (stage : HandlerStage) : Decidable (FindsRoom state stage) := by
  cases stage <;> unfold FindsRoom <;> infer_instance

/-- No access of a handler changes the limits. -/
theorem limits_handlerStep (state : RelayState) (stage : HandlerStage) :
    (handlerStep state stage).1.cache.limits = state.cache.limits := by
  cases stage with
  | checkCapacity req =>
      simp only [handlerStep]
      split_ifs <;> rfl
  | removeOld req => exact state.cache.limits_unregister req.sessionToken
  | awaitBind req =>
      simp only [handlerStep]
      split <;> rfl
  | insertSession req port => rfl
  | insertPort req port => rfl
  | lookUp req port =>
      simp only [handlerStep]
      split <;> rfl
  | spawnListener req port socket => rfl
  | unregister token => exact state.cache.limits_unregister token

/-- Only an insertion that finds no room takes the cache over its limit. -/
theorem activeCount_handlerStep_le_iff {state : RelayState} (stage : HandlerStage)
    (within : state.cache.activeCount ≤ state.cache.maxSessions) :
    (handlerStep state stage).1.cache.activeCount ≤ state.cache.maxSessions ↔
      FindsRoom state stage := by
  have removed (token : UInt32) :
      (state.cache.unregister token).activeCount ≤ state.cache.maxSessions ↔ True :=
    iff_true_intro (Nat.le_trans (state.cache.activeCount_unregister_le token) within)
  cases stage with
  | checkCapacity req =>
      simp only [handlerStep]
      split_ifs <;> exact iff_true_intro within
  | removeOld req => exact removed req.sessionToken
  | awaitBind req =>
      simp only [handlerStep]
      split <;> exact iff_true_intro within
  | insertSession req port =>
      have added : (state.cache.put req.sessionToken (req.session port)).activeCount = _ :=
        state.cache.activeCount_insertSession req.sessionToken (req.session port) port
      simp only [handlerStep, FindsRoom, added]
      omega
  | insertPort req port => exact iff_true_intro within
  | lookUp req port =>
      simp only [handlerStep]
      split <;> exact iff_true_intro within
  | spawnListener req port socket => exact iff_true_intro within
  | unregister token => exact removed token

/-- Over any schedule of registrations and removals, the cache never holds more sessions than
it may if and only if every insertion finds room beside the sessions of other tokens. -/
theorem activeCount_handlers_iff (maxSessions : Nat) (sessionTimeout : Duration)
    (schedule : List (Transaction.Event HandlerStage)) :
    (∀ n, (Machine.run handlers.worldStep (idle (start maxSessions sessionTimeout))
      (schedule.take n)).1.db.cache.activeCount ≤ maxSessions) ↔
      Machine.Legal (StepMeets FindsRoom) handlers.worldStep
        (idle (start maxSessions sessionTimeout)) schedule := by
  have limit_kept (world : World RelayState HandlerStage Reply)
      (event : Transaction.Event HandlerStage)
      (limit : world.db.cache.maxSessions = maxSessions)
      (within : world.db.cache.activeCount ≤ maxSessions) :
      (handlers.worldStep world event).1.db.cache.maxSessions = maxSessions := by
    subst limit
    rcases Program.worldStep_db (P := handlers) world event with
      ⟨same, _⟩ | ⟨i, request, stage, rfl, found, after⟩
    · rw [same]
    · rw [after]
      exact congrArg Prod.fst (limits_handlerStep world.db stage)
  have kept_iff (world : World RelayState HandlerStage Reply)
      (event : Transaction.Event HandlerStage)
      (limit : world.db.cache.maxSessions = maxSessions)
      (within : world.db.cache.activeCount ≤ maxSessions) :
      (handlers.worldStep world event).1.db.cache.activeCount ≤ maxSessions ↔
        StepMeets FindsRoom world event := by
    subst limit
    exact Program.inv_worldStep_iff
      (fun state : RelayState => state.cache.activeCount ≤ world.db.cache.maxSessions) within
      (fun _ _ stage _ => activeCount_handlerStep_le_iff stage within) event
  exact (Machine.legal_iff_invariant _ limit_kept kept_iff rfl (Nat.zero_le _) schedule).symm

def registrationOf (token : UInt32) (port : UInt16) : RegisterRequest :=
  ⟨token, ["10.0.0.1"], ["27015"], .bound port, 0⟩

/-- Two clients register at a relay with one place; both pass the check first. -/
def bothPassTheCheck : List (Transaction.Event HandlerStage) :=
  [.submit (.checkCapacity (registrationOf 7 40000)),
    .submit (.checkCapacity (registrationOf 8 40001)), .advance 0, .advance 1, .advance 0,
    .advance 1, .advance 0, .advance 1, .advance 0, .advance 1]

theorem bothPassTheCheck_over :
    ¬ (Machine.run handlers.worldStep (idle (start 1 300))
        bothPassTheCheck).1.db.cache.activeCount ≤ 1 := by
  decide

end PlgBooster.Relay
