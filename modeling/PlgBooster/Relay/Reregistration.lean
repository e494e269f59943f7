import PlgBooster.Relay.Registration

/-!
# One token, several requests

`register_session` takes out the old session of its token in one step, inserts its own in a
later one, and spawns a listener on whatever session it then finds. Requests for one token
get in each other's way in three places: at the insertion, which may overwrite a session
without its port, at the insertion of the port, whose session may be gone, and at the second
look-up, which may find the session of another request.

If none of this happens, the maps agree and each session has its one listener as soon as all
requests have finished.
-/

namespace PlgBooster.Relay

open Rust Transaction

/-- A request to the management API. -/
inductive ApiCall where
  | register (req : RegisterRequest)
  | unregister (token : UInt32)
  deriving DecidableEq

/-- Where its handler starts. -/
def ApiCall.start : ApiCall → HandlerStage
  | .register req => .checkCapacity req
  | .unregister token => .unregister token

/-- The port that the handler of a request binds. -/
def HandlerStage.boundPort : HandlerStage → Option UInt16
  | .checkCapacity req =>
      match req.bind with
      | .bound port => some port
      | _ => none
  | _ => none

/-- The session under the token is the one of the request, or where it must be missing it is. -/
def FindsOwn (state : RelayState) : HandlerStage → Prop
  | .insertSession req _ => state.cache.get req.sessionToken = none
  | .insertPort req port =>
      (state.cache.get req.sessionToken).map (·.forwardSocket.localPort) = some port
  | .lookUp req port =>
      ∀ session ∈ state.cache.get req.sessionToken, session.forwardSocket.localPort = port
  | _ => True

instance (state : RelayState) : (stage : HandlerStage) → Decidable (FindsOwn state stage)
  | .insertSession req _ => inferInstanceAs (Decidable (state.cache.get req.sessionToken = none))
  | .insertPort req port => inferInstanceAs (Decidable
      ((state.cache.get req.sessionToken).map (·.forwardSocket.localPort) = some port))
  | .lookUp req port => inferInstanceAs (Decidable
      (∀ session ∈ state.cache.get req.sessionToken, session.forwardSocket.localPort = port))
  | .checkCapacity _ => .isTrue trivial
  | .removeOld _ => .isTrue trivial
  | .awaitBind _ => .isTrue trivial
  | .spawnListener _ _ _ => .isTrue trivial
  | .unregister _ => .isTrue trivial

/-- Every live session has one listener, and the reverse map has exactly their ports. -/
structure RelayState.Clean (state : RelayState) : Prop where
  listeners : ∀ token info, state.cache.get token = some info →
    state.listeners.count info.forwardSocket = 1
  ports : ∀ port token, state.cache.tokenByPort port = some token ↔
    ∃ info, state.cache.get token = some info ∧ info.forwardSocket.localPort = port

/-! ## What is known of one port -/

section Port

variable (state : RelayState) (port : UInt16)

/-- A live session has the port. -/
def HasPort (token : UInt32) : Prop :=
  ∃ info, state.cache.get token = some info ∧ info.forwardSocket.localPort = port

/-- No step has reached the port yet. -/
structure Untouched : Prop where
  unused : ∀ token, ¬ HasPort state port token
  unmapped : state.cache.tokenByPort port = none
  silent : state.listeners.count ⟨port⟩ = 0

/-- The reverse map knows the session on the port, if there is one. -/
def Mapped : Prop :=
  ∀ token, HasPort state port token → state.cache.tokenByPort port = some token

end Port

/-- How far a request has come, and what that says of its port. -/
inductive InOrder (state : RelayState) : Task HandlerStage Reply → Prop
  | unregister (token : UInt32) : InOrder state ⟨.unregister token, .inl (.unregister token)⟩
  | unregistered (token : UInt32) (reply : Reply) : InOrder state ⟨.unregister token, .inr reply⟩
  | waiting (req : RegisterRequest) (stage : HandlerStage)
      (early : stage = .checkCapacity req ∨ stage = .removeOld req ∨ stage = .awaitBind req)
      (untouched : ∀ port, req.bind = .bound port → Untouched state port) :
      InOrder state ⟨.checkCapacity req, .inl stage⟩
  | bound (req : RegisterRequest) (port : UInt16) (bound : req.bind = .bound port)
      (untouched : Untouched state port) :
      InOrder state ⟨.checkCapacity req, .inl (.insertSession req port)⟩
  | inserted (req : RegisterRequest) (port : UInt16) (bound : req.bind = .bound port)
      (silent : state.listeners.count ⟨port⟩ = 0) :
      InOrder state ⟨.checkCapacity req, .inl (.insertPort req port)⟩
  | mapped (req : RegisterRequest) (port : UInt16) (bound : req.bind = .bound port)
      (silent : state.listeners.count ⟨port⟩ = 0) (mapped : Mapped state port) :
      InOrder state ⟨.checkCapacity req, .inl (.lookUp req port)⟩
  | found (req : RegisterRequest) (port : UInt16) (bound : req.bind = .bound port)
      (silent : state.listeners.count ⟨port⟩ = 0) (mapped : Mapped state port) :
      InOrder state ⟨.checkCapacity req, .inl (.spawnListener req port ⟨port⟩)⟩
  | finished (req : RegisterRequest) (reply : Reply)
      (done : ∀ port, req.bind = .bound port → ∀ token, HasPort state port token →
        state.listeners.count ⟨port⟩ = 1 ∧ state.cache.tokenByPort port = some token) :
      InOrder state ⟨.checkCapacity req, .inr reply⟩

/-- A step that is not about the port: at most the session on it goes, with its entry. -/
structure Frame (state state' : RelayState) (port : UInt16) : Prop where
  live : ∀ token, HasPort state' port token → HasPort state port token
  unmapped : state.cache.tokenByPort port = none → state'.cache.tokenByPort port = none
  mapped : ∀ token, HasPort state' port token →
    state'.cache.tokenByPort port = state.cache.tokenByPort port
  listeners : state'.listeners.count ⟨port⟩ = state.listeners.count ⟨port⟩

section Frame

variable {state state' : RelayState} {port : UInt16}

theorem Frame.refl (state : RelayState) (port : UInt16) : Frame state state port :=
  ⟨fun _ has => has, fun none => none, fun _ _ => rfl, rfl⟩

theorem Untouched.frame (untouched : Untouched state port) (frame : Frame state state' port) :
    Untouched state' port where
  unused token has := untouched.unused token (frame.live token has)
  unmapped := frame.unmapped untouched.unmapped
  silent := frame.listeners.trans untouched.silent

theorem Mapped.frame (mapped : Mapped state port) (frame : Frame state state' port) :
    Mapped state' port :=
  fun token has => (frame.mapped token has).trans (mapped token (frame.live token has))

/-- Progress does not depend on what happens at other ports. -/
theorem InOrder.frame {task : Task HandlerStage Reply} (inOrder : InOrder state task)
    (frame : ∀ port, task.request.boundPort = some port → Frame state state' port) :
    InOrder state' task := by
  have own {req : RegisterRequest} {port : UInt16} (bound : req.bind = .bound port) :
      (HandlerStage.checkCapacity req).boundPort = some port := by
    simp [HandlerStage.boundPort, bound]
  cases inOrder with
  | unregister token => exact .unregister token
  | unregistered token reply => exact .unregistered token reply
  | waiting req stage early untouched =>
      exact .waiting req stage early fun port bound =>
        (untouched port bound).frame (frame port (own bound))
  | bound req port bound untouched =>
      exact .bound req port bound (untouched.frame (frame port (own bound)))
  | inserted req port bound silent =>
      exact .inserted req port bound ((frame port (own bound)).listeners.trans silent)
  | mapped req port bound silent mapped =>
      exact .mapped req port bound ((frame port (own bound)).listeners.trans silent)
        (mapped.frame (frame port (own bound)))
  | found req port bound silent mapped =>
      exact .found req port bound ((frame port (own bound)).listeners.trans silent)
        (mapped.frame (frame port (own bound)))
  | finished req reply done =>
      refine .finished req reply fun port bound token has => ?_
      have here := frame port (own bound)
      obtain ⟨once, mapped⟩ := done port bound token (here.live token has)
      exact ⟨here.listeners.trans once, (here.mapped token has).trans mapped⟩

end Frame

/-! ## The state of all requests -/

/-- The ports that the requests of a world bind. -/
def boundPorts (tasks : List (Task HandlerStage Reply)) : List UInt16 :=
  (tasks.map (·.request)).filterMap HandlerStage.boundPort

structure Orderly (world : World RelayState HandlerStage Reply) : Prop where
  distinct : (boundPorts world.tasks).Nodup
  stale : ∀ port token, world.db.cache.tokenByPort port = some token →
    HasPort world.db port token
  owners : ∀ port token, HasPort world.db port token → ∃ task ∈ world.tasks, ∃ req,
    task.request = .checkCapacity req ∧ req.sessionToken = token ∧ req.bind = .bound port
  heard : ∀ socket ∈ world.db.listeners, socket.localPort ∈ boundPorts world.tasks
  inOrder : ∀ task ∈ world.tasks, InOrder world.db task

theorem mem_boundPorts {tasks : List (Task HandlerStage Reply)} {port : UInt16}
    {task : Task HandlerStage Reply} (member : task ∈ tasks)
    (binds : task.request.boundPort = some port) : port ∈ boundPorts tasks :=
  List.mem_filterMap.mpr ⟨task.request, List.mem_map_of_mem member, binds⟩

/-- A request that binds a port is the only one, wherever it stands. -/
theorem boundPort_ne_of_split {front back : List (Task HandlerStage Reply)}
    {task : Task HandlerStage Reply} (distinct : (boundPorts (front ++ task :: back)).Nodup)
    {other : Task HandlerStage Reply} (member : other ∈ front ∨ other ∈ back) {port : UInt16}
    (binds : other.request.boundPort = some port) : task.request.boundPort ≠ some port := by
  intro same
  rw [boundPorts, List.map_append, List.map_cons, List.filterMap_append,
    List.filterMap_cons_some same] at distinct
  obtain ⟨_, later, apart⟩ := List.nodup_append.mp distinct
  rcases member with before | after
  · exact apart port (mem_boundPorts before binds) port List.mem_cons_self rfl
  · exact (List.nodup_cons.mp later).1 (mem_boundPorts after binds)

/-- Of two requests for one port, one is the other. -/
theorem eq_of_boundPort {tasks : List (Task HandlerStage Reply)}
    (distinct : (boundPorts tasks).Nodup) {port : UInt16} {task task' : Task HandlerStage Reply}
    (member : task ∈ tasks) (member' : task' ∈ tasks)
    (binds : task.request.boundPort = some port) (binds' : task'.request.boundPort = some port) :
    task = task' := by
  obtain ⟨front, back, rfl⟩ := List.append_of_mem member
  rcases List.mem_append.mp member' with before | later
  · exact absurd binds (boundPort_ne_of_split distinct (.inl before) binds')
  · rcases List.mem_cons.mp later with same | after
    · exact same.symm
    · exact absurd binds (boundPort_ne_of_split distinct (.inr after) binds')

variable {world : World RelayState HandlerStage Reply}

/-- Two live sessions on one port are one. -/
theorem Orderly.token_unique (orderly : Orderly world) {port : UInt16} {t u : UInt32}
    (ht : HasPort world.db port t) (hu : HasPort world.db port u) : t = u := by
  obtain ⟨task, member, req, calls, rfl, bound⟩ := orderly.owners port t ht
  obtain ⟨task', member', req', calls', rfl, bound'⟩ := orderly.owners port u hu
  have binds : task.request.boundPort = some port := by
    simp [calls, HandlerStage.boundPort, bound]
  have binds' : task'.request.boundPort = some port := by
    simp [calls', HandlerStage.boundPort, bound']
  have same := eq_of_boundPort orderly.distinct member member' binds binds'
  rw [← same, calls] at calls'
  cases calls'
  rfl

/-- What the step of one request must show for all to stay in order. -/
theorem Orderly.advance (orderly : Orderly world) {i : Nat} {request : HandlerStage}
    {stage : HandlerStage} (found : world.tasks[i]? = some ⟨request, .inl stage⟩)
    (frame : ∀ port, request.boundPort ≠ some port →
      Frame world.db (handlerStep world.db stage).1 port)
    (own : InOrder (handlerStep world.db stage).1 ⟨request, (handlerStep world.db stage).2⟩)
    (stale : ∀ port token, (handlerStep world.db stage).1.cache.tokenByPort port = some token →
      HasPort (handlerStep world.db stage).1 port token)
    (owners : ∀ port token, HasPort (handlerStep world.db stage).1 port token →
      HasPort world.db port token ∨
        ∃ req, request = .checkCapacity req ∧ req.sessionToken = token ∧ req.bind = .bound port)
    (heard : ∀ socket ∈ (handlerStep world.db stage).1.listeners,
      socket ∈ world.db.listeners ∨ request.boundPort = some socket.localPort) :
    Orderly (handlers.worldStep world (.advance i)).1 := by
  have after : (handlers.worldStep world (.advance i)).1 = ⟨(handlerStep world.db stage).1,
      world.tasks.set i ⟨request, (handlerStep world.db stage).2⟩⟩ :=
    Program.worldStep_of_running (P := handlers) found
  obtain ⟨front, back, tasks, updated⟩ :=
    Program.split_of_getElem? found ⟨request, (handlerStep world.db stage).2⟩
  have requests : (world.tasks.set i ⟨request, (handlerStep world.db stage).2⟩).map (·.request) =
      world.tasks.map (·.request) := by
    rw [updated, tasks]
    simp
  have ports : boundPorts (world.tasks.set i ⟨request, (handlerStep world.db stage).2⟩) =
      boundPorts world.tasks := by
    rw [boundPorts, requests, boundPorts]
  rw [after]
  constructor
  · exact ports ▸ orderly.distinct
  · exact stale
  · intro port token has
    have still (task : Task HandlerStage Reply) (member : task ∈ world.tasks) :
        ∃ task' ∈ world.tasks.set i ⟨request, (handlerStep world.db stage).2⟩,
          task'.request = task.request := by
      have listed : task.request ∈ world.tasks.map (·.request) := List.mem_map_of_mem member
      rw [← requests] at listed
      exact List.mem_map.mp listed
    rcases owners port token has with old | ⟨req, rfl, named, bound⟩
    · obtain ⟨task, member, req, calls, rest⟩ := orderly.owners port token old
      obtain ⟨task', member', same⟩ := still task member
      exact ⟨task', member', req, same.trans calls, rest⟩
    · obtain ⟨task', member', same⟩ := still _ (List.mem_of_getElem? found)
      exact ⟨task', member', req, same, named, bound⟩
  · intro socket member
    rw [ports]
    rcases heard socket member with old | own
    · exact orderly.heard socket old
    · exact mem_boundPorts (List.mem_of_getElem? found) own
  · intro task member
    have distinct := orderly.distinct
    rw [tasks] at distinct
    rw [updated, List.mem_append, List.mem_cons] at member
    have others (member : task ∈ front ∨ task ∈ back) :
        InOrder (handlerStep world.db stage).1 task := by
      have old : task ∈ world.tasks := by
        rw [tasks]
        rcases member with before | after
        · simp [before]
        · simp [after]
      exact (orderly.inOrder task old).frame fun port binds =>
        frame port (boundPort_ne_of_split distinct member binds)
    rcases member with before | rfl | after
    · exact others (.inl before)
    · exact own
    · exact others (.inr after)

/-! ## What each access does to the ports -/

section Accesses

variable {state : RelayState} {port : UInt16}

theorem hasPort_unregister {token t : UInt32} :
    HasPort (unregisterSession state token) port t ↔ t ≠ token ∧ HasPort state port t := by
  have get : (unregisterSession state token).cache.get t = _ := state.cache.get_unregister token t
  simp only [HasPort, get]
  split_ifs with same <;> simp [same]

/-- Removing a session is about no other port, and takes its entry along. -/
theorem frame_unregister (unique : ∀ port t u, HasPort state port t → HasPort state port u → t = u)
    (token : UInt32) (port : UInt16) : Frame state (unregisterSession state token) port := by
  have lookup : (unregisterSession state token).cache.tokenByPort port = _ :=
    state.cache.tokenByPort_unregister token port
  constructor
  · intro t has
    exact (hasPort_unregister.mp has).2
  · intro none
    rw [lookup, none, ite_self]
  · intro t has
    obtain ⟨other, old⟩ := hasPort_unregister.mp has
    rw [lookup, if_neg]
    intro mine
    obtain ⟨info, live, on⟩ := Option.map_eq_some_iff.mp mine
    exact other (unique port t token old ⟨info, live, on⟩)
  · rfl

theorem stale_unregister (stale : ∀ port token, state.cache.tokenByPort port = some token →
      HasPort state port token) (token : UInt32) (port : UInt16) (t : UInt32)
    (listed : (unregisterSession state token).cache.tokenByPort port = some t) :
    HasPort (unregisterSession state token) port t := by
  have lookup : (unregisterSession state token).cache.tokenByPort port = _ :=
    state.cache.tokenByPort_unregister token port
  rw [lookup] at listed
  split_ifs at listed with mine
  have old := stale port t listed
  refine hasPort_unregister.mpr ⟨?_, old⟩
  rintro rfl
  obtain ⟨info, live, on⟩ := old
  exact mine (by rw [live, Option.map_some, on])

/-- Inserting a session. -/
def putSession (state : RelayState) (req : RegisterRequest) (port : UInt16) : RelayState :=
  { state with cache := state.cache.put req.sessionToken (req.session port) }

theorem hasPort_put {req : RegisterRequest} {p : UInt16} {t : UInt32} :
    HasPort (putSession state req p) port t ↔
      if t = req.sessionToken then port = p else HasPort state port t := by
  have get : (putSession state req p).cache.get t = _ := state.cache.get_put _ _ t
  simp only [HasPort, get]
  split_ifs with same
  · simp [RegisterRequest.session, SessionCache.newSession, eq_comm]
  · rfl

theorem frame_put {req : RegisterRequest} {p : UInt16} (other : port ≠ p) :
    Frame state (putSession state req p) port := by
  have same : (putSession state req p).cache.tokenByPort port = state.cache.tokenByPort port := rfl
  refine ⟨fun t has => ?_, fun none => same.trans none, fun _ _ => same, rfl⟩
  rw [hasPort_put] at has
  split_ifs at has
  · exact absurd has other
  · exact has

def mapPort (state : RelayState) (p : UInt16) (token : UInt32) : RelayState :=
  { state with cache := state.cache.insertPort p token }

theorem tokenByPort_mapPort (state : RelayState) (p : UInt16) (token : UInt32) (port : UInt16) :
    (mapPort state p token).cache.tokenByPort port =
      if port = p then some token else state.cache.tokenByPort port :=
  state.cache.tokenByPort_insertSession token
    (SessionCache.newSession token placeholderAddr [] [] ⟨p⟩ 0) p port

theorem frame_mapPort {p : UInt16} (token : UInt32) (other : port ≠ p) :
    Frame state (mapPort state p token) port := by
  have same : (mapPort state p token).cache.tokenByPort port = state.cache.tokenByPort port :=
    (tokenByPort_mapPort state p token port).trans (if_neg other)
  exact ⟨fun _ has => has, fun none => same.trans none, fun _ _ => same, rfl⟩

theorem frame_spawn {p : UInt16} (other : port ≠ p) :
    Frame state { state with listeners := ⟨p⟩ :: state.listeners } port := by
  refine ⟨fun _ has => has, fun none => none, fun _ _ => rfl, ?_⟩
  exact List.count_cons_of_ne (fun same => other (congrArg UdpSocket.localPort same).symm)

end Accesses

/-! ## Every access that finds its own session keeps the order -/

theorem boundPort_checkCapacity {req : RegisterRequest} {port : UInt16} :
    (HandlerStage.checkCapacity req).boundPort = some port ↔ req.bind = .bound port := by
  cases bound : req.bind <;> simp [HandlerStage.boundPort, bound]

/-- A step that leaves the state as it is. -/
theorem Orderly.advance_same (orderly : Orderly world) {i : Nat} {request stage : HandlerStage}
    (found : world.tasks[i]? = some ⟨request, .inl stage⟩)
    (same : (handlerStep world.db stage).1 = world.db)
    (own : InOrder world.db ⟨request, (handlerStep world.db stage).2⟩) :
    Orderly (handlers.worldStep world (.advance i)).1 := by
  refine orderly.advance found ?_ ?_ ?_ ?_ ?_
  all_goals rw [same]
  · exact fun port _ => Frame.refl world.db port
  · exact own
  · exact orderly.stale
  · exact fun port token has => .inl has
  · exact fun socket member => .inl member

/-- A step that removes a session. -/
theorem Orderly.advance_unregister (orderly : Orderly world) {i : Nat}
    {request stage : HandlerStage} (found : world.tasks[i]? = some ⟨request, .inl stage⟩)
    (token : UInt32) (removes : (handlerStep world.db stage).1 = unregisterSession world.db token)
    (own : InOrder (unregisterSession world.db token)
      ⟨request, (handlerStep world.db stage).2⟩) :
    Orderly (handlers.worldStep world (.advance i)).1 := by
  refine orderly.advance found ?_ ?_ ?_ ?_ ?_
  all_goals rw [removes]
  · exact fun port _ => frame_unregister (fun _ _ _ => orderly.token_unique) token port
  · exact own
  · exact stale_unregister orderly.stale token
  · exact fun port t has => .inl (hasPort_unregister.mp has).2
  · exact fun socket member => .inl member

/-- A registration before it has its port. -/
theorem Orderly.advance_waiting (orderly : Orderly world) {i : Nat} {req : RegisterRequest}
    {stage : HandlerStage}
    (early : stage = .checkCapacity req ∨ stage = .removeOld req ∨ stage = .awaitBind req)
    (found : world.tasks[i]? = some ⟨.checkCapacity req, .inl stage⟩)
    (untouched : ∀ port, req.bind = .bound port → Untouched world.db port) :
    Orderly (handlers.worldStep world (.advance i)).1 := by
  have refused (reply : Reply) : InOrder world.db ⟨.checkCapacity req, .inr reply⟩ :=
    .finished req reply fun port bound token has =>
      absurd has ((untouched port bound).unused token)
  rcases early with rfl | rfl | rfl
  · by_cases full : world.db.cache.maxSessions ≤ world.db.cache.activeCount
    · refine orderly.advance_same found ?_ ?_
      all_goals simp only [handlerStep, if_pos full]
      exact refused _
    · refine orderly.advance_same found ?_ ?_
      all_goals simp only [handlerStep, if_neg full]
      exact .waiting req _ (.inr (.inl rfl)) untouched
  · apply orderly.advance_unregister found req.sessionToken rfl
    refine .waiting req _ (.inr (.inr rfl)) fun port bound => (untouched port bound).frame ?_
    exact frame_unregister (fun _ _ _ => orderly.token_unique) _ port
  · cases bound : req.bind with
    | bound port =>
        refine orderly.advance_same found ?_ ?_
        all_goals simp only [handlerStep, bound]
        exact .bound req port bound (untouched port bound)
    | bindFailed =>
        refine orderly.advance_same found ?_ ?_
        all_goals simp only [handlerStep, bound]
        exact refused _
    | localAddrFailed =>
        refine orderly.advance_same found ?_ ?_
        all_goals simp only [handlerStep, bound]
        exact refused _

/-- The insertion of a session where there is none. -/
theorem Orderly.advance_insertSession (orderly : Orderly world) {i : Nat}
    {req : RegisterRequest} {port : UInt16} (bound : req.bind = .bound port)
    (found : world.tasks[i]? = some ⟨.checkCapacity req, .inl (.insertSession req port)⟩)
    (untouched : Untouched world.db port) (none' : world.db.cache.get req.sessionToken = none) :
    Orderly (handlers.worldStep world (.advance i)).1 := by
  have free (t : UInt32) (p : UInt16) (has : HasPort world.db p t) : t ≠ req.sessionToken := by
    rintro rfl
    obtain ⟨info, live, _⟩ := has
    rw [none'] at live
    cases live
  refine orderly.advance found ?_ (.inserted req port bound untouched.silent) ?_ ?_
    fun socket member => .inl member
  · intro p apart
    exact frame_put fun same => apart (boundPort_checkCapacity.mpr (same ▸ bound))
  · intro p t listed
    have old := orderly.stale p t listed
    exact hasPort_put.mpr (by rwa [if_neg (free t p old)])
  · intro p t has
    have cases := hasPort_put.mp has
    split_ifs at cases with same
    · exact .inr ⟨req, rfl, same.symm, cases ▸ bound⟩
    · exact .inl cases

/-- The port of the session that is still there. -/
theorem Orderly.advance_insertPort (orderly : Orderly world) {i : Nat} {req : RegisterRequest}
    {port : UInt16} (bound : req.bind = .bound port)
    (found : world.tasks[i]? = some ⟨.checkCapacity req, .inl (.insertPort req port)⟩)
    (silent : world.db.listeners.count ⟨port⟩ = 0)
    (mine : HasPort world.db port req.sessionToken) :
    Orderly (handlers.worldStep world (.advance i)).1 := by
  have lookup := tokenByPort_mapPort world.db port req.sessionToken
  refine orderly.advance found ?_ (.mapped req port bound silent ?_) ?_ ?_
    fun socket member => .inl member
  · intro p apart
    exact frame_mapPort _ fun same => apart (boundPort_checkCapacity.mpr (same ▸ bound))
  · intro t has
    obtain rfl : t = req.sessionToken := orderly.token_unique has mine
    exact (lookup port).trans (if_pos rfl)
  · intro p t listed
    have listed : (mapPort world.db port req.sessionToken).cache.tokenByPort p = some t := listed
    rw [lookup] at listed
    split_ifs at listed with same
    · obtain rfl := Option.some.inj listed
      exact same ▸ mine
    · exact orderly.stale p t listed
  · exact fun p t has => .inl has

/-- A registration finds its own session, or none and ends. -/
theorem Orderly.advance_lookUp (orderly : Orderly world) {i : Nat} {req : RegisterRequest}
    {port : UInt16} (bound : req.bind = .bound port)
    (found : world.tasks[i]? = some ⟨.checkCapacity req, .inl (.lookUp req port)⟩)
    (silent : world.db.listeners.count ⟨port⟩ = 0) (mapped : Mapped world.db port)
    (finds : ∀ session, world.db.cache.get req.sessionToken = some session →
      session.forwardSocket.localPort = port) :
    Orderly (handlers.worldStep world (.advance i)).1 := by
  cases live : world.db.cache.get req.sessionToken with
  | some session =>
      have own : session.forwardSocket = ⟨port⟩ := congrArg UdpSocket.mk (finds session live)
      refine orderly.advance_same found ?_ ?_
      all_goals simp only [handlerStep, live, own]
      exact .found req port bound silent mapped
  | none =>
      refine orderly.advance_same found ?_ ?_
      all_goals simp only [handlerStep, live]
      refine .finished req _ fun port' bound' token has => ?_
      -- The session on the port would be under the token that has none.
      obtain ⟨task, inWorld, req', calls, rfl, binds⟩ := orderly.owners port' token has
      have same := eq_of_boundPort orderly.distinct (List.mem_of_getElem? found) inWorld
        (boundPort_checkCapacity.mpr bound') (calls ▸ boundPort_checkCapacity.mpr binds)
      rw [← same] at calls
      cases calls
      obtain ⟨info, here, _⟩ := has
      rw [live] at here
      cases here

/-- The listener of a port nobody listens to. -/
theorem Orderly.advance_spawnListener (orderly : Orderly world) {i : Nat}
    {req : RegisterRequest} {port : UInt16} (bound : req.bind = .bound port)
    (found : world.tasks[i]? = some ⟨.checkCapacity req, .inl (.spawnListener req port ⟨port⟩)⟩)
    (silent : world.db.listeners.count ⟨port⟩ = 0) (mapped : Mapped world.db port) :
    Orderly (handlers.worldStep world (.advance i)).1 := by
  refine orderly.advance found ?_ (.finished req _ ?_) orderly.stale (fun p t has => .inl has) ?_
  · intro p apart
    exact frame_spawn fun same => apart (boundPort_checkCapacity.mpr (same ▸ bound))
  · intro port' bound' token has
    rw [bound] at bound'
    cases bound'
    refine ⟨?_, mapped token has⟩
    change (⟨port⟩ :: world.db.listeners).count ⟨port⟩ = 1
    rw [List.count_cons_self, silent]
  · intro socket member
    rcases List.mem_cons.mp member with rfl | old
    · exact .inr (boundPort_checkCapacity.mpr bound)
    · exact .inl old

theorem orderly_advance (orderly : Orderly world) {i : Nat} {request stage : HandlerStage}
    (found : world.tasks[i]? = some ⟨request, .inl stage⟩) (finds : FindsOwn world.db stage) :
    Orderly (handlers.worldStep world (.advance i)).1 := by
  cases orderly.inOrder _ (List.mem_of_getElem? found) with
  | unregister token =>
      exact orderly.advance_unregister found token rfl (.unregistered token .unregistered)
  | waiting req stage early untouched => exact orderly.advance_waiting early found untouched
  | bound req port bound untouched =>
      exact orderly.advance_insertSession bound found untouched finds
  | inserted req port bound silent =>
      obtain ⟨info, live, on⟩ := Option.map_eq_some_iff.mp finds
      exact orderly.advance_insertPort bound found silent ⟨info, live, on⟩
  | mapped req port bound silent mapped =>
      exact orderly.advance_lookUp bound found silent mapped finds
  | found req port bound silent mapped =>
      exact orderly.advance_spawnListener bound found silent mapped

/-- A new request whose port is new. -/
theorem orderly_submit (orderly : Orderly world) (call : ApiCall)
    (distinct : (boundPorts world.tasks ++
      [call.start].filterMap HandlerStage.boundPort).Nodup) :
    Orderly (handlers.worldStep world (.submit call.start)).1 := by
  have ports : boundPorts (world.tasks ++ [⟨call.start, .inl call.start⟩]) =
      boundPorts world.tasks ++ [call.start].filterMap HandlerStage.boundPort := by
    simp [boundPorts]
  constructor
  · change (boundPorts (world.tasks ++ _)).Nodup
    rw [ports]
    exact distinct
  · exact orderly.stale
  · intro port token has
    obtain ⟨task, member, rest⟩ := orderly.owners port token has
    exact ⟨task, List.mem_append.mpr (.inl member), rest⟩
  · intro socket member
    change socket.localPort ∈ boundPorts (world.tasks ++ _)
    rw [ports]
    exact List.mem_append.mpr (.inl (orderly.heard socket member))
  · intro task member
    rcases List.mem_append.mp member with old | new
    · exact orderly.inOrder task old
    · obtain rfl := List.mem_singleton.mp new
      cases call with
      | unregister token => exact .unregister token
      | register req =>
          refine .waiting req _ (.inl rfl) fun port bound => ?_
          have listed : port ∈ [ApiCall.start (.register req)].filterMap HandlerStage.boundPort :=
            List.mem_filterMap.mpr ⟨_, List.mem_singleton_self _, boundPort_checkCapacity.mpr bound⟩
          have new (old : port ∈ boundPorts world.tasks) : False :=
            (List.nodup_append.mp distinct).2.2 port old port listed rfl
          have unused (token : UInt32) (has : HasPort world.db port token) : False := by
            obtain ⟨task, member, req', calls, _, bound'⟩ := orderly.owners port token has
            exact new (mem_boundPorts member (calls ▸ boundPort_checkCapacity.mpr bound'))
          refine ⟨unused, ?_, ?_⟩
          · refine Option.eq_none_iff_forall_ne_some.mpr fun token listed => ?_
            exact unused token (orderly.stale port token listed)
          · exact List.count_eq_zero.mpr fun heard => new (orderly.heard _ heard)

/-- All requests of a run stay in order, as long as each finds its own session. -/
theorem orderly_run {schedule : List (Transaction.Event ApiCall)} (orderly : Orderly world)
    (distinct : (boundPorts world.tasks ++
      (Program.submitted (schedule.map (Event.map ApiCall.start))).filterMap
        HandlerStage.boundPort).Nodup)
    (finds : Machine.Legal (StepMeets FindsOwn) handlers.worldStep world
      (schedule.map (Event.map ApiCall.start))) (n : Nat) :
    Orderly (Machine.run handlers.worldStep world
      ((schedule.map (Event.map ApiCall.start)).take n)).1 := by
  induction schedule generalizing world n with
  | nil => simpa using orderly
  | cons event schedule ih =>
      cases n with
      | zero => exact orderly
      | succ n =>
          obtain ⟨here, later⟩ := finds
          rw [List.map_cons, Program.submitted_cons, List.filterMap_append, ← List.append_assoc]
            at distinct
          refine ih ?_ ?_ later n
          · cases event with
            | submit call => exact orderly_submit orderly call (List.nodup_append.mp distinct).1
            | advance i =>
                cases handlers.advance world i with
                | idle nothing after => exact after ▸ orderly
                | proceeds request stage db stage' found taken after =>
                    exact orderly_advance orderly found (stepMeets_advance.mp here _ _ found)
                | finishes request stage db reply found taken after =>
                    exact orderly_advance orderly found (stepMeets_advance.mp here _ _ found)
          · rw [boundPorts, Program.requests_worldStep, List.filterMap_append]
            exact distinct

/-- When nothing is in progress, an orderly state is clean. -/
theorem Orderly.clean (orderly : Orderly world) (finished : Program.pending world = []) :
    world.db.Clean := by
  have done (port : UInt16) (token : UInt32) (has : HasPort world.db port token) :
      world.db.listeners.count ⟨port⟩ = 1 ∧ world.db.cache.tokenByPort port = some token := by
    obtain ⟨task, member, req, calls, named, bound⟩ := orderly.owners port token has
    obtain ⟨request, stage⟩ := task
    obtain rfl : request = .checkCapacity req := calls
    cases stage with
    | inl running =>
        have pending : HandlerStage.checkCapacity req ∈ Program.pending world :=
          List.mem_filterMap.mpr ⟨_, member, rfl⟩
        rw [finished] at pending
        cases pending
    | inr reply =>
        cases orderly.inOrder _ member with
        | finished _ _ done => exact done port bound token has
  constructor
  · intro token info live
    exact (done info.forwardSocket.localPort token ⟨info, live, rfl⟩).1
  · intro port token
    exact ⟨orderly.stale port token, fun has => (done port token has).2⟩

/-- However the requests interleave: if none finds another's session in its way, then
whenever all have finished each live session has exactly one listener, and the reverse map
has exactly the ports of the live sessions. -/
theorem clean_of_finished (maxSessions : Nat) (sessionTimeout : Duration)
    {schedule : List (Transaction.Event ApiCall)}
    (distinct : ((Program.submitted schedule).filterMap (·.start.boundPort)).Nodup)
    (finds : Machine.Legal (StepMeets FindsOwn) handlers.worldStep
      (idle (start maxSessions sessionTimeout)) (schedule.map (Event.map ApiCall.start)))
    (n : Nat) :
    let world := (Machine.run handlers.worldStep (idle (start maxSessions sessionTimeout))
      ((schedule.map (Event.map ApiCall.start)).take n)).1
    Program.pending world = [] → world.db.Clean := by
  have orderly : Orderly (idle (start maxSessions sessionTimeout)) := by
    refine ⟨List.nodup_nil, ?_, ?_, ?_, ?_⟩
    · simp [idle, start]
    · rintro port token ⟨info, live, _⟩
      simp [idle, start] at live
    · simp [idle, start]
    · simp [idle]
  refine (orderly_run orderly ?_ finds n).clean
  rw [Program.submitted_map, List.filterMap_map]
  exact distinct

/-- Two tokens at once; then the first is removed and registered again. -/
def registeredAgain : List (Transaction.Event ApiCall) :=
  [.submit (.register (registrationOf 7 40000)), .submit (.register (registrationOf 8 40001)),
    .advance 0, .advance 1, .advance 0, .advance 1, .advance 0, .advance 1, .advance 0, .advance 1,
    .advance 0, .advance 1, .advance 0, .advance 1, .advance 0, .advance 1,
    .submit (.unregister 7), .submit (.register (registrationOf 7 40002)), .advance 3, .advance 2,
    .advance 3, .advance 3, .advance 3, .advance 3, .advance 3, .advance 3]

theorem clean_of_finished_registeredAgain :
    (Machine.run handlers.worldStep (idle (start 4 300))
      ((registeredAgain.map (Event.map ApiCall.start)).take 26)).1.db.Clean :=
  clean_of_finished 4 300 (by decide) (by decide) 26 (by decide)

/-- Two registrations of one token, step by step in turns. -/
def bothRegister : List (Transaction.Event ApiCall) :=
  [.submit (.register (registrationOf 7 40000)), .submit (.register (registrationOf 7 40001)),
    .advance 0, .advance 1, .advance 0, .advance 1, .advance 0, .advance 1, .advance 0, .advance 0,
    .advance 1, .advance 1, .advance 0, .advance 1, .advance 0, .advance 1]

/-- The session that is left has two listeners, and the other one's port is still mapped. -/
theorem bothRegister_not_clean :
    let world := (Machine.run handlers.worldStep (idle (start 4 300))
      (bothRegister.map (Event.map ApiCall.start))).1
    Program.pending world = [] ∧ world.db.cache.tokenByPort 40000 = some 7 ∧
      world.db.listeners.count ⟨40001⟩ = 2 ∧ ¬ world.db.Clean := by
  refine ⟨by decide, by decide, by decide, ?_⟩
  intro clean
  have once := clean.listeners 7 ((registrationOf 7 40001).session 40001) (by decide)
  exact absurd once (by decide)

end PlgBooster.Relay
