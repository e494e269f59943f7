import PlgBooster.Server.Billing

/-!
# Refresh tokens

`/api/auth/refresh` exchanges a stored refresh token for a new pair in three database steps:
it selects the row by the hash of what was presented, revokes that row with a blind update,
and inserts the new token. Each of the last two steps commits.

Two requests that have both selected a row before either revokes it both go on to issue a
pair. A row is exchanged at most once as long as every revoke still finds it unrevoked.
-/

namespace PlgBooster.Server

open Transaction
open scoped List

structure RefreshToken where
  id : Uuid
  userId : Uuid
  tokenHash : String
  expiresAt : DateTime
  revoked : Bool
  deriving DecidableEq, Repr

/-- The users, as far as a foreign key needs them, and the stored refresh tokens. -/
structure AuthDb where
  users : List Uuid
  refreshTokens : List RefreshToken
  deriving DecidableEq, Repr

structure TokenResponse where
  accessToken : String
  refreshToken : String
  deriving DecidableEq, Repr

/-- What the service takes from its libraries and settings: the hash of a token, the signed
access token of a user at some time, and how long a refresh token lasts. -/
structure TokenSettings where
  hashToken : String → String
  createAccessToken : Uuid → DateTime → String
  refreshTokenExpireDays : Int

/-- What a request draws on its way: the new token's value and key, and the three readings
of the clock. -/
structure RefreshDraws where
  newRefresh : String
  tokenId : Uuid
  verifiedAt : DateTime
  issuedAt : DateTime
  storedAt : DateTime
  deriving DecidableEq, Repr

/-- One request with the token it presents. -/
structure RefreshRequest extends RefreshDraws where
  refreshToken : String
  deriving DecidableEq, Repr

namespace AuthDb

/-- The stored tokens with a hash. -/
def tokensWith (db : AuthDb) (tokenHash : String) : List RefreshToken :=
  Table.select (·.tokenHash) tokenHash db.refreshTokens

/-- The select of `verify_refresh_token`. -/
def validTokens (db : AuthDb) (tokenHash : String) (now : DateTime) : List RefreshToken :=
  (db.tokensWith tokenHash).filter fun rt => rt.revoked = false ∧ now < rt.expiresAt

/-- The commit of `revoke_refresh_token`. -/
def revoke (db : AuthDb) (id : Uuid) : AuthDb :=
  { db with
    refreshTokens := Table.update (·.id) id (fun rt => { rt with revoked := true })
      db.refreshTokens }

/-- The constraints of the `refresh_tokens` table: the primary key and the foreign key. -/
def AcceptsToken (db : AuthDb) (row : RefreshToken) : Prop :=
  (∀ rt ∈ db.refreshTokens, rt.id ≠ row.id) ∧ row.userId ∈ db.users

instance (db : AuthDb) (row : RefreshToken) : Decidable (db.AcceptsToken row) :=
  inferInstanceAs (Decidable (_ ∧ _))

def insertToken (db : AuthDb) (row : RefreshToken) : AuthDb :=
  { db with refreshTokens := db.refreshTokens ++ [row] }

end AuthDb

/-- The next database step of a request, with the row it has read. -/
inductive RefreshStage where
  | select (req : RefreshRequest)
  | revoke (req : RefreshRequest) (rt : RefreshToken)
  | insert (req : RefreshRequest) (rt : RefreshToken)
  deriving DecidableEq, Repr

abbrev RefreshOutcome := Except ServiceError TokenResponse

section Handler

variable (settings : TokenSettings)

/-- The row that `store_refresh_token` inserts. -/
def storedToken (req : RefreshRequest) (rt : RefreshToken) (expiresAt : DateTime) :
    RefreshToken where
  id := req.tokenId
  userId := rt.userId
  tokenHash := settings.hashToken req.newRefresh
  expiresAt := expiresAt
  revoked := false

/-- The pair that is issued for a row. -/
def issuedPair (req : RefreshRequest) (rt : RefreshToken) : TokenResponse where
  accessToken := settings.createAccessToken rt.userId req.issuedAt
  refreshToken := req.newRefresh

/-- One database step of `refresh`. -/
def refreshStep (db : AuthDb) : RefreshStage → AuthDb × (RefreshStage ⊕ RefreshOutcome)
  | .select req =>
      (db, match scalarOneOrNone
          (db.validTokens (settings.hashToken req.refreshToken) req.verifiedAt) with
        | .error e => .inr (.error e)
        | .ok none => .inr (.error (.httpException 401 "Invalid or expired refresh token"))
        | .ok (some rt) => .inl (.revoke req rt))
  -- Revoke old token and issue new pair
  | .revoke req rt => (db.revoke rt.id, .inl (.insert req rt))
  | .insert req rt =>
      match addDays req.storedAt settings.refreshTokenExpireDays with
      | .error e => (db, .inr (.error e))
      | .ok expiresAt =>
          let row := storedToken settings req rt expiresAt
          if db.AcceptsToken row then (db.insertToken row, .inr (.ok (issuedPair settings req rt)))
          else (db, .inr (.error .integrityError))

def RefreshStage.rank : RefreshStage → Nat
  | .select _ => 2
  | .revoke _ _ => 1
  | .insert _ _ => 0

/-- The select finds the one row of the token, or the request ends with an error. -/
theorem refreshStep_select (db : AuthDb) (req : RefreshRequest) :
    (∃ e, refreshStep settings db (.select req) = (db, .inr (.error e))) ∨
    ∃ rt, db.validTokens (settings.hashToken req.refreshToken) req.verifiedAt = [rt] ∧
      refreshStep settings db (.select req) = (db, .inl (.revoke req rt)) := by
  cases found : scalarOneOrNone
      (db.validTokens (settings.hashToken req.refreshToken) req.verifiedAt) with
  | error e => exact .inl ⟨e, by simp only [refreshStep, found]⟩
  | ok row =>
      cases row with
      | none => exact .inl ⟨_, by simp only [refreshStep, found]; rfl⟩
      | some rt =>
          refine .inr ⟨rt, scalarOneOrNone_eq_some.mp found, ?_⟩
          simp only [refreshStep, found]

/-- The insert stores the new token, or the request ends with an error. -/
theorem refreshStep_insert (db : AuthDb) (req : RefreshRequest) (rt : RefreshToken) :
    (∃ expiresAt, addDays req.storedAt settings.refreshTokenExpireDays = .ok expiresAt ∧
      db.AcceptsToken (storedToken settings req rt expiresAt) ∧
      refreshStep settings db (.insert req rt) =
        (db.insertToken (storedToken settings req rt expiresAt),
          .inr (.ok (issuedPair settings req rt)))) ∨
    (∀ expiresAt, addDays req.storedAt settings.refreshTokenExpireDays = .ok expiresAt →
        ¬ db.AcceptsToken (storedToken settings req rt expiresAt)) ∧
      ∃ e, refreshStep settings db (.insert req rt) = (db, .inr (.error e)) := by
  cases computed : addDays req.storedAt settings.refreshTokenExpireDays with
  | error e =>
      refine .inr ⟨?_, e, by simp only [refreshStep, computed]⟩
      intro expiresAt date
      cases date
  | ok expiresAt =>
      by_cases accepted : db.AcceptsToken (storedToken settings req rt expiresAt)
      · refine .inl ⟨expiresAt, rfl, accepted, ?_⟩
        simp only [refreshStep, computed, if_pos accepted]
      · refine .inr ⟨?_, .integrityError, by simp only [refreshStep, computed, if_neg accepted]⟩
        intro other date
        obtain rfl := Except.ok.inj date
        exact accepted

/-- A request goes on with the one row it has selected, and then with that row revoked. -/
theorem refreshStep_eq_inl {db db' : AuthDb} {stage stage' : RefreshStage}
    (taken : refreshStep settings db stage = (db', .inl stage')) :
    (∃ req rt, stage = .select req ∧ stage' = .revoke req rt ∧ db' = db ∧
      db.validTokens (settings.hashToken req.refreshToken) req.verifiedAt = [rt]) ∨
    ∃ req rt, stage = .revoke req rt ∧ stage' = .insert req rt ∧ db' = db.revoke rt.id := by
  cases stage with
  | select req =>
      rcases refreshStep_select settings db req with ⟨e, refused⟩ | ⟨rt, found, goes⟩
      · cases refused.symm.trans taken
      · cases goes.symm.trans taken
        exact .inl ⟨req, rt, rfl, rfl, rfl, found⟩
  | revoke req rt =>
      obtain ⟨rfl, next⟩ := Prod.mk.inj taken
      exact .inr ⟨req, rt, rfl, (Sum.inl.inj next).symm, rfl⟩
  | insert req rt =>
      rcases refreshStep_insert settings db req rt with ⟨_, _, _, stored⟩ | ⟨_, e, failed⟩
      · cases stored.symm.trans taken
      · cases failed.symm.trans taken

theorem refreshStep_descends (db : AuthDb) (stage stage' : RefreshStage)
    (next : (refreshStep settings db stage).2 = .inl stage') : stage'.rank < stage.rank := by
  have taken : refreshStep settings db stage =
      ((refreshStep settings db stage).1, .inl stage') := by rw [← next]
  rcases refreshStep_eq_inl settings taken with ⟨req, rt, rfl, rfl, _⟩ | ⟨req, rt, rfl, rfl, _⟩
  · exact Nat.lt_succ_self _
  · exact Nat.lt_succ_self _

/-- `refresh` as a program over the table of refresh tokens. -/
def refresh : Program AuthDb RefreshStage RefreshOutcome where
  step := refreshStep settings
  rank := RefreshStage.rank
  descends := refreshStep_descends settings

/-- A request that ends has inserted the new token, or has changed nothing in its last step. -/
theorem refreshStep_eq_inr {db db' : AuthDb} {stage : RefreshStage} {outcome : RefreshOutcome}
    (taken : refreshStep settings db stage = (db', .inr outcome)) :
    (db' = db ∧ ∃ e, outcome = .error e) ∨
    ∃ req rt expiresAt, stage = .insert req rt ∧
      addDays req.storedAt settings.refreshTokenExpireDays = .ok expiresAt ∧
      db.AcceptsToken (storedToken settings req rt expiresAt) ∧
      db' = db.insertToken (storedToken settings req rt expiresAt) ∧
      outcome = .ok (issuedPair settings req rt) := by
  cases stage with
  | select req =>
      rcases refreshStep_select settings db req with ⟨e, refused⟩ | ⟨rt, _, goes⟩
      · cases refused.symm.trans taken
        exact .inl ⟨rfl, e, rfl⟩
      · cases goes.symm.trans taken
  | revoke req rt => cases (Prod.mk.inj taken).2
  | insert req rt =>
      rcases refreshStep_insert settings db req rt with
        ⟨expiresAt, computed, accepted, stored⟩ | ⟨_, e, failed⟩
      · cases stored.symm.trans taken
        exact .inr ⟨req, rt, expiresAt, rfl, computed, accepted, rfl, rfl⟩
      · cases failed.symm.trans taken
        exact .inl ⟨rfl, e, rfl⟩

/-! ## One request at a time -/

/-- All that a request has to find for its exchange to succeed. -/
structure Exchanges (db : AuthDb) (req : RefreshRequest) (rt : RefreshToken)
    (expiresAt : DateTime) : Prop where
  found : db.validTokens (settings.hashToken req.refreshToken) req.verifiedAt = [rt]
  expiry : addDays req.storedAt settings.refreshTokenExpireDays = .ok expiresAt
  accepted : db.AcceptsToken (storedToken settings req rt expiresAt)

theorem acceptsToken_revoke {db : AuthDb} {row : RefreshToken} (id : Uuid) :
    (db.revoke id).AcceptsToken row ↔ db.AcceptsToken row := by
  have ids : (db.revoke id).refreshTokens.map (·.id) = db.refreshTokens.map (·.id) :=
    Table.map_update (f := fun rt : RefreshToken => { rt with revoked := true }) (fun _ => rfl) id
      db.refreshTokens
  have fresh (tokens : List RefreshToken) :
      (∀ rt ∈ tokens, rt.id ≠ row.id) ↔ row.id ∉ tokens.map (·.id) := by
    simp
  simp only [AuthDb.AcceptsToken, fresh, ids]
  rfl

/-- A successful exchange revokes the row and stores the new token. -/
theorem exec_of_exchanges {db : AuthDb} {req : RefreshRequest} {rt : RefreshToken}
    {expiresAt : DateTime} (exchanges : Exchanges settings db req rt expiresAt) :
    (refresh settings).exec db (.select req) =
      ((db.revoke rt.id).insertToken (storedToken settings req rt expiresAt),
        some (.ok (issuedPair settings req rt))) := by
  have selected : refreshStep settings db (.select req) = (db, .inl (.revoke req rt)) := by
    simp only [refreshStep, exchanges.found, scalarOneOrNone]
  have inserted : refreshStep settings (db.revoke rt.id) (.insert req rt) =
      ((db.revoke rt.id).insertToken (storedToken settings req rt expiresAt),
        .inr (.ok (issuedPair settings req rt))) := by
    simp only [refreshStep, exchanges.expiry,
      if_pos ((acceptsToken_revoke rt.id).mpr exchanges.accepted)]
  calc (refresh settings).exec db (.select req)
      = (refresh settings).exec db (.revoke req rt) :=
        (refresh settings).exec_of_step_inl selected
    _ = (refresh settings).exec (db.revoke rt.id) (.insert req rt) :=
        (refresh settings).exec_of_step_inl rfl
    _ = _ := (refresh settings).exec_of_step_inr inserted

/-- A token that is not there, is revoked or has expired is refused. -/
theorem exec_refused {db : AuthDb} {req : RefreshRequest}
    (invalid : db.validTokens (settings.hashToken req.refreshToken) req.verifiedAt = []) :
    (refresh settings).exec db (.select req) =
      (db, some (.error (.httpException 401 "Invalid or expired refresh token"))) := by
  apply (refresh settings).exec_of_step_inr
  simp only [refresh, refreshStep, invalid, scalarOneOrNone]

/-! ## Requests that interleave -/

/-- The stored tokens that have been exchanged so far, with what was issued for them. -/
abbrev Exchanged := List (Uuid × TokenResponse)

/-- An exchange is over when its insert succeeds. -/
def recordExchange (world : World AuthDb RefreshStage RefreshOutcome) :
    Event RefreshStage → Exchanged → Exchanged
  | .submit _, past => past
  | .advance i, past =>
      match world.tasks[i]? with
      | some ⟨_, .inl (.insert req rt)⟩ =>
          match (refreshStep settings world.db (.insert req rt)).2 with
          | .inr (.ok response) => (rt.id, response) :: past
          | _ => past
      | _ => past

/-- All exchanges of a run. -/
def exchanges (db : AuthDb) (schedule : List (Event RefreshStage)) : Exchanged :=
  Machine.history (recordExchange settings) (refresh settings).worldStep ⟨db, []⟩ schedule []

/-- A request starts with its select, and a revoke still finds its row unrevoked. -/
def StillUnrevoked (world : World AuthDb RefreshStage RefreshOutcome) :
    Event RefreshStage → Prop
  | .submit (.select _) => True
  | .submit _ => False
  | .advance i =>
      match world.tasks[i]? with
      | some ⟨_, .inl (.revoke _ rt)⟩ =>
          ∀ row ∈ world.db.refreshTokens, row.id = rt.id → row.revoked = false
      | _ => True

instance (world : World AuthDb RefreshStage RefreshOutcome) (event : Event RefreshStage) :
    Decidable (StillUnrevoked world event) := by
  unfold StillUnrevoked
  split
  · infer_instance
  · infer_instance
  · split <;> infer_instance

/-- The row a request has revoked and has still to exchange. -/
def claim (task : Task RefreshStage RefreshOutcome) : Option Uuid :=
  match task.stage with
  | .inl (.insert _ rt) => some rt.id
  | _ => none

/-- The rows that have been exchanged or will be next. -/
def claimed (world : World AuthDb RefreshStage RefreshOutcome) (past : Exchanged) : List Uuid :=
  past.map Prod.fst ++ world.tasks.filterMap claim

/-- Each row is claimed once, and a claimed row is there and is revoked. -/
structure Claims (db : AuthDb) (ids : List Uuid) : Prop where
  once : ids.Nodup
  stored : ∀ id ∈ ids, ∃ row ∈ db.refreshTokens, row.id = id
  revoked : ∀ id ∈ ids, ∀ row ∈ db.refreshTokens, row.id = id → row.revoked = true

/-- What a request is about to revoke is there. -/
def Selected (world : World AuthDb RefreshStage RefreshOutcome) : Prop :=
  ∀ task ∈ world.tasks, ∀ req rt, task.stage = .inl (.revoke req rt) →
    ∃ row ∈ world.db.refreshTokens, row.id = rt.id

/-- Where a run stands: its claims are in order, and so is what is still to be revoked. -/
def Accounted (world : World AuthDb RefreshStage RefreshOutcome) (past : Exchanged) : Prop :=
  Claims world.db (claimed world past) ∧ Selected world

theorem mem_revoke {db : AuthDb} {id : Uuid} {row : RefreshToken} :
    row ∈ (db.revoke id).refreshTokens ↔
      (∃ rt ∈ db.refreshTokens, rt.id = id ∧ { rt with revoked := true } = row) ∨
        row ∈ db.refreshTokens ∧ row.id ≠ id :=
  Table.mem_update

/-- A revoke keeps the keys. -/
theorem exists_mem_revoke {db : AuthDb} {id id' : Uuid}
    (stored : ∃ row ∈ db.refreshTokens, row.id = id') :
    ∃ row ∈ (db.revoke id).refreshTokens, row.id = id' := by
  obtain ⟨row, member, rfl⟩ := stored
  by_cases same : row.id = id
  · exact ⟨_, mem_revoke.mpr (.inl ⟨row, member, same, rfl⟩), rfl⟩
  · exact ⟨row, mem_revoke.mpr (.inr ⟨member, same⟩), rfl⟩

theorem Claims.of_subset {db : AuthDb} {ids ids' : List Uuid} (claims : Claims db ids)
    (once : ids'.Nodup) (fewer : ids' ⊆ ids) : Claims db ids' :=
  ⟨once, fun id member => claims.stored id (fewer member),
    fun id member => claims.revoked id (fewer member)⟩

theorem Claims.of_perm {db : AuthDb} {ids ids' : List Uuid} (claims : Claims db ids)
    (same : ids' ~ ids) : Claims db ids' :=
  claims.of_subset (same.nodup_iff.mpr claims.once) same.subset

/-- A revoke that finds its row unrevoked claims it. -/
theorem Claims.revoke {db : AuthDb} {ids : List Uuid} (claims : Claims db ids) {id : Uuid}
    (stored : ∃ row ∈ db.refreshTokens, row.id = id)
    (unrevoked : ∀ row ∈ db.refreshTokens, row.id = id → row.revoked = false) :
    Claims (db.revoke id) (id :: ids) := by
  have new : id ∉ ids := by
    intro member
    obtain ⟨row, inTable, same⟩ := stored
    have before := claims.revoked id member row inTable same
    rw [unrevoked row inTable same] at before
    cases before
  refine ⟨List.nodup_cons.mpr ⟨new, claims.once⟩, ?_, ?_⟩
  · intro id' member
    apply exists_mem_revoke
    rcases List.mem_cons.mp member with rfl | earlier
    · exact stored
    · exact claims.stored id' earlier
  · intro id' member row inTable same
    rcases mem_revoke.mp inTable with ⟨rt, _, _, rfl⟩ | ⟨inTable, other⟩
    · rfl
    · rcases List.mem_cons.mp member with rfl | earlier
      · exact absurd same other
      · exact claims.revoked id' earlier row inTable same

/-- A new token has a key of its own. -/
theorem Claims.insert {db : AuthDb} {ids : List Uuid} (claims : Claims db ids)
    {row : RefreshToken} (accepted : db.AcceptsToken row) : Claims (db.insertToken row) ids := by
  refine ⟨claims.once, fun id member => ?_, fun id member other inTable same => ?_⟩
  · obtain ⟨other, inTable, same⟩ := claims.stored id member
    exact ⟨other, List.mem_append_left _ inTable, same⟩
  · rcases List.mem_append.mp inTable with before | new
    · exact claims.revoked id member other before same
    · obtain rfl := List.mem_singleton.mp new
      obtain ⟨old, inTable, sameId⟩ := claims.stored id member
      exact absurd (sameId.trans same.symm) (accepted.1 old inTable)

/-- What is recorded when a task takes its next step. -/
theorem recordExchange_advance {world : World AuthDb RefreshStage RefreshOutcome} {i : Nat}
    {request stage : RefreshStage} (found : world.tasks[i]? = some ⟨request, .inl stage⟩)
    (past : Exchanged) :
    recordExchange settings world (.advance i) past =
      match stage, (refreshStep settings world.db stage).2 with
      | .insert _ rt, .inr (.ok response) => (rt.id, response) :: past
      | _, _ => past := by
  cases stage with
  | insert req rt =>
      simp only [recordExchange, found]
      cases (refreshStep settings world.db (.insert req rt)).2 with
      | inl stage => rfl
      | inr outcome => cases outcome <;> rfl
  | select req => simp only [recordExchange, found]
  | revoke req rt => simp only [recordExchange, found]

/-- The claims before and after a step of one task. -/
theorem claimed_set {tasks : List (Task RefreshStage RefreshOutcome)} {i : Nat}
    {task : Task RefreshStage RefreshOutcome} (found : tasks[i]? = some task)
    (task' : Task RefreshStage RefreshOutcome) :
    ∃ rest, tasks.filterMap claim ~ (claim task).toList ++ rest ∧
      (tasks.set i task').filterMap claim ~ (claim task').toList ++ rest := by
  obtain ⟨front, back, split, updated⟩ := Program.split_of_getElem? found task'
  have around (t : Task RefreshStage RefreshOutcome) :
      (front ++ t :: back).filterMap claim ~
        (claim t).toList ++ (front.filterMap claim ++ back.filterMap claim) := by
    rw [List.filterMap_append, List.filterMap_cons]
    cases claim t with
    | none => exact .refl _
    | some id => exact List.perm_middle
  exact ⟨_, split ▸ around task, updated ▸ around task'⟩

theorem selected_set {db db' : AuthDb} {tasks : List (Task RefreshStage RefreshOutcome)}
    (selected : Selected ⟨db, tasks⟩)
    (kept : ∀ id, (∃ row ∈ db.refreshTokens, row.id = id) →
      ∃ row ∈ db'.refreshTokens, row.id = id) {i : Nat}
    {task : Task RefreshStage RefreshOutcome}
    (new : ∀ req rt, task.stage = .inl (.revoke req rt) →
      ∃ row ∈ db.refreshTokens, row.id = rt.id) :
    Selected ⟨db', tasks.set i task⟩ := by
  intro other member req rt stage
  apply kept
  rcases List.mem_or_eq_of_mem_set member with old | rfl
  · exact selected other old req rt stage
  · exact new req rt stage

/-- A new task claims nothing. -/
theorem accounted_submit {world : World AuthDb RefreshStage RefreshOutcome} {past : Exchanged}
    (accounted : Accounted world past) (req : RefreshRequest) :
    Accounted ((refresh settings).worldStep world (.submit (.select req))).1
      (recordExchange settings world (.submit (.select req)) past) := by
  obtain ⟨claims, selected⟩ := accounted
  refine ⟨claims.of_perm ?_, ?_⟩
  · simp only [claimed, Program.worldStep, recordExchange, List.filterMap_append]
    exact .of_eq (congrArg _ (List.append_nil _))
  · intro task member req' rt stage
    rcases List.mem_append.mp member with old | new
    · exact selected task old req' rt stage
    · obtain rfl := List.mem_singleton.mp new
      cases stage

/-- A task that goes on has selected its row, or claims it. -/
theorem accounted_proceeds {world : World AuthDb RefreshStage RefreshOutcome} {past : Exchanged}
    (accounted : Accounted world past) {i : Nat} {request stage stage' : RefreshStage} {db : AuthDb}
    (found : world.tasks[i]? = some ⟨request, .inl stage⟩)
    (taken : refreshStep settings world.db stage = (db, .inl stage'))
    (unrevoked : StillUnrevoked world (.advance i)) :
    Accounted ⟨db, world.tasks.set i ⟨request, .inl stage'⟩⟩
      (recordExchange settings world (.advance i) past) := by
  obtain ⟨claims, selected⟩ := accounted
  obtain ⟨rest, before, behind⟩ := claimed_set found ⟨request, .inl stage'⟩
  have result : (refreshStep settings world.db stage).2 = .inl stage' := congrArg Prod.snd taken
  rw [recordExchange_advance settings found, result]
  rcases refreshStep_eq_inl settings taken with
    ⟨req, rt, rfl, rfl, rfl, valid⟩ | ⟨req, rt, rfl, rfl, rfl⟩
  · refine ⟨claims.of_perm ((behind.trans before.symm).append_left _), ?_⟩
    refine selected_set selected (fun _ stored => stored) fun req' rt' here => ?_
    cases here
    have read : rt ∈ world.db.validTokens _ _ := valid ▸ List.mem_singleton_self rt
    exact ⟨rt, (Table.mem_select.mp (List.mem_filter.mp read).1).1, rfl⟩
  · refine ⟨?_, selected_set selected (fun _ => exists_mem_revoke) (by simp)⟩
    have stored := selected _ (List.mem_of_getElem? found) req rt rfl
    simp only [StillUnrevoked, found] at unrevoked
    apply (claims.revoke stored unrevoked).of_perm
    calc past.map Prod.fst ++ (world.tasks.set i _).filterMap claim
        ~ past.map Prod.fst ++ ([rt.id] ++ rest) := behind.append_left _
      _ ~ rt.id :: (past.map Prod.fst ++ rest) := List.perm_middle
      _ ~ rt.id :: (past.map Prod.fst ++ world.tasks.filterMap claim) :=
        (before.symm.append_left _).cons _

/-- A task that ends gives up its claim, for an exchange or for nothing. -/
theorem accounted_finishes {world : World AuthDb RefreshStage RefreshOutcome} {past : Exchanged}
    (accounted : Accounted world past) {i : Nat} {request stage : RefreshStage} {db : AuthDb}
    {outcome : RefreshOutcome} (found : world.tasks[i]? = some ⟨request, .inl stage⟩)
    (taken : refreshStep settings world.db stage = (db, .inr outcome)) :
    Accounted ⟨db, world.tasks.set i ⟨request, .inr outcome⟩⟩
      (recordExchange settings world (.advance i) past) := by
  obtain ⟨claims, selected⟩ := accounted
  obtain ⟨rest, before, behind⟩ := claimed_set found ⟨request, .inr outcome⟩
  have result : (refreshStep settings world.db stage).2 = .inr outcome := congrArg Prod.snd taken
  rw [recordExchange_advance settings found, result]
  rcases refreshStep_eq_inr settings taken with
    ⟨rfl, e, rfl⟩ | ⟨req, rt, expiresAt, rfl, _, accepted, rfl, rfl⟩
  · refine ⟨?_, selected_set selected (fun _ stored => stored) (by simp)⟩
    have fewer : past.map Prod.fst ++ rest <+
        past.map Prod.fst ++ ((claim ⟨request, .inl stage⟩).toList ++ rest) :=
      (List.sublist_append_right _ rest).append_left _
    have old := claims.of_perm (before.symm.append_left _)
    have kept := (old.of_subset (fewer.nodup old.once) fewer.subset).of_perm
      (behind.append_left _)
    cases stage <;> exact kept
  · refine ⟨?_, selected_set selected ?_ (by simp)⟩
    · apply (claims.insert accepted).of_perm
      calc rt.id :: (past.map Prod.fst ++ (world.tasks.set i _).filterMap claim)
          ~ rt.id :: (past.map Prod.fst ++ rest) := (behind.append_left _).cons _
        _ ~ past.map Prod.fst ++ ([rt.id] ++ rest) := List.perm_middle.symm
        _ ~ past.map Prod.fst ++ world.tasks.filterMap claim :=
          before.symm.append_left _
    · rintro id ⟨row, inTable, same⟩
      exact ⟨row, List.mem_append_left _ inTable, same⟩

/-- A step in which a revoke finds its row unrevoked keeps the claims in order. -/
theorem accounted_step (world : World AuthDb RefreshStage RefreshOutcome)
    (event : Event RefreshStage) (past : Exchanged) (accounted : Accounted world past)
    (unrevoked : StillUnrevoked world event) :
    Accounted ((refresh settings).worldStep world event).1
      (recordExchange settings world event past) := by
  cases event with
  | submit stage =>
      cases stage with
      | select req => exact accounted_submit settings accounted req
      | revoke req rt => exact unrevoked.elim
      | insert req rt => exact unrevoked.elim
  | advance i =>
      cases (refresh settings).advance world i with
      | idle nothing after =>
          have same : recordExchange settings world (.advance i) past = past := by
            simp only [recordExchange]
            split
            next found => exact absurd found (nothing _ _)
            next => rfl
          simp only [after, same]
          exact accounted
      | proceeds request stage db stage' found taken after =>
          simp only [after]
          exact accounted_proceeds settings accounted found taken unrevoked
      | finishes request stage db outcome found taken after =>
          simp only [after]
          exact accounted_finishes settings accounted found taken

/-- If every revoke still finds its row unrevoked, no stored token is exchanged twice, in any
state of any run. -/
theorem exchanged_once (db : AuthDb) {schedule : List (Event RefreshStage)}
    (unrevoked : Machine.Legal StillUnrevoked (refresh settings).worldStep ⟨db, []⟩ schedule)
    (n : Nat) : ((exchanges settings db (schedule.take n)).map Prod.fst).Nodup := by
  rw [← List.take_append_drop n schedule, Machine.legal_append] at unrevoked
  have start : Accounted ⟨db, []⟩ [] :=
    ⟨⟨List.nodup_nil, by simp [claimed], by simp [claimed]⟩, by simp [Selected]⟩
  obtain ⟨claims, _⟩ := Machine.run_history_invariant (accounted_step settings) start unrevoked.1
  exact (List.nodup_append.mp claims.once).1

end Handler

/-- The settings of a service whose hash and access tokens are plain text. -/
def plainSettings : TokenSettings where
  hashToken := id
  createAccessToken := fun userId now => toString userId ++ " at " ++ toString now
  refreshTokenExpireDays := 7

/-- User 1 holds the refresh token `r`. -/
def oneToken : AuthDb where
  users := [1]
  refreshTokens := [⟨10, 1, "r", 1000, false⟩]

def requestOf (newRefresh : String) (tokenId : Uuid) : RefreshStage :=
  .select ⟨⟨newRefresh, tokenId, 1, 2, 3⟩, "r"⟩

/-- The second request selects the token once the first has revoked it. -/
def oneAfterAnother : List (Event RefreshStage) :=
  [.submit (requestOf "s" 11), .submit (requestOf "t" 12), .advance 0, .advance 0, .advance 1,
    .advance 0]

theorem exchanged_once_oneAfterAnother :
    (exchanges plainSettings oneToken (oneAfterAnother.take 6)).map Prod.fst = [10] ∧
      ((exchanges plainSettings oneToken (oneAfterAnother.take 6)).map Prod.fst).Nodup :=
  ⟨by decide, exchanged_once plainSettings oneToken (by decide) 6⟩

/-- Both requests select the token before either revokes it. -/
def bothSelect : List (Event RefreshStage) :=
  [.submit (requestOf "s" 11), .submit (requestOf "t" 12), .advance 0, .advance 1, .advance 0,
    .advance 1, .advance 0, .advance 1]

/-- The token buys two pairs. -/
theorem two_pairs_for_one_token :
    ¬ ((exchanges plainSettings oneToken bothSelect).map Prod.fst).Nodup := by
  decide

end PlgBooster.Server
