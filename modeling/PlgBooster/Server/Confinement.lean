import PlgBooster.Server.Accounts

/-!
# Whose tokens a request gets

Several parties send requests, all at once. A party is let in as a user by registering the
account or by giving its password; from then on it can go on with the refresh tokens it is
given, and it may present any other string that is not a stored token. As long as new refresh
tokens are new, every pair a party gets is of a user it was let in as, whatever the other
parties do meanwhile.
-/

namespace PlgBooster.Server

open Transaction

abbrev Party := Nat

/-- What the parties have come by. -/
structure Grants where
  /-- The users a party has registered or logged in as. -/
  letIn : List (Party × Uuid)
  /-- The refresh tokens a party was given. -/
  given : List (Party × String)
  deriving DecidableEq, Repr

/-- The requests that run, and what has come of those before. -/
structure Watched where
  world : World AccountDb AuthStage RefreshOutcome
  grants : Grants

/-- The user a request acts for, once it knows. -/
def AuthStage.onBehalf : AuthStage → Option Uuid
  | .storeToken userId _ => some userId
  | .refresh (.revoke _ rt) => some rt.userId
  | .refresh (.insert _ rt) => some rt.userId
  | _ => none

/-- The refresh token a step stores, if it succeeds. -/
def AuthStage.drawn : AuthStage → Option String
  | .storeToken _ draws => some draws.newRefresh
  | .refresh (.insert req _) => some req.newRefresh
  | _ => none

section Watching

variable (settings : TokenSettings) (context : PasswordContext)

/-- The user a step lets its party in as: it inserts the account, or finds the password right. -/
def userLetIn (db : AccountDb) : AuthStage → Option Uuid
  | .registerInsert body draws =>
      if db.AcceptsAccount (body.account context draws) then some draws.userId else none
  | .loginSelect body _ =>
      match db.accountsWith body.email with
      | [account] =>
          if context.verify body.password account.passwordHash then some account.id else none
      | _ => none
  | _ => none

/-- The refresh token a step answers with. -/
def tokenGiven (db : AccountDb) (stage : AuthStage) : Option String :=
  match (authStep settings context db stage).2 with
  | .inr (.ok response) => some response.refreshToken
  | _ => none

/-- What a party has after a step of one of its requests. -/
def Grants.after (grants : Grants) (party : Party) (db : AccountDb) (stage : AuthStage) :
    Grants where
  letIn := ((userLetIn context db stage).map fun user => (party, user)).toList ++ grants.letIn
  given := ((tokenGiven settings context db stage).map fun token => (party, token)).toList ++
    grants.given

/-- A step of the service; the request with number `i` is of the party `sender i`. -/
def watchedStep (sender : Nat → Party) (state : Watched) (event : Event AuthRequest) :
    Watched × List Empty :=
  ({ world := ((auth settings context).worldStep state.world (event.map AuthRequest.start)).1
     grants :=
      match event with
      | .submit _ => state.grants
      | .advance i =>
          match state.world.tasks[i]? with
          | some ⟨_, .inl stage⟩ =>
              state.grants.after settings context (sender i) state.world.db stage
          | _ => state.grants }, [])

/-- A party presents what it was given, or what is no stored token. -/
def Presents (grants : Grants) (party : Party) (db : AccountDb) : AuthStage → Prop
  | .refresh (.select req) =>
      (party, req.refreshToken) ∈ grants.given ∨
        db.auth.tokensWith (settings.hashToken req.refreshToken) = []
  | _ => True

/-- Nobody guesses a token, and what is drawn as a new token is not stored yet. -/
def Unguessed (sender : Nat → Party) (state : Watched) : Event AuthRequest → Prop
  | .submit _ => True
  | .advance i =>
      match state.world.tasks[i]? with
      | some ⟨_, .inl stage⟩ =>
          Presents settings state.grants (sender i) state.world.db stage ∧
            ∀ token ∈ stage.drawn,
              state.world.db.auth.tokensWith (settings.hashToken token) = []
      | _ => True

instance (grants : Grants) (party : Party) (db : AccountDb) (stage : AuthStage) :
    Decidable (Presents settings grants party db stage) := by
  unfold Presents
  split <;> infer_instance

instance (sender : Nat → Party) (state : Watched) (event : Event AuthRequest) :
    Decidable (Unguessed settings sender state event) := by
  unfold Unguessed
  split
  · infer_instance
  · split <;> infer_instance

variable {settings context}

/-! ## The users of the stored tokens -/

/-- The users of the tokens with a hash. -/
def holders (db : AccountDb) (hash : String) : List Uuid :=
  (db.auth.tokensWith hash).map (·.userId)

theorem holders_revoke (db : AccountDb) (id : Uuid) (hash : String) :
    holders { db with refreshTokens := (db.auth.revoke id).refreshTokens } hash =
      holders db hash := by
  have selected : (db.auth.revoke id).tokensWith hash =
      Table.update (·.id) id (fun rt => { rt with revoked := true }) (db.auth.tokensWith hash) :=
    Table.select_update_of_keeps (f := fun rt : RefreshToken => { rt with revoked := true })
      (fun _ => rfl) hash id db.refreshTokens
  change ((db.auth.revoke id).tokensWith hash).map (·.userId) = _
  rw [selected]
  exact Table.map_update (f := fun rt : RefreshToken => { rt with revoked := true })
    (fun _ => rfl) id _

theorem holders_insert (db : AccountDb) (row : RefreshToken) (hash : String) :
    holders { db with refreshTokens := db.refreshTokens ++ [row] } hash =
      holders db hash ++ if row.tokenHash = hash then [row.userId] else [] := by
  simp only [holders, AuthDb.tokensWith, AccountDb.auth, Table.select, List.filter_append,
    List.map_append]
  by_cases same : row.tokenHash = hash <;> simp [same]

/-! ## What every state keeps -/

/-- A request only acts for a user its party was let in as, a given token is one of such a
user, and so is every pair that was answered. -/
structure Confined (settings : TokenSettings) (sender : Nat → Party) (state : Watched) :
    Prop where
  acting : ∀ (i : Nat) request stage, state.world.tasks[i]? = some ⟨request, .inl stage⟩ →
    ∀ user ∈ stage.onBehalf, (sender i, user) ∈ state.grants.letIn
  holding : ∀ party token, (party, token) ∈ state.grants.given →
    holders state.world.db (settings.hashToken token) ≠ [] ∧
      ∀ user ∈ holders state.world.db (settings.hashToken token),
        (party, user) ∈ state.grants.letIn
  answered : ∀ (i : Nat) request response,
    state.world.tasks[i]? = some ⟨request, .inr (.ok response)⟩ →
    ∃ user now, (sender i, user) ∈ state.grants.letIn ∧
      response.accessToken = settings.createAccessToken user now

theorem confined_start (sender : Nat → Party) (db : AccountDb) :
    Confined settings sender ⟨⟨db, []⟩, ⟨[], []⟩⟩ where
  acting := by simp
  holding := by simp
  answered := by simp

/-- A task after the step of a task. -/
theorem getElem?_set_cases {κ ρ : Type} {tasks : List (Task κ ρ)} {i j : Nat}
    {task task' : Task κ ρ} (found : (tasks.set i task')[j]? = some task) :
    j = i ∧ task = task' ∨ tasks[j]? = some task := by
  rw [List.getElem?_set] at found
  split_ifs at found with same inside
  · exact .inl ⟨same.symm, (Option.some.inj found).symm⟩
  · exact .inr found

variable {sender : Nat → Party} {state : Watched}

/-- A step of the task `i` that stores no token keeps the confinement, if the task goes on for a
user its party was let in as, or ends without a pair. -/
theorem Confined.step_quiet (confined : Confined settings sender state) {i : Nat}
    {task : Task AuthStage RefreshOutcome} {db : AccountDb} {letIn : List (Party × Uuid)}
    (grown : state.grants.letIn ⊆ letIn)
    (same : ∀ hash, holders db hash = holders state.world.db hash)
    (acts : ∀ stage, task.stage = .inl stage → ∀ user ∈ stage.onBehalf, (sender i, user) ∈ letIn)
    (quiet : ∀ response, task.stage ≠ .inr (.ok response)) :
    Confined settings sender
      ⟨⟨db, state.world.tasks.set i task⟩, ⟨letIn, state.grants.given⟩⟩ where
  acting j request stage found user behalf := by
    rcases getElem?_set_cases found with ⟨rfl, here⟩ | old
    · exact acts stage (by rw [← here]) user behalf
    · exact grown (confined.acting j request stage old user behalf)
  holding party token given := by
    obtain ⟨stored, users⟩ := confined.holding party token given
    rw [same]
    exact ⟨stored, fun user member => grown (users user member)⟩
  answered j request response found := by
    rcases getElem?_set_cases found with ⟨rfl, here⟩ | old
    · exact absurd (by rw [← here]) (quiet response)
    · obtain ⟨user, now, member, access⟩ := confined.answered j request response old
      exact ⟨user, now, grown member, access⟩

/-- A step that stores a new token of a user its party was let in as, and answers with it. -/
theorem Confined.step_stores (confined : Confined settings sender state) {i : Nat}
    {request : AuthStage} {row : RefreshToken} {response : TokenResponse} {now : DateTime}
    (letIn : (sender i, row.userId) ∈ state.grants.letIn)
    (hashed : row.tokenHash = settings.hashToken response.refreshToken)
    (access : response.accessToken = settings.createAccessToken row.userId now)
    (fresh : state.world.db.auth.tokensWith (settings.hashToken response.refreshToken) = []) :
    Confined settings sender
      ⟨⟨{ state.world.db with refreshTokens := state.world.db.refreshTokens ++ [row] },
        state.world.tasks.set i ⟨request, .inr (.ok response)⟩⟩,
        ⟨state.grants.letIn, (sender i, response.refreshToken) :: state.grants.given⟩⟩ where
  acting j request' stage found user behalf := by
    rcases getElem?_set_cases found with ⟨rfl, here⟩ | old
    · cases here
    · exact confined.acting j request' stage old user behalf
  holding party token given := by
    rw [holders_insert]
    rcases List.mem_cons.mp given with here | old
    · cases here
      have none : holders state.world.db (settings.hashToken response.refreshToken) = [] := by
        rw [holders, fresh, List.map_nil]
      rw [none, if_pos hashed]
      refine ⟨by simp, ?_⟩
      intro user member
      obtain rfl := List.mem_singleton.mp member
      exact letIn
    · obtain ⟨stored, users⟩ := confined.holding party token old
      -- The new token has another hash than those that are stored.
      have other : row.tokenHash ≠ settings.hashToken token := by
        intro same
        apply stored
        rw [holders, ← same, hashed, fresh, List.map_nil]
      rw [if_neg other, List.append_nil]
      exact ⟨stored, users⟩
  answered j request' response' found := by
    rcases getElem?_set_cases found with ⟨rfl, here⟩ | old
    · cases here
      exact ⟨row.userId, now, letIn, access⟩
    · exact confined.answered j request' response' old

/-- The only token with a presented hash is of a user its party was let in as. -/
theorem Confined.presented (confined : Confined settings sender state) {party : Party}
    {req : RefreshRequest} {rt : RefreshToken}
    (presents : Presents settings state.grants party state.world.db (.refresh (.select req)))
    (found : state.world.db.auth.validTokens (settings.hashToken req.refreshToken)
      req.verifiedAt = [rt]) : (party, rt.userId) ∈ state.grants.letIn := by
  have valid : rt ∈ state.world.db.auth.validTokens (settings.hashToken req.refreshToken)
      req.verifiedAt := found ▸ List.mem_singleton_self rt
  have stored : rt ∈ state.world.db.auth.tokensWith (settings.hashToken req.refreshToken) :=
    (List.mem_filter.mp valid).1
  rcases presents with given | unknown
  · exact (confined.holding party req.refreshToken given).2 rt.userId
      (List.mem_map_of_mem stored)
  · rw [unknown] at stored
    cases stored

variable (settings context)

theorem confined_advance (confined : Confined settings sender state) (i : Nat)
    (unguessed : Unguessed settings sender state (.advance i)) :
    Confined settings sender (watchedStep settings context sender state (.advance i)).1 := by
  cases (auth settings context).advance state.world i with
  | idle nothing after =>
      have same : (watchedStep settings context sender state (.advance i)).1 = state := by
        simp only [watchedStep, Event.map, after]
      rw [same]
      exact confined
  | proceeds request stage db stage' found taken after =>
      have step : authStep settings context state.world.db stage = (db, .inl stage') := taken
      have silent : tokenGiven settings context state.world.db stage = none := by
        rw [tokenGiven, step]
      have result : (watchedStep settings context sender state (.advance i)).1 =
          ⟨⟨db, state.world.tasks.set i ⟨request, .inl stage'⟩⟩,
            ⟨((userLetIn context state.world.db stage).map fun user => (sender i, user)).toList ++
              state.grants.letIn, state.grants.given⟩⟩ := by
        simp only [watchedStep, Event.map, after, found, Grants.after, silent, Option.map_none,
          Option.toList_none, List.nil_append]
      simp only [Unguessed, found] at unguessed
      rw [result]
      refine confined.step_quiet (List.subset_append_right _ _) ?_ ?_ ?_
      · intro hash
        cases authProceeds step with
        | revoked req rt => exact holders_revoke state.world.db rt.id hash
        | _ => rfl
      · intro later goes user behalf
        obtain rfl := Sum.inl.inj goes
        cases authProceeds step with
        | unregistered body draws unknown => cases behalf
        | inserted body draws accepted =>
            obtain rfl := Option.some.inj behalf
            simp [userLetIn, accepted]
        | verified body draws account known password =>
            obtain rfl := Option.some.inj behalf
            simp [userLetIn, known, password]
        | selected req rt valid =>
            obtain rfl := Option.some.inj behalf
            exact List.mem_append_right _ (confined.presented unguessed.1 valid)
        | revoked req rt =>
            exact List.mem_append_right _ (confined.acting i request _ found user behalf)
      · intro response answered
        cases answered
  | finishes request stage db outcome found taken after =>
      have step : authStep settings context state.world.db stage = (db, .inr outcome) := taken
      have finishes := authFinishes step
      have known : (watchedStep settings context sender state (.advance i)).1 =
          ⟨⟨db, state.world.tasks.set i ⟨request, .inr outcome⟩⟩,
            state.grants.after settings context (sender i) state.world.db stage⟩ := by
        simp only [watchedStep, Event.map, after, found]
      simp only [Unguessed, found] at unguessed
      rw [known]
      cases finishes with
      | refused stage e =>
          have silent : tokenGiven settings context state.world.db stage = none := by
            rw [tokenGiven, step]
          simp only [Grants.after, silent, Option.map_none, Option.toList_none, List.nil_append]
          refine confined.step_quiet (List.subset_append_right _ _) (fun _ => rfl) ?_ ?_
          · intro stage' running
            cases running
          · intro response answered
            cases answered
      | stored userId draws expiresAt accepted =>
          have given : tokenGiven settings context state.world.db (.storeToken userId draws) =
              some draws.newRefresh := by
            rw [tokenGiven, step]
            rfl
          have fresh := unguessed.2 draws.newRefresh rfl
          simp only [Grants.after, given]
          exact confined.step_stores (confined.acting i request _ found userId rfl) rfl rfl fresh
      | exchanged req rt expiresAt accepted =>
          have given : tokenGiven settings context state.world.db (.refresh (.insert req rt)) =
              some req.newRefresh := by
            rw [tokenGiven, step]
            rfl
          have fresh := unguessed.2 req.newRefresh rfl
          simp only [Grants.after, given]
          exact confined.step_stores (confined.acting i request _ found rt.userId rfl) rfl rfl fresh

theorem confined_submit (confined : Confined settings sender state) (request : AuthRequest) :
    Confined settings sender
      (watchedStep settings context sender state (.submit request)).1 := by
  have idle : request.start.onBehalf = none := by cases request <;> rfl
  have old {i : Nat} {task : Task AuthStage RefreshOutcome}
      (found : (state.world.tasks ++ [⟨request.start, .inl request.start⟩])[i]? = some task) :
      state.world.tasks[i]? = some task ∨ task = ⟨request.start, .inl request.start⟩ := by
    rw [List.getElem?_append] at found
    split_ifs at found
    · exact .inl found
    · exact .inr (List.mem_singleton.mp (List.mem_of_getElem? found))
  refine ⟨?_, confined.holding, ?_⟩
  · intro i request' stage found user behalf
    rcases old found with before | new
    · exact confined.acting i request' stage before user behalf
    · cases new
      rw [idle] at behalf
      cases behalf
  · intro i request' response found
    rcases old found with before | new
    · exact confined.answered i request' response before
    · cases new

/-- However the requests of the parties interleave: each pair that a request is answered with
is of a user that its party has registered or logged in as before. -/
theorem pair_of_user_let_in (sender : Nat → Party) (db : AccountDb)
    {events : List (Event AuthRequest)}
    (unguessed : Machine.Legal (Unguessed settings sender) (watchedStep settings context sender)
      ⟨⟨db, []⟩, ⟨[], []⟩⟩ events) (i : Nat) (request : AuthStage) (response : TokenResponse) :
    let state := (Machine.run (watchedStep settings context sender) ⟨⟨db, []⟩, ⟨[], []⟩⟩ events).1
    state.world.tasks[i]? = some ⟨request, .inr (.ok response)⟩ →
      ∃ user now, (sender i, user) ∈ state.grants.letIn ∧
        response.accessToken = settings.createAccessToken user now := by
  intro state answered
  have confined : Confined settings sender state := by
    refine Machine.run_invariant (Confined settings sender) ?_ (confined_start sender db) unguessed
    intro state event confined unguessed
    cases event with
    | submit request => exact confined_submit settings context confined request
    | advance i => exact confined_advance settings context confined i unguessed
  exact confined.answered i request response answered

end Watching

/-- The party 0 registers and refreshes, while the party 1 logs in as the same user and then
presents a made-up token. -/
def twoParties : List (Event AuthRequest) :=
  [.submit (.register ⟨"a@b.c", "alice", "long password", by decide, by decide⟩
      ⟨⟨"r", 10, 1, 2⟩, 1, "x"⟩),
    .advance 0, .advance 0, .advance 0,
    .submit (.refresh ⟨⟨"s", 11, 3, 4, 5⟩, "r"⟩), .advance 1,
    .submit (.login ⟨"a@b.c", "long password"⟩ ⟨"t", 12, 6, 7⟩), .advance 2, .advance 1, .advance 2,
    .submit (.refresh ⟨⟨"u", 13, 8, 9, 10⟩, "guess"⟩), .advance 3, .advance 1]

theorem pair_of_user_let_in_twoParties :
    let state := (Machine.run (watchedStep plainSettings plainContext (· / 2))
      ⟨⟨noAccounts, []⟩, ⟨[], []⟩⟩ twoParties).1
    ∃ user now, (0, user) ∈ state.grants.letIn ∧
      plainSettings.createAccessToken 1 4 = plainSettings.createAccessToken user now :=
  pair_of_user_let_in plainSettings plainContext (· / 2) noAccounts (by decide) 1
    (.refresh (.select ⟨⟨"s", 11, 3, 4, 5⟩, "r"⟩))
    ⟨plainSettings.createAccessToken 1 4, "s"⟩ rfl

end PlgBooster.Server
