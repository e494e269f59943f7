import PlgBooster.Library.Claims
import PlgBooster.Server.Auth
import Mathlib.Data.List.Nodup

/-!
# Accounts

`register`, `login` and `refresh` as their database steps. A registration looks for its email
and inserts the account later, in another step, so two registrations of one email can both
find it free. The unique columns of the table decide between them: of all registrations of an
email, or of a username, at most one is answered with a pair of tokens, in any interleaving.
-/

namespace PlgBooster.Server

open Transaction

/-- A row of `users`, as far as signing in goes. -/
structure Account where
  id : Uuid
  email : String
  username : String
  passwordHash : String
  deriving DecidableEq, Repr

/-- The body of a registration; the bounds are those of its fields. -/
structure RegisterBody where
  email : String
  username : String
  password : String
  username_length : 3 ≤ username.length ∧ username.length ≤ 50
  password_length : 8 ≤ password.length ∧ password.length ≤ 128
  deriving DecidableEq

structure LoginBody where
  email : String
  password : String
  deriving DecidableEq, Repr

/-- What a request draws for the pair it issues: the refresh token with its key, and two
readings of the clock. -/
structure IssueDraws where
  newRefresh : String
  tokenId : Uuid
  issuedAt : DateTime
  storedAt : DateTime
  deriving DecidableEq, Repr

structure RegisterDraws extends IssueDraws where
  userId : Uuid
  salt : String
  deriving DecidableEq, Repr

/-- The tables with the unique columns of `users`. -/
structure AccountDb where
  accounts : List Account
  refreshTokens : List RefreshToken
  ids : (accounts.map (·.id)).Nodup
  emails : (accounts.map (·.email)).Nodup
  usernames : (accounts.map (·.username)).Nodup

/-- The password context: a salted hash, and the check against it. -/
structure PasswordContext where
  hash : String → String → String
  verify : String → String → Bool

/-- The row a registration inserts. -/
def RegisterBody.account (context : PasswordContext) (body : RegisterBody)
    (draws : RegisterDraws) : Account where
  id := draws.userId
  email := body.email
  username := body.username
  passwordHash := context.hash draws.salt body.password

namespace AccountDb

/-- The tables as the exchange of refresh tokens sees them. -/
def auth (db : AccountDb) : AuthDb where
  users := db.accounts.map (·.id)
  refreshTokens := db.refreshTokens

/-- The select of `get_user_by_email`. -/
def accountsWith (db : AccountDb) (email : String) : List Account :=
  Table.select (·.email) email db.accounts

/-- The constraints of the `users` table: the primary key and the two unique columns. -/
def AcceptsAccount (db : AccountDb) (row : Account) : Prop :=
  ∀ account ∈ db.accounts,
    account.id ≠ row.id ∧ account.email ≠ row.email ∧ account.username ≠ row.username

instance (db : AccountDb) (row : Account) : Decidable (db.AcceptsAccount row) :=
  inferInstanceAs (Decidable (∀ account ∈ db.accounts, _ ∧ _ ∧ _))

def insertAccount (db : AccountDb) (row : Account) (accepted : db.AcceptsAccount row) :
    AccountDb where
  accounts := db.accounts ++ [row]
  refreshTokens := db.refreshTokens
  ids := Table.nodup_map_append db.ids fun old inTable => (accepted old inTable).1
  emails := Table.nodup_map_append db.emails fun old inTable => (accepted old inTable).2.1
  usernames := Table.nodup_map_append db.usernames fun old inTable => (accepted old inTable).2.2

end AccountDb

/-- The next database step of a request, with what it has read. -/
inductive AuthStage where
  | registerSelect (body : RegisterBody) (draws : RegisterDraws)
  | registerInsert (body : RegisterBody) (draws : RegisterDraws)
  | loginSelect (body : LoginBody) (draws : IssueDraws)
  | storeToken (userId : Uuid) (draws : IssueDraws)
  | refresh (stage : RefreshStage)
  deriving DecidableEq

inductive AuthRequest where
  | register (body : RegisterBody) (draws : RegisterDraws)
  | login (body : LoginBody) (draws : IssueDraws)
  | refresh (req : RefreshRequest)
  deriving DecidableEq

def AuthRequest.start : AuthRequest → AuthStage
  | .register body draws => .registerSelect body draws
  | .login body draws => .loginSelect body draws
  | .refresh req => .refresh (.select req)

section Handlers

variable (settings : TokenSettings) (context : PasswordContext)

/-- The row that `store_refresh_token` inserts for a user. -/
def newToken (userId : Uuid) (draws : IssueDraws) (expiresAt : DateTime) : RefreshToken where
  id := draws.tokenId
  userId := userId
  tokenHash := settings.hashToken draws.newRefresh
  expiresAt := expiresAt
  revoked := false

/-- The pair a user gets. -/
def newPair (userId : Uuid) (draws : IssueDraws) : TokenResponse where
  accessToken := settings.createAccessToken userId draws.issuedAt
  refreshToken := draws.newRefresh

/-- One database step of `register`, `login` or `refresh`. -/
def authStep (db : AccountDb) : AuthStage → AccountDb × (AuthStage ⊕ RefreshOutcome)
  | .registerSelect body draws =>
      (db, match scalarOneOrNone (db.accountsWith body.email) with
        | .error e => .inr (.error e)
        | .ok (some _) => .inr (.error (.httpException 409 "Email already registered"))
        | .ok none => .inl (.registerInsert body draws))
  | .registerInsert body draws =>
      if accepted : db.AcceptsAccount (body.account context draws) then
        (db.insertAccount (body.account context draws) accepted,
          .inl (.storeToken draws.userId draws.toIssueDraws))
      else (db, .inr (.error .integrityError))
  | .loginSelect body draws =>
      (db, match scalarOneOrNone (db.accountsWith body.email) with
        | .error e => .inr (.error e)
        | .ok none => .inr (.error (.httpException 401 "Invalid email or password"))
        | .ok (some account) =>
            if context.verify body.password account.passwordHash then
              .inl (.storeToken account.id draws)
            else .inr (.error (.httpException 401 "Invalid email or password")))
  | .storeToken userId draws =>
      match addDays draws.storedAt settings.refreshTokenExpireDays with
      | .error e => (db, .inr (.error e))
      | .ok expiresAt =>
          let row := newToken settings userId draws expiresAt
          if db.auth.AcceptsToken row then
            ({ db with refreshTokens := db.refreshTokens ++ [row] },
              .inr (.ok (newPair settings userId draws)))
          else (db, .inr (.error .integrityError))
  | .refresh stage =>
      let after := refreshStep settings db.auth stage
      ({ db with refreshTokens := after.1.refreshTokens }, after.2.map .refresh id)

/-- What a step can go on with. -/
inductive AuthProceeds (db : AccountDb) : AuthStage → AccountDb → AuthStage → Prop
  | unregistered (body : RegisterBody) (draws : RegisterDraws)
      (unknown : db.accountsWith body.email = []) :
      AuthProceeds db (.registerSelect body draws) db (.registerInsert body draws)
  | inserted (body : RegisterBody) (draws : RegisterDraws)
      (accepted : db.AcceptsAccount (body.account context draws)) :
      AuthProceeds db (.registerInsert body draws)
        (db.insertAccount (body.account context draws) accepted)
        (.storeToken draws.userId draws.toIssueDraws)
  | verified (body : LoginBody) (draws : IssueDraws) (account : Account)
      (found : db.accountsWith body.email = [account])
      (password : context.verify body.password account.passwordHash = true) :
      AuthProceeds db (.loginSelect body draws) db (.storeToken account.id draws)
  | selected (req : RefreshRequest) (rt : RefreshToken)
      (found : db.auth.validTokens (settings.hashToken req.refreshToken) req.verifiedAt = [rt]) :
      AuthProceeds db (.refresh (.select req)) db (.refresh (.revoke req rt))
  | revoked (req : RefreshRequest) (rt : RefreshToken) :
      AuthProceeds db (.refresh (.revoke req rt))
        { db with refreshTokens := (db.auth.revoke rt.id).refreshTokens }
        (.refresh (.insert req rt))

/-- What a step can end with. -/
inductive AuthFinishes (db : AccountDb) : AuthStage → AccountDb → RefreshOutcome → Prop
  | refused (stage : AuthStage) (e : ServiceError) : AuthFinishes db stage db (.error e)
  | stored (userId : Uuid) (draws : IssueDraws) (expiresAt : DateTime)
      (accepted : db.auth.AcceptsToken (newToken settings userId draws expiresAt)) :
      AuthFinishes db (.storeToken userId draws)
        { db with refreshTokens := db.refreshTokens ++ [newToken settings userId draws expiresAt] }
        (.ok (newPair settings userId draws))
  | exchanged (req : RefreshRequest) (rt : RefreshToken) (expiresAt : DateTime)
      (accepted : db.auth.AcceptsToken (storedToken settings req rt expiresAt)) :
      AuthFinishes db (.refresh (.insert req rt))
        { db with refreshTokens := db.refreshTokens ++ [storedToken settings req rt expiresAt] }
        (.ok (issuedPair settings req rt))

variable {settings context}

theorem authStep_refresh_eq_inl {db db' : AccountDb} {stage : RefreshStage} {next : AuthStage}
    (taken : authStep settings context db (.refresh stage) = (db', .inl next)) :
    AuthProceeds settings context db (.refresh stage) db' next := by
  cases after : refreshStep settings db.auth stage with
  | mk tokens result =>
      simp only [authStep, after] at taken
      obtain ⟨rfl, goes⟩ := Prod.mk.inj taken
      cases result with
      | inr outcome => cases goes
      | inl stage' =>
          obtain rfl := Sum.inl.inj goes
          rcases refreshStep_eq_inl settings after with
            ⟨req, rt, rfl, rfl, rfl, found⟩ | ⟨req, rt, rfl, rfl, rfl⟩
          · exact .selected req rt found
          · exact .revoked req rt

theorem authProceeds {db db' : AccountDb} {stage next : AuthStage}
    (taken : authStep settings context db stage = (db', .inl next)) :
    AuthProceeds settings context db stage db' next := by
  cases stage with
  | registerSelect body draws =>
      simp only [authStep] at taken
      split at taken
      · cases taken
      · cases taken
      · next unknown =>
          obtain ⟨rfl, goes⟩ := Prod.mk.inj taken
          cases goes
          exact .unregistered body draws (scalarOneOrNone_eq_none.mp unknown)
  | registerInsert body draws =>
      simp only [authStep] at taken
      split_ifs at taken with accepted
      · cases taken
        exact .inserted body draws accepted
      · cases taken
  | loginSelect body draws =>
      simp only [authStep] at taken
      split at taken
      · cases taken
      · cases taken
      · next account found =>
          split_ifs at taken with password
          · cases taken
            exact .verified body draws account (scalarOneOrNone_eq_some.mp found) password
          · cases taken
  | storeToken userId draws =>
      simp only [authStep] at taken
      split at taken
      · cases taken
      · split_ifs at taken <;> cases taken
  | refresh stage => exact authStep_refresh_eq_inl taken

theorem authFinishes {db db' : AccountDb} {stage : AuthStage} {outcome : RefreshOutcome}
    (taken : authStep settings context db stage = (db', .inr outcome)) :
    AuthFinishes settings db stage db' outcome := by
  cases stage with
  | registerSelect body draws =>
      simp only [authStep] at taken
      split at taken
      · cases taken
        exact .refused _ _
      · cases taken
        exact .refused _ _
      · cases taken
  | registerInsert body draws =>
      simp only [authStep] at taken
      split_ifs at taken
      · cases taken
      · cases taken
        exact .refused _ _
  | loginSelect body draws =>
      simp only [authStep] at taken
      split at taken
      · cases taken
        exact .refused _ _
      · cases taken
        exact .refused _ _
      · split_ifs at taken
        · cases taken
        · cases taken
          exact .refused _ _
  | storeToken userId draws =>
      simp only [authStep] at taken
      split at taken
      · cases taken
        exact .refused _ _
      · next expiresAt computed =>
          split_ifs at taken with accepted
          · cases taken
            exact .stored userId draws expiresAt accepted
          · cases taken
            exact .refused _ _
  | refresh stage =>
      cases after : refreshStep settings db.auth stage with
      | mk tokens result =>
          simp only [authStep, after] at taken
          obtain ⟨rfl, ends⟩ := Prod.mk.inj taken
          cases result with
          | inl stage' => cases ends
          | inr outcome' =>
              obtain rfl := Sum.inr.inj ends
              rcases refreshStep_eq_inr settings after with
                ⟨rfl, e, rfl⟩ | ⟨req, rt, expiresAt, rfl, _, accepted, rfl, rfl⟩
              · exact .refused _ e
              · exact .exchanged req rt expiresAt accepted

def AuthStage.rank : AuthStage → Nat
  | .registerSelect _ _ => 2
  | .registerInsert _ _ => 1
  | .loginSelect _ _ => 1
  | .storeToken _ _ => 0
  | .refresh stage => stage.rank

theorem authStep_descends (db : AccountDb) (stage stage' : AuthStage)
    (next : (authStep settings context db stage).2 = .inl stage') : stage'.rank < stage.rank := by
  obtain ⟨db', taken⟩ : ∃ db', authStep settings context db stage = (db', .inl stage') :=
    ⟨_, by rw [← next]⟩
  cases authProceeds taken <;> exact Nat.lt_succ_self _

variable (settings context)

/-- The three endpoints as a program. -/
def auth : Program AccountDb AuthStage RefreshOutcome where
  step := authStep settings context
  rank := AuthStage.rank
  descends := authStep_descends

/-! ## What a registration claims -/

/-- The row a registration that ends with a pair has inserted. -/
def registeredAccount : AuthStage → RefreshOutcome → Option Account
  | .registerSelect body draws, .ok _ => some (body.account context draws)
  | _, _ => none

/-- The row a registration has inserted on its way. -/
def insertedAccount : AuthStage → AuthStage → Option Account
  | .registerSelect body draws, .storeToken _ _ => some (body.account context draws)
  | _, _ => none

/-- The stages a request gets to. -/
def Follows : AuthStage → AuthStage → Prop
  | .registerSelect body draws, stage =>
      stage = .registerSelect body draws ∨ stage = .registerInsert body draws ∨
        stage = .storeToken draws.userId draws.toIssueDraws
  | .loginSelect body draws, stage =>
      stage = .loginSelect body draws ∨ ∃ userId, stage = .storeToken userId draws
  | .refresh (.select _), stage => ∃ reached, stage = .refresh reached
  | _, _ => False

theorem follows_start (request : AuthRequest) : Follows request.start request.start := by
  cases request with
  | register body draws => exact .inl rfl
  | login body draws => exact .inl rfl
  | refresh req => exact ⟨_, rfl⟩

variable {settings context}

theorem follows_step {db db' : AccountDb} {request stage stage' : AuthStage}
    (follows : Follows request stage)
    (taken : authStep settings context db stage = (db', .inl stage')) :
    Follows request stage' := by
  have proceeds := authProceeds taken
  cases request with
  | registerSelect body draws =>
      rcases follows with rfl | rfl | rfl
      · cases proceeds
        exact .inr (.inl rfl)
      · cases proceeds
        exact .inr (.inr rfl)
      · cases proceeds
  | loginSelect body draws =>
      rcases follows with rfl | ⟨userId, rfl⟩
      · cases proceeds
        exact .inr ⟨_, rfl⟩
      · cases proceeds
  | refresh request =>
      cases request with
      | select req =>
          obtain ⟨reached, rfl⟩ := follows
          cases proceeds
          · exact ⟨_, rfl⟩
          · exact ⟨_, rfl⟩
      | _ => exact follows.elim
  | _ => exact follows.elim

/-- No step takes an account away. -/
theorem accounts_authStep (db : AccountDb) (stage : AuthStage) {account : Account}
    (inTable : account ∈ db.accounts) :
    account ∈ (authStep settings context db stage).1.accounts := by
  cases taken : authStep settings context db stage with
  | mk db' next =>
      cases next with
      | inl stage' =>
          cases authProceeds taken with
          | inserted body draws accepted => exact List.mem_append_left _ inTable
          | _ => exact inTable
      | inr outcome => cases authFinishes taken <;> exact inTable

variable (settings context)

/-- A registration claims its row, which has a new key. -/
def registrations : Claiming (auth settings context) Account where
  Reaches := Follows
  taken db account := account ∈ db.accounts
  claim := insertedAccount context
  earned := registeredAccount context
  reaches_step db request stage stage' follows next := by
    have taken : authStep settings context db stage =
        ((authStep settings context db stage).1, .inl stage') := by
      rw [← show (authStep settings context db stage).2 = .inl stage' from next]
    exact follows_step follows taken
  taken_step db stage account inTable := accounts_authStep db stage inTable
  claim_step db request stage stage' follows next := by
    obtain ⟨db', taken⟩ : ∃ db', authStep settings context db stage = (db', .inl stage') :=
      ⟨_, by rw [← show (authStep settings context db stage).2 = .inl stage' from next]⟩
    change _ ∨ _ ∧ ∀ b, _ → ¬ b ∈ db.accounts ∧
      b ∈ (authStep settings context db stage).1.accounts
    rw [taken]
    cases authProceeds taken with
    | unregistered body draws unknown => cases request <;> exact .inl rfl
    | inserted body draws accepted =>
        cases request with
        | registerSelect body' draws' =>
            refine .inr ⟨rfl, ?_⟩
            intro account claimed
            rcases follows with same | same | same
            · cases same
            · cases same
              obtain rfl := Option.some.inj claimed
              refine ⟨?_, List.mem_append_right _ (List.mem_singleton_self _)⟩
              intro inTable
              exact (accepted _ inTable).1 rfl
            · cases same
        | _ => exact .inl rfl
    | verified body draws account found password =>
        cases request with
        | registerSelect body' draws' =>
            rcases follows with same | same | same <;> cases same
        | _ => exact .inl rfl
    | selected req rt found => cases request <;> exact .inl rfl
    | revoked req rt => cases request <;> exact .inl rfl
  earned_step db request stage outcome follows next account earned := by
    obtain ⟨db', taken⟩ : ∃ db', authStep settings context db stage = (db', .inr outcome) :=
      ⟨_, by rw [← show (authStep settings context db stage).2 = .inr outcome from next]⟩
    cases request with
    | registerSelect body draws =>
        cases outcome with
        | error e => cases earned
        | ok response =>
            rcases follows with rfl | rfl | rfl
            · cases authFinishes taken
            · cases authFinishes taken
            · exact earned
    | _ => cases outcome <;> cases earned

/-- The rows of the registrations that were answered with a pair. -/
def registered (outputs : List (AuthStage × RefreshOutcome)) : List Account :=
  outputs.filterMap fun o => registeredAccount context o.1 o.2

/-- Rows of a table with a unique column differ in this column. -/
theorem nodup_column {rows table : List Account} {column : Account → String}
    (unique : (table.map column).Nodup) (inTable : ∀ row ∈ rows, row ∈ table)
    (distinct : rows.Nodup) : (rows.map column).Nodup :=
  distinct.map_on fun row member other member' same =>
    List.inj_on_of_nodup_map unique (inTable row member) (inTable other member') same

/-- Whatever registrations, logins and refreshes run at once and however their steps
interleave: the registrations that are answered with a pair have inserted distinct emails and
distinct usernames, none of which was in the table before, and their rows stay in the table. -/
theorem registered_once (db : AccountDb) (events : List (Event AuthRequest)) :
    let after := Machine.run (auth settings context).worldStep ⟨db, []⟩
      (events.map (Event.map AuthRequest.start))
    let rows := registered context after.2
    (rows.map (·.email)).Nodup ∧ (rows.map (·.username)).Nodup ∧
      ∀ row ∈ rows, row ∈ after.1.db.accounts ∧
        ∀ old ∈ db.accounts, old.email ≠ row.email ∧ old.username ≠ row.username := by
  intro after rows
  have starts : ∀ event ∈ events.map (Event.map AuthRequest.start),
      (registrations settings context).Starts event := by
    apply forall_submit_map
    intro request _
    refine ⟨follows_start request, ?_⟩
    cases request <;> rfl
  have order := Claiming.inOrder_run (registrations settings context) db starts
  -- What was got comes first among all that was claimed.
  have got : ∀ row ∈ rows, row ∈ (registrations settings context).all after.1 rows :=
    fun row member => List.mem_append_left _ member
  have inTable : ∀ row ∈ rows, row ∈ after.1.db.accounts :=
    fun row member => order.isTaken row (got row member)
  have distinct : rows.Nodup := (List.nodup_append.mp order.once).1
  refine ⟨nodup_column after.1.db.emails inTable distinct,
    nodup_column after.1.db.usernames inTable distinct, ?_⟩
  intro row member
  refine ⟨inTable row member, ?_⟩
  intro old before
  have still : old ∈ after.1.db.accounts := order.grown old before
  have new : old ≠ row := by
    rintro rfl
    exact order.wasFree old (got old member) before
  constructor
  · intro same
    exact new (List.inj_on_of_nodup_map after.1.db.emails still (inTable row member) same)
  · intro same
    exact new (List.inj_on_of_nodup_map after.1.db.usernames still (inTable row member) same)

end Handlers

def noAccounts : AccountDb := ⟨[], [], .nil, .nil, .nil⟩

/-- A password context that stores passwords as they are. -/
def plainContext : PasswordContext where
  hash _ password := password
  verify password stored := password == stored

/-- Two registrations of one email that both find it free. -/
def sameEmail : List (Event AuthRequest) :=
  [.submit (.register ⟨"a@b.c", "first", "password", by decide, by decide⟩
      ⟨⟨"r", 10, 1, 2⟩, 1, "x"⟩),
    .submit (.register ⟨"a@b.c", "second", "password", by decide, by decide⟩
      ⟨⟨"s", 11, 1, 2⟩, 2, "y"⟩),
    .advance 0, .advance 1, .advance 1, .advance 0, .advance 1]

example :
    let after := Machine.run (auth plainSettings plainContext).worldStep
      ⟨noAccounts, []⟩ (sameEmail.map (Event.map AuthRequest.start))
    (registered plainContext after.2).map (·.username) = ["second"] ∧
      after.2.map (fun o => o.2.isOk) = [false, true] := by decide

end PlgBooster.Server
