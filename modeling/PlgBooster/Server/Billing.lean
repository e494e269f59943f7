import PlgBooster.Library.Table
import PlgBooster.Python.Uuid
import PlgBooster.Server.Columns
import PlgBooster.Server.Sessions

/-!
# The API's billing service

The users with their copy of the subscription, the payments and the subscriptions, and
what writes them: webhooks, trials, cancellations and the edits of an administrator.
`process_webhook` is a program of three database steps, the last of which is its only
commit. The others run here as one step each.

A key column is read with all rows that have the key, so nothing is assumed about the keys.
-/

namespace PlgBooster.Server

open Transaction

/-! ## Plans and dates -/

structure PlanInfo where
  name : String
  tier : String
  priceMonthly : Rat
  priceTotal : Rat
  durationDays : Int
  deriving DecidableEq, Repr

/-- `PLANS`. -/
def plans : List (String × PlanInfo) :=
  [("trial", ⟨"Trial", "trial", 0, 0, 7⟩),
    ("monthly", ⟨"Monthly", "monthly", 299, 299, 30⟩),
    ("quarterly", ⟨"Quarterly", "quarterly", 250, 749, 90⟩),
    ("yearly", ⟨"Yearly", "yearly", 167, 1999, 365⟩)]

/-- The length of a day. -/
def day : Int := 86400 * 1000000

/-- `datetime.max`, the end of the year 9999. -/
def datetimeMax : DateTime := 253402300799999999

/-- `t + timedelta(days=days)`. -/
def addDays (t : DateTime) (days : Int) : Except ServiceError DateTime :=
  if t + days * day ≤ datetimeMax then .ok (t + days * day) else .error .overflowError

/-- Where a new period starts: at the end of the current one, if that is still to come. -/
def periodStart (now : DateTime) : Option DateTime → DateTime
  | some current => if now < current then current else now
  | none => now

/-- `calculate_expiry`, with its own reading of the clock. -/
def calculateExpiry (now : DateTime) (plan : String) (currentExpiresAt : Option DateTime) :
    Except ServiceError DateTime :=
  match plans.lookup plan with
  | none => .error (.keyError plan)
  | some info => addDays (periodStart now currentExpiresAt) info.durationDays

theorem plans_lookup_pos {plan : String} {info : PlanInfo} (known : plans.lookup plan = some info) :
    0 < info.durationDays := by
  have all : ∀ entry ∈ plans, 0 < entry.2.durationDays := by decide
  obtain ⟨before, after, split, _⟩ := List.lookup_eq_some_iff.mp known
  exact all (plan, info) (split ▸ by simp)

theorem le_periodStart (now : DateTime) (current : Option DateTime) :
    now ≤ periodStart now current ∧ ∀ t ∈ current, t ≤ periodStart now current := by
  cases current with
  | none => simp [periodStart]
  | some t =>
      by_cases later : now < t
      · simp [periodStart, later, Int.le_of_lt later]
      · simp [periodStart, later, Int.not_lt.mp later]

theorem addDays_eq_ok {t t' : DateTime} {days : Int} :
    addDays t days = .ok t' ↔ t + days * day ≤ datetimeMax ∧ t' = t + days * day := by
  unfold addDays
  split_ifs with fits
  · simp [fits, eq_comm]
  · simp [fits]

/-- The length of the period a plan pays for. -/
def duration (plan : String) : Int := ((plans.lookup plan).map (·.durationDays * day)).getD 0

/-- A computed expiry is a positive period after its start. -/
theorem calculateExpiry_eq_ok {now expiresAt : DateTime} {plan : String}
    {current : Option DateTime} (computed : calculateExpiry now plan current = .ok expiresAt) :
    expiresAt = periodStart now current + duration plan ∧ 0 < duration plan ∧
      (plans.lookup plan).isSome := by
  unfold calculateExpiry at computed
  cases known : plans.lookup plan with
  | none => simp [known] at computed
  | some info =>
      rw [known] at computed
      have positive := plans_lookup_pos known
      have period : duration plan = info.durationDays * day := by simp [duration, known]
      obtain ⟨_, rfl⟩ := addDays_eq_ok.mp computed
      rw [period]
      exact ⟨rfl, Int.mul_pos positive (by decide), rfl⟩

/-! ## Tables -/

/-- The columns of a user that subscriptions are about. -/
structure User where
  id : Uuid
  subscriptionTier : String
  subscriptionExpiresAt : Option DateTime
  trialUsed : Bool
  deriving DecidableEq, Repr

/-- The row `register` inserts. -/
def registeredUser (id : Uuid) : User where
  id := id
  subscriptionTier := "free"
  subscriptionExpiresAt := none
  trialUsed := false

structure Payment where
  id : Uuid
  userId : Uuid
  status : String
  plan : String
  donatepayId : Option String
  subscriptionId : Option Uuid
  deriving DecidableEq, Repr

structure Subscription where
  id : Uuid
  userId : Uuid
  tier : String
  plan : String
  startedAt : DateTime
  expiresAt : DateTime
  isActive : Bool
  cancelledAt : Option DateTime
  deriving DecidableEq, Repr

structure BillingDb where
  users : List User
  payments : List Payment
  subscriptions : List Subscription
  deriving DecidableEq, Repr

/-- `result.scalar_one()`. -/
def scalarOne {α : Type} : List α → Except ServiceError α
  | [] => .error .noResultFound
  | [row] => .ok row
  | _ => .error .multipleResultsFound

theorem scalarOne_eq_ok {α : Type} {rows : List α} {row : α} :
    scalarOne rows = .ok row ↔ rows = [row] := by
  rcases rows with _ | ⟨first, _ | ⟨second, rest⟩⟩ <;> simp [scalarOne]

namespace BillingDb

def usersWith (db : BillingDb) (id : Uuid) : List User := Table.select (·.id) id db.users

def paymentsWith (db : BillingDb) (id : Uuid) : List Payment := Table.select (·.id) id db.payments

def subscriptionsWith (db : BillingDb) (id : Uuid) : List Subscription :=
  Table.select (·.id) id db.subscriptions

/-- The active subscriptions of a user. -/
def activeSubscriptions (db : BillingDb) (userId : Uuid) : List Subscription :=
  db.subscriptions.filter fun s => s.userId = userId ∧ s.isActive = true

/-- The constraints of the `subscriptions` table: the primary key and the foreign key. -/
def Accepts (db : BillingDb) (row : Subscription) : Prop :=
  (∀ s ∈ db.subscriptions, s.id ≠ row.id) ∧ ∃ u ∈ db.users, u.id = row.userId

instance (db : BillingDb) (row : Subscription) : Decidable (db.Accepts row) := by
  unfold Accepts
  infer_instance

def insertSubscription (db : BillingDb) (row : Subscription) : BillingDb :=
  { db with subscriptions := db.subscriptions ++ [row] }

def modifyUser (db : BillingDb) (id : Uuid) (f : User → User) : BillingDb :=
  { db with users := Table.update (·.id) id f db.users }

def modifyPayment (db : BillingDb) (id : Uuid) (f : Payment → Payment) : BillingDb :=
  { db with payments := Table.update (·.id) id f db.payments }

def modifySubscription (db : BillingDb) (id : Uuid) (f : Subscription → Subscription) :
    BillingDb :=
  { db with subscriptions := Table.update (·.id) id f db.subscriptions }

end BillingDb

/-- A subscription as the service creates it, from now on and active. -/
def newSubscription (id userId : Uuid) (plan : String) (now expiresAt : DateTime) :
    Subscription where
  id := id
  userId := userId
  tier := plan
  plan := plan
  startedAt := now
  expiresAt := expiresAt
  isActive := true
  cancelledAt := none

/-- Update denormalized user fields. -/
def User.subscribe (tier : String) (expiresAt : DateTime) (user : User) : User :=
  { user with subscriptionTier := tier, subscriptionExpiresAt := some expiresAt }

theorem id_of_usersWith {db : BillingDb} {userId : Uuid} {user : User}
    (found : db.usersWith userId = [user]) : user.id = userId :=
  (Table.of_select_eq_singleton found).2

theorem usersWith_modifyUser (db : BillingDb) (id : Uuid) {f : User → User}
    (keeps : ∀ user, (f user).id = user.id) (userId : Uuid) :
    (db.modifyUser id f).usersWith userId =
      if userId = id then (db.usersWith id).map f else db.usersWith userId :=
  Table.select_update keeps id userId db.users

/-! ## `process_webhook` -/

/-- One delivery: what the body says, the two readings of the clock, and the key the new
subscription would get. The signature is not looked at. -/
structure Webhook where
  /-- `data.get("comment")`. -/
  comment : Option String
  /-- `str(data.get("id", ""))`. -/
  donationId : String
  now : DateTime
  expiryNow : DateTime
  subscriptionId : Uuid
  deriving DecidableEq, Repr

/-- The payment a comment names. -/
def namedPayment (comment : Option String) : Option Uuid :=
  match comment with
  | none => none
  | some comment =>
      if "PLG:".toList.isPrefixOf comment.toList then
        Python.uuidOfString (Python.strip (Python.remove "PLG:".toList 0 comment.toList))
      else none

/-- The next database step of a delivery, with what it has read so far. -/
inductive WebhookStage where
  | selectPayment (req : Webhook)
  | selectUser (req : Webhook) (payment : Payment)
  | commit (req : Webhook) (payment : Payment) (user : User)
  deriving DecidableEq, Repr

abbrev WebhookOutcome := Except ServiceError (Option Payment)

/-- The identifier of the donation, as `payments.donatepay_id` stores it. -/
def Webhook.donatepayId (req : Webhook) : Option String := varchar 255 req.donationId

/-- A payment with what the commit of a delivery writes into it. -/
def Payment.complete (req : Webhook) (payment : Payment) : Payment :=
  { payment with
    status := "completed"
    donatepayId := req.donatepayId
    subscriptionId := some req.subscriptionId }

/-- The subscription a delivery creates. -/
def Webhook.subscription (req : Webhook) (payment : Payment) (user : User)
    (expiresAt : DateTime) : Subscription :=
  newSubscription req.subscriptionId user.id payment.plan req.now expiresAt

/-- The one commit of a delivery. The user's fields are set to what was computed from the
row read before. -/
def BillingDb.credit (db : BillingDb) (req : Webhook) (payment : Payment) (user : User)
    (expiresAt : DateTime) : BillingDb :=
  ((db.insertSubscription (req.subscription payment user expiresAt)).modifyPayment payment.id
    (·.complete req)).modifyUser user.id (·.subscribe payment.plan expiresAt)

theorem usersWith_credit {db : BillingDb} {payment : Payment} {user : User}
    (owner : db.usersWith payment.userId = [user]) (req : Webhook) (expiresAt : DateTime)
    (userId : Uuid) :
    (db.credit req payment user expiresAt).usersWith userId =
      if userId = payment.userId then [user.subscribe payment.plan expiresAt]
      else db.usersWith userId := by
  have same := id_of_usersWith owner
  rw [← same] at owner ⊢
  have keeps : ∀ u : User, (u.subscribe payment.plan expiresAt).id = u.id := fun _ => rfl
  apply (usersWith_modifyUser _ user.id keeps userId).trans
  change (if _ then (db.usersWith user.id).map _ else db.usersWith userId) = _
  rw [owner]
  rfl

/-- One database step of `process_webhook`. -/
def webhookStep (db : BillingDb) : WebhookStage → BillingDb × (WebhookStage ⊕ WebhookOutcome)
  | .selectPayment req =>
      (db, match namedPayment req.comment with
        | none => .inr (.ok none)
        | some paymentId =>
            match scalarOneOrNone (db.paymentsWith paymentId) with
            | .error e => .inr (.error e)
            | .ok none => .inr (.ok none)
            | .ok (some payment) =>
                if payment.status ≠ "pending" then .inr (.ok none)
                else .inl (.selectUser req payment))
  | .selectUser req payment =>
      (db, match scalarOne (db.usersWith payment.userId) with
        | .error e => .inr (.error e)
        | .ok user => .inl (.commit req payment user))
  | .commit req payment user =>
      -- The payment is written before its user is selected, within the one transaction.
      if req.donatepayId.isSome then
        match calculateExpiry req.expiryNow payment.plan user.subscriptionExpiresAt with
        | .error e => (db, .inr (.error e))
        | .ok expiresAt =>
            if db.Accepts (req.subscription payment user expiresAt) then
              (db.credit req payment user expiresAt, .inr (.ok (some (payment.complete req))))
            else (db, .inr (.error .integrityError))
      else (db, .inr (.error .dataError))

def WebhookStage.rank : WebhookStage → Nat
  | .selectPayment _ => 2
  | .selectUser _ _ => 1
  | .commit _ _ _ => 0

/-- A delivery that goes on has only read: its pending payment, and then that payment's
user. -/
theorem webhookStep_eq_inl {db db' : BillingDb} {stage stage' : WebhookStage}
    (taken : webhookStep db stage = (db', .inl stage')) :
    db' = db ∧
      ((∃ req payment, stage = .selectPayment req ∧ stage' = .selectUser req payment ∧
        namedPayment req.comment = some payment.id ∧ db.paymentsWith payment.id = [payment] ∧
        payment.status = "pending") ∨
      ∃ req payment user, stage = .selectUser req payment ∧ stage' = .commit req payment user ∧
        db.usersWith payment.userId = [user]) := by
  cases stage with
  | selectPayment req =>
      obtain ⟨rfl, next⟩ := Prod.mk.inj taken
      refine ⟨rfl, .inl ?_⟩
      cases named : namedPayment req.comment with
      | none => simp [named] at next
      | some paymentId =>
          rw [named] at next
          dsimp only at next
          cases found : scalarOneOrNone (db.paymentsWith paymentId) with
          | error e => simp [found] at next
          | ok row =>
              cases row with
              | none => simp [found] at next
              | some payment =>
                  rw [found] at next
                  dsimp only at next
                  split_ifs at next with pending
                  have found := scalarOneOrNone_eq_some.mp found
                  obtain rfl : payment.id = paymentId := (Table.of_select_eq_singleton found).2
                  exact ⟨req, payment, rfl, (Sum.inl.inj next).symm, named, found,
                    not_not.mp pending⟩
  | selectUser req payment =>
      obtain ⟨rfl, next⟩ := Prod.mk.inj taken
      refine ⟨rfl, .inr ?_⟩
      cases owner : scalarOne (db.usersWith payment.userId) with
      | error e => simp [owner] at next
      | ok user =>
          rw [owner] at next
          exact ⟨req, payment, user, rfl, (Sum.inl.inj next).symm, scalarOne_eq_ok.mp owner⟩
  | commit req payment user =>
      simp only [webhookStep] at taken
      split_ifs at taken
      · split at taken
        · cases taken
        · split_ifs at taken <;> cases taken
      · cases taken

theorem webhookStep_descends (db : BillingDb) (stage stage' : WebhookStage)
    (next : (webhookStep db stage).2 = .inl stage') : stage'.rank < stage.rank := by
  have taken : webhookStep db stage = ((webhookStep db stage).1, .inl stage') := by rw [← next]
  rcases (webhookStep_eq_inl taken).2 with
    ⟨req, payment, rfl, rfl, _⟩ | ⟨req, payment, user, rfl, rfl, _⟩
  · exact Nat.lt_succ_self _
  · exact Nat.lt_succ_self _

/-- `process_webhook` as a program over the billing tables. -/
def processWebhook : Program BillingDb WebhookStage WebhookOutcome where
  step := webhookStep
  rank := WebhookStage.rank
  descends := webhookStep_descends

/-- All that a delivery has to find for its commit to credit a payment. -/
structure Credits (db : BillingDb) (req : Webhook) (payment : Payment) (user : User)
    (expiresAt : DateTime) : Prop where
  named : namedPayment req.comment = some payment.id
  found : db.paymentsWith payment.id = [payment]
  pending : payment.status = "pending"
  owner : db.usersWith payment.userId = [user]
  expiry : calculateExpiry req.expiryNow payment.plan user.subscriptionExpiresAt = .ok expiresAt
  accepted : db.Accepts (req.subscription payment user expiresAt)
  stored : req.donatepayId.isSome

theorem exec_webhook_inl {db db' : BillingDb} {stage stage' : WebhookStage}
    (taken : webhookStep db stage = (db', .inl stage')) :
    processWebhook.exec db stage = processWebhook.exec db' stage' :=
  @Program.exec_of_step_inl _ _ _ processWebhook _ _ _ _ taken

theorem exec_webhook_inr {db db' : BillingDb} {stage : WebhookStage} {outcome : WebhookOutcome}
    (taken : webhookStep db stage = (db', .inr outcome)) :
    processWebhook.exec db stage = (db', some outcome) :=
  @Program.exec_of_step_inr _ _ _ processWebhook _ _ _ _ taken

theorem exec_commit (db : BillingDb) (req : Webhook) (payment : Payment) (user : User) :
    (∃ e, processWebhook.exec db (.commit req payment user) = (db, some (.error e))) ∨
    ∃ expiresAt,
      calculateExpiry req.expiryNow payment.plan user.subscriptionExpiresAt = .ok expiresAt ∧
      db.Accepts (req.subscription payment user expiresAt) ∧ req.donatepayId.isSome ∧
      processWebhook.exec db (.commit req payment user) =
        (db.credit req payment user expiresAt, some (.ok (some (payment.complete req)))) := by
  by_cases stored : req.donatepayId.isSome
  · cases computed : calculateExpiry req.expiryNow payment.plan user.subscriptionExpiresAt with
    | error e =>
        refine .inl ⟨e, exec_webhook_inr ?_⟩
        simp only [webhookStep, stored, computed, if_true]
    | ok expiresAt =>
        by_cases accepted : db.Accepts (req.subscription payment user expiresAt)
        · refine .inr ⟨expiresAt, rfl, accepted, stored, exec_webhook_inr ?_⟩
          simp only [webhookStep, stored, computed, accepted, if_true]
        · refine .inl ⟨.integrityError, exec_webhook_inr ?_⟩
          simp only [webhookStep, stored, computed, accepted, if_true, if_false]
  · refine .inl ⟨.dataError, exec_webhook_inr ?_⟩
    simp only [webhookStep, stored]
    rfl

/-- Only a commit answers with a payment. -/
theorem webhookStep_eq_payment {db db' : BillingDb} {stage : WebhookStage} {payment : Payment}
    (taken : webhookStep db stage = (db', .inr (.ok (some payment)))) :
    ∃ req read user, stage = .commit req read user := by
  cases stage with
  | selectPayment req =>
      have ended := congrArg Prod.snd taken
      simp only [webhookStep] at ended
      split at ended
      · cases ended
      · split at ended
        · cases ended
        · cases ended
        · split_ifs at ended
          cases ended
  | selectUser req read =>
      have ended := congrArg Prod.snd taken
      simp only [webhookStep] at ended
      split at ended <;> cases ended
  | commit req read user => exact ⟨req, read, user, rfl⟩

/-- A delivery run alone leaves the tables alone and answers with no payment, or it credits
the payment it names. -/
inductive WebhookEnds (db : BillingDb) (req : Webhook) : Prop
  | ignored (outcome : WebhookOutcome) (no_payment : ∀ payment, outcome ≠ .ok (some payment))
      (ended : processWebhook.exec db (.selectPayment req) = (db, some outcome))
  | credited (payment : Payment) (user : User) (expiresAt : DateTime)
      (credits : Credits db req payment user expiresAt)
      (ended : processWebhook.exec db (.selectPayment req) =
        (db.credit req payment user expiresAt, some (.ok (some (payment.complete req)))))

theorem webhookEnds (db : BillingDb) (req : Webhook) : WebhookEnds db req := by
  -- A step that ends the delivery before its commit.
  have ends {db' : BillingDb} {stage : WebhookStage} {outcome : WebhookOutcome}
      (read : ∀ req payment user, stage ≠ .commit req payment user)
      (taken : webhookStep db stage = (db', .inr outcome)) (kept : db' = db) :
      ∃ outcome, (∀ payment, outcome ≠ .ok (some payment)) ∧
        processWebhook.exec db stage = (db, some outcome) := by
    obtain rfl := kept
    refine ⟨outcome, ?_, exec_webhook_inr taken⟩
    rintro payment rfl
    obtain ⟨req, read', user, commits⟩ := webhookStep_eq_payment taken
    exact read req read' user commits
  rcases taken : webhookStep db (.selectPayment req) with ⟨db', stage | outcome⟩
  · obtain ⟨rfl, ⟨_, payment, start, rfl, named, found, pending⟩ | ⟨_, _, _, start, _⟩⟩ :=
      webhookStep_eq_inl taken
    · obtain rfl := WebhookStage.selectPayment.inj start
      have selected := exec_webhook_inl taken
      rcases taken : webhookStep db' (.selectUser req payment) with ⟨db, stage | outcome⟩
      · obtain ⟨rfl, ⟨_, _, start, _⟩ | ⟨_, _, user, start, rfl, owner⟩⟩ := webhookStep_eq_inl taken
        · cases start
        · obtain ⟨rfl, rfl⟩ := WebhookStage.selectUser.inj start
          have loaded := exec_webhook_inl taken
          rcases exec_commit db req payment user with
            ⟨e, failed⟩ | ⟨expiresAt, expiry, accepted, stored, done⟩
          · exact .ignored (.error e) (by simp) (selected.trans (loaded.trans failed))
          · exact .credited payment user expiresAt
              ⟨named, found, pending, owner, expiry, accepted, stored⟩
              (selected.trans (loaded.trans done))
      · obtain ⟨outcome, none, ended⟩ := ends (by simp) taken (congrArg Prod.fst taken).symm
        exact .ignored outcome none (selected.trans ended)
    · cases start
  · obtain ⟨outcome, none, ended⟩ := ends (by simp) taken (congrArg Prod.fst taken).symm
    exact .ignored outcome none ended

/-! ## Trials and cancellations -/

/-- `get_current_user`, for the user a token names. -/
def getCurrentUser (db : BillingDb) (userId : Uuid) : Except ServiceError User :=
  match scalarOneOrNone (db.usersWith userId) with
  | .error e => .error e
  | .ok none => .error (.httpException 401 "User not found")
  | .ok (some user) => .ok user

def User.startTrial (expiresAt : DateTime) (user : User) : User :=
  { user.subscribe "trial" expiresAt with trialUsed := true }

/-- The commit of a trial. -/
def BillingDb.startTrial (db : BillingDb) (subscription : Subscription) : BillingDb :=
  (db.insertSubscription subscription).modifyUser subscription.userId
    (·.startTrial subscription.expiresAt)

theorem usersWith_startTrial {db : BillingDb} {subscription : Subscription} {user : User}
    (owner : db.usersWith subscription.userId = [user]) (userId : Uuid) :
    (db.startTrial subscription).usersWith userId =
      if userId = subscription.userId then [user.startTrial subscription.expiresAt]
      else db.usersWith userId := by
  have keeps : ∀ u : User, (u.startTrial subscription.expiresAt).id = u.id := fun _ => rfl
  apply (usersWith_modifyUser _ subscription.userId keeps userId).trans
  change (if _ then (db.usersWith subscription.userId).map _ else db.usersWith userId) = _
  rw [owner]
  rfl

/-- `activate_trial`. The trial's end is computed from the clock alone. -/
def activateTrial (db : BillingDb) (userId : Uuid) (now : DateTime) (subscriptionId : Uuid) :
    BillingDb × Except ServiceError Subscription :=
  match getCurrentUser db userId with
  | .error e => (db, .error e)
  | .ok user =>
      if user.trialUsed then (db, .error (.valueError "Trial already used"))
      else
        match addDays now 7 with
        | .error e => (db, .error e)
        | .ok expiresAt =>
            let subscription := newSubscription subscriptionId user.id "trial" now expiresAt
            if db.Accepts subscription then (db.startTrial subscription, .ok subscription)
            else (db, .error .integrityError)

theorem getCurrentUser_eq_ok {db : BillingDb} {userId : Uuid} {user : User} :
    getCurrentUser db userId = .ok user ↔ db.usersWith userId = [user] := by
  rw [← scalarOneOrNone_eq_some, getCurrentUser]
  cases scalarOneOrNone (db.usersWith userId) with
  | error e => simp
  | ok row => cases row <;> simp

/-- All that a trial has to find to be granted. -/
structure TrialOpens (db : BillingDb) (userId : Uuid) (now : DateTime) (subscriptionId : Uuid)
    (user : User) : Prop where
  found : db.usersWith userId = [user]
  unused : user.trialUsed = false
  inRange : now + 7 * day ≤ datetimeMax
  accepted : db.Accepts (newSubscription subscriptionId userId "trial" now (now + 7 * day))

theorem TrialOpens.user_eq {db : BillingDb} {userId : Uuid} {now : DateTime}
    {subscriptionId : Uuid} {user user' : User}
    (opens : TrialOpens db userId now subscriptionId user)
    (found : db.usersWith userId = [user']) : user = user' :=
  (List.cons.inj (opens.found.symm.trans found)).1

theorem TrialOpens.usersWith {db : BillingDb} {trialUser : Uuid} {now : DateTime}
    {subscriptionId : Uuid} {user : User} (opens : TrialOpens db trialUser now subscriptionId user)
    (userId : Uuid) :
    (db.startTrial (newSubscription subscriptionId trialUser "trial" now
        (now + 7 * day))).usersWith userId =
      if userId = trialUser then [user.startTrial (now + 7 * day)] else db.usersWith userId :=
  usersWith_startTrial opens.found userId

theorem activateTrial_cases (db : BillingDb) (userId : Uuid) (now : DateTime)
    (subscriptionId : Uuid) :
    ((∃ e, activateTrial db userId now subscriptionId = (db, .error e)) ∧
      ∀ user, ¬ TrialOpens db userId now subscriptionId user) ∨
    ∃ user, TrialOpens db userId now subscriptionId user ∧
      activateTrial db userId now subscriptionId =
        (db.startTrial (newSubscription subscriptionId userId "trial" now (now + 7 * day)),
          .ok (newSubscription subscriptionId userId "trial" now (now + 7 * day))) := by
  cases current : getCurrentUser db userId with
  | error e =>
      refine .inl ⟨⟨e, by simp only [activateTrial, current]⟩, fun user opens => ?_⟩
      rw [getCurrentUser_eq_ok.mpr opens.found] at current
      cases current
  | ok user =>
      have found := getCurrentUser_eq_ok.mp current
      have same : user.id = userId := id_of_usersWith found
      by_cases used : user.trialUsed = true
      · refine .inl ⟨⟨.valueError "Trial already used", ?_⟩, fun user' opens => ?_⟩
        · simp only [activateTrial, current, used, if_true]
        · obtain rfl := opens.user_eq found
          rw [opens.unused] at used
          cases used
      · by_cases inRange : now + 7 * day ≤ datetimeMax
        · have expiry := addDays_eq_ok.mpr ⟨inRange, rfl⟩
          by_cases accepted :
              db.Accepts (newSubscription subscriptionId userId "trial" now (now + 7 * day))
          · refine .inr ⟨user, ⟨found, by simpa using used, inRange, accepted⟩, ?_⟩
            simp [activateTrial, current, used, expiry, same, accepted]
          · refine .inl ⟨⟨.integrityError, ?_⟩, fun user' opens => accepted opens.accepted⟩
            simp [activateTrial, current, used, expiry, same, accepted]
        · refine .inl ⟨⟨.overflowError, ?_⟩, fun user' opens => inRange opens.inRange⟩
          simp [activateTrial, current, used, addDays, inRange]

/-- `ORDER BY expires_at DESC LIMIT 1`. -/
def latest : List Subscription → Option Subscription
  | [] => none
  | row :: rows =>
      match latest rows with
      | none => some row
      | some later => if row.expiresAt < later.expiresAt then some later else some row

theorem latest_eq_none {rows : List Subscription} : latest rows = none ↔ rows = [] := by
  cases rows with
  | nil => simp [latest]
  | cons row rows =>
      simp only [latest, reduceCtorEq, iff_false]
      split
      · simp
      · split_ifs <;> simp

def Subscription.cancel (now : DateTime) (subscription : Subscription) : Subscription :=
  { subscription with cancelledAt := some now }

/-- `cancel_subscription`. -/
def cancelSubscription (db : BillingDb) (userId : Uuid) (now : DateTime) :
    BillingDb × Except ServiceError Subscription :=
  match getCurrentUser db userId with
  | .error e => (db, .error e)
  | .ok user =>
      match latest (db.activeSubscriptions user.id) with
      | none => (db, .error (.valueError "No active subscription to cancel"))
      | some subscription =>
          -- Subscription remains active until expires_at
          (db.modifySubscription subscription.id (·.cancel now), .ok (subscription.cancel now))

theorem cancelSubscription_cases (db : BillingDb) (userId : Uuid) (now : DateTime) :
    (∃ e, cancelSubscription db userId now = (db, .error e)) ∨
    ∃ subscription : Subscription, cancelSubscription db userId now =
      (db.modifySubscription subscription.id (·.cancel now), .ok (subscription.cancel now)) := by
  cases current : getCurrentUser db userId with
  | error e => exact .inl ⟨e, by simp only [cancelSubscription, current]⟩
  | ok user =>
      cases found : latest (db.activeSubscriptions user.id) with
      | none =>
          exact .inl ⟨.valueError "No active subscription to cancel", by
            simp only [cancelSubscription, current, found]⟩
      | some subscription =>
          exact .inr ⟨subscription, by simp only [cancelSubscription, current, found]⟩

/-! ## The administrator's edits -/

/-- The body of an edit: a field is unset, null or a value. -/
structure AdminSubscriptionUpdate where
  expiresAt : Option (Option DateTime)
  isActive : Option (Option Bool)
  tier : Option (Option String)
  deriving DecidableEq, Repr

/-- Some field is null, which none of the columns takes. -/
def AdminSubscriptionUpdate.hasNull (body : AdminSubscriptionUpdate) : Bool :=
  body.expiresAt == some none || body.isActive == some none || body.tier == some none

/-- Set the fields that the body sets. -/
def AdminSubscriptionUpdate.apply (body : AdminSubscriptionUpdate) (sub : Subscription) :
    Subscription :=
  { sub with
    expiresAt := body.expiresAt.join.getD sub.expiresAt
    isActive := body.isActive.join.getD sub.isActive
    tier := body.tier.join.getD sub.tier }

/-- `update_subscription`. -/
def updateSubscription (db : BillingDb) (subId : Uuid) (body : AdminSubscriptionUpdate) :
    BillingDb × Except ServiceError Subscription :=
  match scalarOneOrNone (db.subscriptionsWith subId) with
  | .error e => (db, .error e)
  | .ok none => (db, .error (.httpException 404 "Subscription not found"))
  | .ok (some sub) =>
      if body.hasNull then (db, .error .integrityError)
      else (db.modifySubscription subId body.apply, .ok (body.apply sub))

theorem updateSubscription_cases (db : BillingDb) (subId : Uuid)
    (body : AdminSubscriptionUpdate) :
    ((∃ e, updateSubscription db subId body = (db, .error e)) ∧
      ∀ sub, db.subscriptionsWith subId = [sub] → body.hasNull = true) ∨
    ∃ sub, db.subscriptionsWith subId = [sub] ∧ body.hasNull = false ∧
      updateSubscription db subId body =
        (db.modifySubscription subId body.apply, .ok (body.apply sub)) := by
  cases found : scalarOneOrNone (db.subscriptionsWith subId) with
  | error e =>
      refine .inl ⟨⟨e, by simp only [updateSubscription, found]⟩, fun sub one => ?_⟩
      exact absurd one (ne_singleton_of_scalarOneOrNone found (by simp) sub)
  | ok row =>
      cases row with
      | none =>
          refine .inl ⟨⟨.httpException 404 "Subscription not found", by
            simp only [updateSubscription, found]⟩, fun sub one => ?_⟩
          exact absurd one (ne_singleton_of_scalarOneOrNone found (by simp) sub)
      | some sub =>
          cases null : body.hasNull with
          | true =>
              exact .inl ⟨⟨.integrityError, by simp [updateSubscription, found, null]⟩,
                fun _ _ => rfl⟩
          | false =>
              exact .inr ⟨sub, scalarOneOrNone_eq_some.mp found, rfl, by
                simp [updateSubscription, found, null]⟩

/-! ## The two views -/

/-- `get_subscribed_user`. -/
def getSubscribedUser (db : BillingDb) (userId : Uuid) (now : DateTime) :
    Except ServiceError User :=
  match getCurrentUser db userId with
  | .error e => .error e
  | .ok user =>
      if user.subscriptionTier = "free" then
        .error (.httpException 403 "Active subscription required")
      else if ∃ expiresAt ∈ user.subscriptionExpiresAt, expiresAt < now then
        .error (.httpException 403 "Subscription expired")
      else .ok user

/-- `get_active_subscription`. -/
def getActiveSubscription (db : BillingDb) (userId : Uuid) (now : DateTime) :
    Option Subscription :=
  latest ((db.activeSubscriptions userId).filter fun s => now < s.expiresAt)

/-! ## One operation at a time -/

inductive Operation where
  | processWebhook (req : Webhook)
  | activateTrial (userId : Uuid) (now : DateTime) (subscriptionId : Uuid)
  | cancelSubscription (userId : Uuid) (now : DateTime)
  | updateSubscription (subId : Uuid) (body : AdminSubscriptionUpdate)
  deriving DecidableEq, Repr

/-- The error an outcome raises, if any. -/
def raised {α : Type} : Except ServiceError α → List ServiceError
  | .error e => [e]
  | .ok _ => []

/-- Execute one operation. The outputs are the errors it raises. -/
def BillingDb.step (db : BillingDb) : Operation → BillingDb × List ServiceError
  | .processWebhook req =>
      let ended := processWebhook.exec db (.selectPayment req)
      (ended.1, ended.2.toList.flatMap raised)
  | .activateTrial userId now subscriptionId =>
      (activateTrial db userId now subscriptionId).map id raised
  | .cancelSubscription userId now => (cancelSubscription db userId now).map id raised
  | .updateSubscription subId body => (updateSubscription db subId body).map id raised

/-- What a trial or an edit that is not carried out must have found. -/
def Operation.Refused (db : BillingDb) : Operation → Prop
  | .activateTrial userId now subscriptionId =>
      ∀ user, ¬ TrialOpens db userId now subscriptionId user
  | .updateSubscription subId body =>
      ∀ sub, db.subscriptionsWith subId = [sub] → body.hasNull = true
  | _ => True

/-- All that one operation does to the tables: nothing, or the one commit of its kind. -/
inductive BillingDb.Steps (db : BillingDb) : Operation → Prop
  | refused {operation : Operation} (same : (db.step operation).1 = db)
      (refused : operation.Refused db) : db.Steps operation
  | credited {req : Webhook} {payment : Payment} {user : User} {expiresAt : DateTime}
      (credits : Credits db req payment user expiresAt)
      (after : (db.step (.processWebhook req)).1 = db.credit req payment user expiresAt) :
      db.Steps (.processWebhook req)
  | granted {userId : Uuid} {now : DateTime} {subscriptionId : Uuid} {user : User}
      (opens : TrialOpens db userId now subscriptionId user)
      (after : (db.step (.activateTrial userId now subscriptionId)).1 =
        db.startTrial (newSubscription subscriptionId userId "trial" now (now + 7 * day))) :
      db.Steps (.activateTrial userId now subscriptionId)
  | cancelled {userId : Uuid} {now : DateTime} {subscription : Subscription}
      (after : (db.step (.cancelSubscription userId now)).1 =
        db.modifySubscription subscription.id (·.cancel now)) :
      db.Steps (.cancelSubscription userId now)
  | edited {body : AdminSubscriptionUpdate} {sub : Subscription}
      (found : db.subscriptionsWith sub.id = [sub]) (valid : body.hasNull = false)
      (after : (db.step (.updateSubscription sub.id body)).1 =
        db.modifySubscription sub.id body.apply) :
      db.Steps (.updateSubscription sub.id body)

theorem BillingDb.steps (db : BillingDb) (operation : Operation) : db.Steps operation := by
  cases operation with
  | processWebhook req =>
      cases webhookEnds db req with
      | ignored outcome no_payment ended => exact .refused (congrArg Prod.fst ended) trivial
      | credited payment user expiresAt credits ended =>
          exact .credited credits (congrArg Prod.fst ended)
  | activateTrial userId now subscriptionId =>
      rcases activateTrial_cases db userId now subscriptionId with
        ⟨⟨e, failed⟩, closed⟩ | ⟨user, opens, granted⟩
      · exact .refused (congrArg Prod.fst failed) closed
      · exact .granted opens (congrArg Prod.fst granted)
  | cancelSubscription userId now =>
      rcases cancelSubscription_cases db userId now with ⟨e, failed⟩ | ⟨subscription, done⟩
      · exact .refused (congrArg Prod.fst failed) trivial
      · exact .cancelled (congrArg Prod.fst done)
  | updateSubscription subId body =>
      rcases updateSubscription_cases db subId body with
        ⟨⟨e, failed⟩, refused⟩ | ⟨sub, found, valid, done⟩
      · exact .refused (congrArg Prod.fst failed) refused
      · obtain rfl : sub.id = subId := (Table.of_select_eq_singleton found).2
        exact .edited found valid (congrArg Prod.fst done)

end PlgBooster.Server
