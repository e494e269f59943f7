import PlgBooster.Server.Catalogue
import PlgBooster.Server.PromoAdmin

/-!
# The billing endpoints

Registrations, purchases, trials, cancellations, deliveries, the views of a user and the edits of
an administrator, as one program of database steps over the users, the promo codes, the payments
and the subscriptions. A request of a user first loads the user with their subscriptions and
payments, and what it selects later does not load these again; an object writes the columns that
differ from what it was loaded with; and after its commit a request reads its row again. No
code deletes a row of these tables.
-/

namespace PlgBooster.Server

open Transaction
open scoped List

structure LedgerUser extends User where
  isAdmin : Bool
  deriving DecidableEq, Repr

structure LedgerDb where
  users : List LedgerUser
  promoCodes : List PromoCode
  payments : List PaymentRow
  subscriptions : List Subscription
  deriving DecidableEq, Repr

namespace LedgerDb

def usersWith (db : LedgerDb) (id : Uuid) : List LedgerUser := Table.select (·.id) id db.users

def paymentsWith (db : LedgerDb) (id : Uuid) : List PaymentRow := Table.select (·.id) id db.payments

def subscriptionsWith (db : LedgerDb) (id : Uuid) : List Subscription :=
  Table.select (·.id) id db.subscriptions

def promosWith (db : LedgerDb) (id : Uuid) : List PromoCode := Table.select (·.id) id db.promoCodes

/-- The tables as deliveries see them. -/
def billing (db : LedgerDb) : BillingDb where
  users := db.users.map (·.toUser)
  payments := db.payments.map (·.toPayment)
  subscriptions := db.subscriptions

/-- The tables as purchases see them. -/
def purchases (db : LedgerDb) : PurchaseDb where
  users := db.users.map (·.id)
  promoCodes := db.promoCodes
  payments := db.payments

end LedgerDb

/-! ## Calls -/

/-- The body of `update_user`: a field is unset, null or a value. -/
structure AdminUserUpdate where
  subscriptionTier : Option (Option String)
  subscriptionExpiresAt : Option (Option DateTime)
  isAdmin : Option (Option Bool)
  deriving DecidableEq, Repr

/-- Some field is null whose column takes no null. -/
def AdminUserUpdate.hasNull (body : AdminUserUpdate) : Bool :=
  body.subscriptionTier == some none || body.isAdmin == some none

/-- Set the fields that the body sets. -/
def AdminUserUpdate.apply (body : AdminUserUpdate) (user : LedgerUser) : LedgerUser :=
  { user with
    subscriptionTier := body.subscriptionTier.join.getD user.subscriptionTier
    subscriptionExpiresAt := body.subscriptionExpiresAt.getD user.subscriptionExpiresAt
    isAdmin := body.isAdmin.join.getD user.isAdmin }

/-- The order of a user's payments by the time of their creation, a column that is left out
here. -/
structure CreationOrder where
  arrange : List PaymentRow → List PaymentRow
  perm : ∀ rows, arrange rows ~ rows

inductive AdminCall where
  | updateUser (userId : Uuid) (body : AdminUserUpdate)
  | updateSubscription (subId : Uuid) (body : AdminSubscriptionUpdate)
  | createPromo (id : Uuid) (body : AdminPromoCreate)
  | updatePromo (promoId : Uuid) (body : AdminPromoUpdate)
  | deletePromo (promoId : Uuid)

/-- What a user asks for, with the readings of the clock and the keys of new rows. -/
inductive UserCall where
  | subscribe (plan : String) (promoCode : Option String) (now : DateTime) (paymentId : Uuid)
  | activateTrial (now : DateTime) (subscriptionId : Uuid)
  | getSubscription (now : DateTime)
  | cancelSubscription (now : DateTime)
  | paymentHistory (order : CreationOrder)
  | admin (call : AdminCall)

inductive LedgerRequest where
  | register (id : Uuid)
  | user (userId : Uuid) (call : UserCall)
  | webhook (req : Webhook)

inductive LedgerAnswer where
  | registered (user : LedgerUser)
  | payment (payment : PaymentRow) (url : String)
  | subscription (subscription : Subscription)
  | noSubscription (tier : String)
  | payments (payments : List PaymentRow)
  | ignored
  | completed (payment : PaymentRow)
  | editedUser (user : LedgerUser)
  | editedSubscription (subscription : Subscription)
  | promo (promo : PromoCode)
  deriving DecidableEq, Repr

abbrev LedgerOutcome := Except ServiceError LedgerAnswer

/-- What `get_current_user` loads. -/
structure Loaded where
  user : LedgerUser
  subscriptions : List Subscription
  payments : List PaymentRow

/-- A row that is read again after the commit. -/
inductive Written where
  | registered (userId : Uuid)
  | payment (paymentId : Uuid) (amount : Rat)
  | subscription (subscriptionId : Uuid)
  | completed (paymentId : Uuid)
  | editedUser (userId : Uuid)
  | editedSubscription (subscriptionId : Uuid)
  | promo (promoId : Uuid)
  deriving DecidableEq, Repr

/-- A commit, with the objects it writes as they were loaded. -/
inductive Commit where
  | register (id : Uuid)
  | payment (req : PurchaseRequest) (info : PlanInfo) (promo : Option PromoCode)
  | trial (user : LedgerUser) (subscription : Subscription)
  | cancel (subscription : Subscription) (now : DateTime)
  | user (user : LedgerUser) (body : AdminUserUpdate)
  | subscription (subscription : Subscription) (body : AdminSubscriptionUpdate)
  | newPromo (promo : PromoCode)
  | promo (promo : PromoCode) (body : AdminPromoUpdate)
  deriving DecidableEq, Repr

/-- The next database step of a request, with what it has read so far. -/
inductive LedgerStage where
  | selectUser (userId : Uuid) (call : UserCall)
  | loadSubscriptions (user : LedgerUser) (call : UserCall)
  | loadPayments (user : LedgerUser) (subscriptions : List Subscription) (call : UserCall)
  | call (loaded : Loaded) (call : UserCall)
  | webhook (stage : WebhookStage)
  | commit (commit : Commit)
  | refresh (written : Written)

def LedgerRequest.first : LedgerRequest → LedgerStage
  | .register id => .commit (.register id)
  | .user userId call => .selectUser userId call
  | .webhook req => .webhook (.selectPayment req)

/-! ## Selects -/

def failed (e : ServiceError) : LedgerStage ⊕ LedgerOutcome := .inr (.error e)

/-- The endpoints answer a `ValueError` with a 400. -/
def badRequest : ServiceError → ServiceError
  | .valueError detail => .httpException 400 detail
  | e => e

/-- A select of at most one row. -/
def atMostOne {α : Type} (rows : List α) (next : Option α → LedgerStage ⊕ LedgerOutcome) :
    LedgerStage ⊕ LedgerOutcome :=
  match scalarOneOrNone rows with
  | .error e => failed e
  | .ok row => next row

/-- The first select of an administrator's call, if it is not refused. -/
def enterAdmin (db : LedgerDb) (loaded : Loaded) : AdminCall → LedgerStage ⊕ LedgerOutcome
  | .updateUser userId body =>
      atMostOne (db.usersWith userId) fun
        | none => failed (.httpException 404 "User not found")
        | some user => .inl (.commit (.user (identity (·.id) [loaded.user] user) body))
  | .updateSubscription subId body =>
      atMostOne (db.subscriptionsWith subId) fun
        | none => failed (.httpException 404 "Subscription not found")
        | some sub => .inl (.commit (.subscription (identity (·.id) loaded.subscriptions sub) body))
  | .createPromo id body =>
      atMostOne (db.purchases.promosWith body.code) fun
        | some _ => failed (.httpException 409 "Promo code already exists")
        | none => .inl (.commit (.newPromo (body.stored id)))
  | .updatePromo promoId body =>
      atMostOne (db.promosWith promoId) fun
        | none => failed (.httpException 404 "Promo not found")
        | some promo => .inl (.commit (.promo promo body))
  | .deletePromo promoId =>
      atMostOne (db.promosWith promoId) fun
        | none => failed (.httpException 404 "Promo not found")
        | some promo => .inl (.commit (.promo promo { isActive := some (some false) }))

/-- What an endpoint does up to its commit, once its user is loaded: at most one select. -/
def enter (shop : Shop) (db : LedgerDb) (loaded : Loaded) : UserCall → LedgerStage ⊕ LedgerOutcome
  | .subscribe plan promoCode now paymentId =>
      match (purchaseStep shop db.purchases
        (.validate ⟨loaded.user.id, plan, promoCode, now, paymentId⟩)).2 with
      | .inl (.commit req info promo) => .inl (.commit (.payment req info promo))
      | .inr (.error e) => failed (badRequest e)
      -- Before its commit a purchase ends with an error only.
      | _ => failed .integrityError
  | .activateTrial now subscriptionId =>
      if loaded.user.trialUsed then failed (.httpException 400 "Trial already used")
      else
        match addDays now 7 with
        | .error e => failed e
        | .ok expiresAt =>
            .inl (.commit (.trial loaded.user
              (newSubscription subscriptionId loaded.user.id "trial" now expiresAt)))
  | .getSubscription now =>
      match getActiveSubscription db.billing loaded.user.id now with
      | none => .inr (.ok (.noSubscription
          (if loaded.user.subscriptionTier = "" then "free" else loaded.user.subscriptionTier)))
      | some subscription =>
          .inr (.ok (.subscription (identity (·.id) loaded.subscriptions subscription)))
  | .cancelSubscription now =>
      match latest (db.billing.activeSubscriptions loaded.user.id) with
      | none => failed (.httpException 400 "No active subscription to cancel")
      | some subscription =>
          .inl (.commit (.cancel (identity (·.id) loaded.subscriptions subscription) now))
  | .paymentHistory order =>
      let rows := (order.arrange (db.payments.filter (·.userId = loaded.user.id))).take 50
      .inr (.ok (.payments (rows.map (identity (·.id) loaded.payments))))
  | .admin call =>
      if loaded.user.isAdmin then enterAdmin db loaded call
      else failed (.httpException 403 "Admin access required")

/-- `db.refresh` of a row that is there exactly once, and the answer with it. -/
def refreshed {α : Type} (rows : List α) (answer : α → LedgerAnswer) :
    LedgerStage ⊕ LedgerOutcome :=
  match scalarOne rows with
  | .error e => failed e
  | .ok row => .inr (.ok (answer row))

def refreshRow (shop : Shop) (db : LedgerDb) : Written → LedgerStage ⊕ LedgerOutcome
  | .registered userId => refreshed (db.usersWith userId) .registered
  | .payment paymentId amount =>
      refreshed (db.paymentsWith paymentId) fun row => .payment row (paymentUrl shop row.id amount)
  | .subscription subscriptionId => refreshed (db.subscriptionsWith subscriptionId) .subscription
  | .completed paymentId => refreshed (db.paymentsWith paymentId) .completed
  | .editedUser userId => refreshed (db.usersWith userId) .editedUser
  | .editedSubscription subscriptionId =>
      refreshed (db.subscriptionsWith subscriptionId) .editedSubscription
  | .promo promoId => refreshed (db.promosWith promoId) .promo

/-! ## Commits -/

/-- A column of a changed object: it is written if it differs from what was loaded. -/
def netWrite {α : Type} [DecidableEq α] (loaded new current : α) : α :=
  if new = loaded then current else new

def LedgerUser.write (loaded new current : LedgerUser) : LedgerUser :=
  { current with
    subscriptionTier := netWrite loaded.subscriptionTier new.subscriptionTier
      current.subscriptionTier
    subscriptionExpiresAt := netWrite loaded.subscriptionExpiresAt new.subscriptionExpiresAt
      current.subscriptionExpiresAt
    trialUsed := netWrite loaded.trialUsed new.trialUsed current.trialUsed
    isAdmin := netWrite loaded.isAdmin new.isAdmin current.isAdmin }

/-- The columns of a payment that its delivery sets. -/
def PaymentRow.write (loaded new : Payment) (current : PaymentRow) : PaymentRow :=
  { current with
    status := netWrite loaded.status new.status current.status
    donatepayId := netWrite loaded.donatepayId new.donatepayId current.donatepayId
    subscriptionId := netWrite loaded.subscriptionId new.subscriptionId current.subscriptionId }

def Subscription.write (loaded new current : Subscription) : Subscription :=
  { current with
    tier := netWrite loaded.tier new.tier current.tier
    expiresAt := netWrite loaded.expiresAt new.expiresAt current.expiresAt
    isActive := netWrite loaded.isActive new.isActive current.isActive
    cancelledAt := netWrite loaded.cancelledAt new.cancelledAt current.cancelledAt }

def PromoCode.write (loaded new current : PromoCode) : PromoCode :=
  { current with
    code := netWrite loaded.code new.code current.code
    discountPercent := netWrite loaded.discountPercent new.discountPercent current.discountPercent
    discountAmount := netWrite loaded.discountAmount new.discountAmount current.discountAmount
    maxUses := netWrite loaded.maxUses new.maxUses current.maxUses
    validFrom := netWrite loaded.validFrom new.validFrom current.validFrom
    validUntil := netWrite loaded.validUntil new.validUntil current.validUntil
    applicablePlans := netWrite loaded.applicablePlans new.applicablePlans current.applicablePlans
    isActive := netWrite loaded.isActive new.isActive current.isActive }

namespace LedgerDb

/-- A user object that is set to new values. -/
def writeUser (db : LedgerDb) (loaded new : LedgerUser) : LedgerDb :=
  { db with users := Table.update (·.id) loaded.id (loaded.write new) db.users }

def writeSubscription (db : LedgerDb) (loaded new : Subscription) : LedgerDb :=
  { db with subscriptions := Table.update (·.id) loaded.id (loaded.write new) db.subscriptions }

def insertSubscription (db : LedgerDb) (row : Subscription) : LedgerDb :=
  { db with subscriptions := db.subscriptions ++ [row] }

/-- The commit of `create_payment_link`. -/
def purchase (db : LedgerDb) (req : PurchaseRequest) (info : PlanInfo)
    (promo : Option PromoCode) : LedgerDb :=
  let after := commitPurchase db.purchases req info promo
  { db with promoCodes := after.promoCodes, payments := after.payments }

/-- The commit of a delivery, whose user object has the columns that a delivery sets. -/
def credit (db : LedgerDb) (req : Webhook) (payment : Payment) (user : User)
    (expiresAt : DateTime) : LedgerDb where
  users := Table.update (·.id) user.id (fun current =>
    { current with
      subscriptionTier := netWrite user.subscriptionTier payment.plan current.subscriptionTier
      subscriptionExpiresAt := netWrite user.subscriptionExpiresAt (some expiresAt)
        current.subscriptionExpiresAt }) db.users
  promoCodes := db.promoCodes
  payments := Table.update (·.id) payment.id (PaymentRow.write payment (payment.complete req))
    db.payments
  subscriptions := db.subscriptions ++ [req.subscription payment user expiresAt]

end LedgerDb

/-- One commit, or the constraint that it breaks. -/
def commitStep (db : LedgerDb) : Commit → LedgerDb × (LedgerStage ⊕ LedgerOutcome)
  | .register id =>
      if db.usersWith id = [] then
        ({ db with users := db.users ++ [⟨registeredUser id, false⟩] },
          .inl (.refresh (.registered id)))
      else (db, failed .integrityError)
  | .payment req info promo =>
      let row := newPayment req info promo
      if db.purchases.Accepts row promo then
        (db.purchase req info promo, .inl (.refresh (.payment row.id row.amount)))
      else (db, failed (purchaseRefusal row promo))
  | .trial user subscription =>
      if db.billing.Accepts subscription then
        ((db.insertSubscription subscription).writeUser user
          { user with toUser := user.toUser.startTrial subscription.expiresAt },
          .inl (.refresh (.subscription subscription.id)))
      else (db, failed .integrityError)
  | .cancel subscription now =>
      (db.writeSubscription subscription (subscription.cancel now),
        .inl (.refresh (.subscription subscription.id)))
  | .user user body =>
      if body.hasNull then (db, failed .integrityError)
      else (db.writeUser user (body.apply user), .inl (.refresh (.editedUser user.id)))
  | .subscription subscription body =>
      if body.hasNull then (db, failed .integrityError)
      else (db.writeSubscription subscription (body.apply subscription),
        .inl (.refresh (.editedSubscription subscription.id)))
  | .newPromo promo =>
      if AcceptsPromo db.promoCodes promo then
        ({ db with promoCodes := db.promoCodes ++ [promo] }, .inl (.refresh (.promo promo.id)))
      else (db, failed .integrityError)
  | .promo promo body =>
      let code := netWrite promo.code (body.apply promo).code
      if body.hasNull ∨ ∃ p ∈ db.promosWith promo.id,
          ∃ other ∈ db.promoCodes, other.id ≠ promo.id ∧ other.code = code p.code then
        (db, failed .integrityError)
      else
        ({ db with promoCodes :=
            Table.update (·.id) promo.id (promo.write (body.apply promo)) db.promoCodes },
          .inl (.refresh (.promo promo.id)))

/-- One database step of a delivery: the selects of `process_webhook`, and its commit. -/
def webhookLedgerStep (db : LedgerDb) : WebhookStage → LedgerDb × (LedgerStage ⊕ LedgerOutcome)
  | .commit req payment user =>
      if req.donatepayId.isSome then
        match calculateExpiry req.expiryNow payment.plan user.subscriptionExpiresAt with
        | .error e => (db, failed e)
        | .ok expiresAt =>
            if db.billing.Accepts (req.subscription payment user expiresAt) then
              (db.credit req payment user expiresAt, .inl (.refresh (.completed payment.id)))
            else (db, failed .integrityError)
      else (db, failed .dataError)
  | stage =>
      (db, match (webhookStep db.billing stage).2 with
        | .inl next => .inl (.webhook next)
        | .inr (.error e) => failed e
        | .inr (.ok _) => .inr (.ok .ignored))

/-- One database step. -/
def ledgerStep (shop : Shop) (db : LedgerDb) :
    LedgerStage → LedgerDb × (LedgerStage ⊕ LedgerOutcome)
  | .selectUser userId call =>
      (db, atMostOne (db.usersWith userId) fun
        | none => failed (.httpException 401 "User not found")
        | some user => .inl (.loadSubscriptions user call))
  | .loadSubscriptions user call =>
      (db, .inl (.loadPayments user (db.subscriptions.filter (·.userId = user.id)) call))
  | .loadPayments user subscriptions call =>
      (db, .inl (.call ⟨user, subscriptions, db.payments.filter (·.userId = user.id)⟩ call))
  | .call loaded call => (db, enter shop db loaded call)
  | .webhook stage => webhookLedgerStep db stage
  | .commit commit => commitStep db commit
  | .refresh written => (db, refreshRow shop db written)

def LedgerStage.rank : LedgerStage → Nat
  | .selectUser _ _ => 5
  | .loadSubscriptions _ _ => 4
  | .loadPayments _ _ _ => 3
  | .call _ _ => 2
  | .webhook stage => stage.rank + 1
  | .commit _ => 1
  | .refresh _ => 0

/-! ## What the steps do -/

/-- The commit that an administrator's call goes on to. -/
inductive EntersAdmin (db : LedgerDb) (loaded : Loaded) : AdminCall → Commit → Prop
  | updateUser {userId : Uuid} {body : AdminUserUpdate} {user : LedgerUser}
      (found : db.usersWith userId = [user]) :
      EntersAdmin db loaded (.updateUser userId body)
        (.user (identity (·.id) [loaded.user] user) body)
  | updateSubscription {subId : Uuid} {body : AdminSubscriptionUpdate} {sub : Subscription}
      (found : db.subscriptionsWith subId = [sub]) :
      EntersAdmin db loaded (.updateSubscription subId body)
        (.subscription (identity (·.id) loaded.subscriptions sub) body)
  | createPromo {id : Uuid} {body : AdminPromoCreate} :
      EntersAdmin db loaded (.createPromo id body) (.newPromo (body.stored id))
  | updatePromo {promoId : Uuid} {body : AdminPromoUpdate} {promo : PromoCode}
      (found : db.promosWith promoId = [promo]) :
      EntersAdmin db loaded (.updatePromo promoId body) (.promo promo body)
  | deletePromo {promoId : Uuid} {promo : PromoCode} (found : db.promosWith promoId = [promo]) :
      EntersAdmin db loaded (.deletePromo promoId)
        (.promo promo { isActive := some (some false) })

/-- The commit that a call goes on to. -/
inductive Enters (shop : Shop) (db : LedgerDb) (loaded : Loaded) : UserCall → Commit → Prop
  | subscribe {plan : String} {promoCode : Option String} {now : DateTime} {paymentId : Uuid}
      {info : PlanInfo} {promo : Option PromoCode} (sold : forSale plan = some info)
      (valid : ∀ read ∈ promo, ∃ code,
        validatePromo shop db.promoCodes now code plan = .ok (some read)) :
      Enters shop db loaded (.subscribe plan promoCode now paymentId)
        (.payment ⟨loaded.user.id, plan, promoCode, now, paymentId⟩ info promo)
  | activateTrial {now expiresAt : DateTime} {subscriptionId : Uuid}
      (unused : loaded.user.trialUsed = false) (ends : addDays now 7 = .ok expiresAt) :
      Enters shop db loaded (.activateTrial now subscriptionId)
        (.trial loaded.user
          (newSubscription subscriptionId loaded.user.id "trial" now expiresAt))
  | cancelSubscription {now : DateTime} {subscription : Subscription}
      (found : latest (db.billing.activeSubscriptions loaded.user.id) = some subscription) :
      Enters shop db loaded (.cancelSubscription now)
        (.cancel (identity (·.id) loaded.subscriptions subscription) now)
  | admin {call : AdminCall} {commit : Commit} (allowed : loaded.user.isAdmin = true)
      (enters : EntersAdmin db loaded call commit) : Enters shop db loaded (.admin call) commit

/-- The answer of a call that only reads. -/
inductive Reads (db : LedgerDb) (loaded : Loaded) : UserCall → LedgerAnswer → Prop
  | noSubscription {now : DateTime} {tier : String} :
      Reads db loaded (.getSubscription now) (.noSubscription tier)
  | subscription {now : DateTime} {subscription : Subscription}
      (found : getActiveSubscription db.billing loaded.user.id now = some subscription) :
      Reads db loaded (.getSubscription now)
        (.subscription (identity (·.id) loaded.subscriptions subscription))
  | payments {order : CreationOrder} {rows : List PaymentRow}
      (own : ∀ row ∈ rows, row ∈ db.payments ∧ row.userId = loaded.user.id) :
      Reads db loaded (.paymentHistory order)
        (.payments (rows.map (identity (·.id) loaded.payments)))

/-- Where a call stands after its first select: refused, answered or before its commit. -/
inductive CallResult (shop : Shop) (db : LedgerDb) (loaded : Loaded) (call : UserCall) :
    LedgerStage ⊕ LedgerOutcome → Prop
  | refused (e : ServiceError) : CallResult shop db loaded call (failed e)
  | answered {answer : LedgerAnswer} (reads : Reads db loaded call answer) :
      CallResult shop db loaded call (.inr (.ok answer))
  | commits {commit : Commit} (enters : Enters shop db loaded call commit) :
      CallResult shop db loaded call (.inl (.commit commit))

theorem atMostOne_cases {α : Type} (rows : List α)
    (next : Option α → LedgerStage ⊕ LedgerOutcome) :
    (∃ e, atMostOne rows next = failed e) ∨
      (rows = [] ∧ atMostOne rows next = next none) ∨
      ∃ row, rows = [row] ∧ atMostOne rows next = next (some row) := by
  unfold atMostOne
  cases found : scalarOneOrNone rows with
  | error e => exact .inl ⟨e, rfl⟩
  | ok row =>
      cases row with
      | none => exact .inr (.inl ⟨scalarOneOrNone_eq_none.mp found, rfl⟩)
      | some row => exact .inr (.inr ⟨row, scalarOneOrNone_eq_some.mp found, rfl⟩)

theorem enterAdmin_cases (db : LedgerDb) (loaded : Loaded) (call : AdminCall) :
    (∃ e, enterAdmin db loaded call = failed e) ∨
      ∃ commit, EntersAdmin db loaded call commit ∧
        enterAdmin db loaded call = .inl (.commit commit) := by
  cases call with
  | updateUser userId body =>
      rcases atMostOne_cases (db.usersWith userId) _ with failed | ⟨_, next⟩ | ⟨user, found, next⟩
      · exact .inl failed
      · exact .inl ⟨_, next⟩
      · exact .inr ⟨_, .updateUser found, next⟩
  | updateSubscription subId body =>
      rcases atMostOne_cases (db.subscriptionsWith subId) _ with
        failed | ⟨_, next⟩ | ⟨sub, found, next⟩
      · exact .inl failed
      · exact .inl ⟨_, next⟩
      · exact .inr ⟨_, .updateSubscription found, next⟩
  | createPromo id body =>
      rcases atMostOne_cases (db.purchases.promosWith body.code) _ with
        failed | ⟨_, next⟩ | ⟨promo, _, next⟩
      · exact .inl failed
      · exact .inr ⟨_, .createPromo, next⟩
      · exact .inl ⟨_, next⟩
  | updatePromo promoId body =>
      rcases atMostOne_cases (db.promosWith promoId) _ with
        failed | ⟨_, next⟩ | ⟨promo, found, next⟩
      · exact .inl failed
      · exact .inl ⟨_, next⟩
      · exact .inr ⟨_, .updatePromo found, next⟩
  | deletePromo promoId =>
      rcases atMostOne_cases (db.promosWith promoId) _ with
        failed | ⟨_, next⟩ | ⟨promo, found, next⟩
      · exact .inl failed
      · exact .inl ⟨_, next⟩
      · exact .inr ⟨_, .deletePromo found, next⟩

theorem callResult (shop : Shop) (db : LedgerDb) (loaded : Loaded) (call : UserCall) :
    CallResult shop db loaded call (enter shop db loaded call) := by
  cases call with
  | subscribe plan promoCode now paymentId =>
      simp only [enter]
      rcases purchaseStep_validate shop db.purchases
        ⟨loaded.user.id, plan, promoCode, now, paymentId⟩ with
        ⟨e, taken⟩ | ⟨info, promo, sold, valid, taken⟩
      · rw [taken]
        exact .refused _
      · rw [taken]
        exact .commits (.subscribe sold valid)
  | activateTrial now subscriptionId =>
      simp only [enter]
      split_ifs with used
      · exact .refused _
      · split
        · exact .refused _
        next expiresAt ends =>
          exact .commits (.activateTrial (Bool.not_eq_true _ ▸ used) ends)
  | getSubscription now =>
      simp only [enter]
      split
      · exact .answered .noSubscription
      next subscription found => exact .answered (.subscription found)
  | cancelSubscription now =>
      simp only [enter]
      split
      · exact .refused _
      next subscription found => exact .commits (.cancelSubscription found)
  | paymentHistory order =>
      refine .answered (.payments fun row member => ?_)
      have listed := (order.perm _).mem_iff.mp (List.mem_of_mem_take member)
      simpa using List.mem_filter.mp listed
  | admin call =>
      simp only [enter]
      split_ifs with allowed
      · rcases enterAdmin_cases db loaded call with ⟨e, taken⟩ | ⟨commit, enters, taken⟩
        · rw [taken]
          exact .refused e
        · rw [taken]
          exact .commits (.admin allowed enters)
      · exact .refused _

/-- What a commit that breaks no constraint writes, and the row that is read again. -/
inductive Commits (db : LedgerDb) : Commit → LedgerDb → Written → Prop
  | register {id : Uuid} (fresh : db.usersWith id = []) :
      Commits db (.register id) { db with users := db.users ++ [⟨registeredUser id, false⟩] }
        (.registered id)
  | payment {req : PurchaseRequest} {info : PlanInfo} {promo : Option PromoCode}
      (accepted : db.purchases.Accepts (newPayment req info promo) promo) :
      Commits db (.payment req info promo) (db.purchase req info promo)
        (.payment req.paymentId (newPayment req info promo).amount)
  | trial {user : LedgerUser} {subscription : Subscription}
      (accepted : db.billing.Accepts subscription) :
      Commits db (.trial user subscription)
        ((db.insertSubscription subscription).writeUser user
          { user with toUser := user.toUser.startTrial subscription.expiresAt })
        (.subscription subscription.id)
  | cancel {subscription : Subscription} {now : DateTime} :
      Commits db (.cancel subscription now)
        (db.writeSubscription subscription (subscription.cancel now))
        (.subscription subscription.id)
  | user {user : LedgerUser} {body : AdminUserUpdate} (valid : body.hasNull = false) :
      Commits db (.user user body) (db.writeUser user (body.apply user)) (.editedUser user.id)
  | subscription {subscription : Subscription} {body : AdminSubscriptionUpdate}
      (valid : body.hasNull = false) :
      Commits db (.subscription subscription body)
        (db.writeSubscription subscription (body.apply subscription))
        (.editedSubscription subscription.id)
  | newPromo {promo : PromoCode} (accepted : AcceptsPromo db.promoCodes promo) :
      Commits db (.newPromo promo) { db with promoCodes := db.promoCodes ++ [promo] }
        (.promo promo.id)
  | promo {promo : PromoCode} {body : AdminPromoUpdate} (valid : body.hasNull = false)
      (unique : ∀ p ∈ db.promosWith promo.id, ∀ other ∈ db.promoCodes, other.id ≠ promo.id →
        other.code ≠ netWrite promo.code (body.apply promo).code p.code) :
      Commits db (.promo promo body)
        { db with promoCodes :=
            Table.update (·.id) promo.id (promo.write (body.apply promo)) db.promoCodes }
        (.promo promo.id)

theorem commitStep_cases (db : LedgerDb) (commit : Commit) :
    (∃ e, commitStep db commit = (db, failed e)) ∨
      ∃ db' written, Commits db commit db' written ∧
        commitStep db commit = (db', .inl (.refresh written)) := by
  cases commit with
  | register id =>
      by_cases fresh : db.usersWith id = []
      · exact .inr ⟨_, _, .register fresh, if_pos fresh⟩
      · exact .inl ⟨_, if_neg fresh⟩
  | payment req info promo =>
      by_cases accepted : db.purchases.Accepts (newPayment req info promo) promo
      · exact .inr ⟨_, _, .payment accepted, if_pos accepted⟩
      · exact .inl ⟨_, if_neg accepted⟩
  | trial user subscription =>
      by_cases accepted : db.billing.Accepts subscription
      · exact .inr ⟨_, _, .trial accepted, if_pos accepted⟩
      · exact .inl ⟨_, if_neg accepted⟩
  | cancel subscription now => exact .inr ⟨_, _, .cancel, rfl⟩
  | user user body =>
      cases valid : body.hasNull with
      | true => exact .inl ⟨.integrityError, by simp only [commitStep, valid, if_true]⟩
      | false => exact .inr ⟨_, _, .user valid, by simp [commitStep, valid]⟩
  | subscription subscription body =>
      cases valid : body.hasNull with
      | true => exact .inl ⟨.integrityError, by simp only [commitStep, valid, if_true]⟩
      | false => exact .inr ⟨_, _, .subscription valid, by simp [commitStep, valid]⟩
  | newPromo promo =>
      by_cases accepted : AcceptsPromo db.promoCodes promo
      · exact .inr ⟨_, _, .newPromo accepted, if_pos accepted⟩
      · exact .inl ⟨_, if_neg accepted⟩
  | promo promo body =>
      by_cases broken : body.hasNull ∨ ∃ p ∈ db.promosWith promo.id, ∃ other ∈ db.promoCodes,
          other.id ≠ promo.id ∧ other.code = netWrite promo.code (body.apply promo).code p.code
      · exact .inl ⟨_, if_pos broken⟩
      · obtain ⟨valid, unique⟩ := not_or.mp broken
        refine .inr ⟨_, _, .promo (Bool.not_eq_true _ ▸ valid) ?_, if_neg broken⟩
        intro p found other inTable different same
        exact unique ⟨p, found, other, inTable, different, same⟩

/-- All that a step of a delivery can do. -/
inductive Delivery (db : LedgerDb) :
    WebhookStage → LedgerDb → LedgerStage ⊕ LedgerOutcome → Prop
  | fails (stage : WebhookStage) (e : ServiceError) : Delivery db stage db (failed e)
  | ignores (stage : WebhookStage) : Delivery db stage db (.inr (.ok .ignored))
  | finds {req : Webhook} {payment : PaymentRow}
      (named : namedPayment req.comment = some payment.id) (inTable : payment ∈ db.payments)
      (pending : payment.status = "pending") :
      Delivery db (.selectPayment req) db
        (.inl (.webhook (.selectUser req payment.toPayment)))
  | loads {req : Webhook} {payment : Payment} {user : LedgerUser} (inTable : user ∈ db.users)
      (owner : user.id = payment.userId) :
      Delivery db (.selectUser req payment) db
        (.inl (.webhook (.commit req payment user.toUser)))
  | credits {req : Webhook} {payment : Payment} {user : User} {expiresAt : DateTime}
      (stored : req.donatepayId.isSome)
      (expiry : calculateExpiry req.expiryNow payment.plan user.subscriptionExpiresAt =
        .ok expiresAt)
      (accepted : db.billing.Accepts (req.subscription payment user expiresAt)) :
      Delivery db (.commit req payment user) (db.credit req payment user expiresAt)
        (.inl (.refresh (.completed payment.id)))

theorem mem_of_select_map {α β : Type} {view : α → β} {key : β → Uuid} {id : Uuid} {rows : List α}
    {row : β} (only : Table.select key id (rows.map view) = [row]) :
    ∃ whole ∈ rows, view whole = row ∧ key row = id := by
  obtain ⟨inTable, same⟩ := Table.of_select_eq_singleton only
  obtain ⟨whole, member, rfl⟩ := List.mem_map.mp inTable
  exact ⟨whole, member, rfl, same⟩

theorem delivery (db : LedgerDb) (stage : WebhookStage) :
    Delivery db stage (webhookLedgerStep db stage).1 (webhookLedgerStep db stage).2 := by
  have goesOn {stage next : WebhookStage} (taken : (webhookStep db.billing stage).2 = .inl next) :
      Delivery db stage db (.inl (.webhook next)) := by
    have step : webhookStep db.billing stage = ((webhookStep db.billing stage).1, .inl next) := by
      rw [← taken]
    rcases (webhookStep_eq_inl step).2 with
      ⟨req, payment, rfl, rfl, named, found, pending⟩ | ⟨req, payment, user, rfl, rfl, owner⟩
    · obtain ⟨row, inTable, rfl, _⟩ := mem_of_select_map found
      exact .finds named inTable pending
    · obtain ⟨whole, inTable, rfl, same⟩ := mem_of_select_map owner
      exact .loads inTable same
  cases stage with
  | commit req payment user =>
      simp only [webhookLedgerStep]
      split_ifs with stored
      · split
        · exact .fails _ _
        next expiresAt expiry =>
          split_ifs with accepted
          · exact .credits stored expiry accepted
          · exact .fails _ _
      · exact .fails _ _
  | selectPayment req | selectUser req payment =>
      simp only [webhookLedgerStep]
      split
      next next taken => exact goesOn taken
      · exact .fails _ _
      · exact .ignores _

/-- A step of a delivery, whatever it comes to. -/
theorem ledgerStep_delivery (shop : Shop) (db : LedgerDb) (stage : WebhookStage) :
    ∃ after next, ledgerStep shop db (.webhook stage) = (after, next) ∧
      Delivery db stage after next :=
  ⟨_, _, rfl, delivery db stage⟩

theorem refreshRow_eq_inr (shop : Shop) (db : LedgerDb) (written : Written) :
    ∃ outcome, refreshRow shop db written = .inr outcome := by
  have general {α : Type} (rows : List α) (answer : α → LedgerAnswer) :
      ∃ outcome, refreshed rows answer = .inr outcome := by
    unfold refreshed
    split
    · exact ⟨_, rfl⟩
    · exact ⟨_, rfl⟩
  cases written <;> exact general _ _

theorem ledgerStep_descends (shop : Shop) (db : LedgerDb) (stage stage' : LedgerStage)
    (next : (ledgerStep shop db stage).2 = .inl stage') : stage'.rank < stage.rank := by
  cases stage with
  | selectUser userId call =>
      simp only [ledgerStep] at next
      rcases atMostOne_cases (db.usersWith userId) _ with ⟨e, taken⟩ | ⟨_, taken⟩ | ⟨user, _, taken⟩
      · cases taken.symm.trans next
      · cases taken.symm.trans next
      · cases taken.symm.trans next
        exact Nat.lt_succ_self _
  | loadSubscriptions user call | loadPayments user subscriptions call =>
      cases next
      exact Nat.lt_succ_self _
  | call loaded call =>
      simp only [ledgerStep] at next
      have result := callResult shop db loaded call
      rw [next] at result
      cases result
      exact Nat.lt_succ_self _
  | webhook stage =>
      obtain ⟨after, goes, taken, result⟩ := ledgerStep_delivery shop db stage
      rw [taken] at next
      cases next
      cases result with
      | finds named inTable pending => exact Nat.lt_succ_self _
      | loads inTable owner => exact Nat.lt_succ_self _
      | credits stored expiry accepted => exact Nat.lt_succ_self _
  | commit commit =>
      simp only [ledgerStep] at next
      rcases commitStep_cases db commit with ⟨e, taken⟩ | ⟨db', written, _, taken⟩
      · rw [taken] at next
        cases next
      · rw [taken] at next
        cases next
        exact Nat.lt_succ_self _
  | refresh written =>
      obtain ⟨outcome, taken⟩ := refreshRow_eq_inr shop db written
      cases taken.symm.trans next

/-- The billing endpoints as one program. -/
def ledger (shop : Shop) : Program LedgerDb LedgerStage LedgerOutcome where
  step := ledgerStep shop
  rank := LedgerStage.rank
  descends := ledgerStep_descends shop

end PlgBooster.Server
