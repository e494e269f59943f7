import PlgBooster.Library.Interference
import PlgBooster.Server.Expiry
import PlgBooster.Server.Ledger

/-!
# The books

The books balance: every payment has the price of its plan; while it is pending it has no
subscription, and from then on one of its own, for its user and plan; every other subscription
is a trial, and a user has a trial exactly if it counts as used. However the requests interleave,
the books go on balancing, nothing that is on them is taken back, and all that is new is explained
by a request.
-/

namespace PlgBooster.Server

open Transaction

/-! ## Statements -/

/-- A payment as it is when it is made: all but what its delivery sets. -/
def PaymentRow.terms (payment : PaymentRow) : PaymentRow :=
  { payment with status := "", donatepayId := none, subscriptionId := none }

/-- What no code changes of a subscription. -/
def Subscription.terms (subscription : Subscription) : Subscription :=
  { subscription with tier := "", expiresAt := 0, isActive := false, cancelledAt := none }

/-- What the books know of a user. -/
def LedgerUser.standing (user : LedgerUser) : Uuid × Bool := (user.id, user.trialUsed)

/-- A payment has the price of a plan on sale, or with a promo code at least one ruble. -/
def Priced (payment : PaymentRow) : Prop :=
  ∃ info, forSale payment.plan = some info ∧ payment.currency = "RUB" ∧ 1 ≤ payment.amount ∧
    payment.originalAmount = payment.promoCode.map (fun _ => info.priceTotal) ∧
    (payment.promoCode = none → payment.amount = info.priceTotal)

/-- A payment waits for its delivery, or has a subscription for its user and plan. -/
def Settled (db : LedgerDb) (payment : PaymentRow) : Prop :=
  payment.status = "pending" ∧ payment.donatepayId = none ∧ payment.subscriptionId = none ∨
    payment.status = "completed" ∧ ∃ s ∈ db.subscriptions,
      payment.subscriptionId = some s.id ∧ s.userId = payment.userId ∧ s.plan = payment.plan

/-- A subscription is a trial, or a completed payment of its user is for its plan. -/
def PaidFor (db : LedgerDb) (subscription : Subscription) : Prop :=
  subscription.plan = "trial" ∨ ∃ p ∈ db.payments,
    p.status = "completed" ∧ p.userId = subscription.userId ∧ p.plan = subscription.plan

structure Books (db : LedgerDb) : Prop where
  userIds : (db.users.map (·.id)).Nodup
  paymentIds : (db.payments.map (·.id)).Nodup
  subscriptionIds : (db.subscriptions.map (·.id)).Nodup
  payers : ∀ p ∈ db.payments, ∃ u ∈ db.users, u.id = p.userId
  subscribers : ∀ s ∈ db.subscriptions, ∃ u ∈ db.users, u.id = s.userId
  priced : ∀ p ∈ db.payments, Priced p
  settled : ∀ p ∈ db.payments, Settled db p
  separate : ∀ p ∈ db.payments, ∀ q ∈ db.payments, ∀ id,
    p.subscriptionId = some id → q.subscriptionId = some id → p = q
  paid : ∀ s ∈ db.subscriptions, PaidFor db s
  trials : ∀ u ∈ db.users,
    u.trialUsed = true ↔ ∃ s ∈ db.subscriptions, s.userId = u.id ∧ s.plan = "trial"

/-- Nothing is taken back. -/
structure Grows (db db' : LedgerDb) : Prop where
  users : ∀ u ∈ db.users, ∃ u' ∈ db'.users,
    u'.id = u.id ∧ (u.trialUsed = true → u'.trialUsed = true)
  payments : ∀ p ∈ db.payments, ∃ p' ∈ db'.payments,
    p'.terms = p.terms ∧ (p.status = "completed" → p'.status = "completed")
  subscriptions : ∀ s ∈ db.subscriptions, ∃ s' ∈ db'.subscriptions, s'.terms = s.terms

section Explained

variable (asked : LedgerRequest → Prop)

/-- A user has asked for the payment. -/
def Ordered (payment : PaymentRow) : Prop :=
  ∃ promoCode now, asked (.user payment.userId (.subscribe payment.plan promoCode now payment.id))

/-- A delivery names the payment. -/
def Delivered (req : Webhook) (paymentId : Uuid) : Prop :=
  asked (.webhook req) ∧ namedPayment req.comment = some paymentId

/-- What is new is asked for: an account, a payment, its completion, and a subscription as a
trial or with the delivery of a payment for it. -/
structure Explained (start db : LedgerDb) : Prop where
  users : ∀ u ∈ db.users, (∃ u₀ ∈ start.users, u₀.id = u.id) ∨ asked (.register u.id)
  payments : ∀ p ∈ db.payments, (∃ p₀ ∈ start.payments, p₀.terms = p.terms) ∨ Ordered asked p
  completed : ∀ p ∈ db.payments, p.status = "completed" →
    (∃ p₀ ∈ start.payments, p₀.id = p.id ∧ p₀.status = "completed") ∨
      ∃ req, Delivered asked req p.id
  subscriptions : ∀ s ∈ db.subscriptions, (∃ s₀ ∈ start.subscriptions, s₀.terms = s.terms) ∨
    s.plan = "trial" ∧ asked (.user s.userId (.activateTrial s.startedAt s.id)) ∨
    ∃ req, ∃ p ∈ db.payments, req.subscriptionId = s.id ∧ Delivered asked req p.id ∧
      p.userId = s.userId ∧ p.plan = s.plan

end Explained

/-! ## Changes -/

variable {shop : Shop} {asked : LedgerRequest → Prop} {db db' : LedgerDb}

/-- A payment that a delivery has found pending. -/
structure Pending (asked : LedgerRequest → Prop) (db : LedgerDb) (req : Webhook)
    (payment : Payment) : Prop where
  delivered : Delivered asked req payment.id
  status : payment.status = "pending"
  donatepayId : payment.donatepayId = none
  subscriptionId : payment.subscriptionId = none
  inTable : ∃ row ∈ db.payments,
    row.id = payment.id ∧ row.userId = payment.userId ∧ row.plan = payment.plan

/-- All that a step does to the books. -/
inductive Change (asked : LedgerRequest → Prop) (db : LedgerDb) : LedgerDb → Prop
  | edits {db' : LedgerDb} (payments : db'.payments = db.payments)
      (users : db'.users.map (·.standing) = db.users.map (·.standing))
      (subscriptions : db'.subscriptions.map (·.terms) = db.subscriptions.map (·.terms)) :
      Change asked db db'
  | registers {id : Uuid} (fresh : db.usersWith id = []) (known : asked (.register id)) :
      Change asked db { db with users := db.users ++ [⟨registeredUser id, false⟩] }
  | sells {req : PurchaseRequest} {info : PlanInfo} {promo : Option PromoCode}
      (accepted : db.purchases.Accepts (newPayment req info promo) promo)
      (sold : forSale req.plan = some info)
      (ordered : Ordered asked (newPayment req info promo)) :
      Change asked db (db.purchase req info promo)
  | starts {user : LedgerUser} {id : Uuid} {now expiresAt : DateTime}
      (accepted : db.billing.Accepts (newSubscription id user.id "trial" now expiresAt))
      (unused : user.trialUsed = false)
      (known : asked (.user user.id (.activateTrial now id))) :
      Change asked db ((db.insertSubscription
        (newSubscription id user.id "trial" now expiresAt)).writeUser user
          { user with toUser := user.toUser.startTrial expiresAt })
  | credits {req : Webhook} {payment : Payment} {user : User} {expiresAt : DateTime}
      (stored : req.donatepayId.isSome)
      (accepted : db.billing.Accepts (req.subscription payment user expiresAt))
      (pending : Pending asked db req payment) (owner : user.id = payment.userId) :
      Change asked db (db.credit req payment user expiresAt)

theorem netWrite_self {α : Type} [DecidableEq α] (loaded current : α) :
    netWrite loaded loaded current = current := if_pos rfl

theorem standing_write {loaded new : LedgerUser} (same : new.trialUsed = loaded.trialUsed)
    (current : LedgerUser) : (loaded.write new current).standing = current.standing := by
  simp only [LedgerUser.standing, LedgerUser.write, same, netWrite_self]

theorem change_writeUser {loaded new : LedgerUser} (same : new.trialUsed = loaded.trialUsed) :
    Change asked db (db.writeUser loaded new) :=
  .edits rfl (Table.map_update (standing_write same) _ _) rfl

theorem change_writeSubscription {loaded new : Subscription} :
    Change asked db (db.writeSubscription loaded new) :=
  .edits rfl rfl (Table.map_update (f := loaded.write new) (fun _ => rfl) _ _)

theorem change_self : Change asked db db := .edits rfl rfl rfl

/-! ## What is known at each stage -/

/-- A commit that goes on from what has been asked. -/
def Commit.Asserts (asked : LedgerRequest → Prop) : Commit → Prop
  | .register id => asked (.register id)
  | .payment req info applied =>
      forSale req.plan = some info ∧ Ordered asked (newPayment req info applied)
  | .trial owner row =>
      owner.trialUsed = false ∧ ∃ id now expiresAt,
        row = newSubscription id owner.id "trial" now expiresAt ∧
        asked (.user owner.id (.activateTrial now id))
  | _ => True

def WebhookStage.Asserts (asked : LedgerRequest → Prop) (db : LedgerDb) : WebhookStage → Prop
  | .selectPayment req => asked (.webhook req)
  | .selectUser req payment => Pending asked db req payment
  | .commit req payment user => Pending asked db req payment ∧ user.id = payment.userId

def LedgerStage.Asserts (asked : LedgerRequest → Prop) (db : LedgerDb) : LedgerStage → Prop
  | .selectUser userId request => asked (.user userId request)
  | .loadSubscriptions user request => asked (.user user.id request)
  | .loadPayments user _ request => asked (.user user.id request)
  | .call loaded request => asked (.user loaded.user.id request)
  | .webhook stage => stage.Asserts asked db
  | .commit step => step.Asserts asked
  | .refresh _ => True

theorem commits_change {commit : Commit} {written : Written}
    (commits : Commits db commit db' written) (asserts : commit.Asserts asked) :
    Change asked db db' := by
  cases commits with
  | register fresh => exact .registers fresh asserts
  | payment accepted => exact .sells accepted asserts.1 asserts.2
  | trial accepted =>
      obtain ⟨unused, id, now, expiresAt, rfl, known⟩ := asserts
      exact .starts accepted unused known
  | cancel => exact change_writeSubscription
  | user valid => exact change_writeUser rfl
  | subscription valid => exact change_writeSubscription
  | newPromo accepted => exact .edits rfl rfl rfl
  | promo valid unique => exact .edits rfl rfl rfl

theorem ledgerStep_changes {stage : LedgerStage} (asserts : stage.Asserts asked db) :
    Change asked db (ledgerStep shop db stage).1 := by
  cases stage with
  | commit commit =>
      simp only [ledgerStep]
      rcases commitStep_cases db commit with ⟨e, taken⟩ | ⟨after, written, commits, taken⟩
      · rw [taken]
        exact change_self
      · rw [taken]
        exact commits_change commits asserts
  | webhook stage =>
      obtain ⟨after, next, taken, result⟩ := ledgerStep_delivery shop db stage
      rw [taken]
      cases result with
      | credits stored expiry accepted => exact .credits stored accepted asserts.1 asserts.2
      | _ => exact change_self
  | _ => exact change_self

/-! ## Growth -/

theorem Grows.refl (db : LedgerDb) : Grows db db :=
  ⟨fun u member => ⟨u, member, rfl, id⟩, fun p member => ⟨p, member, rfl, id⟩,
    fun s member => ⟨s, member, rfl⟩⟩

theorem Grows.trans {first second third : LedgerDb} (one : Grows first second)
    (other : Grows second third) : Grows first third where
  users u member := by
    obtain ⟨u', member', same', used'⟩ := one.users u member
    obtain ⟨u'', member'', same'', used''⟩ := other.users u' member'
    exact ⟨u'', member'', same''.trans same', used'' ∘ used'⟩
  payments p member := by
    obtain ⟨p', member', same', completed'⟩ := one.payments p member
    obtain ⟨p'', member'', same'', completed''⟩ := other.payments p' member'
    exact ⟨p'', member'', same''.trans same', completed'' ∘ completed'⟩
  subscriptions s member := by
    obtain ⟨s', member', same'⟩ := one.subscriptions s member
    obtain ⟨s'', member'', same''⟩ := other.subscriptions s' member'
    exact ⟨s'', member'', same''.trans same'⟩

/-- A row of a table with the same views is a row with the same view. -/
theorem mem_of_map_eq {α β : Type} {view : α → β} {rows rows' : List α}
    (same : rows'.map view = rows.map view) {row : α} (member : row ∈ rows) :
    ∃ row' ∈ rows', view row' = view row :=
  List.mem_map.mp (same ▸ List.mem_map_of_mem member)

/-- What a delivery makes of a payment that it has found pending. -/
theorem write_complete {req : Webhook} {payment : Payment} (stored : req.donatepayId.isSome)
    (pending : Pending asked db req payment) (current : PaymentRow) :
    PaymentRow.write payment (payment.complete req) current =
      { current with
        status := "completed"
        donatepayId := req.donatepayId
        subscriptionId := some req.subscriptionId } := by
  obtain ⟨_, status, donatepayId, subscriptionId, _⟩ := pending
  have written : req.donatepayId ≠ none := Option.isSome_iff_ne_none.mp stored
  simp [PaymentRow.write, Payment.complete, netWrite, status, donatepayId, subscriptionId, written]

/-- A payment of the table after a delivery: it is unchanged or completed. -/
theorem mem_credit {req : Webhook} {payment : Payment} {user : User} {expiresAt : DateTime}
    (stored : req.donatepayId.isSome) (pending : Pending asked db req payment) {p : PaymentRow} :
    p ∈ (db.credit req payment user expiresAt).payments ↔
      (∃ row ∈ db.payments, row.id = payment.id ∧
        { row with
          status := "completed"
          donatepayId := req.donatepayId
          subscriptionId := some req.subscriptionId } = p) ∨
        p ∈ db.payments ∧ p.id ≠ payment.id := by
  refine Table.mem_update.trans ?_
  simp only [write_complete stored pending]

theorem standing_credit (db : LedgerDb) (req : Webhook) (payment : Payment) (user : User)
    (expiresAt : DateTime) :
    (db.credit req payment user expiresAt).users.map (·.standing) = db.users.map (·.standing) :=
  Table.map_update
    (f := fun current : LedgerUser =>
      { current with
        subscriptionTier := netWrite user.subscriptionTier payment.plan current.subscriptionTier
        subscriptionExpiresAt := netWrite user.subscriptionExpiresAt (some expiresAt)
          current.subscriptionExpiresAt })
    (fun _ => rfl) user.id db.users

theorem payments_purchase (db : LedgerDb) (req : PurchaseRequest) (info : PlanInfo)
    (promo : Option PromoCode) :
    (db.purchase req info promo).payments = db.payments ++ [newPayment req info promo] := by
  cases promo <;> rfl

theorem users_of_standing (same : db'.users.map (·.standing) = db.users.map (·.standing)) :
    ∀ u ∈ db.users, ∃ u' ∈ db'.users,
      u'.id = u.id ∧ (u.trialUsed = true → u'.trialUsed = true) := by
  intro u member
  obtain ⟨u', member', standing⟩ := mem_of_map_eq same member
  obtain ⟨key, used⟩ := Prod.mk.inj standing
  exact ⟨u', member', key, fun here => used.trans here⟩

theorem Change.grows (change : Change asked db db') : Grows db db' := by
  cases change with
  | edits payments users subscriptions =>
      refine ⟨users_of_standing users, ?_, fun s member => mem_of_map_eq subscriptions member⟩
      intro p member
      exact ⟨p, payments ▸ member, rfl, id⟩
  | registers fresh known =>
      exact { Grows.refl db with
        users := fun u member => ⟨u, List.mem_append_left _ member, rfl, id⟩ }
  | sells accepted sold ordered =>
      refine { Grows.refl db with payments := ?_ }
      intro p member
      refine ⟨p, ?_, rfl, id⟩
      rw [payments_purchase]
      exact List.mem_append_left _ member
  | starts accepted unused known =>
      refine { Grows.refl db with users := ?_, subscriptions := ?_ }
      · intro u member
        refine Table.exists_mem_update (r := fun u u' : LedgerUser =>
          u'.id = u.id ∧ (u.trialUsed = true → u'.trialUsed = true)) (fun _ => ⟨rfl, id⟩) ?_ member
        intro current _
        refine ⟨rfl, fun used => ?_⟩
        simp [LedgerUser.write, User.startTrial, netWrite, unused]
      · intro s member
        exact ⟨s, List.mem_append_left _ member, rfl⟩
  | @credits req payment user expiresAt stored accepted pending owner =>
      refine ⟨users_of_standing (standing_credit ..), ?_, ?_⟩
      · intro p member
        by_cases here : p.id = payment.id
        · exact ⟨_, (mem_credit stored pending).mpr (.inl ⟨p, member, here, rfl⟩), rfl,
            fun _ => rfl⟩
        · exact ⟨p, (mem_credit stored pending).mpr (.inr ⟨member, here⟩), rfl, id⟩
      · intro s member
        exact ⟨s, List.mem_append_left _ member, rfl⟩

theorem PaymentRow.terms_eq {p p' : PaymentRow} (same : p'.terms = p.terms) :
    p'.id = p.id ∧ p'.userId = p.userId ∧ p'.plan = p.plan :=
  ⟨congrArg (·.id) same, congrArg (·.userId) same, congrArg (·.plan) same⟩

theorem Pending.grows {req : Webhook} {payment : Payment} (pending : Pending asked db req payment)
    (grows : Grows db db') : Pending asked db' req payment := by
  obtain ⟨row, member, key, payer, plan⟩ := pending.inTable
  obtain ⟨row', member', same, _⟩ := grows.payments row member
  obtain ⟨key', payer', plan'⟩ := PaymentRow.terms_eq same
  exact { pending with
    inTable := ⟨row', member', key'.trans key, payer'.trans payer, plan'.trans plan⟩ }

/-- What is known of one request is not lost to a step of another. -/
theorem LedgerStage.Asserts.grows {stage : LedgerStage} (asserts : stage.Asserts asked db)
    (grows : Grows db db') : stage.Asserts asked db' := by
  cases stage with
  | webhook stage =>
      cases stage with
      | selectPayment req => exact asserts
      | selectUser req payment => exact Pending.grows asserts grows
      | commit req payment user => exact ⟨asserts.1.grows grows, asserts.2⟩
  | _ => exact asserts

/-! ## The books balance -/

theorem one_le_applyDiscount {price : Rat} (positive : 1 ≤ price) (promo : PromoCode) :
    1 ≤ applyDiscount price promo := by
  have floor (n : Int) : (1 : Rat) ≤ (max 1 n : Int) :=
    Rat.intCast_le_intCast.mpr (Int.le_max_left 1 n)
  unfold applyDiscount
  split
  · exact floor _
  · split_ifs
    · exact floor _
    · exact positive

theorem one_le_priceTotal {plan : String} {info : PlanInfo} (sold : forSale plan = some info) :
    1 ≤ info.priceTotal := by
  have all : ∀ entry ∈ plans, entry.1 ≠ "trial" → 1 ≤ entry.2.priceTotal := by decide
  rw [forSale] at sold
  split_ifs at sold with notTrial
  obtain ⟨before, after, split, _⟩ := List.lookup_eq_some_iff.mp sold
  exact all (plan, info) (split ▸ by simp) notTrial

theorem forSale_ne_trial {plan : String} {info : PlanInfo} (sold : forSale plan = some info) :
    plan ≠ "trial" := by
  rintro rfl
  cases sold

theorem priced_newPayment {req : PurchaseRequest} {info : PlanInfo}
    (sold : forSale req.plan = some info) (promo : Option PromoCode) :
    Priced (newPayment req info promo) := by
  have positive := one_le_priceTotal sold
  refine ⟨info, sold, rfl, ?_, ?_, ?_⟩
  · cases promo with
    | none => exact positive
    | some promo => exact one_le_applyDiscount positive promo
  · cases promo <;> rfl
  · intro none_
    cases promo with
    | none => rfl
    | some promo => cases none_

theorem ids_of_standing (same : db'.users.map (·.standing) = db.users.map (·.standing)) :
    db'.users.map (·.id) = db.users.map (·.id) := by
  simpa only [List.map_map, Function.comp_def, LedgerUser.standing] using
    congrArg (List.map Prod.fst) same

theorem ids_of_terms
    (same : db'.subscriptions.map (·.terms) = db.subscriptions.map (·.terms)) :
    db'.subscriptions.map (·.id) = db.subscriptions.map (·.id) := by
  simpa only [List.map_map, Function.comp_def, Subscription.terms] using
    congrArg (List.map (·.id)) same

/-- Of a subscription the books know what no edit changes. -/
theorem terms_eq {s s' : Subscription} (same : s'.terms = s.terms) :
    s'.id = s.id ∧ s'.userId = s.userId ∧ s'.plan = s.plan :=
  ⟨congrArg (·.id) same, congrArg (·.userId) same, congrArg (·.plan) same⟩

theorem Books.edits (books : Books db) (payments : db'.payments = db.payments)
    (users : db'.users.map (·.standing) = db.users.map (·.standing))
    (subscriptions : db'.subscriptions.map (·.terms) = db.subscriptions.map (·.terms)) :
    Books db' := by
  have owner {id : Uuid} : (∃ u ∈ db.users, u.id = id) → ∃ u ∈ db'.users, u.id = id := by
    rintro ⟨u, member, rfl⟩
    obtain ⟨u', member', same, _⟩ := users_of_standing users u member
    exact ⟨u', member', same⟩
  refine ⟨ids_of_standing users ▸ books.userIds, payments ▸ books.paymentIds,
    ids_of_terms subscriptions ▸ books.subscriptionIds, ?_, ?_, payments ▸ books.priced, ?_,
    payments ▸ books.separate, ?_, ?_⟩
  · exact fun p member => owner (books.payers p (payments ▸ member))
  · intro s member
    obtain ⟨s', member', same⟩ := mem_of_map_eq subscriptions.symm member
    rw [← (terms_eq same).2.1]
    exact owner (books.subscribers s' member')
  · intro p member
    rcases books.settled p (payments ▸ member) with pending | ⟨completed, s, there, link, rest⟩
    · exact .inl pending
    · obtain ⟨s', there', same⟩ := mem_of_map_eq subscriptions there
      obtain ⟨key, user, plan⟩ := terms_eq same
      exact .inr ⟨completed, s', there', by rw [link, key], by rw [user, rest.1],
        by rw [plan, rest.2]⟩
  · intro s member
    obtain ⟨s', member', same⟩ := mem_of_map_eq subscriptions.symm member
    obtain ⟨_, user, plan⟩ := terms_eq same
    simpa only [PaidFor, payments, user, plan] using books.paid s' member'
  · intro u member
    obtain ⟨u', member', same⟩ := mem_of_map_eq users.symm member
    obtain ⟨key, used⟩ := Prod.mk.inj same
    rw [← used, books.trials u' member', key]
    constructor
    · rintro ⟨s, there, user, plan⟩
      obtain ⟨s', there', same⟩ := mem_of_map_eq subscriptions there
      exact ⟨s', there', (terms_eq same).2.1.trans user, (terms_eq same).2.2.trans plan⟩
    · rintro ⟨s, there, user, plan⟩
      obtain ⟨s', there', same⟩ := mem_of_map_eq subscriptions.symm there
      exact ⟨s', there', (terms_eq same).2.1.trans user, (terms_eq same).2.2.trans plan⟩

theorem Books.registers (books : Books db) {id : Uuid} (fresh : db.usersWith id = []) :
    Books { db with users := db.users ++ [⟨registeredUser id, false⟩] } := by
  have new : ∀ u ∈ db.users, u.id ≠ id := fun u member same =>
    absurd (Table.mem_select.mpr ⟨member, same⟩)
      (by rw [show Table.select _ _ _ = _ from fresh]; simp)
  have owner {other : Uuid} : (∃ u ∈ db.users, u.id = other) →
      ∃ u ∈ db.users ++ [⟨registeredUser id, false⟩], u.id = other := by
    rintro ⟨u, member, same⟩
    exact ⟨u, List.mem_append_left _ member, same⟩
  refine { books with
    userIds := Table.nodup_map_append books.userIds new
    payers := fun p member => owner (books.payers p member)
    subscribers := fun s member => owner (books.subscribers s member)
    trials := ?_ }
  refine List.forall_mem_append.mpr ⟨books.trials, List.forall_mem_singleton.mpr ?_⟩
  -- A user that is new has no subscriptions.
  refine iff_of_false Bool.false_ne_true ?_
  rintro ⟨s, member, user, _⟩
  obtain ⟨u, there, same⟩ := books.subscribers s member
  exact new u there (same.trans user)

theorem Books.sells (books : Books db) {req : PurchaseRequest} {info : PlanInfo}
    {promo : Option PromoCode} (accepted : db.purchases.Accepts (newPayment req info promo) promo)
    (sold : forSale req.plan = some info) : Books (db.purchase req info promo) := by
  have payments := payments_purchase db req info promo
  refine ⟨books.userIds, ?_, books.subscriptionIds, ?_, books.subscribers, ?_, ?_, ?_, ?_,
    books.trials⟩
  · rw [payments]
    exact Table.nodup_map_append books.paymentIds accepted.1
  · rw [payments]
    refine List.forall_mem_append.mpr ⟨books.payers, List.forall_mem_singleton.mpr ?_⟩
    exact List.mem_map.mp accepted.2.1
  · rw [payments]
    exact List.forall_mem_append.mpr
      ⟨books.priced, List.forall_mem_singleton.mpr (priced_newPayment sold promo)⟩
  · rw [payments]
    exact List.forall_mem_append.mpr
      ⟨books.settled, List.forall_mem_singleton.mpr (.inl ⟨rfl, rfl, rfl⟩)⟩
  · rw [payments]
    intro p here q there id link link'
    -- The new payment has no subscription.
    rcases List.mem_append.mp here with here | new
    · rcases List.mem_append.mp there with there | new
      · exact books.separate p here q there id link link'
      · rw [List.mem_singleton.mp new] at link'
        cases link'
    · rw [List.mem_singleton.mp new] at link
      cases link
  · intro s member
    refine (books.paid s member).imp_right ?_
    rintro ⟨p, there, rest⟩
    exact ⟨p, by rw [payments]; exact List.mem_append_left _ there, rest⟩

/-- The insert of a subscription for a user that is there. -/
theorem owner_of_accepts {subscription : Subscription}
    (accepted : db.billing.Accepts subscription) :
    ∃ u ∈ db.users, u.id = subscription.userId := by
  obtain ⟨u, member, same⟩ := accepted.2
  obtain ⟨row, inTable, rfl⟩ := List.mem_map.mp member
  exact ⟨row, inTable, same⟩

theorem Books.starts (books : Books db) {user : LedgerUser} {id : Uuid} {now expiresAt : DateTime}
    (accepted : db.billing.Accepts (newSubscription id user.id "trial" now expiresAt))
    (unused : user.trialUsed = false) :
    Books ((db.insertSubscription (newSubscription id user.id "trial" now expiresAt)).writeUser user
      { user with toUser := user.toUser.startTrial expiresAt }) := by
  set row := newSubscription id user.id "trial" now expiresAt with trial
  set new : LedgerUser := { user with toUser := user.toUser.startTrial expiresAt }
  have keys : (Table.update (·.id) user.id (user.write new) db.users).map (·.id) =
      db.users.map (·.id) := Table.map_update (f := user.write new) (fun _ => rfl) _ _
  have owner {other : Uuid} (there : ∃ u ∈ db.users, u.id = other) :
      ∃ u ∈ Table.update (·.id) user.id (user.write new) db.users, u.id = other :=
    List.mem_map.mp (keys ▸ List.mem_map.mpr there)
  refine ⟨keys ▸ books.userIds, books.paymentIds, ?_, fun p member => owner (books.payers p member),
    ?_, books.priced, ?_, books.separate, ?_, ?_⟩
  · exact Table.nodup_map_append books.subscriptionIds accepted.1
  · exact List.forall_mem_append.mpr ⟨fun s member => owner (books.subscribers s member),
      List.forall_mem_singleton.mpr (owner (owner_of_accepts accepted))⟩
  · intro p member
    refine (books.settled p member).imp_right ?_
    rintro ⟨completed, s, there, rest⟩
    exact ⟨completed, s, List.mem_append_left _ there, rest⟩
  · exact List.forall_mem_append.mpr ⟨books.paid, List.forall_mem_singleton.mpr (.inl rfl)⟩
  · intro u member
    rcases Table.mem_update.mp member with ⟨old, inTable, same, rfl⟩ | ⟨inTable, other⟩
    · refine iff_of_true ?_ ⟨row, List.mem_append_right _ (List.mem_singleton_self row), ?_, rfl⟩
      · simp [LedgerUser.write, new, User.startTrial, netWrite, unused]
      · exact same.symm
    · rw [books.trials u inTable]
      constructor
      · rintro ⟨s, there, rest⟩
        exact ⟨s, List.mem_append_left _ there, rest⟩
      · rintro ⟨s, there, owned, plan⟩
        rcases List.mem_append.mp there with there | here
        · exact ⟨s, there, owned, plan⟩
        · rw [List.mem_singleton.mp here] at owned
          exact absurd owned.symm other

section Credits

variable {req : Webhook} {payment : Payment} {user : User} {expiresAt : DateTime}

/-- The row of the table that a delivery has found. -/
theorem Pending.row_eq (books : Books db) (pending : Pending asked db req payment)
    {row : PaymentRow} (inTable : row ∈ db.payments) (key : row.id = payment.id) :
    row.userId = payment.userId ∧ row.plan = payment.plan := by
  obtain ⟨found, there, same, payer, plan⟩ := pending.inTable
  obtain rfl := List.inj_on_of_nodup_map books.paymentIds inTable there (key.trans same.symm)
  exact ⟨payer, plan⟩

/-- A delivery is for a plan on sale. -/
theorem Pending.plan_ne_trial (books : Books db) (pending : Pending asked db req payment) :
    payment.plan ≠ "trial" := by
  obtain ⟨found, there, _, _, plan⟩ := pending.inTable
  obtain ⟨info, sold, _⟩ := books.priced found there
  exact plan ▸ forSale_ne_trial sold

theorem Books.credits (books : Books db) (stored : req.donatepayId.isSome)
    (accepted : db.billing.Accepts (req.subscription payment user expiresAt))
    (pending : Pending asked db req payment) (owner : user.id = payment.userId) :
    Books (db.credit req payment user expiresAt) := by
  have users := standing_credit db req payment user expiresAt
  have keys : (db.credit req payment user expiresAt).users.map (·.id) = db.users.map (·.id) :=
    ids_of_standing users
  have known {id : Uuid} (there : ∃ u ∈ db.users, u.id = id) :
      ∃ u ∈ (db.credit req payment user expiresAt).users, u.id = id :=
    List.mem_map.mp (keys ▸ List.mem_map.mpr there)
  have fresh : ∀ s ∈ db.subscriptions, s.id ≠ req.subscriptionId := accepted.1
  -- No payment has the new subscription yet.
  have unlinked : ∀ p ∈ db.payments, p.subscriptionId ≠ some req.subscriptionId := by
    intro p member link
    rcases books.settled p member with ⟨_, _, none_⟩ | ⟨_, s, there, link', _⟩
    · cases none_.symm.trans link
    · exact fresh s there (Option.some.inj (link'.symm.trans link))
  refine ⟨keys ▸ books.userIds, ?_, Table.nodup_map_append books.subscriptionIds fresh, ?_, ?_, ?_,
    ?_, ?_, ?_, ?_⟩
  · rw [LedgerDb.credit, Table.map_update (f := PaymentRow.write payment (payment.complete req))
      (fun _ => rfl)]
    exact books.paymentIds
  · intro p member
    rcases (mem_credit stored pending).mp member with ⟨row, inTable, _, rfl⟩ | ⟨inTable, _⟩
    · exact known (books.payers row inTable)
    · exact known (books.payers p inTable)
  · exact List.forall_mem_append.mpr ⟨fun s member => known (books.subscribers s member),
      List.forall_mem_singleton.mpr (known (owner_of_accepts accepted))⟩
  · intro p member
    rcases (mem_credit stored pending).mp member with ⟨row, inTable, _, rfl⟩ | ⟨inTable, _⟩
    · exact books.priced row inTable
    · exact books.priced p inTable
  · intro p member
    rcases (mem_credit stored pending).mp member with ⟨row, inTable, key, rfl⟩ | ⟨inTable, _⟩
    · obtain ⟨payer, plan⟩ := pending.row_eq books inTable key
      exact .inr ⟨rfl, _, List.mem_append_right _ (List.mem_singleton_self _), rfl,
        owner.trans payer.symm, plan.symm⟩
    · refine (books.settled p inTable).imp_right ?_
      rintro ⟨completed, s, there, rest⟩
      exact ⟨completed, s, List.mem_append_left _ there, rest⟩
  · intro p here q there id link link'
    rcases (mem_credit stored pending).mp here with ⟨row, inTable, key, rfl⟩ | ⟨inTable, _⟩
    · obtain rfl := Option.some.inj link
      rcases (mem_credit stored pending).mp there with ⟨row', inTable', key', rfl⟩ | ⟨inTable', _⟩
      · obtain rfl :=
          List.inj_on_of_nodup_map books.paymentIds inTable inTable' (key.trans key'.symm)
        rfl
      · exact absurd link' (unlinked q inTable')
    · rcases (mem_credit stored pending).mp there with ⟨row', inTable', key', rfl⟩ | ⟨inTable', _⟩
      · obtain rfl := Option.some.inj link'
        exact absurd link (unlinked p inTable)
      · exact books.separate p inTable q inTable' id link link'
  · refine List.forall_mem_append.mpr ⟨?_, List.forall_mem_singleton.mpr ?_⟩
    · intro s member
      refine (books.paid s member).imp_right ?_
      rintro ⟨p, inTable, completed, rest⟩
      by_cases here : p.id = payment.id
      · exact ⟨_, (mem_credit stored pending).mpr (.inl ⟨p, inTable, here, rfl⟩), rfl, rest⟩
      · exact ⟨p, (mem_credit stored pending).mpr (.inr ⟨inTable, here⟩), completed, rest⟩
    · obtain ⟨row, inTable, key, payer, plan⟩ := pending.inTable
      exact .inr ⟨_, (mem_credit stored pending).mpr (.inl ⟨row, inTable, key, rfl⟩), rfl,
        payer.trans owner.symm, plan⟩
  · intro u member
    obtain ⟨u', member', same⟩ := mem_of_map_eq users.symm member
    obtain ⟨key, used⟩ := Prod.mk.inj same
    rw [← used, books.trials u' member', key]
    constructor
    · rintro ⟨s, there, rest⟩
      exact ⟨s, List.mem_append_left _ there, rest⟩
    · rintro ⟨s, there, owned, plan⟩
      rcases List.mem_append.mp there with there | here
      · exact ⟨s, there, owned, plan⟩
      · rw [List.mem_singleton.mp here] at plan
        exact absurd plan (pending.plan_ne_trial books)

end Credits

theorem Change.books (change : Change asked db db') (books : Books db) : Books db' := by
  cases change with
  | edits payments users subscriptions => exact books.edits payments users subscriptions
  | registers fresh known => exact books.registers fresh
  | sells accepted sold ordered => exact books.sells accepted sold
  | starts accepted unused known => exact books.starts accepted unused
  | credits stored accepted pending owner => exact books.credits stored accepted pending owner

/-! ## Every row is explained -/

variable {start : LedgerDb}

theorem Explained.refl (start : LedgerDb) : Explained asked start start :=
  ⟨fun u member => .inl ⟨u, member, rfl⟩, fun p member => .inl ⟨p, member, rfl⟩,
    fun p member completed => .inl ⟨p, member, rfl, completed⟩,
    fun s member => .inl ⟨s, member, rfl⟩⟩

theorem Change.explained (change : Change asked db db')
    (explained : Explained asked start db) : Explained asked start db' := by
  -- The users of a table with the same keys, and the subscriptions of payments with the same terms.
  have accounts {db' : LedgerDb} (keys : db'.users.map (·.id) = db.users.map (·.id)) :
      ∀ u ∈ db'.users, (∃ u₀ ∈ start.users, u₀.id = u.id) ∨ asked (.register u.id) := by
    intro u member
    obtain ⟨u', member', same⟩ := mem_of_map_eq keys.symm member
    rw [← same]
    exact explained.users u' member'
  have sources {db' : LedgerDb} (grows : Grows db db') {s : Subscription}
      (member : s ∈ db.subscriptions) :
      (∃ s₀ ∈ start.subscriptions, s₀.terms = s.terms) ∨
        s.plan = "trial" ∧ asked (.user s.userId (.activateTrial s.startedAt s.id)) ∨
        ∃ req, ∃ p ∈ db'.payments, req.subscriptionId = s.id ∧ Delivered asked req p.id ∧
          p.userId = s.userId ∧ p.plan = s.plan := by
    rcases explained.subscriptions s member with before | trial | ⟨req, p, there, key, named, of_⟩
    · exact .inl before
    · exact .inr (.inl trial)
    · obtain ⟨p', there', same, _⟩ := grows.payments p there
      obtain ⟨id, payer, plan⟩ := PaymentRow.terms_eq same
      exact .inr (.inr ⟨req, p', there', key, id ▸ named, payer.trans of_.1, plan.trans of_.2⟩)
  have grows := change.grows
  cases change with
  | edits payments users subscriptions =>
      refine ⟨accounts (ids_of_standing users), payments ▸ explained.payments,
        payments ▸ explained.completed, ?_⟩
      intro s member
      obtain ⟨s', member', same⟩ := mem_of_map_eq subscriptions.symm member
      obtain ⟨key, user, plan⟩ := terms_eq same
      have started : s'.startedAt = s.startedAt := congrArg (·.startedAt) same
      rw [← key, ← user, ← plan, ← started, ← same]
      exact sources grows member'
  | registers fresh known =>
      exact { explained with
        users := List.forall_mem_append.mpr
          ⟨explained.users, List.forall_mem_singleton.mpr (.inr known)⟩ }
  | @sells req info promo accepted sold ordered =>
      have payments := payments_purchase db req info promo
      refine ⟨explained.users, ?_, ?_, fun s member => sources grows member⟩
      · rw [payments]
        exact List.forall_mem_append.mpr
          ⟨explained.payments, List.forall_mem_singleton.mpr (.inr ordered)⟩
      · rw [payments]
        exact List.forall_mem_append.mpr ⟨explained.completed,
          List.forall_mem_singleton.mpr fun completed =>
            absurd completed (show "pending" ≠ "completed" by decide)⟩
  | @starts user id now expiresAt accepted unused known =>
      refine ⟨accounts (Table.map_update (f := user.write _) (fun _ => rfl) _ _),
        explained.payments, explained.completed, ?_⟩
      exact List.forall_mem_append.mpr ⟨fun s member => sources grows member,
        List.forall_mem_singleton.mpr (.inr (.inl ⟨rfl, known⟩))⟩
  | @credits req payment user expiresAt stored accepted pending owner =>
      refine ⟨accounts (ids_of_standing (standing_credit ..)), ?_, ?_, ?_⟩
      · intro p member
        rcases (mem_credit stored pending).mp member with ⟨row, inTable, _, rfl⟩ | ⟨inTable, _⟩
        · exact explained.payments row inTable
        · exact explained.payments p inTable
      · intro p member completed
        rcases (mem_credit stored pending).mp member with ⟨row, inTable, key, rfl⟩ | ⟨inTable, _⟩
        · exact .inr ⟨req, key ▸ pending.delivered⟩
        · exact explained.completed p inTable completed
      · refine List.forall_mem_append.mpr ⟨fun s member => sources grows member,
          List.forall_mem_singleton.mpr (.inr (.inr ?_))⟩
        obtain ⟨row, inTable, key, payer, plan⟩ := pending.inTable
        exact ⟨req, _, (mem_credit stored pending).mpr (.inl ⟨row, inTable, key, rfl⟩), rfl,
          key ▸ pending.delivered, payer.trans owner.symm, plan⟩

/-! ## Runs -/

/-- A call goes on as it was asked for. -/
theorem enters_asserts {loaded : Loaded} {call : UserCall} {commit : Commit}
    (enters : Enters shop db loaded call commit) (known : asked (.user loaded.user.id call)) :
    commit.Asserts asked := by
  cases enters with
  | subscribe sold valid => exact ⟨sold, _, _, known⟩
  | activateTrial unused ends => exact ⟨unused, _, _, _, rfl, known⟩
  | cancelSubscription found => trivial
  | admin allowed enters => cases enters <;> trivial

/-- One step leads from what is known to what is known next. -/
theorem ledgerStep_asserts (books : Books db) {stage next : LedgerStage}
    (asserts : stage.Asserts asked db) (taken : (ledgerStep shop db stage).2 = .inl next) :
    next.Asserts asked (ledgerStep shop db stage).1 := by
  cases stage with
  | selectUser userId call =>
      simp only [ledgerStep] at taken ⊢
      rcases atMostOne_cases (db.usersWith userId) _ with
        ⟨e, goes⟩ | ⟨_, goes⟩ | ⟨user, found, goes⟩
      · cases goes.symm.trans taken
      · cases goes.symm.trans taken
      · cases goes.symm.trans taken
        change asked (.user user.id call)
        rw [(Table.of_select_eq_singleton found).2]
        exact asserts
  | loadSubscriptions user call | loadPayments user subscriptions call =>
      cases taken
      exact asserts
  | call loaded call =>
      have result := callResult shop db loaded call
      rw [show enter shop db loaded call = _ from taken] at result
      cases result with
      | commits enters => exact enters_asserts enters asserts
  | webhook stage =>
      obtain ⟨after, goes, step, result⟩ := ledgerStep_delivery shop db stage
      rw [step] at taken ⊢
      cases taken
      cases result with
      | @finds req payment named inTable pending =>
          obtain ⟨_, donatepayId, subscriptionId⟩ | ⟨completed, _⟩ := books.settled payment inTable
          · exact ⟨⟨asserts, named⟩, pending, donatepayId, subscriptionId, payment, inTable, rfl,
              rfl, rfl⟩
          · exact absurd (pending.symm.trans completed) (by decide)
      | loads inTable owner => exact ⟨asserts, owner⟩
      | credits accepted => trivial
  | commit commit =>
      simp only [ledgerStep] at taken ⊢
      rcases commitStep_cases db commit with ⟨e, goes⟩ | ⟨after, written, commits, goes⟩
      · rw [goes] at taken
        cases taken
      · rw [goes] at taken ⊢
        cases taken
        trivial
  | refresh written =>
      obtain ⟨outcome, goes⟩ := refreshRow_eq_inr shop db written
      cases goes.symm.trans taken

/-- The books as the invariant of the program, and what is known at each stage. -/
def booksOutline (shop : Shop) (asked : LedgerRequest → Prop) (start : LedgerDb) :
    Outline (ledger shop) where
  inv := fun db => Books db ∧ Grows start db ∧ Explained asked start db
  asserts := fun _ db stage => stage.Asserts asked db
  ends := fun _ _ => True
  inv_step := by
    intro _ db stage inv asserts
    obtain ⟨books, grows, explained⟩ := inv
    have change : Change asked db (ledgerStep shop db stage).1 := ledgerStep_changes asserts
    exact ⟨change.books books, grows.trans change.grows, change.explained explained⟩
  asserts_step := fun _ _ _ _ inv asserts taken => ledgerStep_asserts inv.1 asserts taken
  ends_step := fun _ _ _ _ _ _ _ => trivial
  free := fun _ _ _ _ _ _ asserts other => other.grows (ledgerStep_changes asserts).grows

/-- What has been submitted is asked for. -/
def Submitted (schedule : List (Event LedgerRequest)) (request : LedgerRequest) : Prop :=
  .submit request ∈ schedule

theorem first_asserts {request : LedgerRequest} (known : asked request) :
    request.first.Asserts asked db := by
  cases request <;> exact known

/-- However the requests interleave, the books go on balancing, nothing that is on them is taken
back, and all that is new is explained by a request. -/
theorem books_balance (shop : Shop) {db : LedgerDb} (books : Books db)
    (schedule : List (Event LedgerRequest)) :
    let after := (Machine.run (ledger shop).worldStep ⟨db, []⟩
      (schedule.map (Event.map LedgerRequest.first))).1.db
    Books after ∧ Grows db after ∧ Explained (Submitted schedule) db after := by
  have start : (booksOutline shop (Submitted schedule) db).Holds ⟨db, []⟩ :=
    ⟨⟨books, .refl db, .refl db⟩, by simp⟩
  have starts : ∀ event ∈ schedule.map (Event.map LedgerRequest.first),
      ∀ request, event = .submit request →
        (booksOutline shop (Submitted schedule) db).Starts request :=
    forall_submit_map fun request submitted _ _ => first_asserts submitted
  exact ((booksOutline shop (Submitted schedule) db).run start starts).1.inv

theorem books_empty : Books ⟨[], [], [], []⟩ := by
  refine ⟨by decide, by decide, by decide, ?_, ?_, ?_, ?_, ?_, ?_, ?_⟩ <;>
    exact fun _ member => absurd member List.not_mem_nil

/-- A user registers and buys a year, and two deliveries for it are processed at once. -/
def deliveredAtOnce : List (Event LedgerRequest) :=
  [.submit (.register 1), .advance 0, .advance 0, .submit (.user 1 (.subscribe "yearly" none 0 10)),
    .advance 1, .advance 1, .advance 1, .advance 1, .advance 1, .advance 1,
    .submit (.webhook (paid 0 100)), .submit (.webhook (paid 1 101)), .advance 2, .advance 3,
    .advance 2, .advance 3, .advance 2, .advance 3, .advance 2, .advance 3]

/-- Both deliveries of that run make a subscription, and the books balance. -/
theorem books_balance_deliveredAtOnce :
    let after := (Machine.run (ledger plainShop).worldStep ⟨⟨[], [], [], []⟩, []⟩
      (deliveredAtOnce.map (Event.map LedgerRequest.first))).1.db
    (after.payments.map (·.status) = ["completed"] ∧
      after.subscriptions.map (·.id) = [100, 101]) ∧
      Books after ∧ Grows ⟨[], [], [], []⟩ after ∧
      Explained (Submitted deliveredAtOnce) ⟨[], [], [], []⟩ after :=
  ⟨by decide, books_balance plainShop books_empty deliveredAtOnce⟩

end PlgBooster.Server
