import PlgBooster.Server.Unedited

/-!
# Who may do what with the books

An answer goes to the one it concerns: a user gets rows of their own, and only an administrator
what an administrator edits. As long as the administrators that are trusted make only trusted
users administrators, there are no others, whatever anybody submits and however the requests
interleave. And where no administrator submits anything, nobody has a tier without a subscription
for it.
-/

namespace PlgBooster.Server

open Transaction

/-! ## Statements -/

/-- The answer to a request is about what its party may see. -/
inductive Belongs (trusted : Uuid → Prop) : LedgerRequest → LedgerAnswer → Prop
  | registered {user : LedgerUser} : Belongs trusted (.register user.id) (.registered user)
  | payment {plan : String} {promoCode : Option String} {now : DateTime} {payment : PaymentRow}
      {url : String} :
      Belongs trusted (.user payment.userId (.subscribe plan promoCode now payment.id))
        (.payment payment url)
  | trial {now : DateTime} {subscription : Subscription} :
      Belongs trusted (.user subscription.userId (.activateTrial now subscription.id))
        (.subscription subscription)
  | active {now : DateTime} {subscription : Subscription} :
      Belongs trusted (.user subscription.userId (.getSubscription now))
        (.subscription subscription)
  | inactive {userId : Uuid} {now : DateTime} {tier : String} :
      Belongs trusted (.user userId (.getSubscription now)) (.noSubscription tier)
  | cancelled {now : DateTime} {subscription : Subscription} :
      Belongs trusted (.user subscription.userId (.cancelSubscription now))
        (.subscription subscription)
  | payments {userId : Uuid} {order : CreationOrder} {payments : List PaymentRow}
      (own : ∀ payment ∈ payments, payment.userId = userId) :
      Belongs trusted (.user userId (.paymentHistory order)) (.payments payments)
  | ignored {req : Webhook} : Belongs trusted (.webhook req) .ignored
  | completed {req : Webhook} {payment : PaymentRow}
      (named : namedPayment req.comment = some payment.id) :
      Belongs trusted (.webhook req) (.completed payment)
  | edited {userId : Uuid} {call : AdminCall} {answer : LedgerAnswer} (trust : trusted userId) :
      Belongs trusted (.user userId (.admin call)) answer

section Asked

variable (trusted : Uuid → Prop) (asked : LedgerRequest → Prop)

/-- Those that are trusted make only trusted users administrators. -/
def GrantsWithin : Prop :=
  ∀ userId other body, trusted userId → asked (.user userId (.admin (.updateUser other body))) →
    body.isAdmin = some (some true) → trusted other

/-- Somebody that is trusted has asked for an edit. -/
def Administered : Prop :=
  ∃ userId call, trusted userId ∧ asked (.user userId (.admin call))

structure Guarded (start db : LedgerDb) : Prop where
  promoIds : (db.promoCodes.map (·.id)).Nodup
  admins : ∀ u ∈ db.users, u.isAdmin = true → trusted u.id
  edits : Administered trusted asked ∨ Unadministered asked start db

end Asked

/-! ## Who stands where -/

/-- A subscription of the user is in the table. -/
def OwnsSubscription (db : LedgerDb) (userId id : Uuid) : Prop :=
  ∃ s ∈ db.subscriptions, s.id = id ∧ s.userId = userId

/-- The edits that an administrator's call may come to. -/
inductive Edit (trusted : Uuid → Prop) (db : LedgerDb) : Commit → Prop
  | user {user : LedgerUser} {body : AdminUserUpdate} (inTable : ∃ u ∈ db.users, u.id = user.id)
      (within : body.isAdmin = some (some true) → trusted user.id) :
      Edit trusted db (.user user body)
  | subscription {subscription : Subscription} {body : AdminSubscriptionUpdate}
      (inTable : ∃ s ∈ db.subscriptions, s.id = subscription.id) :
      Edit trusted db (.subscription subscription body)
  | newPromo {promo : PromoCode} : Edit trusted db (.newPromo promo)
  | promo {promo : PromoCode} {body : AdminPromoUpdate}
      (inTable : ∃ p ∈ db.promoCodes, p.id = promo.id) : Edit trusted db (.promo promo body)

/-- The commit of a user's call. -/
inductive Allowed (trusted : Uuid → Prop) (db : LedgerDb) (userId : Uuid) :
    UserCall → Commit → Prop
  | subscribe {plan : String} {promoCode : Option String} {now : DateTime} {paymentId : Uuid}
      {info : PlanInfo} {promo : Option PromoCode} :
      Allowed trusted db userId (.subscribe plan promoCode now paymentId)
        (.payment ⟨userId, plan, promoCode, now, paymentId⟩ info promo)
  | trial {user : LedgerUser} {now expiresAt : DateTime} {id : Uuid} (self : user.id = userId)
      (ends : addDays now 7 = .ok expiresAt) :
      Allowed trusted db userId (.activateTrial now id)
        (.trial user (newSubscription id userId "trial" now expiresAt))
  | cancel {subscription : Subscription} {now : DateTime}
      (owns : OwnsSubscription db userId subscription.id) :
      Allowed trusted db userId (.cancelSubscription now) (.cancel subscription now)
  | edit {call : AdminCall} {commit : Commit} (trust : trusted userId)
      (edit : Edit trusted db commit) : Allowed trusted db userId (.admin call) commit

/-- A row that a user's call reads again is there. -/
inductive Wrote (trusted : Uuid → Prop) (db : LedgerDb) (userId : Uuid) :
    UserCall → Written → Prop
  | payment {plan : String} {promoCode : Option String} {now : DateTime} {paymentId : Uuid}
      {amount : Rat} (inTable : ∃ p ∈ db.payments, p.id = paymentId ∧ p.userId = userId) :
      Wrote trusted db userId (.subscribe plan promoCode now paymentId) (.payment paymentId amount)
  | trial {now : DateTime} {id : Uuid} (owns : OwnsSubscription db userId id) :
      Wrote trusted db userId (.activateTrial now id) (.subscription id)
  | cancelled {now : DateTime} {id : Uuid} (owns : OwnsSubscription db userId id) :
      Wrote trusted db userId (.cancelSubscription now) (.subscription id)
  | user {call : AdminCall} {id : Uuid} (trust : trusted userId)
      (inTable : ∃ u ∈ db.users, u.id = id) : Wrote trusted db userId (.admin call) (.editedUser id)
  | subscription {call : AdminCall} {id : Uuid} (trust : trusted userId)
      (inTable : ∃ s ∈ db.subscriptions, s.id = id) :
      Wrote trusted db userId (.admin call) (.editedSubscription id)
  | promo {call : AdminCall} {id : Uuid} (trust : trusted userId)
      (inTable : ∃ p ∈ db.promoCodes, p.id = id) : Wrote trusted db userId (.admin call) (.promo id)

def WebhookStage.req : WebhookStage → Webhook
  | .selectPayment req => req
  | .selectUser req _ => req
  | .commit req _ _ => req

/-- Where the steps of a request may stand. -/
inductive Stands (trusted : Uuid → Prop) (db : LedgerDb) : LedgerRequest → LedgerStage → Prop
  | register {id : Uuid} : Stands trusted db (.register id) (.commit (.register id))
  | registered {id : Uuid} (inTable : ∃ u ∈ db.users, u.id = id) :
      Stands trusted db (.register id) (.refresh (.registered id))
  | selectUser {userId : Uuid} {call : UserCall} :
      Stands trusted db (.user userId call) (.selectUser userId call)
  | loadSubscriptions {user : LedgerUser} {call : UserCall}
      (vetted : user.isAdmin = true → trusted user.id) :
      Stands trusted db (.user user.id call) (.loadSubscriptions user call)
  | loadPayments {user : LedgerUser} {subscriptions : List Subscription} {call : UserCall}
      (vetted : user.isAdmin = true → trusted user.id)
      (own : ∀ s ∈ subscriptions, s.userId = user.id) :
      Stands trusted db (.user user.id call) (.loadPayments user subscriptions call)
  | call {loaded : Loaded} {call : UserCall}
      (vetted : loaded.user.isAdmin = true → trusted loaded.user.id)
      (own : ∀ s ∈ loaded.subscriptions, s.userId = loaded.user.id)
      (ownPayments : ∀ p ∈ loaded.payments, p.userId = loaded.user.id) :
      Stands trusted db (.user loaded.user.id call) (.call loaded call)
  | commit {userId : Uuid} {call : UserCall} {commit : Commit}
      (allowed : Allowed trusted db userId call commit) :
      Stands trusted db (.user userId call) (.commit commit)
  | refresh {userId : Uuid} {call : UserCall} {written : Written}
      (wrote : Wrote trusted db userId call written) :
      Stands trusted db (.user userId call) (.refresh written)
  | webhook {stage : WebhookStage} : Stands trusted db (.webhook stage.req) (.webhook stage)
  | completed {req : Webhook} {id : Uuid} (named : namedPayment req.comment = some id)
      (inTable : ∃ p ∈ db.payments, p.id = id) :
      Stands trusted db (.webhook req) (.refresh (.completed id))

/-- Where a request may stand after a step, or what it may be answered. -/
def Goes (trusted : Uuid → Prop) (db : LedgerDb) (request : LedgerRequest) :
    LedgerStage ⊕ LedgerOutcome → Prop
  | .inl next => Stands trusted db request next
  | .inr (.ok answer) => Belongs trusted request answer
  | .inr (.error _) => True

variable {shop : Shop} {trusted : Uuid → Prop} {asked : LedgerRequest → Prop}
  {start db db' : LedgerDb}

/-! ## Rows stay -/

/-- The rows that requests know of are not lost. -/
structure Keeps (db db' : LedgerDb) : Prop where
  grows : Grows db db'
  promos : ∀ p ∈ db.promoCodes, ∃ p' ∈ db'.promoCodes, p'.id = p.id

theorem Keeps.user (keeps : Keeps db db') {id : Uuid} (there : ∃ u ∈ db.users, u.id = id) :
    ∃ u ∈ db'.users, u.id = id := by
  obtain ⟨u, member, rfl⟩ := there
  obtain ⟨u', member', same, _⟩ := keeps.grows.users u member
  exact ⟨u', member', same⟩

theorem Keeps.payment (keeps : Keeps db db') {id : Uuid} (there : ∃ p ∈ db.payments, p.id = id) :
    ∃ p ∈ db'.payments, p.id = id := by
  obtain ⟨p, member, rfl⟩ := there
  obtain ⟨p', member', same, _⟩ := keeps.grows.payments p member
  exact ⟨p', member', (PaymentRow.terms_eq same).1⟩

theorem Keeps.paymentOf (keeps : Keeps db db') {userId id : Uuid}
    (there : ∃ p ∈ db.payments, p.id = id ∧ p.userId = userId) :
    ∃ p ∈ db'.payments, p.id = id ∧ p.userId = userId := by
  obtain ⟨p, member, rfl, rfl⟩ := there
  obtain ⟨p', member', same, _⟩ := keeps.grows.payments p member
  obtain ⟨key, payer, _⟩ := PaymentRow.terms_eq same
  exact ⟨p', member', key, payer⟩

theorem Keeps.subscription (keeps : Keeps db db') {id : Uuid}
    (there : ∃ s ∈ db.subscriptions, s.id = id) : ∃ s ∈ db'.subscriptions, s.id = id := by
  obtain ⟨s, member, rfl⟩ := there
  obtain ⟨s', member', same⟩ := keeps.grows.subscriptions s member
  exact ⟨s', member', (terms_eq same).1⟩

theorem Keeps.promo (keeps : Keeps db db') {id : Uuid} (there : ∃ p ∈ db.promoCodes, p.id = id) :
    ∃ p ∈ db'.promoCodes, p.id = id := by
  obtain ⟨p, member, rfl⟩ := there
  exact keeps.promos p member

theorem OwnsSubscription.keeps {userId id : Uuid} (owns : OwnsSubscription db userId id)
    (keeps : Keeps db db') : OwnsSubscription db' userId id := by
  obtain ⟨s, member, rfl, rfl⟩ := owns
  obtain ⟨s', member', same⟩ := keeps.grows.subscriptions s member
  obtain ⟨key, user, _⟩ := terms_eq same
  exact ⟨s', member', key, user⟩

theorem Edit.keeps {commit : Commit} (edit : Edit trusted db commit) (keeps : Keeps db db') :
    Edit trusted db' commit := by
  cases edit with
  | user inTable within => exact .user (keeps.user inTable) within
  | subscription inTable => exact .subscription (keeps.subscription inTable)
  | newPromo => exact .newPromo
  | promo inTable => exact .promo (keeps.promo inTable)

theorem Wrote.keeps {userId : Uuid} {call : UserCall} {written : Written}
    (wrote : Wrote trusted db userId call written) (keeps : Keeps db db') :
    Wrote trusted db' userId call written := by
  cases wrote with
  | payment inTable => exact .payment (keeps.paymentOf inTable)
  | trial owns => exact .trial (owns.keeps keeps)
  | cancelled owns => exact .cancelled (owns.keeps keeps)
  | user trust inTable => exact .user trust (keeps.user inTable)
  | subscription trust inTable => exact .subscription trust (keeps.subscription inTable)
  | promo trust inTable => exact .promo trust (keeps.promo inTable)

theorem Stands.keeps {request : LedgerRequest} {stage : LedgerStage}
    (stands : Stands trusted db request stage) (keeps : Keeps db db') :
    Stands trusted db' request stage := by
  cases stands with
  | register => exact .register
  | registered inTable => exact .registered (keeps.user inTable)
  | selectUser => exact .selectUser
  | loadSubscriptions vetted => exact .loadSubscriptions vetted
  | loadPayments vetted own => exact .loadPayments vetted own
  | call vetted own ownPayments => exact .call vetted own ownPayments
  | commit allowed =>
      cases allowed with
      | subscribe => exact .commit .subscribe
      | trial self ends => exact .commit (.trial self ends)
      | cancel owns => exact .commit (.cancel (owns.keeps keeps))
      | edit trust edit => exact .commit (.edit trust (edit.keeps keeps))
  | refresh wrote => exact .refresh (wrote.keeps keeps)
  | webhook => exact .webhook
  | completed named inTable => exact .completed named (keeps.payment inTable)

/-- A commit loses no promo code and repeats no key of one. -/
theorem commits_promos {commit : Commit} {written : Written}
    (commits : Commits db commit db' written) (distinct : (db.promoCodes.map (·.id)).Nodup) :
    (db'.promoCodes.map (·.id)).Nodup ∧
      ∀ p ∈ db.promoCodes, ∃ p' ∈ db'.promoCodes, p'.id = p.id := by
  -- Both hold of a table with the same keys.
  have same {rows : List PromoCode} (keys : rows.map (·.id) = db.promoCodes.map (·.id)) :
      (rows.map (·.id)).Nodup ∧ ∀ p ∈ db.promoCodes, ∃ p' ∈ rows, p'.id = p.id :=
    ⟨keys ▸ distinct, fun p member => mem_of_map_eq keys member⟩
  cases commits with
  | @payment req info applied accepted =>
      cases applied with
      | none => exact same rfl
      | some read =>
          exact same (Table.map_update (f := (PromoCode.setUses · (read.currentUses + 1)))
            (fun _ => rfl) _ _)
  | newPromo accepted =>
      exact ⟨Table.nodup_map_append distinct fun p member => (accepted p member).1,
        fun p member => ⟨p, List.mem_append_left _ member, rfl⟩⟩
  | @promo read body valid unique =>
      exact same (Table.map_update (f := read.write (body.apply read)) (fun _ => rfl) _ _)
  | _ => exact same rfl

theorem ledgerStep_promos (shop : Shop) (stage : LedgerStage)
    (distinct : (db.promoCodes.map (·.id)).Nodup) :
    ((ledgerStep shop db stage).1.promoCodes.map (·.id)).Nodup ∧
      ∀ p ∈ db.promoCodes, ∃ p' ∈ (ledgerStep shop db stage).1.promoCodes, p'.id = p.id := by
  have unchanged : (db.promoCodes.map (·.id)).Nodup ∧
      ∀ p ∈ db.promoCodes, ∃ p' ∈ db.promoCodes, p'.id = p.id :=
    ⟨distinct, fun p member => ⟨p, member, rfl⟩⟩
  cases stage with
  | commit commit =>
      simp only [ledgerStep]
      rcases commitStep_cases db commit with ⟨e, taken⟩ | ⟨after, written, commits, taken⟩
      · rw [taken]
        exact unchanged
      · rw [taken]
        exact commits_promos commits distinct
  | webhook stage =>
      obtain ⟨after, next, taken, result⟩ := ledgerStep_delivery shop db stage
      rw [taken]
      cases result <;> exact unchanged
  | _ => exact unchanged

theorem ledgerStep_keeps {stage : LedgerStage} (asserts : stage.Asserts asked db)
    (distinct : (db.promoCodes.map (·.id)).Nodup) : Keeps db (ledgerStep shop db stage).1 :=
  ⟨(ledgerStep_changes asserts).grows, (ledgerStep_promos shop stage distinct).2⟩

/-! ## Where a step leads -/

theorem mem_of_latest {rows : List Subscription} {subscription : Subscription}
    (found : latest rows = some subscription) : subscription ∈ rows := by
  induction rows with
  | nil => cases found
  | cons row rows ih =>
      simp only [latest] at found
      split at found
      · obtain rfl := Option.some.inj found
        exact List.mem_cons_self
      next later rest =>
        split_ifs at found
        · exact List.mem_cons_of_mem _ (ih (rest.trans found))
        · obtain rfl := Option.some.inj found
          exact List.mem_cons_self

/-- A row of the user, as it was loaded or as it is. -/
theorem identity_own {α : Type} (id owner : α → Uuid) {loaded : List α} {row : α} {userId : Uuid}
    (own : ∀ object ∈ loaded, owner object = userId) (here : owner row = userId) :
    owner (identity id loaded row) = userId := by
  unfold identity
  cases found : loaded.find? fun object => id object = id row with
  | none => exact here
  | some object => exact own object (List.mem_of_find?_eq_some found)

theorem reads_belongs {loaded : Loaded} {call : UserCall} {answer : LedgerAnswer}
    (reads : Reads db loaded call answer)
    (own : ∀ s ∈ loaded.subscriptions, s.userId = loaded.user.id)
    (ownPayments : ∀ p ∈ loaded.payments, p.userId = loaded.user.id) :
    Belongs trusted (.user loaded.user.id call) answer := by
  cases reads with
  | noSubscription => exact .inactive
  | subscription found =>
      have active := List.mem_of_mem_filter (mem_of_latest found)
      have mine := (decide_eq_true_eq.mp (List.mem_filter.mp active).2).1
      rw [← identity_own Subscription.id Subscription.userId own mine]
      exact .active
  | payments rows =>
      refine .payments fun payment member => ?_
      obtain ⟨row, listed, rfl⟩ := List.mem_map.mp member
      exact identity_own _ (fun p : PaymentRow => p.userId) ownPayments (rows row listed).2

theorem enters_allowed {loaded : Loaded} {call : UserCall} {commit : Commit}
    (enters : Enters shop db loaded call commit)
    (vetted : loaded.user.isAdmin = true → trusted loaded.user.id)
    (known : asked (.user loaded.user.id call)) (within : GrantsWithin trusted asked) :
    Allowed trusted db loaded.user.id call commit := by
  cases enters with
  | subscribe sold valid => exact .subscribe
  | activateTrial unused ends => exact .trial rfl ends
  | cancelSubscription found =>
      obtain ⟨inTable, mine⟩ := List.mem_filter.mp (mem_of_latest found)
      exact .cancel ⟨_, inTable, (identity_id _ _ _).symm, (decide_eq_true_eq.mp mine).1⟩
  | admin allowed enters =>
      have trust := vetted allowed
      refine .edit trust ?_
      cases enters with
      | @updateUser _ _ user found =>
          obtain ⟨inTable, key⟩ := Table.of_select_eq_singleton found
          have same := identity_id (fun u : LedgerUser => u.id) [loaded.user] user
          refine .user ⟨_, inTable, same.symm⟩ fun grants => ?_
          rw [same, key]
          exact within _ _ _ trust known grants
      | updateSubscription found =>
          obtain ⟨inTable, _⟩ := Table.of_select_eq_singleton found
          exact .subscription ⟨_, inTable, (identity_id _ _ _).symm⟩
      | createPromo => exact .newPromo
      | updatePromo found | deletePromo found =>
          exact .promo ⟨_, (Table.of_select_eq_singleton found).1, rfl⟩

/-- After its commit a call reads a row again that is there. -/
theorem commits_wrote {userId : Uuid} {call : UserCall} {commit : Commit} {written : Written}
    (commits : Commits db commit db' written) (allowed : Allowed trusted db userId call commit)
    (keeps : Keeps db db') : Wrote trusted db' userId call written := by
  cases allowed with
  | @subscribe plan promoCode now paymentId info promo =>
      cases commits with
      | payment accepted =>
          refine .payment
            ⟨newPayment ⟨userId, plan, promoCode, now, paymentId⟩ info promo, ?_, rfl, rfl⟩
          rw [payments_purchase]
          exact List.mem_append_right _ (List.mem_singleton_self _)
  | trial self ends =>
      cases commits with
      | trial accepted =>
          exact .trial ⟨_, List.mem_append_right _ (List.mem_singleton_self _), rfl, rfl⟩
  | cancel owns =>
      cases commits with
      | cancel => exact .cancelled (owns.keeps keeps)
  | edit trust edit =>
      cases edit with
      | user inTable within =>
          cases commits with
          | user valid => exact .user trust (keeps.user inTable)
      | subscription inTable =>
          cases commits with
          | subscription valid => exact .subscription trust (keeps.subscription inTable)
      | newPromo =>
          cases commits with
          | newPromo accepted =>
              exact .promo trust ⟨_, List.mem_append_right _ (List.mem_singleton_self _), rfl⟩
      | promo inTable =>
          cases commits with
          | promo valid unique => exact .promo trust (keeps.promo inTable)

theorem refreshed_of_mem {α : Type} {key : α → Uuid} {rows : List α} {row : α}
    (distinct : (rows.map key).Nodup) (member : row ∈ rows) (answer : α → LedgerAnswer) :
    refreshed (Table.select key (key row) rows) answer = .inr (.ok (answer row)) := by
  rw [Table.select_of_nodup distinct member]
  rfl

/-- What is read again after a commit is found, and is the answer. -/
theorem refreshRow_belongs (shop : Shop) (books : Books db)
    (distinct : (db.promoCodes.map (·.id)).Nodup) {request : LedgerRequest} {written : Written}
    (stands : Stands trusted db request (.refresh written)) :
    ∃ answer, refreshRow shop db written = .inr (.ok answer) ∧ Belongs trusted request answer := by
  cases stands with
  | registered inTable =>
      obtain ⟨u, member, rfl⟩ := inTable
      exact ⟨_, refreshed_of_mem books.userIds member _, .registered⟩
  | completed named inTable =>
      obtain ⟨p, member, rfl⟩ := inTable
      exact ⟨_, refreshed_of_mem books.paymentIds member _, .completed named⟩
  | refresh wrote =>
      cases wrote with
      | payment inTable =>
          obtain ⟨p, member, rfl, rfl⟩ := inTable
          exact ⟨_, refreshed_of_mem books.paymentIds member _, .payment⟩
      | trial owns =>
          obtain ⟨s, member, rfl, rfl⟩ := owns
          exact ⟨_, refreshed_of_mem books.subscriptionIds member _, .trial⟩
      | cancelled owns =>
          obtain ⟨s, member, rfl, rfl⟩ := owns
          exact ⟨_, refreshed_of_mem books.subscriptionIds member _, .cancelled⟩
      | user trust inTable =>
          obtain ⟨u, member, rfl⟩ := inTable
          exact ⟨_, refreshed_of_mem books.userIds member _, .edited trust⟩
      | subscription trust inTable =>
          obtain ⟨s, member, rfl⟩ := inTable
          exact ⟨_, refreshed_of_mem books.subscriptionIds member _, .edited trust⟩
      | promo trust inTable =>
          obtain ⟨p, member, rfl⟩ := inTable
          exact ⟨_, refreshed_of_mem distinct member _, .edited trust⟩

theorem refreshRow_goes (shop : Shop) (books : Books db)
    (distinct : (db.promoCodes.map (·.id)).Nodup) {request : LedgerRequest} {written : Written}
    (stands : Stands trusted db request (.refresh written)) :
    Goes trusted db request (refreshRow shop db written) := by
  obtain ⟨answer, found, belongs⟩ := refreshRow_belongs shop books distinct stands
  rw [found]
  exact belongs

/-- One step leads from where a request stands to where it may stand next, or to an answer that
belongs to it. -/
theorem ledgerStep_goes (shop : Shop) (books : Books db) (guarded : Guarded trusted asked start db)
    (within : GrantsWithin trusted asked) {request : LedgerRequest} {stage : LedgerStage}
    (asserts : stage.Asserts asked db) (stands : Stands trusted db request stage) :
    Goes trusted (ledgerStep shop db stage).1 request (ledgerStep shop db stage).2 := by
  have keeps : Keeps db (ledgerStep shop db stage).1 := ledgerStep_keeps asserts guarded.promoIds
  cases stands with
  | register =>
      simp only [ledgerStep]
      rcases commitStep_cases db (.register _) with ⟨e, taken⟩ | ⟨after, written, commits, taken⟩
      · rw [taken]
        trivial
      · rw [taken]
        cases commits with
        | register fresh =>
            exact .registered ⟨_, List.mem_append_right _ (List.mem_singleton_self _), rfl⟩
  | @selectUser userId call =>
      simp only [ledgerStep]
      rcases atMostOne_cases (db.usersWith userId) _ with
        ⟨e, goes⟩ | ⟨_, goes⟩ | ⟨user, found, goes⟩
      · rw [goes]
        trivial
      · rw [goes]
        trivial
      · obtain ⟨inTable, rfl⟩ := Table.of_select_eq_singleton found
        rw [goes]
        exact .loadSubscriptions (guarded.admins user inTable)
  | loadSubscriptions vetted =>
      exact .loadPayments vetted fun s member => decide_eq_true_eq.mp (List.mem_filter.mp member).2
  | @loadPayments user subscriptions call vetted own =>
      exact @Stands.call trusted db ⟨user, subscriptions, _⟩ call vetted own fun p member =>
        decide_eq_true_eq.mp (List.mem_filter.mp member).2
  | @call loaded call vetted own ownPayments =>
      have result := callResult shop db loaded call
      simp only [ledgerStep]
      generalize enter shop db loaded call = next at result ⊢
      cases result with
      | refused e => trivial
      | answered reads => exact reads_belongs reads own ownPayments
      | commits enters => exact .commit (enters_allowed enters vetted asserts within)
  | @commit userId call commit allowed =>
      simp only [ledgerStep] at keeps ⊢
      rcases commitStep_cases db commit with ⟨e, taken⟩ | ⟨after, written, commits, taken⟩
      · rw [taken]
        trivial
      · rw [taken] at keeps ⊢
        exact .refresh (commits_wrote commits allowed keeps)
  | @webhook stage =>
      obtain ⟨after, next, taken, result⟩ := ledgerStep_delivery shop db stage
      rw [taken] at keeps ⊢
      cases result with
      | fails _ e => trivial
      | ignores => exact .ignored
      | @finds req payment named inTable pending =>
          exact @Stands.webhook trusted db (.selectUser req payment.toPayment)
      | @loads req payment user inTable owner =>
          exact @Stands.webhook trusted db (.commit req payment user.toUser)
      | credits accepted =>
          obtain ⟨row, inTable, key, _⟩ := asserts.1.inTable
          exact .completed asserts.1.delivered.2 (keeps.payment ⟨row, inTable, key⟩)
  | refresh wrote => exact refreshRow_goes shop books guarded.promoIds (.refresh wrote)
  | completed named inTable =>
      exact refreshRow_goes shop books guarded.promoIds (.completed named inTable)
  | registered inTable =>
      exact refreshRow_goes shop books guarded.promoIds (.registered inTable)

/-! ## What is not edited -/

/-- What the commit of a delivery knows of its user's expiry. -/
def LedgerStage.Had (start db : LedgerDb) : LedgerStage → Prop
  | .webhook (.commit _ _ user) =>
      Earned expiryColumn start db user.id user.subscriptionExpiresAt
  | _ => True

theorem LedgerStage.Had.mono {stage : LedgerStage} (had : stage.Had start db)
    (kept : ∀ s ∈ db.subscriptions, ∃ s' ∈ db'.subscriptions, s'.uncancelled = s.uncancelled) :
    stage.Had start db' := by
  cases stage with
  | webhook stage =>
      cases stage with
      | commit req payment user => exact Earned.mono had kept
      | _ => trivial
  | _ => trivial

/-- The user that a delivery loads has an expiry that nobody has edited. -/
theorem ledgerStep_had (unedited : Unadministered asked start db) {stage next : LedgerStage}
    (taken : (ledgerStep shop db stage).2 = .inl next) :
    next.Had start (ledgerStep shop db stage).1 := by
  cases stage with
  | webhook stage =>
      obtain ⟨after, goes, step, result⟩ := ledgerStep_delivery shop db stage
      rw [step] at taken ⊢
      cases taken
      cases result with
      | loads inTable owner => exact unedited.expiries _ inTable
      | _ => trivial
  | selectUser userId call =>
      simp only [ledgerStep] at taken
      rcases atMostOne_cases (db.usersWith userId) _ with
        ⟨e, goes⟩ | ⟨_, goes⟩ | ⟨user, found, goes⟩
      · cases goes.symm.trans taken
      · cases goes.symm.trans taken
      · cases goes.symm.trans taken
        trivial
  | loadSubscriptions user call | loadPayments user subscriptions call =>
      cases taken
      trivial
  | call loaded call =>
      have result := callResult shop db loaded call
      rw [show enter shop db loaded call = _ from taken] at result
      cases result
      trivial
  | commit commit =>
      simp only [ledgerStep] at taken
      rcases commitStep_cases db commit with ⟨e, goes⟩ | ⟨after, written, commits, goes⟩
      · rw [goes] at taken
        cases taken
      · rw [goes] at taken
        cases taken
        trivial
  | refresh written =>
      obtain ⟨outcome, goes⟩ := refreshRow_eq_inr shop db written
      cases goes.symm.trans taken

/-! ## The guard -/

/-- An edit of a user makes nobody an administrator but where its body says so. -/
theorem admins_edit {user : LedgerUser} {body : AdminUserUpdate}
    (within : body.isAdmin = some (some true) → trusted user.id)
    (admins : ∀ u ∈ db.users, u.isAdmin = true → trusted u.id) :
    ∀ u ∈ (db.writeUser user (body.apply user)).users, u.isAdmin = true → trusted u.id := by
  intro u member admin
  rcases Table.mem_update.mp member with ⟨row, inTable, same, rfl⟩ | ⟨inTable, _⟩
  · change netWrite user.isAdmin (body.isAdmin.join.getD user.isAdmin) row.isAdmin = true at admin
    change trusted row.id
    cases set : body.isAdmin.join with
    | none =>
        rw [set, Option.getD_none, netWrite_self] at admin
        exact admins row inTable admin
    | some flag =>
        rw [set, Option.getD_some] at admin
        rcases netWrite_cases user.isAdmin flag row.isAdmin with kept | written
        · exact admins row inTable (kept.symm.trans admin)
        · obtain rfl := written.symm.trans admin
          rw [same]
          exact within (Option.join_eq_some_iff.mp set)
  · exact admins u inTable admin

/-- A step keeps the administrators trusted after an edit, or it is no edit. -/
def Harmless (trusted : Uuid → Prop) (asked : LedgerRequest → Prop) (start db db' : LedgerDb) :
    Prop :=
  Administered trusted asked ∧ (∀ u ∈ db'.users, u.isAdmin = true → trusted u.id) ∨
    Plain asked start db db'

theorem Guarded.step (guarded : Guarded trusted asked start db) (grows : Grows start db)
    (promoIds : (db'.promoCodes.map (·.id)).Nodup)
    (harmless : Harmless trusted asked start db db') : Guarded trusted asked start db' where
  promoIds := promoIds
  admins u member admin := by
    rcases harmless with ⟨_, admins⟩ | plain
    · exact admins u member admin
    · obtain ⟨u₀, member₀, same, admin₀⟩ := plain.admins u member admin
      exact same ▸ guarded.admins u₀ member₀ admin₀
  edits := by
    rcases harmless with ⟨administered, _⟩ | plain
    · exact .inl administered
    · exact guarded.edits.imp_right fun before => before.step plain grows

theorem Edit.harmless (guarded : Guarded trusted asked start db) {commit : Commit}
    {written : Written} (commits : Commits db commit db' written) (edit : Edit trusted db commit)
    (administered : Administered trusted asked) : Harmless trusted asked start db db' := by
  refine .inl ⟨administered, ?_⟩
  cases edit with
  | user inTable within =>
      cases commits with
      | user valid => exact admins_edit within guarded.admins
  | subscription inTable =>
      cases commits with
      | subscription valid => exact guarded.admins
  | newPromo =>
      cases commits with
      | newPromo accepted => exact guarded.admins
  | promo inTable =>
      cases commits with
      | promo valid unique => exact guarded.admins

/-- A delivery makes nobody an administrator, and where nobody has edited it is no edit. -/
theorem credit_harmless (guarded : Guarded trusted asked start db) {req : Webhook}
    {payment : Payment} {user : User} {expiresAt : DateTime} (known : asked (.webhook req))
    (had : Administered trusted asked ∨
      Earned expiryColumn start db user.id user.subscriptionExpiresAt)
    (expiry : calculateExpiry req.expiryNow payment.plan user.subscriptionExpiresAt = .ok expiresAt)
    (accepted : db.billing.Accepts (req.subscription payment user expiresAt)) :
    Harmless trusted asked start db (db.credit req payment user expiresAt) := by
  rcases had with administered | had
  · have flags : ∀ u ∈ (db.credit req payment user expiresAt).users, u.isAdmin = true →
        ∃ u₀ ∈ db.users, u₀.id = u.id ∧ u₀.isAdmin = true := admins_of_update fun _ => ⟨rfl, rfl⟩
    refine .inl ⟨administered, fun u member admin => ?_⟩
    obtain ⟨u₀, member₀, same, admin₀⟩ := flags u member admin
    exact same ▸ guarded.admins u₀ member₀ admin₀
  · exact .inr (plain_credit known had expiry accepted)

/-- The subscription that has the key is the user's. -/
theorem OwnsSubscription.of_key {userId id : Uuid} (owns : OwnsSubscription db userId id)
    (unique : (db.subscriptions.map (·.id)).Nodup) :
    ∀ row ∈ db.subscriptions, row.id = id → row.userId = userId := by
  intro row inTable key
  obtain ⟨s, member, same, owner⟩ := owns
  obtain rfl := List.inj_on_of_nodup_map unique inTable member (key.trans same.symm)
  exact owner

theorem ledgerStep_harmless (shop : Shop) (books : Books db)
    (guarded : Guarded trusted asked start db)
    {request : LedgerRequest} {stage : LedgerStage} (asserts : stage.Asserts asked db)
    (known : asked request) (stands : Stands trusted db request stage)
    (had : Administered trusted asked ∨ stage.Had start db) :
    Harmless trusted asked start db (ledgerStep shop db stage).1 := by
  cases stage with
  | commit commit =>
      simp only [ledgerStep]
      rcases commitStep_cases db commit with ⟨e, taken⟩ | ⟨after, written, commits, taken⟩
      · rw [taken]
        exact .inr (.refl db)
      · rw [taken]
        cases stands with
        | register =>
            cases commits with
            | register fresh => exact .inr (plain_register fresh)
        | commit allowed =>
            cases allowed with
            | subscribe =>
                cases commits with
                | payment accepted => exact .inr plain_purchase
            | trial self ends =>
                subst self
                cases commits with
                | trial accepted => exact .inr (plain_trial known ends accepted)
            | cancel owns =>
                cases commits with
                | cancel => exact .inr (plain_cancel known (owns.of_key books.subscriptionIds))
            | edit trust edit => exact edit.harmless guarded commits ⟨_, _, trust, known⟩
  | webhook stage =>
      obtain ⟨after, next, taken, result⟩ := ledgerStep_delivery shop db stage
      rw [taken]
      cases result with
      | credits stored expiry accepted =>
          exact credit_harmless guarded asserts.1.delivered.1 had expiry accepted
      | _ => exact .inr (.refl db)
  | _ => exact .inr (.refl db)

/-! ## Runs -/

/-- The guard over the books, where each request stands, and what deliveries have loaded. -/
def guardLayer (shop : Shop) (start : LedgerDb) (within : GrantsWithin trusted asked) :
    (booksOutline shop asked start).Layer where
  inv := Guarded trusted asked start
  asserts := fun stage db l => (Administered trusted asked ∨ l.Had start db) ∧
    ∃ request : LedgerRequest, request.first = stage ∧ asked request ∧ Stands trusted db request l
  ends := fun stage outcome => ∀ answer, outcome = .ok answer →
    ∃ request : LedgerRequest, request.first = stage ∧ asked request ∧
      Belongs trusted request answer
  inv_step := by
    rintro _ db l ⟨books, grows, _⟩ asserts guarded ⟨had, request, _, known, stands⟩
    exact guarded.step grows (ledgerStep_promos shop l guarded.promoIds).1
      (ledgerStep_harmless shop books guarded asserts known stands had)
  asserts_step := by
    rintro _ db l l' ⟨books, _⟩ asserts guarded ⟨_, request, same, known, stands⟩ taken
    have goes := ledgerStep_goes shop books guarded within asserts stands
    rw [show (ledgerStep shop db l).2 = _ from taken] at goes
    exact ⟨guarded.edits.imp_right fun unedited => ledgerStep_had unedited taken,
      request, same, known, goes⟩
  ends_step := by
    rintro _ db l _ ⟨books, _⟩ asserts guarded ⟨_, request, same, known, stands⟩ taken answer rfl
    have goes := ledgerStep_goes shop books guarded within asserts stands
    rw [show (ledgerStep shop db l).2 = _ from taken] at goes
    exact ⟨request, same, known, goes⟩
  free := by
    rintro _ db l _ _ ⟨books, _⟩ asserts guarded ⟨had, request, _, known, stands⟩
      ⟨had', other, same', known', stands'⟩
    refine ⟨?_, other, same', known', stands'.keeps (ledgerStep_keeps asserts guarded.promoIds)⟩
    rcases ledgerStep_harmless shop books guarded asserts known stands had with
      ⟨administered, _⟩ | plain
    · exact .inl administered
    · exact had'.imp_right fun had' => had'.mono plain.kept

theorem layer_starts (within : GrantsWithin trusted asked) {request : LedgerRequest}
    (known : asked request) : (guardLayer shop start within).outline.Starts request.first := by
  intro db _
  refine ⟨first_asserts known, ?_⟩
  cases request with
  | register id => exact ⟨.inr trivial, _, rfl, known, .register⟩
  | user userId call => exact ⟨.inr trivial, _, rfl, known, .selectUser⟩
  | webhook req =>
      exact ⟨.inr trivial, _, rfl, known, @Stands.webhook trusted db (.selectPayment req)⟩

theorem schedule_starts {schedule : List (Event LedgerRequest)}
    (within : GrantsWithin trusted (Submitted schedule)) :
    ∀ event ∈ schedule.map (Event.map LedgerRequest.first), ∀ request, event = .submit request →
      (guardLayer shop db within).outline.Starts request :=
  forall_submit_map fun _ submitted => layer_starts within submitted

theorem layer_holds (shop : Shop) (books : Books db) (promoIds : (db.promoCodes.map (·.id)).Nodup)
    (admins : ∀ u ∈ db.users, u.isAdmin = true → trusted u.id)
    (within : GrantsWithin trusted asked) : (guardLayer shop db within).outline.Holds ⟨db, []⟩ :=
  ⟨⟨⟨books, .refl db, .refl db⟩, promoIds, admins, .inr (.refl db)⟩, by simp⟩

/-- Whatever is submitted and however it interleaves: the administrators are trusted, without an
edit of theirs nothing is edited, and every answer belongs to its request. -/
theorem privileges_confined (shop : Shop) {db : LedgerDb} (books : Books db)
    (promoIds : (db.promoCodes.map (·.id)).Nodup) (trusted : Uuid → Prop)
    (admins : ∀ u ∈ db.users, u.isAdmin = true → trusted u.id)
    (schedule : List (Event LedgerRequest)) (within : GrantsWithin trusted (Submitted schedule)) :
    let after := Machine.run (ledger shop).worldStep ⟨db, []⟩
      (schedule.map (Event.map LedgerRequest.first))
    (∀ u ∈ after.1.db.users, u.isAdmin = true → trusted u.id) ∧
      (Administered trusted (Submitted schedule) ∨
      Unadministered (Submitted schedule) db after.1.db) ∧
      ∀ o ∈ after.2, ∀ answer, o.2 = .ok answer → ∃ request : LedgerRequest,
        request.first = o.1 ∧ Submitted schedule request ∧ Belongs trusted request answer := by
  intro after
  obtain ⟨holds, ends⟩ := (guardLayer shop db within).outline.run
    (layer_holds shop books promoIds admins within) (schedule_starts within)
  exact ⟨holds.inv.2.admins, holds.inv.2.edits, fun o member => (ends o member).2⟩

/-- An administrator and a user. -/
def adminAndUser : LedgerDb := ⟨[⟨registeredUser 1, true⟩, ⟨registeredUser 2, false⟩], [], [], []⟩

theorem books_adminAndUser : Books adminAndUser := by
  refine ⟨by decide, by decide, by decide, ?_, ?_, ?_, ?_, ?_, ?_, by decide⟩ <;>
    exact fun _ member => absurd member List.not_mem_nil

/-- The user asks to be an administrator, while the administrator gives the user a month. -/
def climbs : List (Event LedgerRequest) :=
  [.submit (.user 2 (.admin (.updateUser 2 ⟨none, none, some (some true)⟩))),
    .submit (.user 1 (.admin (.updateUser 2 ⟨some (some "monthly"), none, none⟩))),
    .advance 0, .advance 1, .advance 0, .advance 1, .advance 0, .advance 1, .advance 0, .advance 1,
    .advance 1, .advance 1]

theorem grantsWithin_climbs : GrantsWithin (· = 1) (Submitted climbs) := by
  rintro _ other body rfl asked grants
  simp only [Submitted, climbs, List.mem_cons, Event.submit.injEq, LedgerRequest.user.injEq,
    UserCall.admin.injEq, AdminCall.updateUser.injEq, reduceCtorEq, List.not_mem_nil, or_false,
    or_self] at asked
  rcases asked with ⟨self, _⟩ | ⟨_, _, rfl⟩
  · cases self
  · cases grants

theorem privileges_confined_climbs :
    let after := Machine.run (ledger plainShop).worldStep ⟨adminAndUser, []⟩
      (climbs.map (Event.map LedgerRequest.first))
    (after.1.db.users.map (fun u => (u.subscriptionTier, u.isAdmin)) =
        [("free", true), ("monthly", false)] ∧
      after.2.map (·.2.toOption.isSome) = [false, true]) ∧
      (∀ u ∈ after.1.db.users, u.isAdmin = true → u.id = 1) ∧
      (Administered (· = 1) (Submitted climbs) ∨
        Unadministered (Submitted climbs) adminAndUser after.1.db) ∧
      ∀ o ∈ after.2, ∀ answer, o.2 = .ok answer → ∃ request : LedgerRequest,
        request.first = o.1 ∧ Submitted climbs request ∧ Belongs (· = 1) request answer :=
  ⟨by decide, privileges_confined plainShop books_adminAndUser (by decide) (· = 1) (by decide)
    climbs grantsWithin_climbs⟩

/-- A user is an administrator at the start. -/
def WasAdmin (start : LedgerDb) (id : Uuid) : Prop :=
  ∃ u ∈ start.users, u.id = id ∧ u.isAdmin = true

/-- Where no administrator submits an edit, a user's tier is as it was, free, the trial's of a user
that has used it, or that of a completed payment of the user. -/
theorem tiers_paid_for (shop : Shop) {db : LedgerDb} (books : Books db)
    (promoIds : (db.promoCodes.map (·.id)).Nodup) (schedule : List (Event LedgerRequest))
    (quiet : ∀ u ∈ db.users, u.isAdmin = true →
      ∀ call, .submit (.user u.id (.admin call)) ∉ schedule) :
    let after := (Machine.run (ledger shop).worldStep ⟨db, []⟩
      (schedule.map (Event.map LedgerRequest.first))).1.db
    ∀ u ∈ after.users,
      (∃ u₀ ∈ db.users, u₀.id = u.id ∧ u₀.subscriptionTier = u.subscriptionTier) ∨
        u.subscriptionTier = "free" ∨ u.subscriptionTier = "trial" ∧ u.trialUsed = true ∨
        ∃ p ∈ after.payments, p.status = "completed" ∧ p.userId = u.id ∧
          p.plan = u.subscriptionTier ∧
          ((∃ p₀ ∈ db.payments, p₀.id = p.id ∧ p₀.status = "completed") ∨
            ∃ req, Delivered (Submitted schedule) req p.id) := by
  intro after u member
  have silent : ∀ userId call, WasAdmin db userId →
      ¬ Submitted schedule (.user userId (.admin call)) := by
    rintro _ call ⟨admin, inTable, rfl, flag⟩
    exact quiet admin inTable flag call
  -- Those that were administrators are trusted with what they ask for, which is nothing.
  have within : GrantsWithin (WasAdmin db) (Submitted schedule) :=
    fun userId other body trust asked _ => absurd asked (silent userId _ trust)
  obtain ⟨holds, _⟩ := (guardLayer shop db within).outline.run
    (layer_holds shop books promoIds (fun u member flag => ⟨u, member, rfl, flag⟩) within)
    (schedule_starts within)
  obtain ⟨⟨balance, _, explained⟩, guarded⟩ := holds.inv
  have unedited : Unadministered (Submitted schedule) db after := by
    refine guarded.edits.resolve_left ?_
    rintro ⟨userId, call, trust, asked⟩
    exact silent userId call trust asked
  rcases unedited.tiers u member with
    ⟨u₀, there, same, had⟩ | ⟨_, free⟩ | ⟨s, ⟨there, owner, _⟩, plan⟩
  · exact .inl ⟨u₀, there, same, had⟩
  · exact .inr (.inl free.symm)
  · rcases balance.paid s there with trial | ⟨p, inTable, completed, payer, of_⟩
    · exact .inr (.inr (.inl ⟨plan.symm.trans trial,
        (balance.trials u member).mpr ⟨s, there, owner, trial⟩⟩))
    · exact .inr (.inr (.inr ⟨p, inTable, completed, payer.trans owner, of_.trans plan,
        explained.completed p inTable completed⟩))

/-- The user of the run has the tier that the payment is for. -/
theorem tiers_paid_for_deliveredAtOnce :
    let after := (Machine.run (ledger plainShop).worldStep ⟨⟨[], [], [], []⟩, []⟩
      (deliveredAtOnce.map (Event.map LedgerRequest.first))).1.db
    after.users.map (·.subscriptionTier) = ["yearly"] ∧
      ∀ u ∈ after.users, u.subscriptionTier = "free" ∨
        u.subscriptionTier = "trial" ∧ u.trialUsed = true ∨
        ∃ p ∈ after.payments, p.status = "completed" ∧ p.userId = u.id ∧
          p.plan = u.subscriptionTier := by
  refine ⟨by decide, fun u member => ?_⟩
  rcases tiers_paid_for plainShop books_empty (by decide) deliveredAtOnce
    (fun _ member => absurd member List.not_mem_nil) u member with
    ⟨_, none_, _⟩ | free | trial | ⟨p, there, completed, payer, plan, _⟩
  · cases none_
  · exact .inl free
  · exact .inr (.inl trial)
  · exact .inr (.inr ⟨p, there, completed, payer, plan⟩)

/-! ## Answers that are owed -/

/-- The payment whose link a request is about to answer. -/
def LedgerStage.owed : LedgerStage → Option Uuid
  | .refresh (.payment paymentId _) => some paymentId
  | _ => none

/-- The payment whose link an outcome gives. -/
def linked : LedgerOutcome → Option Uuid
  | .ok (.payment row _) => some row.id
  | _ => none

theorem owed_eq_some {stage : LedgerStage} {id : Uuid} :
    stage.owed = some id ↔ ∃ amount, stage = .refresh (.payment id amount) := by
  constructor
  · intro owed
    cases stage with
    | refresh written =>
        cases written with
        | payment paymentId amount =>
            obtain rfl := Option.some.inj owed
            exact ⟨amount, rfl⟩
        | _ => cases owed
    | _ => cases owed
  · rintro ⟨amount, rfl⟩
    rfl

theorem linked_eq_some {outcome : LedgerOutcome} {id : Uuid} :
    linked outcome = some id ↔ ∃ row url, outcome = .ok (.payment row url) ∧ row.id = id := by
  constructor
  · intro paid
    cases outcome with
    | error e => cases paid
    | ok answer =>
        cases answer with
        | payment row url => exact ⟨row, url, rfl, Option.some.inj paid⟩
        | _ => cases paid
  · rintro ⟨row, url, rfl, rfl⟩
    rfl

/-- Only the commit of a purchase adds a payment, and it goes on to answer with the link. -/
theorem ledgerStep_payment_ids {stage : LedgerStage} (asserts : stage.Asserts asked db) {id : Uuid}
    (there : id ∈ (ledgerStep shop db stage).1.payments.map (·.id)) :
    id ∈ db.payments.map (·.id) ∨
      Sum.elim LedgerStage.owed linked (ledgerStep shop db stage).2 = some id := by
  cases stage with
  | commit commit =>
      simp only [ledgerStep] at there ⊢
      rcases commitStep_cases db commit with ⟨e, taken⟩ | ⟨after, written, commits, taken⟩
      · rw [taken] at there
        exact .inl there
      · rw [taken] at there ⊢
        cases commits with
        | payment accepted =>
            rw [payments_purchase, List.map_append] at there
            rcases List.mem_append.mp there with old | new
            · exact .inl old
            · exact .inr (congrArg some (List.mem_singleton.mp new).symm)
        | _ => exact .inl there
  | webhook stage =>
      obtain ⟨after, next, taken, result⟩ := ledgerStep_delivery shop db stage
      rw [taken] at there
      cases result with
      | @credits req payment user expiresAt accepted =>
          rw [LedgerDb.credit, Table.map_update
            (f := PaymentRow.write payment (payment.complete req)) (fun _ => rfl)] at there
          exact .inl there
      | _ => exact .inl there
  | _ => exact .inl there

/-- A purchase past its commit reads its payment and answers with it. -/
theorem refreshRow_payment (shop : Shop) (books : Books db) {request : LedgerRequest} {id : Uuid}
    {amount : Rat} (stands : Stands trusted db request (.refresh (.payment id amount))) :
    Sum.elim LedgerStage.owed linked (refreshRow shop db (.payment id amount)) = some id := by
  cases stands with
  | refresh wrote =>
      cases wrote with
      | payment inTable =>
          obtain ⟨p, member, rfl, _⟩ := inTable
          have found := refreshed_of_mem books.paymentIds member fun row =>
            .payment row (paymentUrl shop row.id amount)
          rw [show refreshRow shop db (.payment p.id amount) = _ from found]
          rfl

/-- A purchase that has inserted its payment owes the link. -/
def linkDebt (shop : Shop) (start : LedgerDb) (within : GrantsWithin trusted asked) :
    (guardLayer shop start within).outline.Debt Uuid where
  written := fun db id => id ∈ db.payments.map (·.id)
  owes := LedgerStage.owed
  pays := linked
  incurred := fun _ _ _ _ _ asserts there => ledgerStep_payment_ids asserts.1 there
  kept := by
    rintro _ db stage id ⟨⟨books, _⟩, _⟩ ⟨_, _, request, _, _, stands⟩ owing
    obtain ⟨amount, rfl⟩ := owed_eq_some.mp owing
    exact refreshRow_payment shop books stands

/-- However the requests interleave: a payment that was not there before is answered with its
link, or its purchase is about to; and no request that is past its commit fails. -/
theorem orders_answered (shop : Shop) {db : LedgerDb} (books : Books db)
    (promoIds : (db.promoCodes.map (·.id)).Nodup) (schedule : List (Event LedgerRequest)) :
    let after := Machine.run (ledger shop).worldStep ⟨db, []⟩
      (schedule.map (Event.map LedgerRequest.first))
    (∀ task ∈ after.1.tasks, ∀ written, task.stage = .inl (.refresh written) →
      ∃ answer, (ledgerStep shop after.1.db (.refresh written)).2 = .inr (.ok answer)) ∧
      ∀ payment ∈ after.1.db.payments, payment.id ∈ db.payments.map (·.id) ∨
        (∃ task ∈ after.1.tasks, ∃ amount,
          task.stage = .inl (.refresh (.payment payment.id amount))) ∨
        ∃ o ∈ after.2, ∃ row url, o.2 = .ok (.payment row url) ∧ row.id = payment.id := by
  intro after
  have within : GrantsWithin (fun _ => True) (Submitted schedule) := fun _ _ _ _ _ _ => trivial
  have start := layer_holds shop books promoIds (fun _ _ _ => trivial) within
  obtain ⟨holds, _⟩ := (guardLayer shop db within).outline.run start (schedule_starts within)
  refine ⟨?_, ?_⟩
  · intro task member written stage
    obtain ⟨_, _, request, _, _, stands⟩ := holds.running task member _ stage
    obtain ⟨answer, found, _⟩ :=
      refreshRow_belongs shop holds.inv.1.1 holds.inv.2.promoIds stands
    exact ⟨answer, found⟩
  · intro payment inTable
    rcases ((linkDebt shop db within).run start (schedule_starts within) payment.id).1
      (List.mem_map_of_mem inTable) with before | ⟨task, member, stage, running, owed⟩ |
        ⟨o, member, paid⟩
    · exact .inl before
    · obtain ⟨amount, rfl⟩ := owed_eq_some.mp owed
      exact .inr (.inl ⟨task, member, amount, running⟩)
    · exact .inr (.inr ⟨o, member, linked_eq_some.mp paid⟩)

/-- The purchase has inserted its payment and is about to answer. -/
theorem orders_answered_deliveredAtOnce :
    let after := Machine.run (ledger plainShop).worldStep ⟨⟨[], [], [], []⟩, []⟩
      ((deliveredAtOnce.take 9).map (Event.map LedgerRequest.first))
    (after.1.db.payments.map (·.id) = [10] ∧ after.2.length = 1) ∧
      (∀ task ∈ after.1.tasks, ∀ written, task.stage = .inl (.refresh written) →
        ∃ answer, (ledgerStep plainShop after.1.db (.refresh written)).2 = .inr (.ok answer)) ∧
      ∀ payment ∈ after.1.db.payments, payment.id ∈ [] ∨
        (∃ task ∈ after.1.tasks, ∃ amount,
          task.stage = .inl (.refresh (.payment payment.id amount))) ∨
        ∃ o ∈ after.2, ∃ row url, o.2 = .ok (.payment row url) ∧ row.id = payment.id :=
  ⟨by decide, orders_answered plainShop books_empty (by decide) (deliveredAtOnce.take 9)⟩

end PlgBooster.Server
