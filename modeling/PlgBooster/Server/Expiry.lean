import PlgBooster.Server.Billing

/-!
# Paid time

A webhook extends the period a user has paid for, a cancellation and an edit leave it
alone, and a trial replaces it: `activate_trial` does not look at the current expiry, as
`calculate_expiry` does. So the expiry of a user never goes back exactly as long as no
trial is granted to a user whose expiry is later than the trial's end.
-/

namespace PlgBooster.Server

open Transaction

/-- `user.subscription_expires_at`. -/
def BillingDb.expiresAt (db : BillingDb) (userId : Uuid) : Option DateTime :=
  (db.usersWith userId).head?.bind (·.subscriptionExpiresAt)

/-- An expiry once set stays set and does not become earlier. -/
def NotEarlier (before after : Option DateTime) : Prop :=
  ∀ t ∈ before, ∃ t' ∈ after, t ≤ t'

/-- A trial is granted only where it ends no earlier than the user's current expiry. -/
def TrialExtends (db : BillingDb) : Operation → Prop
  | .activateTrial userId now subscriptionId =>
      ∀ user, TrialOpens db userId now subscriptionId user →
        ∀ t ∈ user.subscriptionExpiresAt, t ≤ now + 7 * day
  | _ => True

theorem NotEarlier.refl (expiresAt : Option DateTime) : NotEarlier expiresAt expiresAt :=
  fun t member => ⟨t, member, Int.le_refl t⟩

theorem expiresAt_of_usersWith {db : BillingDb} {userId : Uuid} {user : User}
    (found : db.usersWith userId = [user]) :
    db.expiresAt userId = user.subscriptionExpiresAt := by
  simp [BillingDb.expiresAt, found]

/-- The period a delivery credits ends later than the one its user has. -/
theorem Credits.le_expiresAt {db : BillingDb} {req : Webhook} {payment : Payment} {user : User}
    {expiresAt : DateTime} (credits : Credits db req payment user expiresAt) :
    ∀ t ∈ user.subscriptionExpiresAt, t ≤ expiresAt := by
  intro t member
  obtain ⟨period, positive, _⟩ := calculateExpiry_eq_ok credits.expiry
  calc
    t ≤ periodStart req.expiryNow user.subscriptionExpiresAt :=
      (le_periodStart req.expiryNow user.subscriptionExpiresAt).2 t member
    _ ≤ periodStart req.expiryNow user.subscriptionExpiresAt + duration payment.plan :=
      Int.le_add_of_nonneg_right (Int.le_of_lt positive)
    _ = expiresAt := period.symm

/-- A credited payment extends the expiry of its user. -/
theorem notEarlier_credit {db : BillingDb} {req : Webhook} {payment : Payment} {user : User}
    {expiresAt : DateTime} (credits : Credits db req payment user expiresAt) (userId : Uuid) :
    NotEarlier (db.expiresAt userId)
      ((db.credit req payment user expiresAt).expiresAt userId) := by
  have after := usersWith_credit credits.owner req expiresAt userId
  by_cases same : userId = payment.userId
  · rw [if_pos same] at after
    rw [expiresAt_of_usersWith after, same, expiresAt_of_usersWith credits.owner]
    intro t member
    exact ⟨expiresAt, rfl, credits.le_expiresAt t member⟩
  · rw [if_neg same] at after
    rw [BillingDb.expiresAt, BillingDb.expiresAt, after]
    exact NotEarlier.refl _

/-- A trial takes no paid time away exactly if it ends no earlier than what its user has. -/
theorem notEarlier_startTrial_iff {db : BillingDb} {trialUser : Uuid} {now : DateTime}
    {subscriptionId : Uuid} {user : User}
    (opens : TrialOpens db trialUser now subscriptionId user) :
    (∀ userId, NotEarlier (db.expiresAt userId)
      ((db.startTrial (newSubscription subscriptionId trialUser "trial" now
        (now + 7 * day))).expiresAt userId)) ↔
      ∀ t ∈ user.subscriptionExpiresAt, t ≤ now + 7 * day := by
  have after := opens.usersWith
  constructor
  · intro kept t member
    have own := (after trialUser).trans (if_pos rfl)
    have kept := kept trialUser
    rw [expiresAt_of_usersWith opens.found, expiresAt_of_usersWith own] at kept
    obtain ⟨t', ends, le⟩ := kept t member
    obtain rfl : now + 7 * day = t' := Option.some.inj ends
    exact le
  · intro longer userId
    by_cases same : userId = trialUser
    · have own := (after userId).trans (if_pos same)
      rw [expiresAt_of_usersWith own, same, expiresAt_of_usersWith opens.found]
      intro t member
      exact ⟨now + 7 * day, rfl, longer t member⟩
    · have other := (after userId).trans (if_neg same)
      rw [BillingDb.expiresAt, BillingDb.expiresAt, other]
      exact NotEarlier.refl _

theorem trialExtends_of_refused {db : BillingDb} {operation : Operation}
    (refused : operation.Refused db) : TrialExtends db operation := by
  cases operation with
  | activateTrial userId now subscriptionId => exact fun user opens => absurd opens (refused user)
  | processWebhook req => trivial
  | cancelSubscription userId now => trivial
  | updateSubscription subId body => trivial

/-- One operation takes no paid time away exactly if it is not a trial that ends too
early. -/
theorem notEarlier_step_iff (db : BillingDb) (operation : Operation) :
    (∀ userId, NotEarlier (db.expiresAt userId) ((db.step operation).1.expiresAt userId)) ↔
      TrialExtends db operation := by
  cases db.steps operation with
  | refused same refused =>
      rw [same]
      exact iff_of_true (fun _ => NotEarlier.refl _) (trialExtends_of_refused refused)
  | credited credits after =>
      rw [after]
      exact iff_of_true (notEarlier_credit credits) trivial
  | granted opens after =>
      rw [after, notEarlier_startTrial_iff opens]
      constructor
      · intro longer user' opens'
        exact opens.user_eq opens'.found ▸ longer
      · intro extends'
        exact extends' _ opens
  | cancelled after =>
      rw [after]
      exact iff_of_true (fun _ => NotEarlier.refl _) trivial
  | edited found valid after =>
      rw [after]
      exact iff_of_true (fun _ => NotEarlier.refl _) trivial

/-- Over any sequence of operations no expiry ever goes back if and only if every granted
trial ends no earlier than the expiry its user has. -/
theorem notEarlier_iff (db : BillingDb) (operations : List Operation) :
    (∀ n userId, NotEarlier
      ((Machine.run BillingDb.step db (operations.take n)).1.expiresAt userId)
      ((Machine.run BillingDb.step db (operations.take (n + 1))).1.expiresAt userId)) ↔
    Machine.Legal TrialExtends BillingDb.step db operations :=
  (Machine.legal_iff_related
    (R := fun before after : BillingDb =>
      ∀ userId, NotEarlier (before.expiresAt userId) (after.expiresAt userId))
    (fun _ _ => NotEarlier.refl _) notEarlier_step_iff db operations).symm

/-- A user who has just registered and asked for a yearly payment. -/
def newUserDb : BillingDb where
  users := [registeredUser 1]
  payments := [⟨10, 1, "pending", "yearly", none, none⟩]
  subscriptions := []

/-- The delivery for payment 10. -/
def paid (now : DateTime) (subscriptionId : Uuid) : Webhook where
  comment := some "PLG:00000000-0000-0000-0000-00000000000a"
  donationId := "1"
  now := now
  expiryNow := now
  subscriptionId := subscriptionId

/-- The user pays for a year, and a day later activates the trial: seven days are left. -/
theorem trial_takes_year_away :
    let operations := [.processWebhook (paid 0 100), .activateTrial 1 day 101]
    (Machine.run BillingDb.step newUserDb (operations.take 1)).1.expiresAt 1 = some (365 * day) ∧
      (Machine.run BillingDb.step newUserDb (operations.take 2)).1.expiresAt 1 = some (8 * day) ∧
      ¬ ∀ n userId, NotEarlier
        ((Machine.run BillingDb.step newUserDb (operations.take n)).1.expiresAt userId)
        ((Machine.run BillingDb.step newUserDb (operations.take (n + 1))).1.expiresAt userId) := by
  intro operations
  have year : (Machine.run BillingDb.step newUserDb (operations.take 1)).1.expiresAt 1 =
      some (365 * day) := by decide
  have week : (Machine.run BillingDb.step newUserDb (operations.take 2)).1.expiresAt 1 =
      some (8 * day) := by decide
  refine ⟨year, week, ?_⟩
  intro kept
  have second := kept 1 1
  rw [year, week] at second
  obtain ⟨t, ends, le⟩ := second _ rfl
  obtain rfl := Option.some.inj ends
  exact absurd le (by decide)

end PlgBooster.Server
