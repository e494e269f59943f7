import PlgBooster.Server.Expiry
import Mathlib.Data.List.Permutation

/-!
# Interleaved webhooks

A delivery writes what it has computed from rows it read some steps ago. If the commit of
every delivery still finds its payment as it was read, and a user whose current period ends
where the one read did, a run of deliveries has the effect of the same deliveries one at a
time. Nothing in the tables or in `process_webhook` makes sure of that: a payment delivered
twice can be credited twice, and of two payments of one user one can be lost.
-/

namespace PlgBooster.Server

open Transaction

/-- A new period would start at the same time. -/
def SamePeriod (now : DateTime) (read current : Option DateTime) : Prop :=
  current = read ∨ (∀ t ∈ read, t ≤ now) ∧ ∀ t ∈ current, t ≤ now

instance (now : DateTime) (read current : Option DateTime) :
    Decidable (SamePeriod now read current) := by
  unfold SamePeriod
  infer_instance

/-- What a delivery has read is still so when it ends. Before its commit a delivery with
a pending payment ends only if the payment has no user. -/
def AsRead (db : BillingDb) : WebhookStage → Prop
  | .selectPayment _ => True
  | .selectUser _ payment =>
      (db.usersWith payment.userId).length = 1 ∨ db.paymentsWith payment.id = [payment]
  | .commit req payment user =>
      db.paymentsWith payment.id = [payment] ∧
        match db.usersWith user.id with
        | [current] =>
            SamePeriod req.expiryNow user.subscriptionExpiresAt current.subscriptionExpiresAt
        | _ => False

instance (db : BillingDb) (stage : WebhookStage) : Decidable (AsRead db stage) := by
  unfold AsRead
  split
  · infer_instance
  · infer_instance
  · split <;> infer_instance

/-- Deliveries enter at their first step, and each finds what it has read as it was. -/
def FoundAsRead (world : World BillingDb WebhookStage WebhookOutcome) :
    Event WebhookStage → Prop
  | .submit (.selectPayment _) => True
  | .submit _ => False
  | .advance i =>
      match world.tasks[i]? with
      | some ⟨_, .inl stage⟩ => AsRead world.db stage
      | _ => True

instance (world : World BillingDb WebhookStage WebhookOutcome) (event : Event WebhookStage) :
    Decidable (FoundAsRead world event) := by
  unfold FoundAsRead
  split
  · infer_instance
  · infer_instance
  · split <;> infer_instance

/-- What a running delivery has found on its way. -/
def ReadBy (req : Webhook) : WebhookStage → Prop
  | .selectPayment r => r = req
  | .selectUser r payment =>
      r = req ∧ namedPayment req.comment = some payment.id ∧ payment.status = "pending"
  | .commit r payment user =>
      r = req ∧ namedPayment req.comment = some payment.id ∧ payment.status = "pending" ∧
        user.id = payment.userId

def Delivers (request stage : WebhookStage) : Prop :=
  ∃ req, request = .selectPayment req ∧ ReadBy req stage

/-- The payment a delivery answers with. -/
def creditedPayment (ended : WebhookStage × WebhookOutcome) : Option Payment :=
  match ended.2 with
  | .ok payment => payment
  | .error _ => none

/-- The payments credited by the deliveries that have ended. -/
def credited (ended : List (WebhookStage × WebhookOutcome)) : List Payment :=
  ended.filterMap creditedPayment

/-- A user's expiry after a delivery that has ended: the period that is paid for comes after
the current one. -/
def extendExpiry (userId : Uuid) (current : Option DateTime)
    (ended : WebhookStage × WebhookOutcome) : Option DateTime :=
  match ended with
  | (.selectPayment req, .ok (some payment)) =>
      if payment.userId = userId then
        some (periodStart req.expiryNow current + duration payment.plan)
      else current
  | _ => current

/-! ## Deliveries that find what they have read -/

theorem periodStart_of_samePeriod {now : DateTime} {read current : Option DateTime}
    (same : SamePeriod now read current) : periodStart now current = periodStart now read := by
  have past {expiresAt : Option DateTime} (lapsed : ∀ t ∈ expiresAt, t ≤ now) :
      periodStart now expiresAt = now := by
    cases expiresAt with
    | none => rfl
    | some t => exact if_neg (Int.not_lt.mpr (lapsed t rfl))
  rcases same with rfl | ⟨readLapsed, currentLapsed⟩
  · rfl
  · rw [past readLapsed, past currentLapsed]

/-- A commit depends on the user's key and on where the new period starts. -/
theorem webhookStep_commit_congr (db : BillingDb) {req : Webhook} (payment : Payment)
    {current user : User} (same : current.id = user.id)
    (period : SamePeriod req.expiryNow user.subscriptionExpiresAt current.subscriptionExpiresAt) :
    webhookStep db (.commit req payment current) = webhookStep db (.commit req payment user) := by
  have expiry :
      calculateExpiry req.expiryNow payment.plan current.subscriptionExpiresAt =
        calculateExpiry req.expiryNow payment.plan user.subscriptionExpiresAt := by
    simp only [calculateExpiry, periodStart_of_samePeriod period]
  have row (expiresAt : DateTime) :
      req.subscription payment current expiresAt = req.subscription payment user expiresAt := by
    simp only [Webhook.subscription, same]
  have written (expiresAt : DateTime) :
      db.credit req payment current expiresAt = db.credit req payment user expiresAt := by
    simp only [BillingDb.credit, row, same]
  simp only [webhookStep, expiry, row, written]

theorem delivers_step {db db' : BillingDb} {request stage stage' : WebhookStage}
    (delivers : Delivers request stage) (taken : webhookStep db stage = (db', .inl stage')) :
    Delivers request stage' := by
  obtain ⟨req, rfl, read⟩ := delivers
  refine ⟨req, rfl, ?_⟩
  obtain ⟨_, ⟨_, payment, rfl, rfl, named, _, pending⟩ | ⟨_, payment, user, rfl, rfl, owner⟩⟩ :=
    webhookStep_eq_inl taken
  · obtain rfl : _ = req := read
    exact ⟨rfl, named, pending⟩
  · obtain ⟨rfl, named, pending⟩ := read
    exact ⟨rfl, named, pending, id_of_usersWith owner⟩

theorem exec_of_selectUser {db : BillingDb} {req : Webhook} {payment : Payment}
    (named : namedPayment req.comment = some payment.id)
    (found : db.paymentsWith payment.id = [payment]) (pending : payment.status = "pending") :
    processWebhook.exec db (.selectPayment req) =
      processWebhook.exec db (.selectUser req payment) := by
  apply exec_webhook_inl
  simp [webhookStep, named, scalarOneOrNone_eq_some.mpr found, pending]

/-- A delivery that ends where it finds what it has read does what it would do alone. -/
theorem exec_of_asRead {db db' : BillingDb} {request stage : WebhookStage}
    {outcome : WebhookOutcome} (delivers : Delivers request stage) (asRead : AsRead db stage)
    (taken : webhookStep db stage = (db', .inr outcome)) :
    processWebhook.exec db request = (db', some outcome) := by
  obtain ⟨req, rfl, read⟩ := delivers
  cases stage with
  | selectPayment r =>
      obtain rfl : r = req := read
      exact exec_webhook_inr taken
  | selectUser r payment =>
      obtain ⟨rfl, named, pending⟩ := read
      rcases asRead with single | found
      · obtain ⟨user, owner⟩ := List.length_eq_one_iff.mp single
        simp [webhookStep, owner, scalarOne] at taken
      · rw [exec_of_selectUser named found pending]
        exact exec_webhook_inr taken
  | commit r payment user =>
      obtain ⟨rfl, named, pending, owner⟩ := read
      obtain ⟨found, userFound⟩ := asRead
      rw [exec_of_selectUser named found pending]
      split at userFound
      next current rows =>
        have same : current.id = user.id := id_of_usersWith rows
        rw [owner] at rows
        have selects : webhookStep db (.selectUser r payment) =
            (db, .inl (.commit r payment current)) := by
          simp [webhookStep, rows, scalarOne]
        rw [exec_webhook_inl selects]
        exact exec_webhook_inr ((webhookStep_commit_congr db payment same userFound).trans taken)
      · exact absurd userFound id

section Step

variable {world : World BillingDb WebhookStage WebhookOutcome} {event : Event WebhookStage}

theorem kept_delivers (kept : Program.Kept Delivers world) (asRead : FoundAsRead world event) :
    Program.Kept Delivers (processWebhook.worldStep world event).1 := by
  refine Program.kept_worldStep (fun db request l l' => delivers_step) ?_ kept
  rintro request rfl
  cases request with
  | selectPayment req => exact ⟨req, rfl, rfl⟩
  | selectUser req payment => exact absurd asRead id
  | commit req payment user => exact absurd asRead id

theorem atomic_of_asRead (kept : Program.Kept Delivers world) (asRead : FoundAsRead world event) :
    processWebhook.Atomic world event := by
  cases event with
  | submit request => trivial
  | advance i =>
      intro request stage found
      have delivers := kept _ (List.mem_of_getElem? found) stage rfl
      simp only [FoundAsRead, found] at asRead
      cases taken : processWebhook.step world.db stage with
      | mk db next =>
          cases next with
          | inl stage' =>
              exact (webhookStep_eq_inl (show webhookStep world.db stage = _ from taken)).1
          | inr outcome => exact exec_of_asRead delivers asRead taken

theorem creditedPayment_of_ne (req : Webhook) {outcome : WebhookOutcome}
    (nothing : ∀ payment, outcome ≠ .ok (some payment)) :
    creditedPayment (.selectPayment req, outcome) = none := by
  cases outcome with
  | error e => rfl
  | ok credited =>
      cases credited with
      | none => rfl
      | some payment => exact absurd rfl (nothing payment)

/-- One step leaves the tables alone and credits nothing, or it credits one payment. -/
theorem delivery_cases (kept : Program.Kept Delivers world) (asRead : FoundAsRead world event) :
    ((processWebhook.worldStep world event).1.db = world.db ∧
      ∀ ended ∈ (processWebhook.worldStep world event).2, creditedPayment ended = none) ∨
    ∃ req payment user expiresAt, Credits world.db req payment user expiresAt ∧
      (processWebhook.worldStep world event).1.db = world.db.credit req payment user expiresAt ∧
      (processWebhook.worldStep world event).2 =
        [(.selectPayment req, .ok (some (payment.complete req)))] := by
  have atomic := atomic_of_asRead kept asRead
  cases event with
  | submit request => exact .inl ⟨rfl, by simp [Program.worldStep]⟩
  | advance i =>
      cases processWebhook.advance world i with
      | idle nothing after =>
          rw [after]
          exact .inl ⟨rfl, by simp⟩
      | proceeds request stage db stage' found taken after =>
          have here := atomic request stage found
          rw [taken] at here
          rw [after]
          exact .inl ⟨here, by simp⟩
      | finishes request stage db outcome found taken after =>
          have here := atomic request stage found
          rw [taken] at here
          obtain ⟨req, rfl, _⟩ := kept _ (List.mem_of_getElem? found) stage rfl
          rw [after]
          cases webhookEnds world.db req with
          | ignored outcome' no_payment ended =>
              obtain ⟨rfl, same⟩ := Prod.mk.inj (ended.symm.trans here)
              obtain rfl := Option.some.inj same
              refine .inl ⟨rfl, ?_⟩
              intro e member
              obtain rfl := List.mem_singleton.mp member
              exact creditedPayment_of_ne req no_payment
          | credited payment user expiresAt credits ended =>
              obtain ⟨rfl, same⟩ := Prod.mk.inj (ended.symm.trans here)
              obtain rfl := Option.some.inj same
              exact .inr ⟨req, payment, user, expiresAt, credits, rfl, rfl⟩

theorem expiresAt_credit {db : BillingDb} {req : Webhook} {payment : Payment} {user : User}
    {expiresAt : DateTime} (credits : Credits db req payment user expiresAt) (userId : Uuid) :
    (db.credit req payment user expiresAt).expiresAt userId =
      extendExpiry userId (db.expiresAt userId)
        (.selectPayment req, .ok (some (payment.complete req))) := by
  have after := usersWith_credit credits.owner req expiresAt userId
  change _ = if payment.userId = userId then _ else _
  by_cases same : userId = payment.userId
  · rw [if_pos same] at after
    rw [if_pos same.symm, expiresAt_of_usersWith after, same,
      expiresAt_of_usersWith credits.owner]
    exact congrArg some (calculateExpiry_eq_ok credits.expiry).1
  · rw [if_neg same] at after
    rw [if_neg (Ne.symm same), BillingDb.expiresAt, after, BillingDb.expiresAt]

theorem extendExpiry_of_none (userId : Uuid) (current : Option DateTime)
    {ended : WebhookStage × WebhookOutcome} (nothing : creditedPayment ended = none) :
    extendExpiry userId current ended = current := by
  obtain ⟨stage, e | _ | payment⟩ := ended
  · cases stage <;> rfl
  · cases stage <;> rfl
  · cases nothing

theorem expiresAt_delivery (kept : Program.Kept Delivers world) (asRead : FoundAsRead world event)
    (userId : Uuid) :
    (processWebhook.worldStep world event).1.db.expiresAt userId =
      (processWebhook.worldStep world event).2.foldl (extendExpiry userId)
        (world.db.expiresAt userId) := by
  rcases delivery_cases kept asRead with
    ⟨same, nothing⟩ | ⟨req, payment, user, expiresAt, credits, written, ended⟩
  · rw [same]
    refine (List.foldlRecOn _ _ (motive := (· = world.db.expiresAt userId)) rfl ?_).symm
    intro current unchanged e member
    rw [extendExpiry_of_none userId current (nothing e member), unchanged]
  · rw [written, ended]
    exact expiresAt_credit credits userId

theorem paymentsWith_credit {db : BillingDb} {payment : Payment}
    (found : db.paymentsWith payment.id = [payment]) (req : Webhook) (user : User)
    (expiresAt : DateTime) (paymentId : Uuid) :
    (db.credit req payment user expiresAt).paymentsWith paymentId =
      if paymentId = payment.id then [payment.complete req] else db.paymentsWith paymentId := by
  have keeps : ∀ p : Payment, (p.complete req).id = p.id := fun _ => rfl
  apply (Table.select_update keeps payment.id paymentId db.payments).trans
  change (if _ then (db.paymentsWith payment.id).map _ else db.paymentsWith paymentId) = _
  rw [found]
  rfl

end Step

/-! ## Runs -/

/-- What is known at every step of a run of deliveries that find what they have read. -/
def InOrder (world : World BillingDb WebhookStage WebhookOutcome) (event : Event WebhookStage) :
    Prop :=
  Program.Kept Delivers world ∧ FoundAsRead world event

section Run

variable {world : World BillingDb WebhookStage WebhookOutcome}
variable {deliveries : List (Event WebhookStage)}

/-- Every period that is paid for comes after the one its user had at that time. -/
theorem expiresAt_run (inOrder : Machine.Legal InOrder processWebhook.worldStep world deliveries)
    (userId : Uuid) :
    (Machine.run processWebhook.worldStep world deliveries).1.db.expiresAt userId =
      (Machine.run processWebhook.worldStep world deliveries).2.foldl (extendExpiry userId)
        (world.db.expiresAt userId) := by
  induction deliveries generalizing world with
  | nil => rfl
  | cons event deliveries ih =>
      obtain ⟨⟨kept, asRead⟩, later⟩ := inOrder
      rw [Machine.run_cons, ih later, expiresAt_delivery kept asRead, List.foldl_append]

/-- There is one new subscription for each payment that is credited. -/
theorem subscriptions_run
    (inOrder : Machine.Legal InOrder processWebhook.worldStep world deliveries) :
    let final := Machine.run processWebhook.worldStep world deliveries
    final.1.db.subscriptions.map (fun s => some s.id) =
      world.db.subscriptions.map (fun s => some s.id) ++
        (credited final.2).map (·.subscriptionId) := by
  induction deliveries generalizing world with
  | nil => simp [credited]
  | cons event deliveries ih =>
      obtain ⟨⟨kept, asRead⟩, later⟩ := inOrder
      have rest := ih later
      simp only [Machine.run_cons, credited, List.filterMap_append, List.map_append] at rest ⊢
      rw [rest, ← List.append_assoc]
      congr 1
      rcases delivery_cases kept asRead with
        ⟨same, nothing⟩ | ⟨req, payment, user, expiresAt, credits, written, ended⟩
      · rw [same, List.filterMap_eq_nil_iff.mpr nothing]
        simp
      · rw [written, ended]
        simp [creditedPayment, Payment.complete, BillingDb.credit, BillingDb.modifyUser,
          BillingDb.modifyPayment, BillingDb.insertSubscription, Webhook.subscription,
          newSubscription]

/-- No payment is credited twice: what is credited was pending before. -/
theorem credited_run (inOrder : Machine.Legal InOrder processWebhook.worldStep world deliveries) :
    let ended := (Machine.run processWebhook.worldStep world deliveries).2
    ((credited ended).map (·.id)).Nodup ∧
      ∀ payment ∈ credited ended, ∃ before, world.db.paymentsWith payment.id = [before] ∧
        before.status = "pending" := by
  induction deliveries generalizing world with
  | nil => simp [credited]
  | cons event deliveries ih =>
      obtain ⟨⟨kept, asRead⟩, later⟩ := inOrder
      obtain ⟨distinct, pending⟩ := ih later
      simp only [Machine.run_cons, credited, List.filterMap_append] at distinct pending ⊢
      rcases delivery_cases kept asRead with
        ⟨same, nothing⟩ | ⟨req, payment, user, expiresAt, credits, written, ended⟩
      · rw [List.filterMap_eq_nil_iff.mpr nothing, List.nil_append]
        rw [same] at pending
        exact ⟨distinct, pending⟩
      · rw [ended]
        rw [written] at pending
        -- The payment at hand is completed now, so the later ones are others.
        have others {later : Payment} (before : Payment)
            (found : (world.db.credit req payment user expiresAt).paymentsWith later.id = [before])
            (open' : before.status = "pending") :
            later.id ≠ payment.id ∧ world.db.paymentsWith later.id = [before] := by
          rw [paymentsWith_credit credits.found] at found
          split_ifs at found with same
          · obtain rfl : payment.complete req = before := (List.cons.inj found).1
            exact absurd open' (show "completed" ≠ "pending" by decide)
          · exact ⟨same, found⟩
        refine ⟨List.nodup_cons.mpr ⟨fun again => ?_, distinct⟩, ?_⟩
        · obtain ⟨later, member, same⟩ := List.mem_map.mp again
          obtain ⟨before, found, open'⟩ := pending later member
          exact (others before found open').1 same
        · intro later member
          rcases List.mem_cons.mp member with rfl | member
          · exact ⟨payment, credits.found, credits.pending⟩
          · obtain ⟨before, found, open'⟩ := pending later member
            exact ⟨before, (others before found open').2, open'⟩

end Run

/-- In every run of deliveries in which each finds what it has read, once all have ended the
tables are as after the same deliveries one at a time in some order. No payment is credited
twice, each credited one has one subscription, and every period that is paid for extends
the expiry its user had. -/
theorem webhooks_serializable {db : BillingDb} {deliveries : List (Event WebhookStage)}
    (asRead : Machine.Legal FoundAsRead processWebhook.worldStep ⟨db, []⟩ deliveries)
    (finished : Program.pending
      (Machine.run processWebhook.worldStep ⟨db, []⟩ deliveries).1 = []) :
    let final := Machine.run processWebhook.worldStep ⟨db, []⟩ deliveries
    (∃ order, order.Perm (Program.submitted deliveries) ∧
        final.1.db = processWebhook.serial db order) ∧
      ((credited final.2).map (·.id)).Nodup ∧
      final.1.db.subscriptions.map (fun s => some s.id) =
        db.subscriptions.map (fun s => some s.id) ++ (credited final.2).map (·.subscriptionId) ∧
      ∀ userId, final.1.db.expiresAt userId =
        final.2.foldl (extendExpiry userId) (db.expiresAt userId) := by
  have start : Program.Kept Delivers
      (⟨db, []⟩ : World BillingDb WebhookStage WebhookOutcome) := by
    intro task member
    cases member
  have inOrder : Machine.Legal InOrder processWebhook.worldStep ⟨db, []⟩ deliveries :=
    Machine.legal_and_invariant (Program.Kept Delivers) (fun _ _ => kept_delivers) start asRead
  have atomic : Machine.Legal processWebhook.Atomic processWebhook.worldStep ⟨db, []⟩ deliveries :=
    inOrder.mono fun _ _ here => atomic_of_asRead here.1 here.2
  exact ⟨Program.run_serializable atomic finished, (credited_run inOrder).1,
    subscriptions_run inOrder, expiresAt_run inOrder⟩

/-- One payment, delivered twice: both deliveries select it before either commits. -/
def deliveredTwice : List (Event WebhookStage) :=
  [.submit (.selectPayment (paid 0 100)), .submit (.selectPayment (paid 1 101)), .advance 0,
    .advance 1, .advance 0, .advance 0, .advance 1, .advance 1]

/-- A user with two payments for a year. -/
def twoPaymentsDb : BillingDb :=
  { newUserDb with payments :=
      [⟨10, 1, "pending", "yearly", none, none⟩, ⟨11, 1, "pending", "yearly", none, none⟩] }

/-- The delivery for payment 11. -/
def paidAgain : Webhook :=
  { paid 1 101 with comment := some "PLG:00000000-0000-0000-0000-00000000000b" }

/-- Two payments of one user: both deliveries select the user before either commits. -/
def bothPaid : List (Event WebhookStage) :=
  [.submit (.selectPayment (paid 0 100)), .submit (.selectPayment paidAgain), .advance 0,
    .advance 1, .advance 0, .advance 1, .advance 0, .advance 1]

/-- A payment delivered twice gets two subscriptions, and of two payments of a user one
extends nothing; one at a time, in either order, neither happens. -/
theorem deliveries_not_serializable :
    let twice := (Machine.run processWebhook.worldStep ⟨newUserDb, []⟩ deliveredTwice).1
    let both := (Machine.run processWebhook.worldStep ⟨twoPaymentsDb, []⟩ bothPaid).1
    (Program.pending twice = [] ∧ twice.db.subscriptions.length = 2 ∧
      ∀ order, order.Perm (Program.submitted deliveredTwice) →
        (processWebhook.serial newUserDb order).subscriptions.length = 1) ∧
    Program.pending both = [] ∧ both.db.expiresAt 1 = some (365 * day + 1) ∧
      ∀ order, order.Perm (Program.submitted bothPaid) →
        (processWebhook.serial twoPaymentsDb order).expiresAt 1 ≠ both.db.expiresAt 1 := by
  refine ⟨⟨by decide, by decide, fun order perm => ?_⟩, by decide, by decide, fun order perm => ?_⟩
  · have orders : ∀ order ∈ (Program.submitted deliveredTwice).permutations',
        (processWebhook.serial newUserDb order).subscriptions.length = 1 := by decide
    exact orders order (List.mem_permutations'.mpr perm)
  · have orders : ∀ order ∈ (Program.submitted bothPaid).permutations',
        (processWebhook.serial twoPaymentsDb order).expiresAt 1 ≠
          (Machine.run processWebhook.worldStep ⟨twoPaymentsDb, []⟩ bothPaid).1.db.expiresAt 1 := by
      decide
    exact orders order (List.mem_permutations'.mpr perm)

/-- Both payments, the second while the first is under way, and the first once more. -/
def inTurn : List (Event WebhookStage) :=
  [.submit (.selectPayment (paid 0 100)), .submit (.selectPayment paidAgain), .advance 0,
    .advance 1, .advance 0, .advance 0, .advance 1, .submit (.selectPayment (paid 1 102)),
    .advance 1, .advance 2]

theorem webhooks_serializable_inTurn :
    let final := Machine.run processWebhook.worldStep ⟨twoPaymentsDb, []⟩ inTurn
    (∃ order, order.Perm (Program.submitted inTurn) ∧
        final.1.db = processWebhook.serial twoPaymentsDb order) ∧
      ((credited final.2).map (·.id)).Nodup ∧
      final.1.db.subscriptions.map (fun s => some s.id) =
        twoPaymentsDb.subscriptions.map (fun s => some s.id) ++
          (credited final.2).map (·.subscriptionId) ∧
      ∀ userId, final.1.db.expiresAt userId =
        final.2.foldl (extendExpiry userId) (twoPaymentsDb.expiresAt userId) :=
  webhooks_serializable (by decide) (by decide)

end PlgBooster.Server
