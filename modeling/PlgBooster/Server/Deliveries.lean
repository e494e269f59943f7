import PlgBooster.Server.Webhooks

/-!
# Webhooks one at a time

Bodies come one after another, each processed to its end before the next. The first body
that names a pending payment completes it and extends its user's subscription; all others
leave the tables as they are. So it does not matter how often a payment is delivered.

Two bounds come with that. A body with an identifier that `payments.donatepay_id` cannot store
raises an error, and the payment waits for another one. A delivery whose new expiry would lie
after `datetime.max` raises an error, too; as neither the clock nor an expiry goes back, every
later delivery of that payment raises it again.
-/

namespace PlgBooster.Server

open Transaction

/-- Process one body to its end. -/
def BillingDb.deliver (db : BillingDb) (body : Webhook) : BillingDb :=
  (processWebhook.exec db (.selectPayment body)).1

def BillingDb.deliverAll (db : BillingDb) (bodies : List Webhook) : BillingDb :=
  bodies.foldl BillingDb.deliver db

/-- Primary keys are unique, and every payment has a user and one of the plans. -/
structure BillingDb.WellFormed (db : BillingDb) : Prop where
  users : (db.users.map (·.id)).Nodup
  payments : (db.payments.map (·.id)).Nodup
  owned : ∀ payment ∈ db.payments, ∃ user ∈ db.users, user.id = payment.userId
  planned : ∀ payment ∈ db.payments, (plans.lookup payment.plan).isSome

/-- The clock does not go back, and `uuid4` draws a new key every time. -/
structure InSequence (db : BillingDb) (bodies : List Webhook) : Prop where
  clock : bodies.Pairwise fun first second => first.expiryNow ≤ second.expiryNow
  drawn : (bodies.map (·.subscriptionId)).Nodup
  fresh : ∀ body ∈ bodies, ∀ s ∈ db.subscriptions, s.id ≠ body.subscriptionId

/-- The new expiry: the period of the plan, from now or from the end of the current one. -/
def extended (now : DateTime) (current : Option DateTime) (plan : String) : DateTime :=
  periodStart now current + duration plan

/-- A body names a pending payment of a stored user, for one of the plans, and what is written
for it can be stored: its identifier, the key of the new subscription and the new expiry. -/
structure Creditable (db : BillingDb) (body : Webhook) (payment : Payment) (user : User) :
    Prop where
  named : namedPayment body.comment = some payment.id
  found : payment ∈ db.payments
  pending : payment.status = "pending"
  owner : user ∈ db.users
  owns : user.id = payment.userId
  planned : (plans.lookup payment.plan).isSome
  stored : body.donatepayId.isSome
  fresh : ∀ s ∈ db.subscriptions, s.id ≠ body.subscriptionId
  inRange : extended body.expiryNow user.subscriptionExpiresAt payment.plan ≤ datetimeMax

/-- A body completes a payment: the payment is linked to the one new subscription, which its
user owns, and the user's expiry is extended. All other rows are as before. -/
structure Completes (db : BillingDb) (body : Webhook) (payment : Payment) (user : User)
    (next : BillingDb) : Prop where
  named : namedPayment body.comment = some payment.id
  found : payment ∈ db.payments
  pending : payment.status = "pending"
  owner : user ∈ db.users ∧ user.id = payment.userId
  subscriptions : next.subscriptions = db.subscriptions ++
    [newSubscription body.subscriptionId payment.userId payment.plan body.now
      (user.subscriptionExpiresAt.elim body.expiryNow (max body.expiryNow) +
        duration payment.plan)]
  payments : next.payments = Table.update (·.id) payment.id (·.complete body) db.payments
  users : next.users = Table.update (·.id) payment.userId
    (·.subscribe payment.plan
      (user.subscriptionExpiresAt.elim body.expiryNow (max body.expiryNow) +
        duration payment.plan)) db.users

/-- A payment that no body can complete from now on: it is not pending, or its user's expiry
would be out of range. -/
def Closed (db : BillingDb) (now : DateTime) (paymentId : Uuid) : Prop :=
  ∀ payment ∈ db.payments, payment.id = paymentId → payment.status = "pending" →
    ∀ user ∈ db.users, user.id = payment.userId →
      datetimeMax < extended now user.subscriptionExpiresAt payment.plan

/-- The payment that a body with an identifier that can be stored names. -/
def Webhook.delivered (body : Webhook) : List Uuid :=
  if body.donatepayId.isSome then (namedPayment body.comment).toList else []

/-- `bodies` are `fewer` and deliveries of payments that have been delivered before. -/
inductive Repeats : List Uuid → List Webhook → List Webhook → Prop
  | nil (seen : List Uuid) : Repeats seen [] []
  | first {seen : List Uuid} (body : Webhook) {fewer bodies : List Webhook}
      (rest : Repeats (body.delivered ++ seen) fewer bodies) :
      Repeats seen (body :: fewer) (body :: bodies)
  | again {seen : List Uuid} (body : Webhook) {fewer bodies : List Webhook} (paymentId : Uuid)
      (named : namedPayment body.comment = some paymentId) (delivered : paymentId ∈ seen)
      (rest : Repeats seen fewer bodies) : Repeats seen fewer (body :: bodies)

/-! ## One body -/

theorem periodStart_eq_max (now : DateTime) (current : Option DateTime) :
    periodStart now current = current.elim now (max now) := by
  cases current with
  | none => rfl
  | some t =>
      by_cases later : now < t
      · simp [periodStart, later, max_eq_right (Int.le_of_lt later)]
      · simp [periodStart, later, max_eq_left (Int.not_lt.mp later)]

theorem extended_mono {now now' : DateTime} {current current' : Option DateTime}
    (clock : now ≤ now') (notEarlier : NotEarlier current current') (plan : String) :
    extended now current plan ≤ extended now' current' plan := by
  have start : periodStart now current ≤ periodStart now' current' := by
    cases current with
    | none => exact clock.trans (le_periodStart now' current').1
    | some t =>
        obtain ⟨t', later, le⟩ := notEarlier t rfl
        rw [periodStart_eq_max]
        exact max_le (clock.trans (le_periodStart now' current').1)
          (le.trans ((le_periodStart now' current').2 t' later))
  exact Int.add_le_add_right start (duration plan)

theorem Closed.mono {db : BillingDb} {now now' : DateTime} {paymentId : Uuid}
    (closed : Closed db now paymentId) (clock : now ≤ now') : Closed db now' paymentId :=
  fun payment found same pending user owner owns =>
    Int.lt_of_lt_of_le (closed payment found same pending user owner owns)
      (extended_mono clock (NotEarlier.refl _) payment.plan)

theorem calculateExpiry_iff {now expiresAt : DateTime} {plan : String}
    {current : Option DateTime} :
    calculateExpiry now plan current = .ok expiresAt ↔
      (plans.lookup plan).isSome ∧ extended now current plan ≤ datetimeMax ∧
        expiresAt = extended now current plan := by
  cases known : plans.lookup plan with
  | none => simp [calculateExpiry, known]
  | some info =>
      have period : duration plan = info.durationDays * day := by simp [duration, known]
      simp only [calculateExpiry, known, addDays_eq_ok, extended, period, Option.isSome_some,
        true_and]

/-- A delivery that finds all it needs credits its payment. -/
theorem deliver_of_credits {db : BillingDb} {body : Webhook} {payment : Payment} {user : User}
    {expiresAt : DateTime} (credits : Credits db body payment user expiresAt) :
    db.deliver body = db.credit body payment user expiresAt := by
  have selects : webhookStep db (.selectUser body payment) =
      (db, .inl (.commit body payment user)) := by
    simp [webhookStep, scalarOne_eq_ok.mpr credits.owner]
  have commits : webhookStep db (.commit body payment user) =
      (db.credit body payment user expiresAt, .inr (.ok (some (payment.complete body)))) := by
    simp only [webhookStep, credits.stored, credits.expiry, credits.accepted, if_true]
  rw [BillingDb.deliver, exec_of_selectUser credits.named credits.found credits.pending,
    exec_webhook_inl selects, exec_webhook_inr commits]

/-- With unique keys, what the tables have of a payment is what a delivery finds of it. -/
theorem creditable_iff_credits {db : BillingDb} (users : (db.users.map (·.id)).Nodup)
    (payments : (db.payments.map (·.id)).Nodup) {body : Webhook} {payment : Payment}
    {user : User} :
    Creditable db body payment user ↔ ∃ expiresAt, Credits db body payment user expiresAt := by
  constructor
  · intro creditable
    exact ⟨_, creditable.named, Table.select_of_nodup payments creditable.found,
      creditable.pending, creditable.owns ▸ Table.select_of_nodup users creditable.owner,
      calculateExpiry_iff.mpr ⟨creditable.planned, creditable.inRange, rfl⟩,
      ⟨creditable.fresh, user, creditable.owner, rfl⟩, creditable.stored⟩
  · rintro ⟨expiresAt, credits⟩
    obtain ⟨found, _⟩ := Table.of_select_eq_singleton credits.found
    obtain ⟨owner, owns⟩ := Table.of_select_eq_singleton credits.owner
    obtain ⟨planned, inRange, _⟩ := calculateExpiry_iff.mp credits.expiry
    exact ⟨credits.named, found, credits.pending, owner, owns, planned, credits.stored,
      credits.accepted.1, inRange⟩

theorem Credits.completes {db : BillingDb} {body : Webhook} {payment : Payment} {user : User}
    {expiresAt : DateTime} (credits : Credits db body payment user expiresAt) :
    Completes db body payment user (db.credit body payment user expiresAt) := by
  obtain ⟨found, _⟩ := Table.of_select_eq_singleton credits.found
  obtain ⟨owner, owns⟩ := Table.of_select_eq_singleton credits.owner
  have expiry := (calculateExpiry_eq_ok credits.expiry).1
  rw [periodStart_eq_max] at expiry
  subst expiry
  refine ⟨credits.named, found, credits.pending, ⟨owner, owns⟩, ?_, rfl, ?_⟩
  · rw [← owns]
    rfl
  · rw [← owns]
    rfl

theorem BillingDb.WellFormed.completes {db : BillingDb} (wf : db.WellFormed) {body : Webhook}
    {payment : Payment} {user : User} (creditable : Creditable db body payment user) :
    Completes db body payment user (db.deliver body) := by
  obtain ⟨expiresAt, credits⟩ := (creditable_iff_credits wf.users wf.payments).mp creditable
  rw [deliver_of_credits credits]
  exact credits.completes

/-- All that one body does: it completes the payment it names, or nothing. -/
theorem deliver_cases {db : BillingDb} (wf : db.WellFormed) (body : Webhook) :
    (∃ payment user, Creditable db body payment user ∧
      Completes db body payment user (db.deliver body)) ∨
    (∀ payment user, ¬ Creditable db body payment user) ∧ db.deliver body = db := by
  by_cases creditable : ∃ payment user, Creditable db body payment user
  · obtain ⟨payment, user, creditable⟩ := creditable
    exact .inl ⟨payment, user, creditable, wf.completes creditable⟩
  · refine .inr ⟨fun payment user here => creditable ⟨payment, user, here⟩, ?_⟩
    cases webhookEnds db body with
    | ignored outcome no_payment ended => exact congrArg Prod.fst ended
    | credited payment user expiresAt credits ended =>
        have found := (creditable_iff_credits wf.users wf.payments).mpr ⟨expiresAt, credits⟩
        exact absurd ⟨payment, user, found⟩ creditable

/-- What a body that can be stored names, and does not complete, is closed. -/
theorem BillingDb.WellFormed.closed {db : BillingDb} (wf : db.WellFormed) {body : Webhook}
    (fresh : ∀ s ∈ db.subscriptions, s.id ≠ body.subscriptionId)
    (stored : body.donatepayId.isSome) {paymentId : Uuid}
    (named : namedPayment body.comment = some paymentId)
    (refused : ∀ payment user, ¬ Creditable db body payment user) :
    Closed db body.expiryNow paymentId := by
  rintro payment found rfl pending user owner owns
  by_contra inRange
  exact refused payment user ⟨named, found, pending, owner, owns, wf.planned payment found, stored,
    fresh, Int.not_lt.mp inRange⟩

theorem Completes.wellFormed {db next : BillingDb} {body : Webhook} {payment : Payment}
    {user : User} (completes : Completes db body payment user next) (wf : db.WellFormed) :
    next.WellFormed := by
  -- Every payment of the new tables is an old one as far as its owner and plan are concerned.
  have old {p : Payment} (member : p ∈ next.payments) :
      ∃ p' ∈ db.payments, p'.userId = p.userId ∧ p'.plan = p.plan := by
    rw [completes.payments] at member
    rcases Table.mem_update.mp member with ⟨p', found, _, rfl⟩ | ⟨found, _⟩
    · exact ⟨p', found, rfl, rfl⟩
    · exact ⟨p, found, rfl, rfl⟩
  have userIds : next.users.map (·.id) = db.users.map (·.id) := by
    have keeps (u : User) (expiresAt : DateTime) :
        User.id (u.subscribe payment.plan expiresAt) = User.id u := rfl
    rw [completes.users]
    exact Table.map_update (fun u => keeps u _) payment.userId db.users
  refine ⟨userIds ▸ wf.users, ?_, ?_, ?_⟩
  · have paymentIds : next.payments.map (·.id) = db.payments.map (·.id) := by
      have keeps (p : Payment) : Payment.id (p.complete body) = Payment.id p := rfl
      rw [completes.payments]
      exact Table.map_update keeps payment.id db.payments
    exact paymentIds ▸ wf.payments
  · intro p member
    obtain ⟨p', found, owns, _⟩ := old member
    obtain ⟨u, owner, same⟩ := wf.owned p' found
    have listed : p.userId ∈ next.users.map (·.id) := by
      rw [userIds, ← owns, ← same]
      exact List.mem_map_of_mem owner
    exact List.mem_map.mp listed
  · intro p member
    obtain ⟨p', found, _, plan⟩ := old member
    exact plan ▸ wf.planned p' found

/-- The rows that a completing body leaves pending were pending before. -/
theorem Completes.of_pending {db next : BillingDb} {body : Webhook} {payment p : Payment}
    {user : User} (completes : Completes db body payment user next) (found : p ∈ next.payments)
    (pending : p.status = "pending") : p ∈ db.payments ∧ p.id ≠ payment.id := by
  rw [completes.payments] at found
  rcases Table.mem_update.mp found with ⟨p', _, _, rfl⟩ | same
  · exact absurd pending (show "completed" ≠ "pending" by decide)
  · exact same

/-- A completing body takes no time away from any user. -/
theorem Completes.notEarlier {db next : BillingDb} {body : Webhook} {payment : Payment}
    {user : User} (completes : Completes db body payment user next) (wf : db.WellFormed)
    {u : User} (member : u ∈ next.users) :
    ∃ u' ∈ db.users, u'.id = u.id ∧
      NotEarlier u'.subscriptionExpiresAt u.subscriptionExpiresAt := by
  rw [completes.users] at member
  rcases Table.mem_update.mp member with ⟨u', old, same, rfl⟩ | ⟨old, _⟩
  · refine ⟨u', old, rfl, fun t current => ⟨_, rfl, ?_⟩⟩
    -- The keys are unique, so this is the user whose period was extended.
    obtain rfl : u' = user :=
      List.inj_on_of_nodup_map wf.users old completes.owner.1 (same.trans completes.owner.2.symm)
    rw [← periodStart_eq_max]
    have positive : 0 < duration payment.plan := by
      obtain ⟨info, known⟩ := Option.isSome_iff_exists.mp (wf.planned payment completes.found)
      simp only [duration, known, Option.map_some, Option.getD_some]
      exact Int.mul_pos (plans_lookup_pos known) (by decide)
    exact ((le_periodStart body.expiryNow u'.subscriptionExpiresAt).2 t current).trans
      (Int.le_add_of_nonneg_right (Int.le_of_lt positive))
  · exact ⟨u, old, rfl, NotEarlier.refl _⟩

/-- What is closed stays closed. -/
theorem Completes.closed {db next : BillingDb} {body : Webhook} {payment : Payment} {user : User}
    (completes : Completes db body payment user next) (wf : db.WellFormed) {now : DateTime}
    {paymentId : Uuid} (closed : Closed db now paymentId) : Closed next now paymentId := by
  intro p found same pending u member owns
  obtain ⟨u', old, id, notEarlier⟩ := completes.notEarlier wf member
  exact Int.lt_of_lt_of_le
    (closed p (completes.of_pending found pending).1 same pending u' old (id.trans owns))
    (extended_mono (Int.le_refl now) notEarlier p.plan)

/-- What a body has named is closed. -/
theorem Completes.closed_self {db next : BillingDb} {body : Webhook} {payment : Payment}
    {user : User} (completes : Completes db body payment user next) (now : DateTime) :
    Closed next now payment.id :=
  fun _ found same pending => absurd same (completes.of_pending found pending).2

/-! ## Sequences of bodies -/

/-- What is known when some bodies are still to come: all that was named before is closed. -/
structure Awaiting (db : BillingDb) (seen : List Uuid) (bodies : List Webhook) : Prop where
  wellFormed : db.WellFormed
  inSequence : InSequence db bodies
  closed : ∀ paymentId ∈ seen, ∀ body ∈ bodies, Closed db body.expiryNow paymentId

theorem InSequence.tail {db : BillingDb} {body : Webhook} {bodies : List Webhook}
    (inSequence : InSequence db (body :: bodies)) : InSequence db bodies where
  clock := (List.pairwise_cons.mp inSequence.clock).2
  drawn := (List.nodup_cons.mp inSequence.drawn).2
  fresh later member := inSequence.fresh later (List.mem_cons_of_mem body member)

theorem mem_delivered {body : Webhook} {paymentId : Uuid} :
    paymentId ∈ body.delivered ↔
      body.donatepayId.isSome ∧ namedPayment body.comment = some paymentId := by
  unfold Webhook.delivered
  split_ifs with stored
  · simp [stored]
  · simp [stored]

theorem Awaiting.deliver {db : BillingDb} {seen : List Uuid} {body : Webhook}
    {bodies : List Webhook} (awaiting : Awaiting db seen (body :: bodies)) :
    Awaiting (db.deliver body) (body.delivered ++ seen) bodies := by
  obtain ⟨wf, inSequence, closed⟩ := awaiting
  have clock := (List.pairwise_cons.mp inSequence.clock).1
  have fresh := inSequence.fresh body List.mem_cons_self
  rcases deliver_cases wf body with ⟨payment, user, _, completes⟩ | ⟨refused, same⟩
  · refine ⟨completes.wellFormed wf, ⟨inSequence.tail.clock, inSequence.tail.drawn, ?_⟩, ?_⟩
    · intro later member s inTable
      rw [completes.subscriptions] at inTable
      rcases List.mem_append.mp inTable with old | new
      · exact inSequence.tail.fresh later member s old
      · obtain rfl := List.mem_singleton.mp new
        intro again
        exact (List.nodup_cons.mp inSequence.drawn).1
          (List.mem_map.mpr ⟨later, member, again.symm⟩)
    · intro paymentId before later member
      rcases List.mem_append.mp before with here | before
      · have named := completes.named.symm.trans (mem_delivered.mp here).2
        obtain rfl : payment.id = paymentId := Option.some.inj named
        exact completes.closed_self later.expiryNow
      · exact completes.closed wf (closed paymentId before later (List.mem_cons_of_mem body member))
  · rw [same]
    refine ⟨wf, inSequence.tail, ?_⟩
    intro paymentId before later member
    rcases List.mem_append.mp before with here | before
    · obtain ⟨stored, named⟩ := mem_delivered.mp here
      exact (wf.closed fresh stored named refused).mono (clock later member)
    · exact closed paymentId before later (List.mem_cons_of_mem body member)

theorem Awaiting.deliverAll {db : BillingDb} {seen : List Uuid} {before after : List Webhook}
    (awaiting : Awaiting db seen (before ++ after)) :
    ∃ seen', Awaiting (db.deliverAll before) seen' after ∧ seen ⊆ seen' ∧
      ∀ earlier ∈ before, earlier.delivered ⊆ seen' := by
  induction before generalizing db seen with
  | nil => exact ⟨seen, awaiting, fun _ member => member, by simp⟩
  | cons body before ih =>
      obtain ⟨seen', later, kept, named⟩ := ih awaiting.deliver
      refine ⟨seen', later, fun _ member => kept (List.mem_append_right _ member), ?_⟩
      intro earlier member
      rcases List.mem_cons.mp member with rfl | member
      · exact fun _ here => kept (List.mem_append_left _ here)
      · exact named earlier member

/-- A closed payment is not completed. -/
theorem Closed.not_creditable {db : BillingDb} {body : Webhook} {payment : Payment} {user : User}
    (closed : Closed db body.expiryNow payment.id) : ¬ Creditable db body payment user := by
  intro creditable
  exact absurd creditable.inRange (Int.not_le.mpr
    (closed payment creditable.found rfl creditable.pending user creditable.owner creditable.owns))

/-- A delivery of a closed payment changes nothing. -/
theorem deliver_eq_of_closed {db : BillingDb} (wf : db.WellFormed) {body : Webhook}
    {paymentId : Uuid} (named : namedPayment body.comment = some paymentId)
    (closed : Closed db body.expiryNow paymentId) : db.deliver body = db := by
  rcases deliver_cases wf body with ⟨payment, user, creditable, _⟩ | ⟨_, same⟩
  · obtain rfl : payment.id = paymentId := Option.some.inj (creditable.named.symm.trans named)
    exact absurd creditable closed.not_creditable
  · exact same

/-- A payment stays as it is until it is delivered. -/
theorem mem_payments_deliver {db : BillingDb} (wf : db.WellFormed) {body : Webhook}
    {payment : Payment} (found : payment ∈ db.payments) (waits : payment.id ∉ body.delivered) :
    payment ∈ (db.deliver body).payments := by
  rcases deliver_cases wf body with ⟨named, user, creditable, completes⟩ | ⟨_, same⟩
  · rw [completes.payments]
    refine Table.mem_update.mpr (.inr ⟨found, fun same => waits ?_⟩)
    exact mem_delivered.mpr ⟨creditable.stored, same ▸ creditable.named⟩
  · rwa [same]

theorem Awaiting.mem_payments {db : BillingDb} {seen : List Uuid} {before after : List Webhook}
    (awaiting : Awaiting db seen (before ++ after)) {payment : Payment}
    (found : payment ∈ db.payments) (waits : ∀ earlier ∈ before, payment.id ∉ earlier.delivered) :
    payment ∈ (db.deliverAll before).payments := by
  induction before generalizing db seen with
  | nil => exact found
  | cons body before ih =>
      exact ih awaiting.deliver
        (mem_payments_deliver awaiting.wellFormed found (waits body List.mem_cons_self))
        fun earlier member => waits earlier (List.mem_cons_of_mem body member)

theorem deliverAll_of_repeats {db : BillingDb} {seen : List Uuid} {fewer bodies : List Webhook}
    (repeats : Repeats seen fewer bodies) (awaiting : Awaiting db seen bodies) :
    db.deliverAll fewer = db.deliverAll bodies := by
  induction repeats generalizing db with
  | nil seen => rfl
  | first body rest ih => exact ih awaiting.deliver
  | @again seen body fewer bodies paymentId named delivered rest ih =>
      have closed := awaiting.closed paymentId delivered
      have same :=
        deliver_eq_of_closed awaiting.wellFormed named (closed body List.mem_cons_self)
      calc
        db.deliverAll fewer = db.deliverAll bodies :=
          ih ⟨awaiting.wellFormed, awaiting.inSequence.tail,
            fun id member later inRest =>
              awaiting.closed id member later (List.mem_cons_of_mem body inRest)⟩
        _ = (db.deliver body).deliverAll bodies := by rw [same]

theorem twoPaymentsDb_wellFormed : twoPaymentsDb.WellFormed :=
  ⟨by decide, by decide, by decide, by decide⟩

/-- The delivery for payment 10 with an identifier of 256 characters. -/
def longIdentifier : Webhook :=
  { paid 0 100 with donationId := String.ofList (List.replicate 256 '1') }

theorem longIdentifier_not_stored : ¬ longIdentifier.donatepayId.isSome := by
  intro stored
  have last : '1' ∈ longIdentifier.donationId.toList.drop 255 := by
    rw [longIdentifier, String.toList_ofList, List.drop_replicate]
    exact List.mem_singleton_self '1'
  exact absurd ((varchar_isSome_iff.mp stored).2 '1' last) (by decide)

end PlgBooster.Server
