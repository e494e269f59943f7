import PlgBooster.Server.Deliveries

/-!
# The payment gateway's endpoint

`donatepay_webhook` takes the body and the `X-Signature` header of whoever calls it. The
header reaches `process_webhook`, which does nothing with it, and neither looks at the sum
the body reports or at its mark of a test. So a body that names a pending payment completes
it, paid or not.
-/

namespace PlgBooster.Server

open Transaction

/-- A value as Python's `json` reads it, with distinct keys in a `dict`. -/
inductive Json where
  | null
  | bool (value : Bool)
  | int (value : Int)
  | float (value : Rat)
  /-- `NaN` and the infinities. -/
  | nonFinite (text : String)
  | str (text : String)
  | list (items : List Json)
  | dict (fields : List (String × Json))

/-- `data.get(key)`. -/
def Json.get? (data : Json) (key : String) : Option Json :=
  match data with
  | .dict fields => fields.lookup key
  | _ => none

/-- `bool(value)`. -/
def Json.truthy : Json → Bool
  | .null => false
  | .bool value => value
  | .int value => value != 0
  | .float value => value != 0
  | .nonFinite _ => true
  | .str text => text != ""
  | .list items => !items.isEmpty
  | .dict fields => !fields.isEmpty

/-- What the endpoint takes from its libraries and settings, and the column `amount` of the
payments. -/
structure Gateway where
  /-- `await request.json()`; none is an exception. -/
  json : List UInt8 → Option Json
  /-- `str(value)`. -/
  str : Json → String
  /-- `hmac.new(secret.encode(), body_bytes, hashlib.sha256).hexdigest()`. -/
  hmac : String → List UInt8 → String
  /-- The value of a numeral. -/
  decimal : String → Option Rat
  donatepayWebhookSecret : String
  amount : Uuid → Rat

/-- A request, with the two readings of the clock and the key a new subscription would get. -/
structure WebhookRequest where
  body : List UInt8
  /-- The `X-Signature` header. -/
  signature : Option String
  now : DateTime
  expiryNow : DateTime
  subscriptionId : Uuid

inductive WebhookError where
  /-- `HTTPException(400, "Invalid JSON")`. -/
  | invalidJson
  | attributeError
  | service (e : ServiceError)
  deriving DecidableEq, Repr

inductive WebhookAnswer where
  | ignored
  | ok (paymentId : Uuid)
  deriving DecidableEq, Repr

/-- The comment, if there is one. What is no `dict` has no `get`, and what is no string has no
`startswith`. -/
def commentOf : Json → Except WebhookError (Option String)
  | .dict fields =>
      match fields.lookup "comment" with
      | none => .ok none
      | some (.str text) => .ok (some text)
      | some value => if value.truthy then .error .attributeError else .ok none
  | _ => .error .attributeError

section Gateway

variable (gateway : Gateway)

/-- `verify_webhook_signature`; none is the `TypeError` that `compare_digest` raises for text
that is not ASCII. -/
def verifyWebhookSignature (bodyBytes : List UInt8) (signature secret : String) : Option Bool :=
  let expected := gateway.hmac secret bodyBytes
  if signature.toList.all (·.toNat < 128) then some (expected == signature) else none

/-- The delivery that a body amounts to. -/
def webhookOf (request : WebhookRequest) (data : Json) : Except WebhookError Webhook :=
  (commentOf data).map fun comment =>
    { comment := comment
      donationId := gateway.str ((data.get? "id").getD (.str ""))
      now := request.now
      expiryNow := request.expiryNow
      subscriptionId := request.subscriptionId }

/-- `donatepay_webhook`. With a secret and a signature, all that `process_webhook` does about
them is `pass`. -/
def donatepayWebhook (db : BillingDb) (request : WebhookRequest) :
    BillingDb × Except WebhookError WebhookAnswer :=
  match gateway.json request.body with
  | none => (db, .error .invalidJson)
  | some data =>
      match webhookOf gateway request data with
      | .error e => (db, .error e)
      | .ok req =>
          match processWebhook.exec db (.selectPayment req) with
          | (db, some (.ok (some payment))) => (db, .ok (.ok payment.id))
          | (db, some (.error e)) => (db, .error (.service e))
          | (db, _) => (db, .ok .ignored)

/-! ## Real payments -/

/-- `sum`, a number or a numeral. -/
def reportedSum (data : Json) : Option Rat :=
  match data.get? "sum" with
  | some (.int value) => some value
  | some (.float value) => some value
  | some (.str text) => gateway.decimal text
  | _ => none

/-- `is_test` is unset, null or false. -/
def notTest (data : Json) : Bool :=
  match data.get? "is_test" with
  | none => true
  | some .null => true
  | some (.bool value) => !value
  | _ => false

/-- The signature is accepted for the raw body, and the body reports a sum that is no test and
covers the payment. -/
def Genuine (request : WebhookRequest) (payment : Payment) : Prop :=
  verifyWebhookSignature gateway request.body (request.signature.getD "")
      gateway.donatepayWebhookSecret = some true ∧
    ∃ data sum, gateway.json request.body = some data ∧ notTest data = true ∧
      reportedSum gateway data = some sum ∧ gateway.amount payment.id ≤ sum

/-- The body is a `dict` with a comment that names the payment. -/
def Names (request : WebhookRequest) (fields : List (String × Json)) (payment : Payment) : Prop :=
  gateway.json request.body = some (.dict fields) ∧
    ∃ comment, fields.lookup "comment" = some (.str comment) ∧
      namedPayment (some comment) = some payment.id

/-- A request completes a pending payment only if it is genuine, and otherwise changes
nothing. -/
structure RealPaymentsOnly (db : BillingDb) (request : WebhookRequest) : Prop where
  completes : ∀ payment ∈ db.payments, payment.status = "pending" →
    (∃ after ∈ (donatepayWebhook gateway db request).1.payments,
      after.id = payment.id ∧ after.status = "completed") → Genuine gateway request payment
  otherwise : (∀ payment ∈ db.payments, payment.status = "pending" →
    ∀ fields, Names gateway request fields payment → ¬ Genuine gateway request payment) →
      (donatepayWebhook gateway db request).1 = db

/-- The body names a pending payment of a stored user, for one of the plans, and what is to be
written can be stored: the identifier that the body reports, the key of the new subscription and
the new expiry. -/
structure NamesPending (db : BillingDb) (request : WebhookRequest)
    (fields : List (String × Json)) (payment : Payment) (user : User) : Prop where
  named : Names gateway request fields payment
  found : payment ∈ db.payments
  pending : payment.status = "pending"
  owner : user ∈ db.users
  owns : user.id = payment.userId
  planned : (plans.lookup payment.plan).isSome
  stored : (varchar 255 (gateway.str ((fields.lookup "id").getD (.str "")))).isSome
  fresh : ∀ s ∈ db.subscriptions, s.id ≠ request.subscriptionId
  inRange : extended request.expiryNow user.subscriptionExpiresAt payment.plan ≤ datetimeMax

variable {gateway} {db : BillingDb} {request : WebhookRequest}

/-- A body that is read is delivered, whatever the header says and the body reports. -/
theorem donatepayWebhook_eq_deliver {data : Json} {req : Webhook}
    (parsed : gateway.json request.body = some data)
    (delivery : webhookOf gateway request data = .ok req) :
    (donatepayWebhook gateway db request).1 = db.deliver req := by
  simp only [donatepayWebhook, parsed, delivery, BillingDb.deliver]
  rcases processWebhook.exec db (.selectPayment req) with ⟨db', _ | e | _ | payment⟩ <;> rfl

theorem commentOf_eq_some {data : Json} {comment : String} :
    commentOf data = .ok (some comment) ↔
      ∃ fields, data = .dict fields ∧ fields.lookup "comment" = some (.str comment) := by
  cases data with
  | dict fields =>
      cases found : fields.lookup "comment" with
      | none => simp [commentOf, found]
      | some value =>
          cases value with
          | str text => simp [commentOf, found]
          | _ =>
              simp only [commentOf, found]
              split_ifs <;> simp [found]
  | _ => simp [commentOf]

/-- What is written for a body that names a pending payment is what its delivery needs. -/
theorem NamesPending.creditable {fields : List (String × Json)} {payment : Payment} {user : User}
    (names : NamesPending gateway db request fields payment user) :
    ∃ req, gateway.json request.body = some (.dict fields) ∧
      webhookOf gateway request (.dict fields) = .ok req ∧ Creditable db req payment user := by
  obtain ⟨parsed, comment, commented, named⟩ := names.named
  have read := commentOf_eq_some.mpr ⟨fields, rfl, commented⟩
  refine ⟨_, parsed, by rw [webhookOf, read]; rfl, ?_⟩
  exact ⟨named, names.found, names.pending, names.owner, names.owns, names.planned, names.stored,
    names.fresh, names.inRange⟩

theorem namesPending_of_creditable {data : Json} {req : Webhook} {payment : Payment} {user : User}
    (parsed : gateway.json request.body = some data)
    (delivery : webhookOf gateway request data = .ok req)
    (creditable : Creditable db req payment user) :
    ∃ fields, NamesPending gateway db request fields payment user := by
  cases read : commentOf data with
  | error e => simp [webhookOf, read, Except.map] at delivery
  | ok comment =>
      simp only [webhookOf, read, Except.map, Except.ok.injEq] at delivery
      subst delivery
      cases comment with
      | none => cases creditable.named
      | some comment =>
          obtain ⟨fields, rfl, commented⟩ := commentOf_eq_some.mp read
          exact ⟨fields, ⟨parsed, comment, commented, creditable.named⟩, creditable.found,
            creditable.pending, creditable.owner, creditable.owns, creditable.planned,
            creditable.stored, creditable.fresh, creditable.inRange⟩

/-- The endpoint changes nothing, or credits the payment that the body names. -/
theorem donatepayWebhook_cases (users : (db.users.map (·.id)).Nodup)
    (payments : (db.payments.map (·.id)).Nodup) :
    (donatepayWebhook gateway db request).1 = db ∨
    ∃ fields req payment user expiresAt, NamesPending gateway db request fields payment user ∧
      (donatepayWebhook gateway db request).1 = db.credit req payment user expiresAt := by
  cases parsed : gateway.json request.body with
  | none => exact .inl (by simp only [donatepayWebhook, parsed])
  | some data =>
      cases delivery : webhookOf gateway request data with
      | error e => exact .inl (by simp only [donatepayWebhook, parsed, delivery])
      | ok req =>
          rw [donatepayWebhook_eq_deliver parsed delivery, BillingDb.deliver]
          cases webhookEnds db req with
          | ignored outcome no_payment ended => exact .inl (congrArg Prod.fst ended)
          | credited payment user expiresAt credits ended =>
              have creditable := (creditable_iff_credits users payments).mpr ⟨expiresAt, credits⟩
              obtain ⟨fields, names⟩ := namesPending_of_creditable parsed delivery creditable
              exact .inr ⟨fields, req, payment, user, expiresAt, names, congrArg Prod.fst ended⟩

/-- A body that names a pending payment completes it. -/
theorem NamesPending.completed (users : (db.users.map (·.id)).Nodup)
    (payments : (db.payments.map (·.id)).Nodup) {fields : List (String × Json)}
    {payment : Payment} {user : User}
    (names : NamesPending gateway db request fields payment user) :
    ∃ after ∈ (donatepayWebhook gateway db request).1.payments,
      after.id = payment.id ∧ after.status = "completed" := by
  obtain ⟨req, parsed, delivery, creditable⟩ := names.creditable
  obtain ⟨expiresAt, credits⟩ := (creditable_iff_credits users payments).mp creditable
  rw [donatepayWebhook_eq_deliver parsed delivery, deliver_of_credits credits]
  exact ⟨payment.complete req, Table.mem_update.mpr (.inl ⟨payment, names.found, rfl, rfl⟩),
    rfl, rfl⟩

/-- The endpoint completes real payments only if and only if the request is genuine for the
pending payment that its body names, if any. -/
theorem realPaymentsOnly_iff (users : (db.users.map (·.id)).Nodup)
    (payments : (db.payments.map (·.id)).Nodup) :
    RealPaymentsOnly gateway db request ↔
      ∀ fields payment user, NamesPending gateway db request fields payment user →
        Genuine gateway request payment := by
  constructor
  · intro only fields payment user names
    exact only.completes payment names.found names.pending (names.completed users payments)
  · intro genuine
    -- A row that is as before has not been completed.
    have unchanged {payment after : Payment} (found : payment ∈ db.payments)
        (pending : payment.status = "pending") (old : after ∈ db.payments)
        (same : after.id = payment.id) : after.status ≠ "completed" := by
      obtain rfl := List.inj_on_of_nodup_map payments old found same
      rw [pending]
      decide
    rcases donatepayWebhook_cases users payments with
      same | ⟨fields, req, payment, user, expiresAt, names, after⟩
    · refine ⟨?_, fun _ => same⟩
      rintro payment found pending ⟨row, inTable, sameId, completed⟩
      rw [same] at inTable
      exact absurd completed (unchanged found pending inTable sameId)
    · have real := genuine fields payment user names
      refine ⟨?_, fun none_genuine => ?_⟩
      · rintro other inTable pending ⟨row, inAfter, sameId, completed⟩
        rw [after] at inAfter
        rcases Table.mem_update.mp inAfter with ⟨row', _, isPayment, rfl⟩ | ⟨old, _⟩
        · have isOther : payment.id = other.id := isPayment.symm.trans sameId
          obtain rfl := List.inj_on_of_nodup_map payments names.found inTable isOther
          exact real
        · exact absurd completed (unchanged inTable pending old sameId)
      · exact absurd real (none_genuine payment names.found names.pending fields names.named)

end Gateway

/-- A body that says no more than which payment it is about. -/
def namesPayment : Json := .dict [("comment", .str "PLG:00000000-0000-0000-0000-00000000000a")]

/-- The settings of a gateway with a secret, and what its libraries make of that body. -/
def guardedGateway : Gateway where
  json := fun _ => some namesPayment
  str := fun value => match value with
    | .str text => text
    | _ => "1"
  hmac := fun _ _ => "1ff5aa43abd869d1eb991d431f9eca979d2b9537394f633d86f9edd6dc6d0aae"
  decimal := fun _ => none
  donatepayWebhookSecret := "secret"
  amount := fun _ => 1999

/-- A request without a signature. -/
def unsigned : WebhookRequest where
  body := Rust.asBytes "\x7b\"comment\": \"PLG:00000000-0000-0000-0000-00000000000a\"\x7d"
  signature := none
  now := 0
  expiryNow := 0
  subscriptionId := 100

theorem realPaymentsOnly_iff_unsigned :
    RealPaymentsOnly guardedGateway newUserDb unsigned ↔
      ∀ fields payment user, NamesPending guardedGateway newUserDb unsigned fields payment user →
        Genuine guardedGateway unsigned payment :=
  realPaymentsOnly_iff (by decide) (by decide)

/-- Without a signature and without a sum, the request completes a payment for a year. -/
theorem unsigned_completes_payment :
    ¬ RealPaymentsOnly guardedGateway newUserDb unsigned := by
  intro only
  have completed : (⟨10, 1, "completed", "yearly", some "", some 100⟩ : Payment) ∈
      (donatepayWebhook guardedGateway newUserDb unsigned).1.payments := by decide
  have genuine := only.completes ⟨10, 1, "pending", "yearly", none, none⟩ (by decide) rfl
    ⟨_, completed, rfl, rfl⟩
  exact absurd genuine.1 (by decide)

end PlgBooster.Server
