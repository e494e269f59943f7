import PlgBooster.Python.UuidText
import PlgBooster.Server.Deliveries
import PlgBooster.Server.Promo

/-!
# The two comments of a payment

`create_payment_link` writes a payment's identifier twice: into the stored comment when the
object is made, and into the link after it has been saved. The column default gives the object
its identifier at the flush, between the two. A webhook with the comment of the link completes
the payment. The stored comment is `PLG:None`, whatever the payment, and completes nothing.
-/

namespace PlgBooster.Server

open Transaction

/-- The page that a link leads to. -/
def pageUrl (shop : Shop) : String :=
  if shop.donatepayPageUrl = "" then "https://new.donatepay.ru/@plgames" else shop.donatepayPageUrl

/-- The decoded parameter `comment` of a link to the page. -/
def commentOfUrl (shop : Shop) (url : String) : Option String :=
  let start := (pageUrl shop ++ "?comment=").toList
  if start.isPrefixOf url.toList then
    Python.unquote (String.ofList ((url.toList.drop start.length).takeWhile (· ≠ '&')))
  else none

/-- Decoding a link gives back the comment that was encoded. -/
theorem commentOfUrl_paymentUrl (shop : Shop) (id : Uuid) (amount : Rat) :
    commentOfUrl shop (paymentUrl shop id amount) = some (paymentComment (some id)) := by
  have text : (paymentUrl shop id amount).toList = (pageUrl shop ++ "?comment=").toList ++
      ((Python.quote (paymentComment (some id))).toList ++
        '&' :: ("sum=" ++ toString amount.num).toList) := by
    simp [paymentUrl, pageUrl, String.toList_append]
  have parameter : ((Python.quote (paymentComment (some id))).toList ++
      '&' :: ("sum=" ++ toString amount.num).toList).takeWhile (· ≠ '&') =
        (Python.quote (paymentComment (some id))).toList := by
    rw [List.takeWhile_append_of_pos]
    · simp
    · intro c member
      have other : c ≠ '&' := fun same =>
        Python.ampersand_notMem_quote (paymentComment (some id)) (same ▸ member)
      exact decide_eq_true other
  have starts := List.isPrefixOf_iff_prefix.mpr (List.prefix_append
    (pageUrl shop ++ "?comment=").toList ((Python.quote (paymentComment (some id))).toList ++
      '&' :: ("sum=" ++ toString amount.num).toList))
  simp only [commentOfUrl, text, starts, if_true, List.drop_left, parameter, String.ofList_toList,
    Python.unquote_quote]

/-- The comment of a saved payment names it. -/
theorem namedPayment_paymentComment {id : Uuid} (bounded : id < Python.uuidCount) :
    namedPayment (some (paymentComment (some id))) = some id := by
  have text : (paymentComment (some id)).toList = "PLG:".toList ++ Python.strOfUuid id := by
    simp [paymentComment, String.toList_append]
  have starts : "PLG:".toList.isPrefixOf ("PLG:".toList ++ Python.strOfUuid id) = true :=
    List.isPrefixOf_iff_prefix.mpr (List.prefix_append _ _)
  have rest : Python.remove "PLG:".toList 0 ("PLG:".toList ++ Python.strOfUuid id) =
      Python.strOfUuid id := by
    have deleted : Python.remove "PLG:".toList 0 ("PLG:".toList ++ Python.strOfUuid id) =
        Python.remove "PLG:".toList 0 (Python.strOfUuid id) := by
      rfl
    rw [deleted]
    exact Python.remove_eq_self fun member => (Python.strOfUuid_plain bounded member).2.1 rfl
  have stripped : Python.strip (Python.strOfUuid id) = Python.strOfUuid id :=
    Python.stripOf_eq_self fun c member => (Python.strOfUuid_plain bounded member).1
  simp only [namedPayment, text, starts, if_true, rest, stripped,
    Python.uuidOfString_strOfUuid bounded]

/-- The comment of an object without identifier names nothing. -/
theorem namedPayment_none : namedPayment (some (paymentComment none)) = none := by
  decide +kernel

/-! ## Created payments -/

/-- A call of `create_payment_link`, run alone, that has made a payment and a link. -/
def Creates (shop : Shop) (db : PurchaseDb) (req : PurchaseRequest) (row : PaymentRow)
    (url : String) : Prop :=
  ∃ next, (purchases shop).exec db (.validate req) = (next, some (.ok (row, url)))

theorem exec_commitPurchase {shop : Shop} {db next : PurchaseDb} {req : PurchaseRequest}
    {info : PlanInfo} {promo : Option PromoCode} {row : PaymentRow} {url : String}
    (made : (purchases shop).exec db (.commit req info promo) = (next, some (.ok (row, url)))) :
    row = newPayment req info promo ∧ url = paymentUrl shop row.id row.amount := by
  by_cases accepted : db.Accepts (newPayment req info promo) promo
  · have step : (purchases shop).step db (.commit req info promo) =
        (commitPurchase db req info promo, .inr (.ok (newPayment req info promo,
          paymentUrl shop (newPayment req info promo).id (newPayment req info promo).amount))) :=
      purchaseStep_of_accepts shop accepted
    rw [(purchases shop).exec_of_step_inr step] at made
    obtain ⟨_, result⟩ := Prod.mk.inj made
    obtain ⟨rfl, rfl⟩ := Prod.mk.inj (Except.ok.inj (Option.some.inj result))
    exact ⟨rfl, rfl⟩
  · have step : (purchases shop).step db (.commit req info promo) =
        (db, .inr (.error (purchaseRefusal (newPayment req info promo) promo))) :=
      purchaseStep_of_not_accepts shop accepted
    rw [(purchases shop).exec_of_step_inr step] at made
    cases (Prod.mk.inj made).2

/-- A created payment is the row of a plan on sale, and its link has its identifier. -/
theorem Creates.row {shop : Shop} {db : PurchaseDb} {req : PurchaseRequest} {row : PaymentRow}
    {url : String} (creates : Creates shop db req row url) :
    ∃ info promo, forSale req.plan = some info ∧ row = newPayment req info promo ∧
      url = paymentUrl shop row.id row.amount := by
  obtain ⟨next, made⟩ := creates
  rcases purchaseStep_validate shop db req with ⟨e, refused⟩ | ⟨info, promo, sold, _, taken⟩
  · have step : (purchases shop).step db (.validate req) = (db, .inr (.error e)) := refused
    rw [(purchases shop).exec_of_step_inr step] at made
    cases (Prod.mk.inj made).2
  · have step : (purchases shop).step db (.validate req) = (db, .inl (.commit req info promo)) :=
      taken
    rw [(purchases shop).exec_of_step_inl step] at made
    obtain ⟨same, link⟩ := exec_commitPurchase made
    exact ⟨info, promo, sold, same, link⟩

theorem forSale_isSome {plan : String} {info : PlanInfo} (sold : forSale plan = some info) :
    (plans.lookup plan).isSome := by
  rw [forSale] at sold
  split_ifs at sold
  rw [sold]
  rfl

/-! ## What a comment completes -/

/-- All that a delivery needs to complete a payment, but for the comment. -/
structure Awaits (db : BillingDb) (body : Webhook) (payment : Payment) (user : User) : Prop where
  wf : db.WellFormed
  stored : body.donatepayId.isSome
  fresh : ∀ s ∈ db.subscriptions, s.id ≠ body.subscriptionId
  found : payment ∈ db.payments
  pending : payment.status = "pending"
  owner : user ∈ db.users
  owns : user.id = payment.userId
  inRange : extended body.expiryNow user.subscriptionExpiresAt payment.plan ≤ datetimeMax

/-- A webhook with either comment of a payment completes exactly that payment. -/
def CommentIdentifies (shop : Shop) (row : PaymentRow) (url : String) : Prop :=
  ∀ db body user, Awaits db body row.toPayment user →
    body.comment = row.donatepayComment ∨ body.comment = commentOfUrl shop url →
    Completes db body row.toPayment user (db.deliver body)

variable {shop : Shop} {db : PurchaseDb} {req : PurchaseRequest} {row : PaymentRow} {url : String}

/-- The comment of the link completes its payment. -/
theorem Creates.completes_of_url (creates : Creates shop db req row url)
    (bounded : row.id < Python.uuidCount) {tables : BillingDb} {body : Webhook} {user : User}
    (awaits : Awaits tables body row.toPayment user)
    (comment : body.comment = commentOfUrl shop url) :
    Completes tables body row.toPayment user (tables.deliver body) := by
  obtain ⟨_, _, _, _, rfl⟩ := creates.row
  have named : namedPayment body.comment = some row.toPayment.id := by
    rw [comment, commentOfUrl_paymentUrl]
    exact namedPayment_paymentComment bounded
  exact awaits.wf.completes ⟨named, awaits.found, awaits.pending, awaits.owner, awaits.owns,
    awaits.wf.planned _ awaits.found, awaits.stored, awaits.fresh, awaits.inRange⟩

/-- A comment that names nothing changes nothing. -/
theorem deliver_of_unnamed {tables : BillingDb} {body : Webhook}
    (unnamed : namedPayment body.comment = none) : tables.deliver body = tables := by
  have ignored : webhookStep tables (.selectPayment body) = (tables, .inr (.ok none)) := by
    simp only [webhookStep, unnamed]
  rw [BillingDb.deliver, exec_webhook_inr ignored]

/-- The stored comment completes no payment at all. -/
theorem Creates.stored_ignored (creates : Creates shop db req row url) {tables : BillingDb}
    {body : Webhook} (comment : body.comment = row.donatepayComment) :
    tables.deliver body = tables := by
  obtain ⟨_, _, _, rfl, _⟩ := creates.row
  apply deliver_of_unnamed
  rw [comment]
  exact namedPayment_none

/-- The tables of a new user with one payment. -/
def onlyPayment (payment : Payment) : BillingDb where
  users := [registeredUser payment.userId]
  payments := [payment]
  subscriptions := []

/-- A first delivery at time zero. -/
def firstDelivery (comment : Option String) : Webhook := ⟨comment, "", 0, 0, 0⟩

theorem awaits_onlyPayment {payment : Payment} (pending : payment.status = "pending")
    (planned : (plans.lookup payment.plan).isSome) (comment : Option String) :
    Awaits (onlyPayment payment) (firstDelivery comment) payment
      (registeredUser payment.userId) where
  stored := (by decide : (varchar 255 "").isSome)
  wf :=
    { users := List.nodup_singleton _
      payments := List.nodup_singleton _
      owned := by
        intro p member
        obtain rfl := List.mem_singleton.mp member
        exact ⟨_, List.mem_singleton_self _, rfl⟩
      planned := by
        intro p member
        obtain rfl := List.mem_singleton.mp member
        exact planned }
  fresh := fun _ member => nomatch member
  found := List.mem_singleton_self _
  pending := pending
  owner := List.mem_singleton_self _
  owns := rfl
  inRange := by
    have short : ∀ entry ∈ plans, 0 + entry.2.durationDays * day ≤ datetimeMax := by decide
    obtain ⟨info, known⟩ := Option.isSome_iff_exists.mp planned
    obtain ⟨before, after, split, _⟩ := List.lookup_eq_some_iff.mp known
    have period : duration payment.plan = info.durationDays * day := by simp [duration, known]
    rw [extended, period]
    exact short (payment.plan, info) (split ▸ by simp)

/-- No payment is identified by its comments. -/
theorem not_commentIdentifies (creates : Creates shop db req row url) :
    ¬ CommentIdentifies shop row url := by
  intro identifies
  obtain ⟨info, promo, sold, same, _⟩ := creates.row
  have pending : row.toPayment.status = "pending" := by
    rw [same]
    rfl
  have planned : (plans.lookup row.toPayment.plan).isSome := by
    rw [same]
    exact forSale_isSome sold
  have completes := identifies _ _ _ (awaits_onlyPayment pending planned row.donatepayComment)
    (.inl rfl)
  have nothing := completes.subscriptions
  rw [creates.stored_ignored rfl] at nothing
  cases nothing

/-- User 1 buys a month. -/
def monthForOne : PurchaseRequest := ⟨1, "monthly", none, 0, 100⟩

theorem creates_monthForOne : Creates plainShop oneUse monthForOne
    (newPayment monthForOne ⟨"Monthly", "monthly", 299, 299, 30⟩ none)
    (paymentUrl plainShop 100 299) :=
  ⟨_, rfl⟩

theorem not_commentIdentifies_monthForOne :
    ¬ CommentIdentifies plainShop
      (newPayment monthForOne ⟨"Monthly", "monthly", 299, 299, 30⟩ none)
      (paymentUrl plainShop 100 299) :=
  not_commentIdentifies creates_monthForOne

/-- The stored comment of that payment, sent back, leaves it pending. -/
theorem monthForOne_stays_pending :
    let row := newPayment monthForOne ⟨"Monthly", "monthly", 299, 299, 30⟩ none
    Creates plainShop oneUse monthForOne row (paymentUrl plainShop 100 299) ∧
      ((onlyPayment row.toPayment).deliver (firstDelivery row.donatepayComment)).payments.map
        (·.status) = ["pending"] ∧
      ¬ CommentIdentifies plainShop row (paymentUrl plainShop 100 299) := by
  intro row
  have left : ((onlyPayment row.toPayment).deliver
      (firstDelivery row.donatepayComment)).payments.map (·.status) = ["pending"] := by
    decide +kernel
  refine ⟨creates_monthForOne, left, ?_⟩
  intro identifies
  have completes := identifies _ _ _
    (awaits_onlyPayment rfl (by decide) row.donatepayComment) (.inl rfl)
  rw [completes.payments] at left
  revert left
  decide +kernel

end PlgBooster.Server
