import PlgBooster.Server.PromoAdmin
import Mathlib.Tactic.Linarith
import Mathlib.Tactic.NormNum

/-!
# What a buyer is quoted and charged

`check_promo` quotes a price and `create_payment_link` charges one. Both read the promo code
with `validate_promo` and the price with `apply_discount`, so that in one state they agree,
as long as the columns that a purchase writes can store the price and the next number of uses.
The price itself is at least one ruble. It is at most the plan's unless the promo code takes
off a negative amount.
-/

namespace PlgBooster.Server

open Transaction

/-! ## Rounding -/

/-- A rounded number is at most a whole one: it is less than half above it, or it is half
above an even one. -/
theorem quantize_le_iff {x : Rat} {n : Int} :
    quantize x ≤ n ↔ x < n + 1 / 2 ∨ x = n + 1 / 2 ∧ n % 2 = 0 := by
  have low : (x.floor : Rat) ≤ x := Rat.floor_le x
  have high : x < x.floor + 1 := by simpa using Rat.lt_floor_add_one x
  unfold quantize
  generalize x.floor = below at low high
  rcases Int.lt_trichotomy below n with less | rfl | more
  · have next : (below : Rat) + 1 ≤ n := by exact_mod_cast less
    refine iff_of_true ?_ (.inl (by linarith))
    dsimp only
    split_ifs <;> omega
  · dsimp only
    split_ifs with first second even
    · exact iff_of_true (Int.le_refl _) (.inl (by linarith))
    · refine iff_of_false (by omega) ?_
      rintro (close | ⟨half, _⟩) <;> linarith
    · exact iff_of_true (Int.le_refl _) (.inr ⟨by linarith, even⟩)
    · refine iff_of_false (by omega) ?_
      rintro (close | ⟨_, even'⟩)
      · linarith
      · exact even even'
  · have next : (n : Rat) + 1 ≤ below := by exact_mod_cast more
    refine iff_of_false ?_ ?_
    · dsimp only
      split_ifs <;> omega
    · rintro (close | ⟨half, _⟩) <;> linarith

/-! ## The range of a price -/

/-- The tests of `apply_discount`: a set amount that is not zero, or a positive percentage. -/
def DiscountApplies (promo : PromoCode) : Prop :=
  (∃ amount ∈ promo.discountAmount, amount ≠ 0) ∨ 0 < promo.discountPercent

/-- A discounted price is whole, at least one and at most the full price, and without a
discount it is the full price. -/
def DiscountInRange (price : Rat) (promo : PromoCode) : Prop :=
  (DiscountApplies promo →
    ∃ n : Int, applyDiscount price promo = n ∧ 1 ≤ n ∧ (n : Rat) ≤ price) ∧
  (¬ DiscountApplies promo → applyDiscount price promo = price)

/-- The prices of the plans on sale are odd. -/
theorem forSale_price {plan : String} {info : PlanInfo} (sold : forSale plan = some info) :
    ∃ n : Int, info.priceTotal = n ∧ n % 2 = 1 ∧ 1 ≤ n := by
  have odd : ∀ entry ∈ plans, entry.1 ≠ "trial" →
      entry.2.priceTotal = entry.2.priceTotal.num ∧ entry.2.priceTotal.num % 2 = 1 ∧
        1 ≤ entry.2.priceTotal.num := by decide
  rw [forSale] at sold
  split_ifs at sold with notTrial
  obtain ⟨before, after, split, _⟩ := List.lookup_eq_some_iff.mp sold
  exact ⟨_, odd (plan, info) (split ▸ by simp) notTrial⟩

theorem applyDiscount_of_amount {price amount : Rat} {promo : PromoCode}
    (set : promo.discountAmount = some amount) (nonzero : amount ≠ 0) :
    applyDiscount price promo = ((max 1 (quantize (price - amount)) : Int) : Rat) := by
  have kept : promo.discountAmount.filter (· ≠ 0) = some amount := by
    rw [set, Option.filter_some, if_pos (decide_eq_true nonzero)]
  simp only [applyDiscount, kept]

theorem applyDiscount_of_no_amount {price : Rat} {promo : PromoCode}
    (zero : ∀ amount ∈ promo.discountAmount, amount = 0) :
    applyDiscount price promo =
      if 0 < promo.discountPercent then
        ((max 1 (quantize (price * (100 - promo.discountPercent) / 100)) : Int) : Rat)
      else price := by
  have none : promo.discountAmount.filter (· ≠ 0) = none := by
    rw [Option.filter_eq_none_iff]
    intro amount set
    simp [zero amount set]
  simp only [applyDiscount, none]

/-- A whole price with a lower bound of one is in range if the rounded number is. -/
theorem inRange_max_iff {price : Rat} {n : Int} (whole : price = n) (positive : 1 ≤ n)
    (x : Rat) :
    (∃ m : Int, ((max 1 (quantize x) : Int) : Rat) = m ∧ 1 ≤ m ∧ (m : Rat) ≤ price) ↔
      quantize x ≤ n := by
  rw [whole]
  constructor
  · rintro ⟨m, same, _, below⟩
    have same : max 1 (quantize x) = m := by exact_mod_cast same
    have below : m ≤ n := by exact_mod_cast below
    omega
  · intro below
    refine ⟨max 1 (quantize x), rfl, by omega, ?_⟩
    exact_mod_cast (show max 1 (quantize x) ≤ n by omega)

/-- A percentage never raises a price. -/
theorem quantize_percent_le {price : Rat} {n : Int} (whole : price = n) (positive : 1 ≤ n)
    {percent : Int} (discount : 0 < percent) :
    quantize (price * (100 - percent) / 100) ≤ n := by
  rw [quantize_le_iff, whole]
  have atLeast : (1 : Rat) ≤ percent := by exact_mod_cast discount
  have one : (1 : Rat) ≤ n := by exact_mod_cast positive
  have off : (0 : Rat) ≤ n * percent := mul_nonneg (by linarith) (by linarith)
  left
  linarith

/-- Discounts stay in range exactly for the promo codes whose amount, if any, is above minus
one half: less than that is rounded up above the price. -/
theorem discountInRange_iff {plan : String} {info : PlanInfo} (sold : forSale plan = some info)
    (promo : PromoCode) :
    DiscountInRange info.priceTotal promo ↔ ∀ amount ∈ promo.discountAmount, -1 / 2 < amount := by
  obtain ⟨n, whole, odd, positive⟩ := forSale_price sold
  by_cases zero : ∀ amount ∈ promo.discountAmount, amount = 0
  · refine iff_of_true ?_ fun amount set => by
      rw [zero amount set]
      norm_num
    have price := @applyDiscount_of_no_amount info.priceTotal promo zero
    constructor
    · rintro (⟨amount, set, nonzero⟩ | percent)
      · exact absurd (zero amount set) nonzero
      · rw [price, if_pos percent, inRange_max_iff whole positive]
        exact quantize_percent_le whole positive percent
    · intro nothing
      rw [price, if_neg fun percent => nothing (.inr percent)]
  · simp only [not_forall] at zero
    obtain ⟨amount, set, nonzero⟩ := zero
    have applies : DiscountApplies promo := .inl ⟨amount, set, nonzero⟩
    have price := @applyDiscount_of_amount info.priceTotal amount promo set nonzero
    have range : DiscountInRange info.priceTotal promo ↔
        quantize (info.priceTotal - amount) ≤ n := by
      rw [← inRange_max_iff whole positive, ← price]
      exact ⟨fun inRange => inRange.1 applies,
        fun inRange => ⟨fun _ => inRange, fun nothing => absurd applies nothing⟩⟩
    rw [range, quantize_le_iff, whole]
    constructor
    · rintro (close | ⟨_, even⟩) a here
      · obtain rfl := Option.some.inj (here.symm.trans set)
        linarith
      · omega
    · intro above
      have here := above amount set
      exact .inl (by linarith)

/-- An administrator's promo code that takes off minus one hundred rubles. -/
def surcharge : List PromoCode :=
  createAll [(30, { code := "EXTRA", discountAmount := some (-100) })]

theorem discountInRange_iff_surcharge :
    ∃ promo ∈ surcharge, DiscountInRange 299 promo ↔
      ∀ amount ∈ promo.discountAmount, -1 / 2 < amount :=
  ⟨AdminPromoCreate.stored { code := "EXTRA", discountAmount := some (-100) } 30, by decide,
    @discountInRange_iff "monthly" ⟨"Monthly", "monthly", 299, 299, 30⟩ (by decide) _⟩

/-- It raises the price of a month from 299 to 399 rubles. -/
theorem surcharge_raises_price : ∃ promo ∈ surcharge, ¬ DiscountInRange 299 promo := by
  refine ⟨AdminPromoCreate.stored { code := "EXTRA", discountAmount := some (-100) } 30,
    by decide, ?_⟩
  rintro ⟨applies, _⟩
  obtain ⟨n, price, _, below⟩ := applies (.inl ⟨-100, rfl, by decide⟩)
  rw [← price] at below
  revert below
  decide +kernel

/-! ## `check_promo` -/

/-- What `check_promo` returns. -/
structure PromoCheck where
  valid : Bool
  message : String
  finalPrice : Option Rat
  promo : Option PromoCode
  deriving DecidableEq, Repr

/-- `check_promo` of the billing service. -/
def checkPromo (shop : Shop) (promoCodes : List PromoCode) (now : DateTime)
    (code plan : String) : Except ServiceError PromoCheck :=
  match forSale plan with
  | none => .ok ⟨false, "Invalid plan", none, none⟩
  | some info =>
      match validatePromo shop promoCodes now code plan with
      | .error e => .error e
      | .ok none => .ok ⟨false, "Промокод недействителен", none, none⟩
      | .ok (some promo) => .ok ⟨true, "OK", some (applyDiscount info.priceTotal promo), some promo⟩

structure PromoCheckResponse where
  valid : Bool
  code : String
  discountPercent : Int
  discountAmount : Option Rat
  finalPrice : Option Rat
  message : String
  deriving DecidableEq, Repr

/-- The endpoint `check_promo`, for a body whose plan has matched its pattern. -/
def checkPromoEndpoint (shop : Shop) (promoCodes : List PromoCode) (now : DateTime)
    (code plan : String) : Except ServiceError PromoCheckResponse :=
  (checkPromo shop promoCodes now code plan).map fun check =>
    { valid := check.valid
      code := shop.upper code
      discountPercent := (check.promo.map (·.discountPercent)).getD 0
      discountAmount := check.promo.bind (·.discountAmount)
      finalPrice := check.finalPrice
      message := check.message }

/-- A quote of a price. -/
def Quotes (response : Except ServiceError PromoCheckResponse) (price : Rat) : Prop :=
  ∃ answer, response = .ok answer ∧ answer.valid = true ∧ answer.finalPrice = some price

/-! ## The quote is the charge -/

/-- A purchase with all its rows: the unique columns are unique, the plan is on sale, there is a
code, the buyer is stored and the new key is new. -/
structure Purchasable (db : PurchaseDb) (req : PurchaseRequest) (code : String)
    (info : PlanInfo) : Prop where
  keyed : db.Keyed
  sold : forSale req.plan = some info
  given : req.promoCode = some code
  nonempty : code ≠ ""
  buyer : req.userId ∈ db.users
  fresh : ∀ p ∈ db.payments, p.id ≠ req.paymentId

/-- A payment at a discounted price, with the stored code. -/
def ChargesPromo (db : PurchaseDb) (info : PlanInfo) (row : PaymentRow) (price : Rat)
    (promo : PromoCode) : Prop :=
  promo ∈ db.promoCodes ∧ row.amount = price ∧ row.originalAmount = some info.priceTotal ∧
    row.promoCode = some promo.code

/-- A payment at the full price, without a code. -/
def ChargesFull (info : PlanInfo) (row : PaymentRow) : Prop :=
  row.amount = info.priceTotal ∧ row.originalAmount = none ∧ row.promoCode = none

/-- The promo codes with one more use of one of them. -/
def countUse (code : String) (promoCodes : List PromoCode) : List PromoCode :=
  Table.update (·.code) code (fun promo => promo.setUses (promo.currentUses + 1)) promoCodes

/-- The discounted price and the next number of uses fit their columns. -/
def Chargeable (info : PlanInfo) (promo : PromoCode) : Prop :=
  FitsNumeric (applyDiscount info.priceTotal promo) ∧ FitsInteger (promo.currentUses + 1)

instance (info : PlanInfo) (promo : PromoCode) : Decidable (Chargeable info promo) := by
  unfold Chargeable
  infer_instance

/-- A price is quoted exactly if a purchase in the same state and at the same time is charged
it, with the stored code, and then that promo code alone counts one more use; otherwise the
full price is charged. No other row of a table changes. -/
def QuotedAsCharged (shop : Shop) (db : PurchaseDb) (req : PurchaseRequest) (code : String)
    (info : PlanInfo) : Prop :=
  let quote := checkPromoEndpoint shop db.promoCodes req.now code req.plan
  ∃ next row url, (purchases shop).exec db (.validate req) = (next, some (.ok (row, url))) ∧
    next.payments = db.payments ++ [row] ∧ next.users = db.users ∧
    (∀ price, Quotes quote price ↔ ∃ promo, ChargesPromo db info row price promo) ∧
    (∀ price promo, ChargesPromo db info row price promo →
      next.promoCodes = countUse promo.code db.promoCodes) ∧
    ((∀ price, ¬ Quotes quote price) → ChargesFull info row ∧ next.promoCodes = db.promoCodes)

/-- The price that is quoted cannot be charged: the purchase fails and changes nothing. -/
def QuotedInVain (shop : Shop) (db : PurchaseDb) (req : PurchaseRequest) (code : String) : Prop :=
  (∃ price, Quotes (checkPromoEndpoint shop db.promoCodes req.now code req.plan) price) ∧
    ∃ e, (purchases shop).exec db (.validate req) = (db, some (.error e))

/-- At most one active promo code has a code, so its lookup succeeds. -/
theorem validatePromo_isOk (shop : Shop) {db : PurchaseDb} (keyed : db.Keyed) (now : DateTime)
    (code plan : String) : ∃ found, validatePromo shop db.promoCodes now code plan = .ok found := by
  cases rows : activePromos shop db.promoCodes code with
  | nil => exact ⟨none, by simp [validatePromo, rows, scalarOneOrNone]⟩
  | cons promo rest =>
      have first : promo ∈ activePromos shop db.promoCodes code := rows ▸ List.mem_cons_self
      obtain ⟨member, stands, active⟩ := mem_activePromos.mp first
      exact ⟨_, validatePromo_of_singleton
        (activePromos_eq_singleton keyed.codes member active stands) now plan⟩

/-- One more use of the promo code that was read, by either key. -/
theorem writeUses_eq_countUse {db : PurchaseDb} (keyed : db.Keyed) {promo : PromoCode}
    (member : promo ∈ db.promoCodes) :
    (db.writeUses promo.id (promo.currentUses + 1)).promoCodes =
      countUse promo.code db.promoCodes := by
  refine List.map_congr_left fun row inTable => ?_
  by_cases same : row.id = promo.id
  · obtain rfl := List.inj_on_of_nodup_map keyed.ids inTable member same
    simp
  · have other : row.code ≠ promo.code := mt (keyed.id_eq_iff inTable member).mpr same
    simp [same, other]

section

variable {shop : Shop} {db : PurchaseDb} {req : PurchaseRequest} {code : String} {info : PlanInfo}

/-- `create_payment_link` goes on to its commit with what `validate_promo` has returned. -/
theorem exec_validate (ready : Purchasable db req code info) {found : Option PromoCode}
    (valid : validatePromo shop db.promoCodes req.now code req.plan = .ok found) :
    (purchases shop).exec db (.validate req) =
      (purchases shop).exec db (.commit req info found) := by
  have asked : req.promoCode.filter (· ≠ "") = some code := by
    rw [ready.given, Option.filter_some, if_pos (decide_eq_true ready.nonempty)]
  have validated : (purchases shop).step db (.validate req) =
      (db, .inl (.commit req info found)) := by
    simp only [purchases, purchaseStep, ready.sold, asked, valid]
  exact (purchases shop).exec_of_step_inl validated

/-- The commit stores one payment if the columns take it. -/
theorem exec_purchase (ready : Purchasable db req code info) {found : Option PromoCode}
    (valid : validatePromo shop db.promoCodes req.now code req.plan = .ok found)
    (amount : FitsNumeric (newPayment req info found).amount)
    (uses : ∀ read ∈ found, FitsInteger (read.currentUses + 1)) :
    (purchases shop).exec db (.validate req) =
      (commitPurchase db req info found, some (.ok (newPayment req info found,
        paymentUrl shop req.paymentId (newPayment req info found).amount))) := by
  have accepted : db.Accepts (newPayment req info found) found :=
    ⟨ready.fresh, ready.buyer, amount, uses⟩
  have committed : (purchases shop).step db (.commit req info found) =
      (commitPurchase db req info found, .inr (.ok (newPayment req info found,
        paymentUrl shop req.paymentId (newPayment req info found).amount))) :=
    purchaseStep_of_accepts shop accepted
  exact (exec_validate ready valid).trans ((purchases shop).exec_of_step_inr committed)

theorem exec_purchase_refused (ready : Purchasable db req code info) {promo : PromoCode}
    (valid : validatePromo shop db.promoCodes req.now code req.plan = .ok (some promo))
    (refused : ¬ Chargeable info promo) :
    ∃ e, (purchases shop).exec db (.validate req) = (db, some (.error e)) := by
  have rejected : ¬ db.Accepts (newPayment req info (some promo)) (some promo) :=
    fun accepted => refused ⟨accepted.2.2.1, accepted.2.2.2 promo rfl⟩
  have failed : (purchases shop).step db (.commit req info (some promo)) =
      (db, .inr (.error (purchaseRefusal (newPayment req info (some promo)) (some promo)))) :=
    purchaseStep_of_not_accepts shop rejected
  exact ⟨_, (exec_validate ready valid).trans ((purchases shop).exec_of_step_inr failed)⟩

theorem checkPromoEndpoint_none (sold : forSale req.plan = some info)
    (invalid : validatePromo shop db.promoCodes req.now code req.plan = .ok none) (price : Rat) :
    ¬ Quotes (checkPromoEndpoint shop db.promoCodes req.now code req.plan) price := by
  rintro ⟨answer, response, valid, _⟩
  simp only [checkPromoEndpoint, checkPromo, sold, invalid, Except.map, Except.ok.injEq] at response
  rw [← response] at valid
  cases valid

theorem checkPromoEndpoint_some (sold : forSale req.plan = some info) {promo : PromoCode}
    (valid : validatePromo shop db.promoCodes req.now code req.plan = .ok (some promo))
    (price : Rat) :
    Quotes (checkPromoEndpoint shop db.promoCodes req.now code req.plan) price ↔
      applyDiscount info.priceTotal promo = price := by
  simp [Quotes, checkPromoEndpoint, checkPromo, sold, valid, Except.map]

theorem fitsNumeric_priceTotal {plan : String} (sold : forSale plan = some info) :
    FitsNumeric info.priceTotal := by
  have all : ∀ entry ∈ plans, FitsNumeric entry.2.priceTotal := by decide +kernel
  rw [forSale] at sold
  split_ifs at sold with notTrial
  obtain ⟨before, after, split, _⟩ := List.lookup_eq_some_iff.mp sold
  exact all (plan, info) (split ▸ by simp)

/-- Without a promo code the full price is charged, and none is quoted. -/
theorem quotedAsCharged_none (ready : Purchasable db req code info)
    (invalid : validatePromo shop db.promoCodes req.now code req.plan = .ok none) :
    QuotedAsCharged shop db req code info := by
  have unquoted := checkPromoEndpoint_none ready.sold invalid
  have executed := exec_purchase ready invalid (fitsNumeric_priceTotal ready.sold) (by simp)
  refine ⟨_, _, _, executed, rfl, rfl, fun price => ?_, ?_, fun _ => ⟨⟨rfl, rfl, rfl⟩, rfl⟩⟩
  · apply iff_of_false (unquoted price)
    rintro ⟨promo, _, _, original, _⟩
    cases original
  · rintro price promo ⟨_, _, original, _⟩
    cases original

theorem quotedAsCharged_some (ready : Purchasable db req code info) {promo : PromoCode}
    (valid : validatePromo shop db.promoCodes req.now code req.plan = .ok (some promo))
    (chargeable : Chargeable info promo) : QuotedAsCharged shop db req code info := by
  have member : promo ∈ db.promoCodes := (validatePromo_eq_some valid).1
  have quoted := checkPromoEndpoint_some ready.sold valid
  have executed := exec_purchase ready valid chargeable.1
    fun read here => Option.some.inj here ▸ chargeable.2
  refine ⟨_, _, _, executed, rfl, rfl, fun price => ?_, ?_, fun unquoted => ?_⟩
  · rw [quoted price]
    constructor
    · intro charged
      exact ⟨promo, member, charged, rfl, rfl⟩
    · rintro ⟨_, _, charged, _⟩
      exact charged
  · rintro price other ⟨_, _, _, same⟩
    have code : promo.code = other.code := Option.some.inj same
    rw [← code]
    exact writeUses_eq_countUse ready.keyed member
  · exact absurd ((quoted _).mpr rfl) (unquoted _)

end

/-- An administrator's promo code that takes off minus a hundred million rubles, but for a
kopeck. -/
def hugeSurcharge : PurchaseDb where
  users := [1]
  promoCodes := createAll [(30, { code := "EXTRA", discountAmount := some (-99999999.99) })]
  payments := []

/-- User 1 buys a month with it. -/
def monthAtHugeSurcharge : PurchaseRequest := ⟨1, "monthly", some "extra", 0, 100⟩

/-- Half the price with a code typed in lower case. -/
def halfPrice : PurchaseDb where
  users := [1]
  promoCodes := [⟨30, "HALF", 50, none, 1, 0, none, none, "all", true⟩]
  payments := []

/-- User 1 buys a month with it. -/
def monthAtHalf : PurchaseRequest := ⟨1, "monthly", some "half", 0, 100⟩

end PlgBooster.Server
