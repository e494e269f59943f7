import PlgBooster.Rust.Text
import PlgBooster.Server.Billing
import Mathlib.Data.List.Nodup

/-!
# Promo codes

`create_payment_link` selects the promo code in one database step and commits in another.
The commit writes the number of uses that the select read, plus one, as a value: it does
not count up what it finds. So the limit and the count hold in every committed state
exactly when each commit finds the count that its select has read.
-/

namespace PlgBooster.Server

open Transaction

/-! ## Tables -/

structure PromoCode where
  id : Uuid
  code : String
  discountPercent : Int
  discountAmount : Option Rat
  /-- Zero is unlimited. -/
  maxUses : Int
  currentUses : Int
  validFrom : Option DateTime
  validUntil : Option DateTime
  applicablePlans : String
  isActive : Bool
  deriving DecidableEq, Repr

def PromoCode.setUses (promo : PromoCode) (uses : Int) : PromoCode :=
  { promo with currentUses := uses }

/-- A promo code but for its count: what only an administrator edits. -/
def PromoCode.settings (promo : PromoCode) : PromoCode := promo.setUses 0

/-- A payment with the columns that `create_payment_link` fills. -/
structure PaymentRow extends Payment where
  amount : Rat
  originalAmount : Option Rat
  promoCode : Option String
  currency : String
  donatepayComment : Option String
  deriving DecidableEq, Repr

/-- The tables of a purchase; of the users only the keys matter. -/
structure PurchaseDb where
  users : List Uuid
  promoCodes : List PromoCode
  payments : List PaymentRow
  deriving DecidableEq, Repr

namespace PurchaseDb

/-- The constraints of the `payments` table, and the columns that a purchase writes: the
primary key, the foreign key, the amount, and the number of uses of the promo code. -/
def Accepts (db : PurchaseDb) (row : PaymentRow) (promo : Option PromoCode) : Prop :=
  (∀ p ∈ db.payments, p.id ≠ row.id) ∧ row.userId ∈ db.users ∧ FitsNumeric row.amount ∧
    ∀ read ∈ promo, FitsInteger (read.currentUses + 1)

instance (db : PurchaseDb) (row : PaymentRow) (promo : Option PromoCode) :
    Decidable (db.Accepts row promo) := by
  unfold Accepts
  infer_instance

def promosWith (db : PurchaseDb) (code : String) : List PromoCode :=
  Table.select (·.code) code db.promoCodes

/-- The payments made with a promo code. -/
def paymentsBy (db : PurchaseDb) (code : String) : List PaymentRow :=
  Table.select (·.promoCode) (some code) db.payments

/-- The update of `current_uses` that a changed object writes. -/
def writeUses (db : PurchaseDb) (id : Uuid) (uses : Int) : PurchaseDb :=
  { db with promoCodes := Table.update (·.id) id (·.setUses uses) db.promoCodes }

def insertPayment (db : PurchaseDb) (row : PaymentRow) : PurchaseDb :=
  { db with payments := db.payments ++ [row] }

/-- The constraints of the `promo_codes` table: both keys are unique. -/
structure Keyed (db : PurchaseDb) : Prop where
  ids : (db.promoCodes.map (·.id)).Nodup
  codes : (db.promoCodes.map (·.code)).Nodup

end PurchaseDb

/-! ## Prices -/

/-- `result.quantize(Decimal("1"))`: the nearest whole number, the even one of two. -/
def quantize (result : Rat) : Int :=
  let below := result.floor
  if result - below < 1 / 2 then below
  else if 1 / 2 < result - below then below + 1
  else if below % 2 = 0 then below else below + 1

/-- `apply_discount`. -/
def applyDiscount (price : Rat) (promo : PromoCode) : Rat :=
  match promo.discountAmount.filter (· ≠ 0) with
  | some amount => (max 1 (quantize (price - amount)) : Int)
  | none =>
      if 0 < promo.discountPercent then
        (max 1 (quantize (price * (100 - promo.discountPercent) / 100)) : Int)
      else price

/-! ## The service -/

/-- What the service takes from its libraries and settings. -/
structure Shop where
  /-- `str.upper`. -/
  upper : String → String
  donatepayPageUrl : String

/-- A call with what it draws on the way: the clock reading of `validate_promo` and the
identifier that the new row gets at the flush. -/
structure PurchaseRequest where
  userId : Uuid
  plan : String
  promoCode : Option String
  now : DateTime
  paymentId : Uuid
  deriving DecidableEq, Repr

/-- The tests of `validate_promo` after its select. -/
def redeemable (now : DateTime) (plan : String) (promo : PromoCode) : Bool :=
  if promo.validFrom.any (now < ·) then false
  else if promo.validUntil.any (· < now) then false
  else if 0 < promo.maxUses ∧ promo.maxUses ≤ promo.currentUses then false
  else if promo.applicablePlans ≠ "all" then
    (promo.applicablePlans.toList.splitOn ',').any (Python.strip · = plan.toList)
  else true

/-- The select of `validate_promo`. -/
def activePromos (shop : Shop) (promoCodes : List PromoCode) (code : String) : List PromoCode :=
  promoCodes.filter fun p => p.code = shop.upper code ∧ p.isActive = true

/-- `validate_promo`. -/
def validatePromo (shop : Shop) (promoCodes : List PromoCode) (now : DateTime)
    (code plan : String) : Except ServiceError (Option PromoCode) :=
  match scalarOneOrNone (activePromos shop promoCodes code) with
  | .error e => .error e
  | .ok found => .ok (found.filter (redeemable now plan))

/-- `plan not in PLANS or plan == "trial"`. -/
def forSale (plan : String) : Option PlanInfo :=
  if plan = "trial" then none else plans.lookup plan

/-- `f"PLG:{payment.id}"`, of an object that has its identifier or not yet. -/
def paymentComment (id : Option Uuid) : String :=
  match id with
  | some id => "PLG:" ++ String.ofList (Python.strOfUuid id)
  | none => "PLG:None"

/-- The link a buyer is sent to. The amount is whole, so it prints as an integer. -/
def paymentUrl (shop : Shop) (id : Uuid) (amount : Rat) : String :=
  (if shop.donatepayPageUrl = "" then "https://new.donatepay.ru/@plgames"
    else shop.donatepayPageUrl) ++
    "?comment=" ++ Python.quote (paymentComment (some id)) ++ "&sum=" ++ toString amount.num

/-- The row of a purchase. Its comment is written before the flush gives it a key. -/
def newPayment (req : PurchaseRequest) (info : PlanInfo) (promo : Option PromoCode) :
    PaymentRow where
  id := req.paymentId
  userId := req.userId
  status := "pending"
  plan := req.plan
  donatepayId := none
  subscriptionId := none
  amount := (promo.map (applyDiscount info.priceTotal)).getD info.priceTotal
  originalAmount := promo.map fun _ => info.priceTotal
  promoCode := promo.map (·.code)
  currency := "RUB"
  donatepayComment := some (paymentComment none)

/-- Where a call stands between its database steps. -/
inductive PurchaseStage where
  /-- Before the select of `validate_promo`, if there is a code. -/
  | validate (req : PurchaseRequest)
  | commit (req : PurchaseRequest) (info : PlanInfo) (promo : Option PromoCode)
  deriving DecidableEq, Repr

abbrev PurchaseOutcome := Except ServiceError (PaymentRow × String)

/-- The error of a commit that is not accepted. -/
def purchaseRefusal (row : PaymentRow) (promo : Option PromoCode) : ServiceError :=
  if FitsNumeric row.amount ∧ ∀ read ∈ promo, FitsInteger (read.currentUses + 1) then
    .integrityError
  else .dataError

/-- One commit: the changed promo code and the new payment, or nothing at all. -/
def commitPurchase (db : PurchaseDb) (req : PurchaseRequest) (info : PlanInfo)
    (promo : Option PromoCode) : PurchaseDb :=
  (match promo with
    | some promo => db.writeUses promo.id (promo.currentUses + 1)
    | none => db).insertPayment (newPayment req info promo)

/-- `create_payment_link`, one database step at a time. -/
def purchaseStep (shop : Shop) (db : PurchaseDb) :
    PurchaseStage → PurchaseDb × (PurchaseStage ⊕ PurchaseOutcome)
  | .validate req =>
      match forSale req.plan with
      | none => (db, .inr (.error (.valueError s!"Invalid plan: {req.plan}")))
      | some info =>
          match req.promoCode.filter (· ≠ "") with
          | none => (db, .inl (.commit req info none))
          | some code =>
              match validatePromo shop db.promoCodes req.now code req.plan with
              | .error e => (db, .inr (.error e))
              | .ok promo => (db, .inl (.commit req info promo))
  | .commit req info promo =>
      let row := newPayment req info promo
      if db.Accepts row promo then
        (commitPurchase db req info promo, .inr (.ok (row, paymentUrl shop row.id row.amount)))
      else (db, .inr (.error (purchaseRefusal row promo)))

/-- What `validate_promo` returns was selected and has passed its tests. -/
theorem selected_of_validatePromo {shop : Shop} {promoCodes : List PromoCode} {now : DateTime}
    {code plan : String} {promo : PromoCode}
    (valid : validatePromo shop promoCodes now code plan = .ok (some promo)) :
    promo ∈ activePromos shop promoCodes code ∧ redeemable now plan promo = true := by
  unfold validatePromo at valid
  cases found : scalarOneOrNone (activePromos shop promoCodes code) with
  | error e => simp [found] at valid
  | ok row =>
      simp only [found, Except.ok.injEq, Option.filter_eq_some_iff] at valid
      obtain ⟨rfl, redeems⟩ := valid
      have only := scalarOneOrNone_eq_some.mp found
      exact ⟨only ▸ List.mem_singleton_self promo, redeems⟩

theorem validatePromo_eq_some {shop : Shop} {promoCodes : List PromoCode} {now : DateTime}
    {code plan : String} {promo : PromoCode}
    (valid : validatePromo shop promoCodes now code plan = .ok (some promo)) :
    promo ∈ promoCodes ∧ (0 < promo.maxUses → promo.currentUses < promo.maxUses) := by
  obtain ⟨member, redeems⟩ := selected_of_validatePromo valid
  refine ⟨List.mem_of_mem_filter member, ?_⟩
  intro limited
  unfold redeemable at redeems
  by_contra used
  simp [limited, Int.not_lt.mp used] at redeems

/-! ## Runs of purchases -/

/-- A call is refused, or goes on to its commit with a plan on sale and what `validate_promo`
has returned. -/
theorem purchaseStep_validate (shop : Shop) (db : PurchaseDb) (req : PurchaseRequest) :
    (∃ e, purchaseStep shop db (.validate req) = (db, .inr (.error e))) ∨
    ∃ info promo, forSale req.plan = some info ∧
      (∀ read ∈ promo, ∃ code,
        validatePromo shop db.promoCodes req.now code req.plan = .ok (some read)) ∧
      purchaseStep shop db (.validate req) = (db, .inl (.commit req info promo)) := by
  cases sold : forSale req.plan with
  | none => exact .inl ⟨_, by simp only [purchaseStep, sold]; rfl⟩
  | some info =>
      cases asked : req.promoCode.filter (· ≠ "") with
      | none => exact .inr ⟨info, none, rfl, by simp, by simp only [purchaseStep, sold, asked]⟩
      | some code =>
          cases valid : validatePromo shop db.promoCodes req.now code req.plan with
          | error e => exact .inl ⟨e, by simp only [purchaseStep, sold, asked, valid]⟩
          | ok promo =>
              refine .inr ⟨info, promo, rfl, ?_, by simp only [purchaseStep, sold, asked, valid]⟩
              intro read some
              exact ⟨code, valid.trans (congrArg Except.ok (Option.mem_def.mp some))⟩

theorem purchaseStep_of_accepts (shop : Shop) {db : PurchaseDb} {req : PurchaseRequest}
    {info : PlanInfo} {promo : Option PromoCode}
    (accepted : db.Accepts (newPayment req info promo) promo) :
    purchaseStep shop db (.commit req info promo) =
      (commitPurchase db req info promo, .inr (.ok (newPayment req info promo,
        paymentUrl shop (newPayment req info promo).id (newPayment req info promo).amount))) := by
  simp only [purchaseStep, if_pos accepted]

theorem purchaseStep_of_not_accepts (shop : Shop) {db : PurchaseDb} {req : PurchaseRequest}
    {info : PlanInfo} {promo : Option PromoCode}
    (refused : ¬ db.Accepts (newPayment req info promo) promo) :
    purchaseStep shop db (.commit req info promo) =
      (db, .inr (.error (purchaseRefusal (newPayment req info promo) promo))) := by
  simp only [purchaseStep, if_neg refused]

theorem purchaseStep_descends (shop : Shop) (db : PurchaseDb) (stage stage' : PurchaseStage)
    (taken : (purchaseStep shop db stage).2 = .inl stage') :
    (match stage' with | .validate _ => 1 | .commit .. => 0) <
      (match stage with | .validate _ => 1 | .commit .. => 0) := by
  cases stage with
  | validate req =>
      rcases purchaseStep_validate shop db req with ⟨e, refused⟩ | ⟨info, promo, _, _, goes⟩
      · rw [refused] at taken
        cases taken
      · rw [goes] at taken
        cases taken
        exact Nat.one_pos
  | commit req info promo =>
      simp only [purchaseStep] at taken
      split_ifs at taken

def purchases (shop : Shop) : Program PurchaseDb PurchaseStage PurchaseOutcome where
  step := purchaseStep shop
  rank
    | .validate _ => 1
    | .commit .. => 0
  descends db stage stage' taken := by
    have down := purchaseStep_descends shop db stage stage' taken
    cases stage <;> cases stage' <;> exact down

/-- What a database step does: nothing, or the commit of an accepted row. -/
theorem purchaseStep_cases (shop : Shop) (db : PurchaseDb) (stage : PurchaseStage) :
    ((purchaseStep shop db stage).1 = db ∧ ∀ req info promo,
      stage = .commit req info promo → ¬ db.Accepts (newPayment req info promo) promo) ∨
    ∃ req info promo, stage = .commit req info promo ∧
      db.Accepts (newPayment req info promo) promo ∧
      (purchaseStep shop db stage).1 = commitPurchase db req info promo := by
  cases stage with
  | validate req =>
      refine .inl ⟨?_, by simp⟩
      rcases purchaseStep_validate shop db req with ⟨e, refused⟩ | ⟨info, promo, _, _, goes⟩
      · rw [refused]
      · rw [goes]
  | commit req info promo =>
      by_cases accepted : db.Accepts (newPayment req info promo) promo
      · refine .inr ⟨req, info, promo, rfl, accepted, ?_⟩
        rw [purchaseStep_of_accepts shop accepted]
      · refine .inl ⟨by rw [purchaseStep_of_not_accepts shop accepted], ?_⟩
        intro _ _ _ same
        cases same
        exact accepted

/-- A call goes on to its commit, with what `validate_promo` returned. -/
theorem purchaseStep_eq_inl {shop : Shop} {db db' : PurchaseDb} {stage stage' : PurchaseStage}
    (taken : purchaseStep shop db stage = (db', .inl stage')) :
    db' = db ∧ ∃ req info promo, stage' = .commit req info promo ∧
      ∀ read ∈ promo, read ∈ db.promoCodes ∧
        (0 < read.maxUses → read.currentUses < read.maxUses) := by
  cases stage with
  | validate req =>
      rcases purchaseStep_validate shop db req with ⟨e, refused⟩ | ⟨info, promo, _, read, goes⟩
      · cases refused.symm.trans taken
      · cases goes.symm.trans taken
        refine ⟨rfl, req, info, promo, rfl, ?_⟩
        intro row some
        obtain ⟨code, valid⟩ := read row some
        exact validatePromo_eq_some valid
  | commit req info promo =>
      simp only [purchaseStep] at taken
      split_ifs at taken <;> cases taken

/-! ## The limit -/

namespace PurchaseDb

/-- The promo codes are the ones of the start, with other counts. -/
def Unedited (start db : PurchaseDb) : Prop :=
  db.promoCodes.map (·.settings) = start.promoCodes.map (·.settings)

theorem Unedited.keyed {start db : PurchaseDb} (same : Unedited start db) (keyed : start.Keyed) :
    db.Keyed := by
  have kept {β : Type} (column : PromoCode → β)
      (fixed : ∀ row, column row.settings = column row) :
      db.promoCodes.map column = start.promoCodes.map column := by
    have := congrArg (List.map column) same
    simpa only [List.map_map, Function.comp_def, fixed] using this
  constructor
  · rw [kept (·.id) fun _ => rfl]
    exact keyed.ids
  · rw [kept (·.code) fun _ => rfl]
    exact keyed.codes

/-- A promo code of the start is still there. -/
theorem Unedited.exists_row {start db : PurchaseDb} (same : Unedited start db)
    {promo : PromoCode} (member : promo ∈ start.promoCodes) :
    ∃ row ∈ db.promoCodes, row.settings = promo.settings := by
  have still : promo.settings ∈ db.promoCodes.map (·.settings) :=
    same ▸ List.mem_map_of_mem member
  exact List.mem_map.mp still

theorem Unedited.commit {start db : PurchaseDb} (same : Unedited start db)
    (req : PurchaseRequest) (info : PlanInfo) (promo : Option PromoCode) :
    Unedited start (commitPurchase db req info promo) := by
  cases promo with
  | none => exact same
  | some read =>
      have unchanged : (commitPurchase db req info (some read)).promoCodes.map (·.settings) =
          db.promoCodes.map (·.settings) :=
        Table.map_update (f := fun row : PromoCode => row.setUses (read.currentUses + 1))
          (fun _ => rfl) read.id _
      exact unchanged.trans same

theorem Keyed.promosWith {db : PurchaseDb} (keyed : db.Keyed) {row : PromoCode}
    (member : row ∈ db.promoCodes) : db.promosWith row.code = [row] :=
  Table.select_of_nodup keyed.codes member

/-- Of two promo codes, the keys agree together. -/
theorem Keyed.id_eq_iff {db : PurchaseDb} (keyed : db.Keyed) {row row' : PromoCode}
    (member : row ∈ db.promoCodes) (member' : row' ∈ db.promoCodes) :
    row.id = row'.id ↔ row.code = row'.code := by
  constructor
  · intro same
    rw [List.inj_on_of_nodup_map keyed.ids member member' same]
  · intro same
    rw [List.inj_on_of_nodup_map keyed.codes member member' same]

/-- What a commit makes of one promo code. -/
theorem promosWith_commit {db : PurchaseDb} (req : PurchaseRequest) (info : PlanInfo)
    (keyed : db.Keyed) {row : PromoCode}
    (member : row ∈ db.promoCodes) {read : PromoCode}
    (known : ∃ now ∈ db.promoCodes, now.settings = read.settings) :
    (commitPurchase db req info (some read)).promosWith row.code =
      [if read.code = row.code then row.setUses (read.currentUses + 1) else row] := by
  obtain ⟨now, still, same⟩ := known
  have id : now.id = read.id := (PromoCode.mk.inj same).1
  have code : now.code = read.code := (PromoCode.mk.inj same).2.1
  have agree := keyed.id_eq_iff member still
  rw [id, code] at agree
  have only := keyed.promosWith member
  calc
    _ = Table.update (·.id) read.id (·.setUses (read.currentUses + 1))
          (db.promosWith row.code) :=
      Table.select_update_of_keeps (f := (·.setUses (read.currentUses + 1)))
        (fun _ => rfl) row.code read.id db.promoCodes
    _ = _ := by
      rw [only]
      by_cases here : read.code = row.code
      · simp [Table.update, agree.mpr here.symm, here]
      · simp [Table.update, mt agree.mp (Ne.symm here), here]

theorem paymentsBy_commit (db : PurchaseDb) (req : PurchaseRequest) (info : PlanInfo)
    (promo : Option PromoCode) (code : String) :
    ((commitPurchase db req info promo).paymentsBy code).length =
      (db.paymentsBy code).length + if promo.map (·.code) = some code then 1 else 0 := by
  have row : (newPayment req info promo).promoCode = promo.map (·.code) := rfl
  cases promo <;>
    simp only [commitPurchase, insertPayment, writeUses, paymentsBy, Table.select,
      List.filter_append, List.length_append, List.filter_cons, List.filter_nil, row] <;>
    split_ifs <;> simp_all

end PurchaseDb

/-- The limit and the count of a promo code, over the payments made with it since the start. -/
def WithinLimit (start : PurchaseDb) (promo : PromoCode) (db : PurchaseDb) : Prop :=
  let made : Int := (db.paymentsBy promo.code).length - (start.paymentsBy promo.code).length
  made ≤ promo.maxUses - promo.currentUses ∧
    (db.promosWith promo.code).map (·.currentUses) = [promo.currentUses + made]

instance (start : PurchaseDb) (promo : PromoCode) (db : PurchaseDb) :
    Decidable (WithinLimit start promo db) := inferInstanceAs (Decidable (_ ∧ _))

/-- The step is no accepted commit with the promo code, or its count is still the one
that the call has read. -/
def CountsFromRead (promo : PromoCode) (db : PurchaseDb) : PurchaseStage → Prop
  | .commit req info (some read) =>
      read.code = promo.code → db.Accepts (newPayment req info (some read)) (some read) →
        ∀ row ∈ db.promosWith promo.code, row.currentUses = read.currentUses
  | _ => True

instance (promo : PromoCode) (db : PurchaseDb) : (stage : PurchaseStage) →
    Decidable (CountsFromRead promo db stage)
  | .validate _ => .isTrue trivial
  | .commit _ _ none => .isTrue trivial
  | .commit req info (some read) =>
      inferInstanceAs (Decidable (read.code = promo.code →
        db.Accepts (newPayment req info (some read)) (some read) →
          ∀ row ∈ db.promosWith promo.code, row.currentUses = read.currentUses))

/-- What `validate_promo` returns in a run from `start`: a promo code that was there, and
was not used up when it was read. -/
def ReadFrom (start : PurchaseDb) : PurchaseStage → Prop
  | .commit _ _ (some read) => (∃ row ∈ start.promoCodes, row.settings = read.settings) ∧
      (0 < read.maxUses → read.currentUses < read.maxUses)
  | _ => True

/-- What is known of a run anyway. -/
structure SoundReads (start : PurchaseDb)
    (world : World PurchaseDb PurchaseStage PurchaseOutcome) : Prop where
  unedited : PurchaseDb.Unedited start world.db
  reads : Program.Kept (fun _ stage => ReadFrom start stage) world

variable {shop : Shop} {start : PurchaseDb} {promo : PromoCode}

theorem PurchaseDb.Unedited.purchaseStep {db : PurchaseDb} (same : Unedited start db)
    (stage : PurchaseStage) : Unedited start (purchaseStep shop db stage).1 := by
  rcases purchaseStep_cases shop db stage with ⟨kept, _⟩ | ⟨req, info, promo, _, _, committed⟩
  · rw [kept]
    exact same
  · rw [committed]
    exact same.commit req info promo

theorem soundReads_step {world : World PurchaseDb PurchaseStage PurchaseOutcome}
    {event : Event PurchaseStage} (sound : SoundReads start world)
    (starts : event.Starts PurchaseStage.validate) :
    SoundReads start ((purchases shop).worldStep world event).1 := by
  constructor
  · rcases Program.worldStep_db (P := purchases shop) world event with
      ⟨same, _⟩ | ⟨i, request, stage, _, _, after⟩
    · rw [same]
      exact sound.unedited
    · rw [after]
      exact sound.unedited.purchaseStep stage
  · refine Program.kept_worldStep ?_ ?_ sound.reads
    · intro db request stage stage' _ taken
      obtain ⟨_, req, info, found, rfl, valid⟩ := purchaseStep_eq_inl taken
      cases found with
      | none => trivial
      | some read =>
          obtain ⟨inTable, below⟩ := valid read rfl
          have known : read.settings ∈ start.promoCodes.map (·.settings) :=
            sound.unedited ▸ List.mem_map_of_mem inTable
          exact ⟨List.mem_map.mp known, below⟩
    · intro request submitted
      obtain ⟨req, rfl⟩ := starts request submitted
      trivial

/-! ## The limit holds as long as the counts do -/

section Limit

variable (keyed : start.Keyed) (member : promo ∈ start.promoCodes)
include keyed

/-- A promo code that was read has the settings of the one with its code. -/
theorem settings_of_readFrom {req : PurchaseRequest} {info : PlanInfo} {read : PromoCode}
    (known : ReadFrom start (.commit req info (some read))) (same : read.code = promo.code)
    (member : promo ∈ start.promoCodes) : read.settings = promo.settings := by
  obtain ⟨⟨row, inTable, settings⟩, _⟩ := known
  have code : row.code = promo.code := (PromoCode.mk.inj settings).2.1.trans same
  rw [← settings, List.inj_on_of_nodup_map keyed.codes inTable member code]

include member

/-- A commit keeps the limit and the count exactly if it counts from what it has read. -/
theorem withinLimit_commit (limited : 0 < promo.maxUses) {db : PurchaseDb}
    (unedited : PurchaseDb.Unedited start db) (within : WithinLimit start promo db)
    {req : PurchaseRequest} {info : PlanInfo} {found : Option PromoCode}
    (known : ReadFrom start (.commit req info found))
    (accepted : db.Accepts (newPayment req info found) found) :
    WithinLimit start promo (commitPurchase db req info found) ↔
      CountsFromRead promo db (.commit req info found) := by
  have grown := PurchaseDb.paymentsBy_commit db req info found promo.code
  cases found with
  | none =>
      rw [if_neg (by simp), Nat.add_zero] at grown
      refine iff_of_true ?_ trivial
      unfold WithinLimit
      rw [grown]
      exact within
  | some read =>
      obtain ⟨row, inTable, same⟩ := unedited.exists_row member
      have code : row.code = promo.code := (PromoCode.mk.inj same).2.1
      have keyed' := unedited.keyed keyed
      have only : db.promosWith promo.code = [row] := code ▸ keyed'.promosWith inTable
      have after := PurchaseDb.promosWith_commit req info keyed' inTable
        (by
          obtain ⟨⟨first, inStart, reads⟩, _⟩ := known
          obtain ⟨now, still, same⟩ := unedited.exists_row inStart
          exact ⟨now, still, same.trans reads⟩ :
            ∃ now ∈ db.promoCodes, now.settings = read.settings)
      rw [code] at after
      obtain ⟨bound, count⟩ := within
      rw [only, List.map_singleton, List.singleton_inj] at count
      by_cases here : read.code = promo.code
      · have settings := settings_of_readFrom keyed known here member
        have max : read.maxUses = promo.maxUses := by
          simpa [PromoCode.settings, PromoCode.setUses] using congrArg PromoCode.maxUses settings
        have below := known.2 (max ▸ limited)
        rw [if_pos here] at after
        rw [if_pos (by simp [here])] at grown
        simp only [WithinLimit, CountsFromRead, after, grown, only, List.map_singleton,
          List.singleton_inj, List.mem_singleton, forall_eq, PromoCode.setUses]
        constructor
        · intro within _ _
          omega
        · intro counts
          have read := counts here accepted
          omega
      · rw [if_neg here] at after
        rw [if_neg (by simpa using here), Nat.add_zero] at grown
        refine iff_of_true ?_ (fun same => absurd same here)
        simp only [WithinLimit, after, grown, List.map_singleton, List.singleton_inj]
        exact ⟨bound, count⟩

theorem withinLimit_step (limited : 0 < promo.maxUses)
    {world : World PurchaseDb PurchaseStage PurchaseOutcome} (sound : SoundReads start world)
    (within : WithinLimit start promo world.db) (event : Event PurchaseStage) :
    WithinLimit start promo ((purchases shop).worldStep world event).1.db ↔
      StepMeets (CountsFromRead promo) world event := by
  have step (stage : PurchaseStage) (known : ReadFrom start stage) :
      WithinLimit start promo ((purchases shop).step world.db stage).1 ↔
        CountsFromRead promo world.db stage := by
    change WithinLimit start promo (purchaseStep shop world.db stage).1 ↔ _
    rcases purchaseStep_cases shop world.db stage with
      ⟨kept, refused⟩ | ⟨req, info, found, rfl, accepted, committed⟩
    · rw [kept]
      apply iff_of_true within
      cases stage with
      | validate req => trivial
      | commit req info found =>
          cases found with
          | none => trivial
          | some read => exact fun _ accepted => absurd accepted (refused _ _ _ rfl)
    · rw [committed]
      exact withinLimit_commit keyed member limited sound.unedited within known accepted
  exact Program.inv_worldStep_iff (WithinLimit start promo) within
    (fun task inWorld stage running => step stage (sound.reads task inWorld stage running)) event

end Limit

/-- Over any schedule of purchases, all committed states keep the limit and the count of a
promo code if and only if its count is not over the limit at the start and every commit with
it finds the count that its `validate_promo` has read. -/
theorem withinLimit_iff (shop : Shop) {db : PurchaseDb} (keyed : db.Keyed) {promo : PromoCode}
    (member : promo ∈ db.promoCodes) (limited : 0 < promo.maxUses)
    (schedule : List (Event PurchaseRequest)) :
    (∀ n, WithinLimit db promo (Machine.run (purchases shop).worldStep ⟨db, []⟩
      ((schedule.map (Event.map .validate)).take n)).1.db) ↔
      promo.currentUses ≤ promo.maxUses ∧
        Machine.Legal (StepMeets (CountsFromRead promo)) (purchases shop).worldStep ⟨db, []⟩
          (schedule.map (Event.map .validate)) := by
  have start : WithinLimit db promo db ↔ promo.currentUses ≤ promo.maxUses := by
    simp only [WithinLimit, keyed.promosWith member, List.map_singleton, List.singleton_inj]
    omega
  have sound : SoundReads db (⟨db, []⟩ : World PurchaseDb PurchaseStage PurchaseOutcome) :=
    ⟨rfl, by simp [Program.Kept]⟩
  by_cases below : promo.currentUses ≤ promo.maxUses
  · rw [Machine.legal_iff_invariant_of_legal (SoundReads db)
      (fun _ _ sound _ starts => soundReads_step sound starts)
      (fun _ event sound within _ => withinLimit_step keyed member limited sound within event)
      sound (start.mpr below) (Program.legal_starts PurchaseStage.validate ⟨db, []⟩ schedule)]
    exact (and_iff_right below).symm
  · exact iff_of_false (fun always => below (start.mp (always 0))) (fun both => below both.1)

/-! ## Two buyers and one use -/

/-- A code that may be used once, and two buyers. -/
def oneUse : PurchaseDb where
  users := [1, 2]
  promoCodes := [⟨30, "SPRING", 10, none, 1, 0, none, none, "all", true⟩]
  payments := []

def plainShop : Shop where
  upper := id
  donatepayPageUrl := ""

def purchaseOf (userId paymentId : Uuid) : PurchaseRequest :=
  ⟨userId, "monthly", some "SPRING", 0, paymentId⟩

/-- The second buyer asks for the code once the first has paid with it. -/
def oneBuyerAfterAnother : List (Event PurchaseRequest) :=
  [.submit (purchaseOf 1 100), .submit (purchaseOf 2 101), .advance 0, .advance 0, .advance 1,
    .advance 1]

theorem withinLimit_iff_oneBuyerAfterAnother :
    ((Machine.run (purchases plainShop).worldStep ⟨oneUse, []⟩
      (oneBuyerAfterAnother.map (Event.map .validate))).1.db.paymentsBy "SPRING").length = 1 ∧
      ∀ n, WithinLimit oneUse ⟨30, "SPRING", 10, none, 1, 0, none, none, "all", true⟩
        (Machine.run (purchases plainShop).worldStep ⟨oneUse, []⟩
          ((oneBuyerAfterAnother.map (Event.map .validate)).take n)).1.db :=
  ⟨by decide +kernel, (withinLimit_iff plainShop ⟨by decide, by decide⟩ (by decide) (by decide)
    oneBuyerAfterAnother).mpr (by decide +kernel)⟩

/-- Both buyers ask before either pays. -/
def bothAsk : List (Event PurchaseRequest) :=
  [.submit (purchaseOf 1 100), .submit (purchaseOf 2 101), .advance 0, .advance 1, .advance 0,
    .advance 1]

/-- The code is used twice, and counts one use. -/
theorem two_payments_for_one_use :
    let db := (Machine.run (purchases plainShop).worldStep ⟨oneUse, []⟩
      (bothAsk.map (Event.map .validate))).1.db
    (db.paymentsBy "SPRING").length = 2 ∧ (db.promosWith "SPRING").map (·.currentUses) = [1] ∧
      ¬ WithinLimit oneUse ⟨30, "SPRING", 10, none, 1, 0, none, none, "all", true⟩ db := by
  decide +kernel

end PlgBooster.Server
