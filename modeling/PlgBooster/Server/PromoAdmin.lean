import PlgBooster.Server.Promo

/-!
# Making promo codes

An administrator's `create_promo` stores a code as it is given and looks for a duplicate of
exactly that text. `validate_promo` looks for the upper-case form of what a buyer types. The
two agree on the codes that are their own upper-case form, and on no others.
-/

namespace PlgBooster.Server

/-- The body of `create_promo`. -/
structure AdminPromoCreate where
  code : String
  discountPercent : Int := 0
  discountAmount : Option Rat := none
  maxUses : Int := 0
  validFrom : Option DateTime := none
  validUntil : Option DateTime := none
  applicablePlans : String := "all"
  isActive : Bool := true
  deriving DecidableEq, Repr

/-- `PromoCode(**body.model_dump())`, with the key it gets at the flush. -/
def AdminPromoCreate.stored (body : AdminPromoCreate) (id : Uuid) : PromoCode where
  id := id
  code := body.code
  discountPercent := body.discountPercent
  discountAmount := body.discountAmount
  maxUses := body.maxUses
  currentUses := 0
  validFrom := body.validFrom
  validUntil := body.validUntil
  applicablePlans := body.applicablePlans
  isActive := body.isActive

/-- The two unique columns of `promo_codes`. -/
def AcceptsPromo (promoCodes : List PromoCode) (row : PromoCode) : Prop :=
  ∀ p ∈ promoCodes, p.id ≠ row.id ∧ p.code ≠ row.code

instance (promoCodes : List PromoCode) (row : PromoCode) :
    Decidable (AcceptsPromo promoCodes row) :=
  inferInstanceAs (Decidable (∀ _ ∈ _, _))

/-- `create_promo`. -/
def createPromo (promoCodes : List PromoCode) (id : Uuid) (body : AdminPromoCreate) :
    List PromoCode × Except ServiceError PromoCode :=
  match scalarOneOrNone (Table.select (·.code) body.code promoCodes) with
  | .error e => (promoCodes, .error e)
  | .ok (some _) => (promoCodes, .error (.httpException 409 "Promo code already exists"))
  | .ok none =>
      let promo := body.stored id
      if AcceptsPromo promoCodes promo then (promoCodes ++ [promo], .ok promo)
      else (promoCodes, .error .integrityError)

/-- The body of `update_promo`: a field is unset, null or a value. -/
structure AdminPromoUpdate where
  code : Option (Option String) := none
  discountPercent : Option (Option Int) := none
  discountAmount : Option (Option Rat) := none
  maxUses : Option (Option Int) := none
  validFrom : Option (Option DateTime) := none
  validUntil : Option (Option DateTime) := none
  applicablePlans : Option (Option String) := none
  isActive : Option (Option Bool) := none
  deriving DecidableEq, Repr

/-- Some field is null whose column takes no null. -/
def AdminPromoUpdate.hasNull (body : AdminPromoUpdate) : Bool :=
  body.code == some none || body.discountPercent == some none || body.maxUses == some none ||
    body.applicablePlans == some none || body.isActive == some none

/-- Set the fields that the body sets. -/
def AdminPromoUpdate.apply (body : AdminPromoUpdate) (promo : PromoCode) : PromoCode :=
  { promo with
    code := body.code.join.getD promo.code
    discountPercent := body.discountPercent.join.getD promo.discountPercent
    discountAmount := body.discountAmount.getD promo.discountAmount
    maxUses := body.maxUses.join.getD promo.maxUses
    validFrom := body.validFrom.getD promo.validFrom
    validUntil := body.validUntil.getD promo.validUntil
    applicablePlans := body.applicablePlans.join.getD promo.applicablePlans
    isActive := body.isActive.join.getD promo.isActive }

/-- `update_promo`. -/
def updatePromo (promoCodes : List PromoCode) (promoId : Uuid) (body : AdminPromoUpdate) :
    List PromoCode × Except ServiceError PromoCode :=
  match scalarOneOrNone (Table.select (·.id) promoId promoCodes) with
  | .error e => (promoCodes, .error e)
  | .ok none => (promoCodes, .error (.httpException 404 "Promo not found"))
  | .ok (some promo) =>
      if body.hasNull ∨ ∃ p ∈ promoCodes, p.id ≠ promoId ∧ p.code = (body.apply promo).code then
        (promoCodes, .error .integrityError)
      else (Table.update (·.id) promoId body.apply promoCodes, .ok (body.apply promo))

/-- `delete_promo`, which only deactivates. -/
def deletePromo (promoCodes : List PromoCode) (promoId : Uuid) :
    List PromoCode × Except ServiceError PromoCode :=
  match scalarOneOrNone (Table.select (·.id) promoId promoCodes) with
  | .error e => (promoCodes, .error e)
  | .ok none => (promoCodes, .error (.httpException 404 "Promo not found"))
  | .ok (some promo) =>
      (Table.update (·.id) promoId (fun promo => { promo with isActive := false }) promoCodes,
        .ok { promo with isActive := false })

/-! ## The table over time -/

/-- The table after some calls of `create_promo`, from an empty one. -/
def createAll (requests : List (Uuid × AdminPromoCreate)) : List PromoCode :=
  requests.foldl (fun promoCodes request => (createPromo promoCodes request.1 request.2).1) []

/-- What can happen to the promo codes that are there. -/
inductive PromoEdit where
  | update (promoId : Uuid) (body : AdminPromoUpdate)
  | delete (promoId : Uuid)
  /-- The write of a purchase. -/
  | use (promoId : Uuid) (uses : Int)

def PromoEdit.apply (promoCodes : List PromoCode) : PromoEdit → List PromoCode
  | .update promoId body => (updatePromo promoCodes promoId body).1
  | .delete promoId => (deletePromo promoCodes promoId).1
  | .use promoId uses => Table.update (·.id) promoId (·.setUses uses) promoCodes

/-- An edit that renames no promo code. -/
def PromoEdit.KeepsCode : PromoEdit → Prop
  | .update _ body => body.code = none
  | .delete _ => True
  | .use _ _ => True

/-- What the codes of a table are for: at any later time a promo code that is active and can
be redeemed is found under the text it was created with, and no two stand for each other. -/
structure CodesWork (shop : Shop) (promoCodes : List PromoCode) : Prop where
  found : ∀ edits : List PromoEdit, (∀ edit ∈ edits, edit.KeepsCode) →
    let later := edits.foldl PromoEdit.apply promoCodes
    ∀ promo ∈ later, promo.isActive = true → ∀ now plan, redeemable now plan promo = true →
      validatePromo shop later now promo.code plan = .ok (some promo)
  distinct : ∀ first ∈ promoCodes, ∀ second ∈ promoCodes,
    shop.upper first.code = shop.upper second.code → first = second

/-! ## The unique columns -/

/-- The columns that a promo code is found by. -/
def PromoCode.keys (promo : PromoCode) : Uuid × String := (promo.id, promo.code)

structure UniqueKeys (promoCodes : List PromoCode) : Prop where
  ids : (promoCodes.map (·.id)).Nodup
  codes : (promoCodes.map (·.code)).Nodup

theorem UniqueKeys.of_keys_eq {promoCodes later : List PromoCode} (unique : UniqueKeys promoCodes)
    (same : later.map (·.keys) = promoCodes.map (·.keys)) : UniqueKeys later := by
  have ids := congrArg (List.map Prod.fst) same
  have codes := congrArg (List.map Prod.snd) same
  simp only [List.map_map, Function.comp_def, PromoCode.keys] at ids codes
  exact ⟨ids ▸ unique.ids, codes ▸ unique.codes⟩

/-- A call of `create_promo` stores a promo code with new keys, or leaves the table alone. -/
theorem createPromo_cases (promoCodes : List PromoCode) (id : Uuid) (body : AdminPromoCreate) :
    (createPromo promoCodes id body).1 = promoCodes ∨
    AcceptsPromo promoCodes (body.stored id) ∧
      createPromo promoCodes id body = (promoCodes ++ [body.stored id], .ok (body.stored id)) := by
  cases found : scalarOneOrNone (Table.select (·.code) body.code promoCodes) with
  | error e => exact .inl (by simp only [createPromo, found])
  | ok existing =>
      cases existing with
      | some promo => exact .inl (by simp only [createPromo, found])
      | none =>
          by_cases accepted : AcceptsPromo promoCodes (body.stored id)
          · exact .inr ⟨accepted, by simp only [createPromo, found, accepted, if_true]⟩
          · exact .inl (by simp only [createPromo, found, accepted, if_false])

theorem UniqueKeys.append {promoCodes : List PromoCode} (unique : UniqueKeys promoCodes)
    {row : PromoCode} (accepted : AcceptsPromo promoCodes row) :
    UniqueKeys (promoCodes ++ [row]) := by
  have new {β : Type} {column : PromoCode → β} (distinct : (promoCodes.map column).Nodup)
      (fresh : ∀ p ∈ promoCodes, column p ≠ column row) :
      ((promoCodes ++ [row]).map column).Nodup := by
    rw [List.map_append]
    refine List.nodup_append.mpr ⟨distinct, List.nodup_singleton _, ?_⟩
    rintro a before _ here rfl
    obtain ⟨p, member, rfl⟩ := List.mem_map.mp before
    exact fresh p member (List.mem_singleton.mp here)
  exact ⟨new unique.ids fun p member => (accepted p member).1,
    new unique.codes fun p member => (accepted p member).2⟩

theorem uniqueKeys_createAll (requests : List (Uuid × AdminPromoCreate)) :
    UniqueKeys (createAll requests) := by
  have general : ∀ promoCodes, UniqueKeys promoCodes → UniqueKeys (requests.foldl
      (fun promoCodes request => (createPromo promoCodes request.1 request.2).1) promoCodes) := by
    induction requests with
    | nil => exact fun _ unique => unique
    | cons request rest ih =>
        intro promoCodes unique
        rw [List.foldl_cons]
        apply ih
        rcases createPromo_cases promoCodes request.1 request.2 with same | ⟨accepted, created⟩
        · rw [same]
          exact unique
        · rw [created]
          exact unique.append accepted
  exact general [] ⟨List.nodup_nil, List.nodup_nil⟩

/-- An edit that renames nothing changes no key. -/
theorem keys_apply (promoCodes : List PromoCode) {edit : PromoEdit} (keeps : edit.KeepsCode) :
    (edit.apply promoCodes).map (·.keys) = promoCodes.map (·.keys) := by
  cases edit with
  | update promoId body =>
      have unset : body.code = none := keeps
      simp only [PromoEdit.apply, updatePromo]
      split
      · rfl
      · rfl
      · split_ifs
        · rfl
        · exact Table.map_update (f := body.apply)
            (fun promo => by simp [PromoCode.keys, AdminPromoUpdate.apply, unset]) promoId _
  | delete promoId =>
      simp only [PromoEdit.apply, deletePromo]
      split
      · rfl
      · rfl
      · exact Table.map_update (f := fun promo : PromoCode => { promo with isActive := false })
          (fun _ => rfl) promoId _
  | use promoId uses =>
      exact Table.map_update (f := fun promo : PromoCode => promo.setUses uses)
        (fun _ => rfl) promoId _

theorem keys_edits (promoCodes : List PromoCode) {edits : List PromoEdit}
    (keep : ∀ edit ∈ edits, edit.KeepsCode) :
    (edits.foldl PromoEdit.apply promoCodes).map (·.keys) = promoCodes.map (·.keys) := by
  induction edits generalizing promoCodes with
  | nil => rfl
  | cons edit rest ih =>
      rw [List.foldl_cons, ih _ fun other member => keep other (List.mem_cons_of_mem _ member),
        keys_apply promoCodes (keep edit List.mem_cons_self)]

/-! ## Looking up what was stored -/

variable {shop : Shop}

theorem mem_activePromos {promoCodes : List PromoCode} {code : String} {promo : PromoCode} :
    promo ∈ activePromos shop promoCodes code ↔
      promo ∈ promoCodes ∧ promo.code = shop.upper code ∧ promo.isActive = true := by
  simp [activePromos]

/-- An active promo code is found under every text with its code as upper-case form. -/
theorem activePromos_eq_singleton {promoCodes : List PromoCode}
    (codes : (promoCodes.map (·.code)).Nodup) {promo : PromoCode} (member : promo ∈ promoCodes)
    (active : promo.isActive = true) {code : String} (stands : promo.code = shop.upper code) :
    activePromos shop promoCodes code = [promo] := by
  have only : promoCodes.filter (fun p => p.code = shop.upper code) = [promo] :=
    stands ▸ Table.select_of_nodup codes member
  have both : activePromos shop promoCodes code =
      (promoCodes.filter fun p => p.code = shop.upper code).filter fun p => p.isActive := by
    simp [activePromos, List.filter_filter, Bool.and_comm]
  rw [both, only]
  simp [active]

theorem validatePromo_of_singleton {promoCodes : List PromoCode} {code : String}
    {promo : PromoCode} (only : activePromos shop promoCodes code = [promo]) (now : DateTime)
    (plan : String) :
    validatePromo shop promoCodes now code plan =
      .ok (if redeemable now plan promo then some promo else none) := by
  simp only [validatePromo, only, scalarOneOrNone, Option.filter_some]

/-- What `validate_promo` returns has the upper-case form of the text as its code. -/
theorem code_of_validatePromo {promoCodes : List PromoCode} {now : DateTime} {code plan : String}
    {promo : PromoCode} (valid : validatePromo shop promoCodes now code plan = .ok (some promo)) :
    promo.code = shop.upper code :=
  (mem_activePromos.mp (selected_of_validatePromo valid).1).2.1

/-- The edit that makes a promo code redeemable by everyone at any time. -/
def openUp : AdminPromoUpdate where
  maxUses := some (some 0)
  validFrom := some none
  validUntil := some none
  applicablePlans := some (some "all")
  isActive := some (some true)

theorem redeemable_openUp (now : DateTime) (plan : String) (promo : PromoCode) :
    redeemable now plan (openUp.apply promo) = true := by
  simp [redeemable, openUp, AdminPromoUpdate.apply]

theorem mem_updatePromo_openUp {promoCodes : List PromoCode} (unique : UniqueKeys promoCodes)
    {promo : PromoCode} (member : promo ∈ promoCodes) :
    openUp.apply promo ∈ (updatePromo promoCodes promo.id openUp).1 := by
  have only : Table.select (·.id) promo.id promoCodes = [promo] :=
    Table.select_of_nodup unique.ids member
  have allowed : ¬ (openUp.hasNull = true ∨
      ∃ p ∈ promoCodes, p.id ≠ promo.id ∧ p.code = (openUp.apply promo).code) := by
    rintro (null | ⟨p, inTable, other, same⟩)
    · cases null
    · exact other (List.inj_on_of_nodup_map unique.codes inTable member same ▸ rfl)
  simp only [updatePromo, only, scalarOneOrNone, if_neg allowed]
  exact Table.mem_update.mpr (.inl ⟨promo, member, rfl, rfl⟩)

/-- A shop that writes in ASCII. -/
def asciiShop : Shop where
  upper := String.toUpper
  donatepayPageUrl := ""

end PlgBooster.Server
