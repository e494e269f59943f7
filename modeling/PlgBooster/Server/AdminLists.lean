import PlgBooster.Library.Pagination
import PlgBooster.Library.Significand
import PlgBooster.Server.Promo

/-!
# The lists of the admin panel

The four lists answer with one page of the matching rows, newest first, and with the number of
pages. Each page is cut out of the answer to a query of its own, and `created_at` is all that
these queries are ordered by: rows of one transaction share it, and the database may put them
in a different order each time. The number of pages is a float division rounded up.
-/

namespace PlgBooster.Server

open Pagination

/-! ## Rows, as the panel shows them -/

structure AdminUserResponse extends User where
  email : String
  username : String
  isAdmin : Bool
  createdAt : DateTime
  updatedAt : DateTime
  deriving DecidableEq, Repr

/-- `F` is the type of the two float columns, which are only copied. -/
structure AdminSessionResponse (F : Type) extends Session where
  bytesSent : Int
  bytesReceived : Int
  avgPing : Option F
  packetLoss : Option F
  createdAt : DateTime
  deriving DecidableEq, Repr

structure AdminSubscriptionResponse extends Subscription where
  paymentId : Option String
  createdAt : DateTime
  deriving DecidableEq, Repr

structure AdminPaymentResponse extends Payment where
  amount : Rat
  currency : String
  promoCode : Option String
  originalAmount : Option Rat
  createdAt : DateTime
  deriving DecidableEq, Repr

/-- The four tables; `id` is the primary key of each. -/
structure AdminDb (F : Type) where
  users : List AdminUserResponse
  sessions : List (AdminSessionResponse F)
  subscriptions : List AdminSubscriptionResponse
  payments : List AdminPaymentResponse
  usersKeyed : (users.map (·.id)).Nodup
  sessionsKeyed : (sessions.map (·.id)).Nodup
  subscriptionsKeyed : (subscriptions.map (·.id)).Nodup
  paymentsKeyed : (payments.map (·.id)).Nodup

/-! ## Requests and answers -/

/-- `per_page: int = Query(20, ge=1, le=100)`. -/
structure PerPage where
  val : Nat
  ge : 1 ≤ val
  le : val ≤ 100

/-- A request for a page, with `page: int = Query(1, ge=1)`. -/
structure PageRequest where
  page : Nat
  perPage : PerPage
  ge : 1 ≤ page

structure PaginatedList (ρ : Type) where
  items : List ρ
  total : Nat
  page : Nat
  perPage : Nat
  pages : Nat

/-- `total / per_page` of two ints: the nearest float, the one with an even significand of two. -/
def trueDivide (total perPage : Nat) : ℚ := Significand.nearest quantize 53 (total / perPage)

def paginate (total _page perPage : Nat) : Nat := (max 1 ⌈trueDivide total perPage⌉).toNat

/-- What the four lists do with the matching rows: count them, and cut the page out of what
the database answers to `order_by(created_at.desc())` this time. -/
def listPage {ρ : Type} {createdAt : ρ → DateTime} {rows : List ρ} (request : PageRequest)
    (answer : Arrangement createdAt rows) : PaginatedList ρ where
  items := (answer.list.drop ((request.page - 1) * request.perPage.val)).take request.perPage.val
  total := rows.length
  page := request.page
  perPage := request.perPage.val
  pages := paginate rows.length request.page request.perPage.val

/-- A filter that is not set, or set to an empty text, is not applied. -/
def matching {ρ β : Type} (filter : Option β) (holds : β → ρ → Bool) (rows : List ρ) : List ρ :=
  match filter with
  | some value => rows.filter (holds value)
  | none => rows

/-- The users with the search text in the email or in the name. `ilike` is the database's. -/
def matchingUsers (ilike : String → String → Bool) (search : Option String)
    (users : List AdminUserResponse) : List AdminUserResponse :=
  matching (search.filter (· ≠ ""))
    (fun text user =>
      ilike user.email ("%" ++ text ++ "%") || ilike user.username ("%" ++ text ++ "%")) users

def matchingSessions {F : Type} (statusFilter : Option String) (userId : Option Uuid)
    (sessions : List (AdminSessionResponse F)) : List (AdminSessionResponse F) :=
  matching userId (fun id session => session.userId = id)
    (matching (statusFilter.filter (· ≠ "")) (fun status session => session.status = status)
      sessions)

def matchingPayments (statusFilter : Option String) (userId : Option Uuid)
    (payments : List AdminPaymentResponse) : List AdminPaymentResponse :=
  matching userId (fun id payment => payment.userId = id)
    (matching (statusFilter.filter (· ≠ "")) (fun status payment => payment.status = status)
      payments)

section Lists

variable {F : Type} (db : AdminDb F) (request : PageRequest)

def listUsers (ilike : String → String → Bool) (search : Option String)
    (answer : Arrangement (·.createdAt) (matchingUsers ilike search db.users)) :
    PaginatedList AdminUserResponse :=
  listPage request answer

def listSessions (statusFilter : Option String) (userId : Option Uuid)
    (answer : Arrangement (·.createdAt) (matchingSessions statusFilter userId db.sessions)) :
    PaginatedList (AdminSessionResponse F) :=
  listPage request answer

def listSubscriptions (answer : Arrangement (·.createdAt) db.subscriptions) :
    PaginatedList AdminSubscriptionResponse :=
  listPage request answer

def listPayments (statusFilter : Option String) (userId : Option Uuid)
    (answer : Arrangement (·.createdAt) (matchingPayments statusFilter userId db.payments)) :
    PaginatedList AdminPaymentResponse :=
  listPage request answer

end Lists

/-! ## The number of pages -/

theorem abs_quantize_sub_le (x : ℚ) : |(quantize x : ℚ) - x| ≤ 1 / 2 := by
  have low : (x.floor : ℚ) ≤ x := Rat.floor_le x
  have high : x < x.floor + 1 := by simpa using Rat.lt_floor_add_one x
  unfold quantize
  dsimp only
  rw [abs_le]
  split_ifs with first second even
  · constructor <;> linarith
  · push_cast
    constructor <;> linarith
  · constructor <;> linarith
  · push_cast
    constructor <;> linarith

/-- The rounded quotient stays above the number of pages that the rows before the last one
fill; a single page is always reported. -/
def QuotientHolds (total perPage : Nat) : Prop :=
  total ≤ perPage ∨ (((total - 1) / perPage : Nat) : ℚ) < trueDivide total perPage

instance (total perPage : Nat) : Decidable (QuotientHolds total perPage) :=
  inferInstanceAs (Decidable (_ ∨ _))

/-- The reported pages have room for all rows exactly if the quotient holds. -/
theorem le_paginate_mul_iff {total page perPage : Nat} (positive : 0 < perPage) :
    total ≤ paginate total page perPage * perPage ↔ QuotientHolds total perPage := by
  have room : total ≤ paginate total page perPage * perPage ↔
      total = 0 ∨ (total - 1) / perPage < paginate total page perPage := by
    rw [Nat.div_lt_iff_lt_mul positive]
    omega
  have single : total ≤ perPage ↔ total = 0 ∨ (total - 1) / perPage = 0 := by
    rw [Nat.div_eq_zero_iff]
    omega
  have above : (total - 1) / perPage < paginate total page perPage ↔
      (total - 1) / perPage = 0 ∨
        ((((total - 1) / perPage : Nat) : Int) : ℚ) < trueDivide total perPage := by
    rw [paginate, ← Int.lt_ceil]
    generalize (total - 1) / perPage = full
    omega
  rw [room, QuotientHolds, single, above, Int.cast_natCast, or_assoc]

/-- With fewer than `2 ^ 53` rows no page is lost in the division. -/
theorem quotientHolds_of_lt {total perPage : Nat} (positive : 0 < perPage)
    (small : total < 9007199254740992) : QuotientHolds total perPage := by
  by_cases single : total ≤ perPage
  · exact .inl single
  refine .inr ?_
  have split := Nat.div_add_mod (total - 1) perPage
  generalize (total - 1) / perPage = full at split ⊢
  have size : (0 : ℚ) < perPage := by exact_mod_cast positive
  have rows : (0 : ℚ) < total := by exact_mod_cast (by omega : 0 < total)
  have error := @Significand.abs_nearest_sub_le quantize abs_quantize_sub_le 53 _
    (div_pos rows size)
  have below : (total : ℚ) < 9007199254740992 := by exact_mod_cast small
  have filled : (perPage : ℚ) * full + 1 ≤ total := by
    exact_mod_cast (by omega : perPage * full + 1 ≤ total)
  change |trueDivide total perPage - total / perPage| * _ ≤ _ at error
  generalize trueDivide total perPage = rounded at error ⊢
  have product : (total / perPage : ℚ) * perPage = total := div_mul_cancel₀ _ (ne_of_gt size)
  generalize (total / perPage : ℚ) = quotient at error product
  -- Otherwise the error would be a whole row.
  by_contra short
  rw [not_lt] at short
  have lower : (quotient - rounded) * 9007199254740992 ≤ quotient := by
    have := neg_abs_le (rounded - quotient)
    norm_num at error
    linarith
  have scaled := mul_le_mul_of_nonneg_right lower (le_of_lt size)
  have short := mul_le_mul_of_nonneg_right short (le_of_lt size)
  have distribute : (quotient - rounded) * 9007199254740992 * perPage =
      9007199254740992 * (quotient * perPage - rounded * perPage) := by ring
  linarith

/-! ## Pages after pages -/

def PerPage.request (perPage : PerPage) (k : Nat) : PageRequest := ⟨k + 1, perPage, by omega⟩

/-- The pages from the first to the last reported one have each of the rows exactly once,
whatever the database answers to the queries. -/
def ListsOnce {ρ : Type} [DecidableEq ρ] {createdAt : ρ → DateTime} {rows : List ρ}
    (list : PageRequest → Arrangement createdAt rows → PaginatedList ρ) (perPage : PerPage) :
    Prop :=
  ∀ answer : Nat → Arrangement createdAt rows,
    let reported := (list (perPage.request 0) (answer 0)).pages
    let listed := (List.range reported).flatMap fun k => (list (perPage.request k) (answer k)).items
    ∀ row ∈ rows, listed.count row = 1

/-- The rows with one `created_at` are all on one page, and the division loses no page. -/
def PagesHold {ρ : Type} (createdAt : ρ → DateTime) (rows : List ρ) (perPage : PerPage) : Prop :=
  (∀ row ∈ rows, OnOnePage createdAt rows perPage.val row) ∧ QuotientHolds rows.length perPage.val

instance {ρ : Type} (createdAt : ρ → DateTime) (rows : List ρ) (perPage : PerPage) :
    Decidable (PagesHold createdAt rows perPage) :=
  inferInstanceAs (Decidable (_ ∧ _))

/-- Rows of different transactions are listed completely. -/
theorem pagesHold_of_nodup {ρ : Type} {createdAt : ρ → DateTime} {rows : List ρ}
    (distinct : (rows.map createdAt).Nodup) (small : rows.length < 9007199254740992)
    (perPage : PerPage) : PagesHold createdAt rows perPage :=
  ⟨fun _ member => onOnePage_of_nodup distinct member, quotientHolds_of_lt perPage.ge small⟩

theorem listsOnce_listPage_iff {ρ : Type} [DecidableEq ρ] {createdAt : ρ → DateTime}
    {rows : List ρ} (distinct : rows.Nodup) (perPage : PerPage) :
    @ListsOnce ρ _ createdAt rows listPage perPage ↔
      PagesHold createdAt rows perPage := by
  rw [PagesHold, ← @le_paginate_mul_iff rows.length 1 perPage.val perPage.ge,
    ← forall_perm_pages_iff perPage.ge distinct]
  apply forall_congr'
  intro answer
  rw [← forall_count_eq_one_iff distinct]
  rfl

theorem nodup_matching {ρ β : Type} {filter : Option β} {holds : β → ρ → Bool} {rows : List ρ}
    (distinct : rows.Nodup) : (matching filter holds rows).Nodup := by
  cases filter with
  | none => exact distinct
  | some value => exact distinct.filter _

/-- In each of the lists the reported pages have every matching row once, whatever order the
database gives rows of one `created_at` in each query, exactly if these rows are on one page
and the division loses no page. -/
theorem adminLists_once_iff {F : Type} [DecidableEq F] (db : AdminDb F) (perPage : PerPage)
    (ilike : String → String → Bool) (search statusFilter : Option String)
    (userId : Option Uuid) :
    (ListsOnce (fun request => listUsers db request ilike search) perPage ↔
        PagesHold (·.createdAt) (matchingUsers ilike search db.users) perPage) ∧
      (ListsOnce (fun request => listSessions db request statusFilter userId) perPage ↔
        PagesHold (·.createdAt) (matchingSessions statusFilter userId db.sessions) perPage) ∧
      (ListsOnce (listSubscriptions db) perPage ↔
        PagesHold (·.createdAt) db.subscriptions perPage) ∧
      (ListsOnce (fun request => listPayments db request statusFilter userId) perPage ↔
        PagesHold (·.createdAt) (matchingPayments statusFilter userId db.payments) perPage) := by
  refine ⟨?_, ?_, ?_, ?_⟩
  · apply listsOnce_listPage_iff
    exact nodup_matching db.usersKeyed.of_map
  · apply listsOnce_listPage_iff
    exact nodup_matching (nodup_matching db.sessionsKeyed.of_map)
  · apply listsOnce_listPage_iff
    exact db.subscriptionsKeyed.of_map
  · apply listsOnce_listPage_iff
    exact nodup_matching (nodup_matching db.paymentsKeyed.of_map)

/-- The division does lose a page of a hundred times `2 ^ 53` rows and one more. -/
example : ¬ QuotientHolds 900719925474099201 100 := by decide +kernel

/-- Two users of one transaction. -/
def importedUser (id : Uuid) (name : String) : AdminUserResponse where
  toUser := registeredUser id
  email := name
  username := name
  isAdmin := false
  createdAt := 0
  updatedAt := 0

def importedUsers : AdminDb Unit where
  users := [importedUser 1 "a", importedUser 2 "b"]
  sessions := []
  subscriptions := []
  payments := []
  usersKeyed := by decide
  sessionsKeyed := by decide
  subscriptionsKeyed := by decide
  paymentsKeyed := by decide

/-- The database may answer with either user first. -/
def eitherFirst (k : Nat) : Arrangement (·.createdAt) importedUsers.users :=
  if k = 0 then ⟨[importedUser 1 "a", importedUser 2 "b"], List.Perm.refl _, by decide⟩
  else ⟨[importedUser 2 "b", importedUser 1 "a"], List.Perm.swap _ _ _, by decide⟩

/-- The first user is on both pages, and the second one on none. -/
theorem importedUsers_not_listsOnce :
    ¬ ListsOnce (fun request => listUsers importedUsers request (fun _ _ => true) none)
      ⟨1, by decide, by decide⟩ := by
  intro once
  exact absurd (once eitherFirst (importedUser 2 "b") (by decide)) (by decide +kernel)

end PlgBooster.Server
