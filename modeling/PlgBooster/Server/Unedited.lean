import PlgBooster.Server.Books

/-!
# Where no administrator edits

A subscription is then as it was, but for a cancellation by its user, or a request has created
it. A user's tier and expiry are as they were, as those of a new user, or as a new subscription of the user has
set them. That is said once of a single step, and a run composes the steps.
-/

namespace PlgBooster.Server

open Transaction

/-! ## Statements -/

/-- A subscription but for its cancellation. -/
def Subscription.uncancelled (subscription : Subscription) : Subscription :=
  { subscription with cancelledAt := none }

/-- A subscription is as before, but for a cancellation that its user has asked for. -/
structure Subscription.AsBefore (asked : LedgerRequest → Prop) (before after : Subscription) :
    Prop where
  same : after.uncancelled = before.uncancelled
  cancelled : after.cancelledAt = before.cancelledAt ∨
    ∃ now, asked (.user after.userId (.cancelSubscription now)) ∧ after.cancelledAt = some now

/-- A subscription of the user that was not there at the start. -/
structure Gained (start db : LedgerDb) (userId : Uuid) (subscription : Subscription) : Prop where
  inTable : subscription ∈ db.subscriptions
  owner : subscription.userId = userId
  new : ∀ s ∈ start.subscriptions, s.id ≠ subscription.id

/-- A column of the users that the creation of a subscription sets. -/
structure CopiedColumn (α : Type) where
  read : LedgerUser → α
  /-- What a new user has. -/
  initial : α
  set : Subscription → α
  congr : ∀ s s', s'.uncancelled = s.uncancelled → set s' = set s

def tierColumn : CopiedColumn String where
  read := (·.subscriptionTier)
  initial := "free"
  set := (·.plan)
  congr _ _ same := (congrArg (·.plan) same :)

def expiryColumn : CopiedColumn (Option DateTime) where
  read := (·.subscriptionExpiresAt)
  initial := none
  set subscription := some subscription.expiresAt
  congr _ _ same := (congrArg (fun s => some s.expiresAt) same :)

/-- A value that a user had at the start, that a new user has, or that a new subscription of the
user has set. -/
inductive Earned {α : Type} (column : CopiedColumn α) (start db : LedgerDb) (userId : Uuid)
    (value : α) : Prop
  | before (u : LedgerUser) (inTable : u ∈ start.users) (same : u.id = userId)
      (had : column.read u = value)
  | registered (new : ∀ u ∈ start.users, u.id ≠ userId) (initial : column.initial = value)
  | gained (s : Subscription) (gained : Gained start db userId s) (set : column.set s = value)

/-- A subscription as a request creates it, but for a cancellation by its user: for its plan,
active, and up to the end that is computed, for a delivery from an expiry that its user has had. -/
inductive Created (asked : LedgerRequest → Prop) (start db : LedgerDb) (s : Subscription) : Prop
  | trial (now expiresAt : DateTime) (known : asked (.user s.userId (.activateTrial now s.id)))
      (ends : addDays now 7 = .ok expiresAt)
      (row : (newSubscription s.id s.userId "trial" now expiresAt).AsBefore asked s)
  | delivered (req : Webhook) (current : Option DateTime) (expiresAt : DateTime)
      (known : asked (.webhook req)) (key : s.id = req.subscriptionId)
      (had : Earned expiryColumn start db s.userId current)
      (ends : calculateExpiry req.expiryNow s.plan current = .ok expiresAt)
      (row : (newSubscription s.id s.userId s.plan req.now expiresAt).AsBefore asked s)

/-- What no administrator has edited: there is no other administrator than before, the promo codes
have at most other counts, the subscriptions of the start are the same but for cancellations by
their users, all others are as they were created, and users have the tier and the expiry that they
had or that a new subscription has given them. -/
structure Unadministered (asked : LedgerRequest → Prop) (start db : LedgerDb) : Prop where
  admins : ∀ u ∈ db.users, u.isAdmin = true →
    ∃ u₀ ∈ start.users, u₀.id = u.id ∧ u₀.isAdmin = true
  promos : db.promoCodes.map (·.settings) = start.promoCodes.map (·.settings)
  subscriptions : ∀ s ∈ db.subscriptions,
    (∃ s₀ ∈ start.subscriptions, s₀.AsBefore asked s) ∨
      (∀ s₀ ∈ start.subscriptions, s₀.id ≠ s.id) ∧ Created asked start db s
  tiers : ∀ u ∈ db.users, Earned tierColumn start db u.id u.subscriptionTier
  expiries : ∀ u ∈ db.users, Earned expiryColumn start db u.id u.subscriptionExpiresAt

/-- A step that is no edit, in a run from the start. -/
structure Plain (asked : LedgerRequest → Prop) (start db db' : LedgerDb) : Prop where
  admins : ∀ u ∈ db'.users, u.isAdmin = true → ∃ u₀ ∈ db.users, u₀.id = u.id ∧ u₀.isAdmin = true
  promos : db'.promoCodes.map (·.settings) = db.promoCodes.map (·.settings)
  kept : ∀ s ∈ db.subscriptions, ∃ s' ∈ db'.subscriptions, s'.uncancelled = s.uncancelled
  subscriptions : ∀ s ∈ db'.subscriptions,
    (∃ s₀ ∈ db.subscriptions, s₀.AsBefore asked s) ∨
      (∀ s₀ ∈ db.subscriptions, s₀.id ≠ s.id) ∧ Created asked start db s
  tiers : ∀ u ∈ db'.users, Earned tierColumn db db' u.id u.subscriptionTier
  expiries : ∀ u ∈ db'.users, Earned expiryColumn db db' u.id u.subscriptionExpiresAt

variable {asked : LedgerRequest → Prop} {start db db' : LedgerDb}

/-! ## Runs of steps -/

theorem uncancelled_eq {s s' : Subscription} (same : s'.uncancelled = s.uncancelled) :
    s'.id = s.id ∧ s'.userId = s.userId ∧ s'.plan = s.plan :=
  ⟨congrArg (·.id) same, congrArg (·.userId) same, congrArg (·.plan) same⟩

theorem Subscription.AsBefore.refl (s : Subscription) : s.AsBefore asked s := ⟨rfl, .inl rfl⟩

theorem Subscription.AsBefore.trans {s s' s'' : Subscription} (first : s.AsBefore asked s')
    (second : s'.AsBefore asked s'') : s.AsBefore asked s'' where
  same := second.same.trans first.same
  cancelled := by
    rcases second.cancelled with kept | own
    · obtain ⟨_, owner, _⟩ := uncancelled_eq second.same
      rw [kept, owner]
      exact first.cancelled
    · exact .inr own

section Earned

variable {α : Type} {column : CopiedColumn α} {userId : Uuid} {value : α}

theorem Earned.of_mem {u : LedgerUser} (inTable : u ∈ db.users) :
    Earned column db db' u.id (column.read u) := .before u inTable rfl rfl

/-- What a user has had is not lost with a step. -/
theorem Earned.mono (earned : Earned column start db userId value)
    (kept : ∀ s ∈ db.subscriptions, ∃ s' ∈ db'.subscriptions, s'.uncancelled = s.uncancelled) :
    Earned column start db' userId value := by
  cases earned with
  | before u inTable same had => exact .before u inTable same had
  | registered new initial => exact .registered new initial
  | gained s gained set =>
      obtain ⟨s', inTable, same⟩ := kept s gained.inTable
      obtain ⟨key, owner, _⟩ := uncancelled_eq same
      refine .gained s' ⟨inTable, owner.trans gained.owner, ?_⟩ ((column.congr s s' same).trans set)
      exact fun s₀ member => key ▸ gained.new s₀ member

/-- What the last step has given or left comes after what the steps before it have. -/
theorem Earned.after (grows : Grows start db)
    (kept : ∀ s ∈ db.subscriptions, ∃ s' ∈ db'.subscriptions, s'.uncancelled = s.uncancelled)
    (earlier : ∀ u ∈ db.users, Earned column start db u.id (column.read u))
    (last : Earned column db db' userId value) : Earned column start db' userId value := by
  cases last with
  | before u inTable same had => exact same ▸ had ▸ (earlier u inTable).mono kept
  | registered new initial =>
      refine .registered (fun u₀ member same => ?_) initial
      obtain ⟨u, inTable, key, _⟩ := grows.users u₀ member
      exact new u inTable (key.trans same)
  | gained s gained set =>
      refine .gained s ⟨gained.inTable, gained.owner, fun s₀ member same => ?_⟩ set
      obtain ⟨s', inTable, terms⟩ := grows.subscriptions s₀ member
      exact gained.new s' inTable ((terms_eq terms).1.trans same)

end Earned

/-- A subscription as it was created stays so with every step, cancelled or not. -/
theorem Created.mono {s s' : Subscription} (created : Created asked start db s)
    (asBefore : s.AsBefore asked s')
    (kept : ∀ s ∈ db.subscriptions, ∃ s' ∈ db'.subscriptions, s'.uncancelled = s.uncancelled) :
    Created asked start db' s' := by
  obtain ⟨key, owner, plan⟩ := uncancelled_eq asBefore.same
  cases created with
  | trial now expiresAt known ends row =>
      rw [← key, ← owner] at known row
      exact .trial now expiresAt known ends (row.trans asBefore)
  | delivered req current expiresAt known named had ends row =>
      rw [← owner] at had row
      rw [← plan] at ends row
      rw [← key] at named row
      exact .delivered req current expiresAt known named (had.mono kept) ends (row.trans asBefore)

theorem Unadministered.refl (db : LedgerDb) : Unadministered asked db db :=
  ⟨fun u member admin => ⟨u, member, rfl, admin⟩, rfl, fun s member => .inl ⟨s, member, .refl s⟩,
    fun _ member => .of_mem member, fun _ member => .of_mem member⟩

theorem Unadministered.step (before : Unadministered asked start db)
    (plain : Plain asked start db db') (grows : Grows start db) :
    Unadministered asked start db' where
  admins u member admin := by
    obtain ⟨u', member', same, admin'⟩ := plain.admins u member admin
    obtain ⟨u₀, member₀, same₀, admin₀⟩ := before.admins u' member' admin'
    exact ⟨u₀, member₀, same₀.trans same, admin₀⟩
  promos := plain.promos.trans before.promos
  subscriptions s member := by
    rcases plain.subscriptions s member with ⟨s', member', same⟩ | ⟨new, created⟩
    · rcases before.subscriptions s' member' with ⟨s₀, member₀, same₀⟩ | ⟨new, created⟩
      · exact .inl ⟨s₀, member₀, same₀.trans same⟩
      · exact .inr ⟨(uncancelled_eq same.same).1 ▸ new, created.mono same plain.kept⟩
    · refine .inr ⟨fun s₀ member₀ same => ?_, created.mono (.refl s) plain.kept⟩
      obtain ⟨s', member', terms⟩ := grows.subscriptions s₀ member₀
      exact new s' member' ((terms_eq terms).1.trans same)
  tiers u member := (plain.tiers u member).after grows plain.kept before.tiers
  expiries u member := (plain.expiries u member).after grows plain.kept before.expiries

/-! ## The steps that are no edits -/

theorem Plain.refl (db : LedgerDb) : Plain asked start db db :=
  ⟨fun u member admin => ⟨u, member, rfl, admin⟩, rfl, fun s member => ⟨s, member, rfl⟩,
    fun s member => .inl ⟨s, member, .refl s⟩, fun _ member => .of_mem member,
    fun _ member => .of_mem member⟩

theorem netWrite_cases {α : Type} [DecidableEq α] (loaded new current : α) :
    netWrite loaded new current = current ∨ netWrite loaded new current = new := by
  unfold netWrite
  split_ifs
  · exact .inl rfl
  · exact .inr rfl

/-- A value that is written is that of a new subscription of the user, or the column stays. -/
theorem earned_of_update {α : Type} [DecidableEq α] (column : CopiedColumn α)
    {f : LedgerUser → LedgerUser} {id : Uuid} {loaded : α} {s : Subscription}
    (keeps : ∀ row, (f row).id = row.id)
    (writes : ∀ row, column.read (f row) = netWrite loaded (column.set s) (column.read row))
    (gained : Gained db db' id s) :
    ∀ u ∈ Table.update (·.id) id f db.users, Earned column db db' u.id (column.read u) := by
  intro u member
  rcases Table.mem_update.mp member with ⟨row, inTable, same, rfl⟩ | ⟨inTable, _⟩
  · rw [keeps, writes]
    rcases netWrite_cases loaded (column.set s) (column.read row) with kept | written
    · exact .before row inTable rfl kept.symm
    · exact .gained s (same ▸ gained) written.symm
  · exact .of_mem inTable

/-- Rows whose keys and flags stay make nobody an administrator. -/
theorem admins_of_update {rows : List LedgerUser} {f : LedgerUser → LedgerUser} {id : Uuid}
    (keeps : ∀ row, (f row).id = row.id ∧ (f row).isAdmin = row.isAdmin) :
    ∀ u ∈ Table.update (·.id) id f rows, u.isAdmin = true →
      ∃ u₀ ∈ rows, u₀.id = u.id ∧ u₀.isAdmin = true := by
  intro u member admin
  rcases Table.mem_update.mp member with ⟨row, inTable, _, rfl⟩ | ⟨inTable, _⟩
  · exact ⟨row, inTable, (keeps row).1.symm, (keeps row).2.symm.trans admin⟩
  · exact ⟨u, inTable, rfl, admin⟩

/-- The step that inserts a subscription and copies it to its user. -/
theorem plain_insert {s : Subscription} {f : LedgerUser → LedgerUser} {tier : String}
    {expiry : Option DateTime} (users : db'.users = Table.update (·.id) s.userId f db.users)
    (subscriptions : db'.subscriptions = db.subscriptions ++ [s])
    (promos : db'.promoCodes = db.promoCodes)
    (keeps : ∀ row, (f row).id = row.id ∧ (f row).isAdmin = row.isAdmin ∧
      (f row).subscriptionTier = netWrite tier s.plan row.subscriptionTier ∧
      (f row).subscriptionExpiresAt = netWrite expiry (some s.expiresAt) row.subscriptionExpiresAt)
    (new : ∀ s₀ ∈ db.subscriptions, s₀.id ≠ s.id) (created : Created asked start db s) :
    Plain asked start db db' := by
  have inserted : s ∈ db'.subscriptions :=
    subscriptions ▸ List.mem_append_right _ (List.mem_singleton_self s)
  have gained : Gained db db' s.userId s := ⟨inserted, rfl, new⟩
  refine ⟨?_, congrArg _ promos, ?_, ?_, ?_, ?_⟩
  · rw [users]
    exact admins_of_update fun row => ⟨(keeps row).1, (keeps row).2.1⟩
  · intro s₀ member
    exact ⟨s₀, subscriptions ▸ List.mem_append_left _ member, rfl⟩
  · rw [subscriptions]
    exact List.forall_mem_append.mpr
      ⟨fun s₀ member => .inl ⟨s₀, member, .refl s₀⟩,
        List.forall_mem_singleton.mpr (.inr ⟨new, created⟩)⟩
  · rw [users]
    exact earned_of_update tierColumn (fun row => (keeps row).1)
      (fun row => (keeps row).2.2.1) gained
  · rw [users]
    exact earned_of_update expiryColumn (fun row => (keeps row).1)
      (fun row => (keeps row).2.2.2) gained

theorem plain_credit {req : Webhook} {payment : Payment} {user : User} {expiresAt : DateTime}
    (known : asked (.webhook req))
    (had : Earned expiryColumn start db user.id user.subscriptionExpiresAt)
    (expiry : calculateExpiry req.expiryNow payment.plan user.subscriptionExpiresAt = .ok expiresAt)
    (accepted : db.billing.Accepts (req.subscription payment user expiresAt)) :
    Plain asked start db (db.credit req payment user expiresAt) :=
  plain_insert (s := req.subscription payment user expiresAt) rfl rfl rfl
    (fun _ => ⟨rfl, rfl, rfl, rfl⟩) accepted.1
    (.delivered req user.subscriptionExpiresAt expiresAt known rfl had expiry (.refl _))

theorem plain_trial {user : LedgerUser} {id : Uuid} {now expiresAt : DateTime}
    (known : asked (.user user.id (.activateTrial now id)))
    (ends : addDays now 7 = .ok expiresAt)
    (accepted : db.billing.Accepts (newSubscription id user.id "trial" now expiresAt)) :
    Plain asked start db ((db.insertSubscription
      (newSubscription id user.id "trial" now expiresAt)).writeUser user
        { user with toUser := user.toUser.startTrial expiresAt }) :=
  plain_insert (s := newSubscription id user.id "trial" now expiresAt) rfl rfl rfl
    (fun _ => ⟨rfl, netWrite_self _ _, rfl, rfl⟩) accepted.1
    (.trial now expiresAt known ends (.refl _))

theorem plain_cancel {subscription : Subscription} {userId : Uuid} {now : DateTime}
    (known : asked (.user userId (.cancelSubscription now)))
    (owns : ∀ row ∈ db.subscriptions, row.id = subscription.id → row.userId = userId) :
    Plain asked start db (db.writeSubscription subscription (subscription.cancel now)) := by
  have same (row : Subscription) :
      (subscription.write (subscription.cancel now) row).uncancelled = row.uncancelled := by
    simp only [Subscription.uncancelled, Subscription.write, Subscription.cancel, netWrite_self]
  refine ⟨fun u member admin => ⟨u, member, rfl, admin⟩, rfl, ?_, ?_,
    fun _ member => .of_mem member, fun _ member => .of_mem member⟩
  · intro s member
    exact Table.exists_mem_update (r := fun s s' : Subscription => s'.uncancelled = s.uncancelled)
      (fun _ => rfl) (fun row _ => same row) member
  · intro s member
    rcases Table.mem_update.mp member with ⟨row, inTable, key, rfl⟩ | ⟨inTable, _⟩
    · refine .inl ⟨row, inTable, same row, ?_⟩
      refine (netWrite_cases subscription.cancelledAt (some now) row.cancelledAt).imp_right ?_
      intro written
      exact ⟨now, (owns row inTable key).symm ▸ known, written⟩
    · exact .inl ⟨s, inTable, .refl s⟩

theorem plain_purchase {req : PurchaseRequest} {info : PlanInfo} {promo : Option PromoCode} :
    Plain asked start db (db.purchase req info promo) := by
  refine ⟨fun u member admin => ⟨u, member, rfl, admin⟩, ?_, fun s member => ⟨s, member, rfl⟩,
    fun s member => .inl ⟨s, member, .refl s⟩, fun _ member => .of_mem member,
    fun _ member => .of_mem member⟩
  cases promo with
  | none => rfl
  | some promo =>
      exact Table.map_update (f := (PromoCode.setUses · (promo.currentUses + 1))) (fun _ => rfl) _ _

theorem plain_register {id : Uuid} (fresh : db.usersWith id = []) :
    Plain asked start db { db with users := db.users ++ [⟨registeredUser id, false⟩] } := by
  have new : ∀ u ∈ db.users, u.id ≠ id := fun u member same =>
    List.filter_eq_nil_iff.mp fresh u member (decide_eq_true same)
  exact
    { admins := List.forall_mem_append.mpr ⟨fun u member admin => ⟨u, member, rfl, admin⟩,
        List.forall_mem_singleton.mpr fun admin => absurd admin Bool.false_ne_true⟩
      promos := rfl
      kept := fun s member => ⟨s, member, rfl⟩
      subscriptions := fun s member => .inl ⟨s, member, .refl s⟩
      tiers := List.forall_mem_append.mpr ⟨fun _ member => .of_mem member,
        List.forall_mem_singleton.mpr (.registered new rfl)⟩
      expiries := List.forall_mem_append.mpr ⟨fun _ member => .of_mem member,
        List.forall_mem_singleton.mpr (.registered new rfl)⟩ }

end PlgBooster.Server
