import PlgBooster.Server.Expiry

/-!
# The two views of a subscription

`get_subscribed_user` reads the user's copy of the subscription and `get_active_subscription`
the subscriptions. The views are in step if at every instant some active subscription is
still running exactly if the user's expiry is still to come.

In step, they agree at all instants but one: at the very instant of the expiry the user is
admitted and no subscription is found. A webhook and a cancellation keep them in step. A
trial does if it ends no earlier than the user's expiry, and an edit if it does not move the
latest expiry among the user's active subscriptions.
-/

namespace PlgBooster.Server

open Transaction

/-- The views give the same answer about a user at an instant. -/
def ViewsAgree (db : BillingDb) (userId : Uuid) (now : DateTime) : Prop :=
  (∃ user, getSubscribedUser db userId now = .ok user) ↔
    ∃ subscription, getActiveSubscription db userId now = some subscription

/-- Until when a subscription counts. -/
def Subscription.lasts (subscription : Subscription) : Option DateTime :=
  if subscription.isActive then some subscription.expiresAt else none

/-- Some active subscription of the user is still running after `t`. -/
def Outlasts (rows : List Subscription) (userId : Uuid) (t : DateTime) : Prop :=
  ∃ row ∈ rows, row.userId = userId ∧ ∃ expiry ∈ row.lasts, t < expiry

/-- The subscriptions of a user and the user's copy have the same end. -/
def InStep (db : BillingDb) (userId : Uuid) : Prop :=
  ∀ t, Outlasts db.subscriptions userId t ↔ ∃ expiry ∈ db.expiresAt userId, t < expiry

/-- The user is there, and has a tier other than `free` exactly with an expiry. -/
def Subscribable (db : BillingDb) (userId : Uuid) : Prop :=
  ∃ user, db.usersWith userId = [user] ∧
    (user.subscriptionTier = "free" ↔ user.subscriptionExpiresAt = none)

/-- An edit leaves alone until when the row counts, or another active subscription of the
user lasts at least as long as the row does, before and after. -/
def HarmlessEdit (rows : List Subscription) (sub edited : Subscription) : Prop :=
  edited.lasts = sub.lasts ∨
    ∃ expiry, (∃ other ∈ rows, other.id ≠ sub.id ∧ other.userId = sub.userId ∧
      expiry ∈ other.lasts) ∧ (∀ t ∈ sub.lasts, t ≤ expiry) ∧ ∀ t ∈ edited.lasts, t ≤ expiry

/-- Trials of the user end no earlier than the user's expiry, and edits of the user's
subscriptions are harmless. -/
def KeepsInStep (userId : Uuid) (db : BillingDb) : Operation → Prop
  | .activateTrial trialUser now subscriptionId =>
      trialUser = userId → TrialExtends db (.activateTrial trialUser now subscriptionId)
  | .updateSubscription subId body => ∀ sub, db.subscriptionsWith subId = [sub] →
      sub.userId = userId → body.hasNull = false →
        HarmlessEdit db.subscriptions sub (body.apply sub)
  | _ => True

/-! ## The views at one instant -/

section Instant

variable {db : BillingDb} {userId : Uuid} {now : DateTime}

theorem getActiveSubscription_isSome_iff :
    (∃ subscription, getActiveSubscription db userId now = some subscription) ↔
      Outlasts db.subscriptions userId now := by
  rw [← Option.ne_none_iff_exists', Ne, getActiveSubscription, latest_eq_none,
    List.filter_eq_nil_iff]
  simp only [BillingDb.activeSubscriptions, Outlasts, Subscription.lasts, List.mem_filter]
  constructor
  · intro found
    push Not at found
    obtain ⟨row, ⟨member, here⟩, running⟩ := found
    simp only [decide_eq_true_eq] at here running
    exact ⟨row, member, here.1, row.expiresAt, by simp [here.2], running⟩
  · rintro ⟨row, member, mine, expiry, lasts, running⟩ nothing
    split_ifs at lasts with active
    · obtain rfl := Option.some.inj lasts
      exact nothing row ⟨member, by simp [mine, active]⟩ (by simpa using running)
    · cases lasts

theorem getSubscribedUser_isOk_iff {user : User} (found : db.usersWith userId = [user]) :
    (∃ admitted, getSubscribedUser db userId now = .ok admitted) ↔
      user.subscriptionTier ≠ "free" ∧ ∀ expiry ∈ user.subscriptionExpiresAt, now ≤ expiry := by
  rw [getSubscribedUser, getCurrentUser_eq_ok.mpr found]
  dsimp only
  split_ifs with free expired
  · simp [free]
  · obtain ⟨expiry, member, past⟩ := expired
    simp only [exists_false, false_iff, not_and]
    intro _ running
    exact absurd past (Int.not_lt.mpr (running expiry member))
  · refine iff_of_true ⟨user, rfl⟩ ⟨free, fun expiry member => Int.not_lt.mp fun past => ?_⟩
    exact expired ⟨expiry, member, past⟩

/-- Both ends are on the same side of an instant exactly if the views agree there, unless
it is the user's expiry, where they then differ. -/
theorem viewsAgree_iff (subscribable : Subscribable db userId) :
    (Outlasts db.subscriptions userId now ↔ ∃ expiry ∈ db.expiresAt userId, now < expiry) ↔
      (ViewsAgree db userId now ↔ db.expiresAt userId ≠ some now) := by
  obtain ⟨user, found, paired⟩ := subscribable
  rw [ViewsAgree, getActiveSubscription_isSome_iff, getSubscribedUser_isOk_iff found,
    expiresAt_of_usersWith found, Ne, paired]
  cases user.subscriptionExpiresAt with
  | none => simp
  | some expiry =>
      simp only [reduceCtorEq, not_false_eq_true, Option.mem_def, Option.some.injEq, forall_eq',
        true_and, exists_eq_left']
      rcases Int.lt_trichotomy now expiry with before | rfl | after
      · have le := Int.le_of_lt before
        simp [before, le, Int.ne_of_gt before]
      · simp
      · simp [Int.not_lt.mpr (Int.le_of_lt after), Int.not_le.mpr after, Int.ne_of_lt after]

end Instant

/-! ## Rows -/

section Rows

variable {rows : List Subscription} {userId : Uuid} {t : DateTime}

theorem outlasts_append (row : Subscription) :
    Outlasts (rows ++ [row]) userId t ↔
      Outlasts rows userId t ∨ row.userId = userId ∧ ∃ expiry ∈ row.lasts, t < expiry := by
  simp [Outlasts, or_and_right, exists_or]

/-- Only the owners and the ends count. -/
theorem outlasts_congr {rows' : List Subscription}
    (same : rows.map (fun s => (s.userId, s.lasts)) = rows'.map fun s => (s.userId, s.lasts)) :
    Outlasts rows userId t ↔ Outlasts rows' userId t := by
  have view (rows : List Subscription) : Outlasts rows userId t ↔
      ∃ entry ∈ rows.map (fun s => (s.userId, s.lasts)), entry.1 = userId ∧
        ∃ expiry ∈ entry.2, t < expiry := by
    simp [Outlasts]
  rw [view, view, same]

/-- Some row of the user with another key is still running after `t`. -/
def OthersOutlast (rows : List Subscription) (userId id : Uuid) (t : DateTime) : Prop :=
  ∃ expiry, (∃ other ∈ rows, other.id ≠ id ∧ other.userId = userId ∧ expiry ∈ other.lasts) ∧
    t < expiry

/-- A rewritten row counts with what it has become, next to the other rows. -/
theorem outlasts_update {sub : Subscription} (found : Table.select (·.id) sub.id rows = [sub])
    (f : Subscription → Subscription) :
    Outlasts (Table.update (·.id) sub.id f rows) userId t ↔
      OthersOutlast rows userId sub.id t ∨
        (f sub).userId = userId ∧ ∃ expiry ∈ (f sub).lasts, t < expiry := by
  have here : sub ∈ rows := (Table.of_select_eq_singleton found).1
  constructor
  · rintro ⟨row, member, owner, expiry, lasts, running⟩
    rcases Table.mem_update.mp member with ⟨old, inTable, same, rfl⟩ | ⟨inTable, other⟩
    · have named := Table.mem_select.mpr ⟨inTable, same⟩
      rw [found] at named
      obtain rfl := List.mem_singleton.mp named
      exact .inr ⟨owner, expiry, lasts, running⟩
    · exact .inl ⟨expiry, ⟨row, inTable, other, owner, lasts⟩, running⟩
  · rintro (⟨expiry, ⟨other, inTable, differs, owner, lasts⟩, running⟩ |
      ⟨owner, expiry, lasts, running⟩)
    · exact ⟨other, Table.mem_update.mpr (.inr ⟨inTable, differs⟩), owner, expiry, lasts, running⟩
    · exact ⟨f sub, Table.mem_update.mpr (.inl ⟨sub, here, rfl, rfl⟩), owner, expiry, lasts,
        running⟩

theorem outlasts_iff_others {sub : Subscription}
    (found : Table.select (·.id) sub.id rows = [sub]) :
    Outlasts rows userId t ↔ OthersOutlast rows userId sub.id t ∨
      sub.userId = userId ∧ ∃ expiry ∈ sub.lasts, t < expiry := by
  have unchanged : Table.update (·.id) sub.id id rows = rows := by simp [Table.update]
  have split := @outlasts_update rows userId t sub found id
  rwa [unchanged] at split

/-- The instant just before the later of two ends tells them apart, unless some other end
is as late. -/
theorem exists_end_of_seen {others : DateTime → Prop} {later : DateTime}
    {earlier : Option DateTime} (before : ∀ e ∈ earlier, e < later)
    (seen : (∃ o, others o ∧ later - 1 < o) ∨ ∃ e ∈ earlier, later - 1 < e) :
    ∃ o, others o ∧ (∀ e ∈ earlier, e ≤ o) ∧ ∀ e ∈ some later, e ≤ o := by
  rcases seen with ⟨o, other, running⟩ | ⟨e, member, running⟩
  · have atMost : later ≤ o := Int.le_of_sub_one_lt running
    refine ⟨o, other, fun e member => ?_, fun e same => Option.some.inj same ▸ atMost⟩
    exact Int.le_trans (Int.le_of_lt (before e member)) atMost
  · exact absurd (before e member) (Int.not_lt.mpr (Int.le_of_sub_one_lt running))

/-- Replacing one end by another changes nothing for any instant exactly if they are
equal, or neither is later than some other end. -/
theorem same_ends_iff {others : DateTime → Prop} {before after : Option DateTime} :
    (∀ t, ((∃ o, others o ∧ t < o) ∨ ∃ e ∈ after, t < e) ↔
      ((∃ o, others o ∧ t < o) ∨ ∃ e ∈ before, t < e)) ↔
    after = before ∨
      ∃ o, others o ∧ (∀ e ∈ before, e ≤ o) ∧ ∀ e ∈ after, e ≤ o := by
  constructor
  · intro same
    have just_before (x : DateTime) : ∃ e ∈ some x, x - 1 < e :=
      ⟨x, rfl, Int.sub_one_lt_of_le (Int.le_refl x)⟩
    have swap : (∃ o, others o ∧ (∀ e ∈ after, e ≤ o) ∧ ∀ e ∈ before, e ≤ o) →
        ∃ o, others o ∧ (∀ e ∈ before, e ≤ o) ∧ ∀ e ∈ after, e ≤ o :=
      fun ⟨o, other, first, second⟩ => ⟨o, other, second, first⟩
    cases after with
    | none =>
        cases before with
        | none => exact .inl rfl
        | some b =>
            exact .inr (swap (exists_end_of_seen (by simp) ((same _).mpr (.inr (just_before b)))))
    | some a =>
        cases before with
        | none => exact .inr (exists_end_of_seen (by simp) ((same _).mp (.inr (just_before a))))
        | some b =>
            rcases Int.lt_trichotomy a b with less | rfl | greater
            · exact .inr (swap (exists_end_of_seen (by simpa using less)
                ((same _).mpr (.inr (just_before b)))))
            · exact .inl rfl
            · exact .inr (exists_end_of_seen (by simpa using greater)
                ((same _).mp (.inr (just_before a))))
  · rintro (rfl | ⟨o, other, atMost, atMost'⟩) t
    · exact Iff.rfl
    · have covered {one : Option DateTime} (bound : ∀ e ∈ one, e ≤ o) :
          ((∃ o, others o ∧ t < o) ∨ ∃ e ∈ one, t < e) ↔ ∃ o, others o ∧ t < o := by
        apply or_iff_left_of_imp
        rintro ⟨e, member, running⟩
        exact ⟨o, other, Int.lt_of_lt_of_le running (bound e member)⟩
      rw [covered atMost, covered atMost']

end Rows

/-! ## Operations -/

section Steps

variable {db : BillingDb} {userId : Uuid}

/-- A new subscription of the user that also becomes the user's expiry keeps the views in
step exactly if the expiry does not go back. -/
theorem inStep_subscribe_iff {db' : BillingDb} {row : Subscription} {expiresAt : DateTime}
    (inStep : InStep db userId) (inserted : db'.subscriptions = db.subscriptions ++ [row])
    (mine : row.userId = userId) (lasts : row.lasts = some expiresAt)
    (copied : db'.expiresAt userId = some expiresAt) :
    InStep db' userId ↔ ∀ t ∈ db.expiresAt userId, t ≤ expiresAt := by
  have after (t : DateTime) : Outlasts db'.subscriptions userId t ↔
      (∃ expiry ∈ db.expiresAt userId, t < expiry) ∨ t < expiresAt := by
    rw [inserted, outlasts_append, inStep t]
    simp [mine, lasts]
  have end' (t : DateTime) : (∃ expiry ∈ db'.expiresAt userId, t < expiry) ↔ t < expiresAt := by
    simp [copied]
  constructor
  · intro inStep' t member
    refine Int.not_lt.mp fun later => ?_
    have running := (after expiresAt).mpr (.inl ⟨t, member, later⟩)
    exact absurd ((end' expiresAt).mp ((inStep' expiresAt).mp running)) (Int.lt_irrefl _)
  · intro bound t
    rw [after, end']
    apply or_iff_right_of_imp
    rintro ⟨expiry, member, running⟩
    exact Int.lt_of_lt_of_le running (bound expiry member)

/-- What changes neither the user nor the owners and ends of the rows keeps the views in
step. -/
theorem inStep_congr {db' : BillingDb}
    (rows : ∀ t, Outlasts db'.subscriptions userId t ↔ Outlasts db.subscriptions userId t)
    (user : db'.usersWith userId = db.usersWith userId) :
    InStep db' userId ↔ InStep db userId := by
  simp only [InStep, BillingDb.expiresAt, rows, user]

theorem subscribable_step (subscribable : Subscribable db userId) (operation : Operation) :
    Subscribable (db.step operation).1 userId := by
  cases db.steps operation with
  | refused same refused =>
      rw [same]
      exact subscribable
  | @credited req payment user expiresAt credits after =>
      rw [after]
      have users := usersWith_credit credits.owner req expiresAt userId
      split_ifs at users with same
      · obtain ⟨_, _, known⟩ := calculateExpiry_eq_ok credits.expiry
        refine ⟨_, users, iff_of_false (fun free : payment.plan = "free" => ?_) ?_⟩
        · rw [free] at known
          exact absurd known (by decide)
        · simp [User.subscribe]
      · rw [Subscribable, users]
        exact subscribable
  | granted opens after =>
      rw [after]
      have users := opens.usersWith userId
      split_ifs at users with same
      · exact ⟨_, users, by simp [User.startTrial, User.subscribe]⟩
      · rw [Subscribable, users]
        exact subscribable
  | cancelled after =>
      rw [after]
      exact subscribable
  | edited found valid after =>
      rw [after]
      exact subscribable

theorem inStep_credit {req : Webhook} {payment : Payment} {user : User} {expiresAt : DateTime}
    (credits : Credits db req payment user expiresAt) (inStep : InStep db userId) :
    InStep (db.credit req payment user expiresAt) userId := by
  have after := usersWith_credit credits.owner req expiresAt userId
  have owner : (req.subscription payment user expiresAt).userId = payment.userId :=
    id_of_usersWith credits.owner
  by_cases same : userId = payment.userId
  · rw [if_pos same] at after
    refine (inStep_subscribe_iff inStep rfl (owner.trans same.symm) rfl
      (expiresAt_of_usersWith after)).mpr ?_
    rw [same, expiresAt_of_usersWith credits.owner]
    exact credits.le_expiresAt
  · rw [if_neg same] at after
    refine (inStep_congr (fun t => ?_) after).mpr inStep
    change Outlasts (db.subscriptions ++ [req.subscription payment user expiresAt]) userId t ↔ _
    rw [outlasts_append, owner]
    simp [Ne.symm same]

theorem inStep_startTrial_iff {trialUser : Uuid} {now : DateTime} {subscriptionId : Uuid}
    {user : User} (opens : TrialOpens db trialUser now subscriptionId user)
    (inStep : InStep db userId) :
    let trial := newSubscription subscriptionId trialUser "trial" now (now + 7 * day)
    InStep (db.startTrial trial) userId ↔
      (trialUser = userId → ∀ t ∈ user.subscriptionExpiresAt, t ≤ now + 7 * day) := by
  intro trial
  have after := opens.usersWith userId
  by_cases same : userId = trialUser
  · replace after := after.trans (if_pos same)
    rw [inStep_subscribe_iff inStep rfl same.symm rfl (expiresAt_of_usersWith after), same,
      expiresAt_of_usersWith opens.found]
    exact ⟨fun ends _ => ends, fun ends => ends rfl⟩
  · replace after := after.trans (if_neg same)
    refine iff_of_true ((inStep_congr (fun t => ?_) after).mpr inStep) fun mine => ?_
    · change Outlasts (db.subscriptions ++ [trial]) userId t ↔ _
      rw [outlasts_append]
      simp [trial, newSubscription, Ne.symm same]
    · exact absurd mine.symm same

/-- Rewriting a row that is not the user's, or not its end, changes nothing. -/
theorem inStep_modify_of_same {id : Uuid} {f : Subscription → Subscription}
    (same : ∀ t, Outlasts (Table.update (·.id) id f db.subscriptions) userId t ↔
      Outlasts db.subscriptions userId t) :
    InStep (db.modifySubscription id f) userId ↔ InStep db userId :=
  inStep_congr same rfl

theorem inStep_modify_iff {sub : Subscription} {f : Subscription → Subscription}
    (found : db.subscriptionsWith sub.id = [sub]) (keeps : (f sub).userId = sub.userId)
    (inStep : InStep db userId) :
    InStep (db.modifySubscription sub.id f) userId ↔
      (sub.userId = userId → HarmlessEdit db.subscriptions sub (f sub)) := by
  have before (t : DateTime) := @outlasts_iff_others db.subscriptions userId t sub found
  have after (t : DateTime) := @outlasts_update db.subscriptions userId t sub found f
  by_cases mine : sub.userId = userId
  · simp only [mine, keeps, true_and, forall_const] at before after ⊢
    rw [HarmlessEdit, ← same_ends_iff]
    refine forall_congr' fun t => ?_
    change (Outlasts (Table.update (·.id) sub.id f db.subscriptions) userId t ↔
      ∃ expiry ∈ db.expiresAt userId, t < expiry) ↔ _
    rw [← inStep t, after, before, mine]
    exact Iff.rfl
  · refine iff_of_true ((inStep_modify_of_same fun t => ?_).mpr inStep) fun yes => absurd yes mine
    simp only [before, after, keeps, mine, false_and, or_false]

theorem keepsInStep_of_refused {operation : Operation} (refused : operation.Refused db) :
    KeepsInStep userId db operation := by
  cases operation with
  | activateTrial trialUser now subscriptionId => exact fun _ => trialExtends_of_refused refused
  | updateSubscription subId body =>
      intro sub found _ valid
      exact absurd (refused sub found) (by simp [valid])
  | processWebhook req => trivial
  | cancelSubscription cancelUser now => trivial

/-- One operation keeps the views in step exactly if it is not a trial that ends too early
or an edit that moves the end. -/
theorem inStep_step_iff (inStep : InStep db userId) (operation : Operation) :
    InStep (db.step operation).1 userId ↔ KeepsInStep userId db operation := by
  cases db.steps operation with
  | refused same refused =>
      rw [same]
      exact iff_of_true inStep (keepsInStep_of_refused refused)
  | credited credits after =>
      rw [after]
      exact iff_of_true (inStep_credit credits inStep) trivial
  | granted opens after =>
      rw [after]
      refine (inStep_startTrial_iff opens inStep).trans
        ⟨fun ends mine user' opens' => ?_, fun keeps mine => keeps mine _ opens⟩
      exact opens.user_eq opens'.found ▸ ends mine
  | @cancelled _ now subscription after =>
      rw [after]
      have keeps (row : Subscription) :
          ((row.cancel now).userId, (row.cancel now).lasts) = (row.userId, row.lasts) := rfl
      refine iff_of_true ((inStep_modify_of_same fun t => ?_).mpr inStep) trivial
      exact outlasts_congr (Table.map_update keeps subscription.id db.subscriptions)
  | @edited _ sub found valid after =>
      rw [after, inStep_modify_iff found rfl inStep]
      refine ⟨fun harmless sub' found' mine _ => ?_, fun keeps mine => keeps sub found mine valid⟩
      obtain rfl : sub' = sub := (List.cons.inj (found'.symm.trans found)).1
      exact harmless mine

end Steps

theorem not_viewsAgree {db : BillingDb} {userId : Uuid} {now : DateTime} {user : User}
    (admitted : getSubscribedUser db userId now = .ok user)
    (nothing : getActiveSubscription db userId now = none) : ¬ ViewsAgree db userId now := by
  intro agree
  obtain ⟨subscription, found⟩ := agree.mp ⟨user, admitted⟩
  rw [nothing] at found
  cases found

/-- An administrator switches a subscription off. -/
def switchOff : AdminSubscriptionUpdate := ⟨none, some (some false), none⟩

/-- The trial comes first, and is switched off when a year has been paid for. -/
def trialThenYear : List Operation :=
  [.activateTrial 1 0 101, .processWebhook (paid day 100), .cancelSubscription 1 (2 * day),
    .updateSubscription 101 switchOff]

end PlgBooster.Server
