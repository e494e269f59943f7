import PlgBooster.Server.Auth

/-!
# A refresh that is cut off

Once a token has been verified, `/api/auth/refresh` has two commits left: the one that revokes
the row and the one that stores the new token. A fault can fall before, between and behind
them. It is a database error or a crash alike: the steps that have taken effect stay, and the
caller gets no token.
-/

namespace PlgBooster.Server

open Transaction

namespace AuthDb

/-- `verify_refresh_token` finds a row for the token. -/
def Verifies (db : AuthDb) (tokenHash : String) (now : DateTime) : Prop :=
  ∃ rt, scalarOneOrNone (db.validTokens tokenHash now) = .ok (some rt)

/-- A live row of the user has the token's hash. -/
def Stores (db : AuthDb) (tokenHash : String) (userId : Uuid) : Prop :=
  ∃ rt ∈ db.refreshTokens, rt.tokenHash = tokenHash ∧ rt.userId = userId ∧ rt.revoked = false

theorem not_verifies_of_eq_nil {db : AuthDb} {tokenHash : String} {now : DateTime}
    (none : db.validTokens tokenHash now = []) : ¬ db.Verifies tokenHash now := by
  rintro ⟨rt, found⟩
  rw [none] at found
  cases found

/-- A revoked row is no longer selected. -/
theorem validTokens_revoke (db : AuthDb) (id : Uuid) (tokenHash : String) (now : DateTime) :
    (db.revoke id).validTokens tokenHash now =
      (db.validTokens tokenHash now).filter fun rt => rt.id ≠ id := by
  have rows : (db.revoke id).tokensWith tokenHash =
      Table.update (·.id) id (fun rt => { rt with revoked := true }) (db.tokensWith tokenHash) :=
    Table.select_update_of_keeps (f := fun rt : RefreshToken => { rt with revoked := true })
      (fun _ => rfl) tokenHash id db.refreshTokens
  simp only [validTokens, rows]
  induction db.tokensWith tokenHash with
  | nil => rfl
  | cons rt rest ih =>
      simp only [Table.update, List.map_cons, List.filter_cons] at ih ⊢
      rw [ih]
      by_cases same : rt.id = id
      · by_cases valid : rt.revoked = false ∧ now < rt.expiresAt
        · simp [same, valid]
        · simp [same, valid]
      · by_cases valid : rt.revoked = false ∧ now < rt.expiresAt
        · simp [same, valid]
        · simp [same, valid]

theorem validTokens_insertToken (db : AuthDb) (row : RefreshToken) (tokenHash : String)
    (now : DateTime) :
    (db.insertToken row).validTokens tokenHash now = db.validTokens tokenHash now ++
      if row.tokenHash = tokenHash ∧ row.revoked = false ∧ now < row.expiresAt then [row]
      else [] := by
  simp only [validTokens, tokensWith, insertToken, Table.select, List.filter_append,
    List.append_cancel_left_eq]
  by_cases hash : row.tokenHash = tokenHash
  · by_cases valid : row.revoked = false ∧ now < row.expiresAt <;> simp [hash, valid]
  · simp [hash]

end AuthDb

section

variable (settings : TokenSettings)

/-- What is left of a request that has verified its token as the row `rt`, with a fault after
some of its commits or without one. -/
def afterVerification (fault : Option Nat) (db : AuthDb) (req : RefreshRequest)
    (rt : RefreshToken) : AuthDb × Option RefreshOutcome :=
  (refresh settings).runUntil fault db (.revoke req rt)

/-- The user can go on: the presented token still verifies, or the new one has been stored
and is returned. -/
def KeepsToken (fault : Option Nat) (db : AuthDb) (req : RefreshRequest) (rt : RefreshToken) :
    Prop :=
  let result := afterVerification settings fault db req rt
  result.1.Verifies (settings.hashToken req.refreshToken) req.verifiedAt ∨
    ∃ pair, result.2 = some (.ok pair) ∧
      result.1.Stores (settings.hashToken pair.refreshToken) rt.userId

/-- The second commit goes through: the expiry is a date and the table takes the row. -/
def InsertSucceeds (db : AuthDb) (req : RefreshRequest) (rt : RefreshToken)
    (expiresAt : DateTime) : Prop :=
  addDays req.storedAt settings.refreshTokenExpireDays = .ok expiresAt ∧
    db.AcceptsToken (storedToken settings req rt expiresAt)

/-- The new token happens to have the hash of the presented one, and a later end. -/
def SameHash (req : RefreshRequest) (expiresAt : DateTime) : Prop :=
  settings.hashToken req.newRefresh = settings.hashToken req.refreshToken ∧
    req.verifiedAt < expiresAt

/-- When a user is never left without a token: the fault comes before the revoke, or there is
no fault and the insert goes through, or it goes through with the hash of the old token. -/
def FaultSpares (fault : Option Nat) (db : AuthDb) (req : RefreshRequest) (rt : RefreshToken) :
    Prop :=
  fault = some 0 ∨ fault ≠ some 1 ∧ ∃ expiresAt, InsertSucceeds settings db req rt expiresAt ∧
    (fault = none ∨ SameHash settings req expiresAt)

variable {settings}
variable {db : AuthDb} {req : RefreshRequest} {rt : RefreshToken}

/-- The revoke takes away the one row that verifies. -/
theorem validTokens_revoke_eq_nil {tokenHash : String} {now : DateTime}
    (found : db.validTokens tokenHash now = [rt]) :
    (db.revoke rt.id).validTokens tokenHash now = [] := by
  rw [AuthDb.validTokens_revoke, found]
  simp

/-- Behind a stored new token the presented one verifies only by its hash. -/
theorem verifies_stored_iff
    (found : db.validTokens (settings.hashToken req.refreshToken) req.verifiedAt = [rt])
    (expiresAt : DateTime) :
    ((db.revoke rt.id).insertToken (storedToken settings req rt expiresAt)).Verifies
        (settings.hashToken req.refreshToken) req.verifiedAt ↔
      SameHash settings req expiresAt := by
  have rows := AuthDb.validTokens_insertToken (db.revoke rt.id)
    (storedToken settings req rt expiresAt) (settings.hashToken req.refreshToken) req.verifiedAt
  rw [validTokens_revoke_eq_nil found, List.nil_append] at rows
  unfold AuthDb.Verifies SameHash
  rw [rows]
  by_cases same : settings.hashToken req.newRefresh = settings.hashToken req.refreshToken ∧
      req.verifiedAt < expiresAt
  · simp [storedToken, same, scalarOneOrNone]
  · simp [storedToken, same, scalarOneOrNone]

theorem stores_storedToken (db : AuthDb) (req : RefreshRequest) (rt : RefreshToken)
    (expiresAt : DateTime) :
    (db.insertToken (storedToken settings req rt expiresAt)).Stores
      (settings.hashToken req.newRefresh) rt.userId :=
  ⟨_, List.mem_append_right _ (List.mem_singleton_self _), rfl, rfl, rfl⟩

/-- The second commit, or the error in its place. -/
theorem refreshStep_insert_cases (db : AuthDb) (req : RefreshRequest) (rt : RefreshToken) :
    (∃ expiresAt, InsertSucceeds settings db req rt expiresAt ∧
      refreshStep settings (db.revoke rt.id) (.insert req rt) =
        ((db.revoke rt.id).insertToken (storedToken settings req rt expiresAt),
          .inr (.ok (issuedPair settings req rt)))) ∨
    (∀ expiresAt, ¬ InsertSucceeds settings db req rt expiresAt) ∧
      ∃ e, refreshStep settings (db.revoke rt.id) (.insert req rt) =
        (db.revoke rt.id, .inr (.error e)) := by
  rcases refreshStep_insert settings (db.revoke rt.id) req rt with
    ⟨expiresAt, computed, accepted, stored⟩ | ⟨refused, failed⟩
  · exact .inl ⟨expiresAt, ⟨computed, (acceptsToken_revoke rt.id).mp accepted⟩, stored⟩
  · refine .inr ⟨?_, failed⟩
    rintro expiresAt ⟨computed, accepted⟩
    exact refused expiresAt computed ((acceptsToken_revoke rt.id).mpr accepted)

/-- A fault between the two commits leaves neither token. -/
theorem not_keepsToken_between
    (found : db.validTokens (settings.hashToken req.refreshToken) req.verifiedAt = [rt]) :
    ¬ KeepsToken settings (some 1) db req rt := by
  have between : afterVerification settings (some 1) db req rt = (db.revoke rt.id, none) :=
    (refresh settings).runUntil_succ_of_step_inl rfl 0
  simp only [KeepsToken, between]
  rintro (verifies | ⟨pair, returned, _⟩)
  · exact AuthDb.not_verifies_of_eq_nil (validTokens_revoke_eq_nil found) verifies
  · cases returned

/-- Without a fault, and behind the second commit, all depends on that commit. -/
theorem keepsToken_iff_of_inserted {fault : Option Nat}
    (found : db.validTokens (settings.hashToken req.refreshToken) req.verifiedAt = [rt])
    {next : AuthDb} {outcome : RefreshOutcome}
    (inserted : refreshStep settings (db.revoke rt.id) (.insert req rt) = (next, .inr outcome))
    (ends : afterVerification settings fault db req rt =
      (next, if fault = none then some outcome else none)) :
    KeepsToken settings fault db req rt ↔ ∃ expiresAt, InsertSucceeds settings db req rt expiresAt ∧
      (fault = none ∨ SameHash settings req expiresAt) := by
  simp only [KeepsToken, ends]
  rcases @refreshStep_insert_cases settings db req rt with
    ⟨expiresAt, succeeds, stored⟩ | ⟨fails, e, same⟩
  · obtain ⟨rfl, result⟩ := Prod.mk.inj (inserted.symm.trans stored)
    obtain rfl := Sum.inr.inj result
    rw [verifies_stored_iff found]
    constructor
    · rintro (hash | ⟨pair, returned, _⟩)
      · exact ⟨expiresAt, succeeds, .inr hash⟩
      · refine ⟨expiresAt, succeeds, .inl ?_⟩
        by_contra faulty
        rw [if_neg faulty] at returned
        cases returned
    · rintro ⟨other, succeeds', none | hash⟩
      · exact .inr ⟨issuedPair settings req rt, if_pos none, stores_storedToken _ req rt expiresAt⟩
      · obtain rfl := Except.ok.inj (succeeds.1.symm.trans succeeds'.1)
        exact .inl hash
  · obtain ⟨rfl, result⟩ := Prod.mk.inj (inserted.symm.trans same)
    obtain rfl := Sum.inr.inj result
    constructor
    · rintro (verifies | ⟨pair, returned, _⟩)
      · exact absurd verifies (AuthDb.not_verifies_of_eq_nil (validTokens_revoke_eq_nil found))
      · split_ifs at returned
        cases returned
    · rintro ⟨expiresAt, succeeds, _⟩
      exact absurd succeeds (fails expiresAt)

/-- A request that has verified its token leaves its user with a token exactly if no fault
falls between the two commits, behind them, or on the second of them. -/
theorem keepsToken_iff (fault : Option Nat)
    (found : db.validTokens (settings.hashToken req.refreshToken) req.verifiedAt = [rt]) :
    KeepsToken settings fault db req rt ↔ FaultSpares settings fault db req rt := by
  have revoked : (refresh settings).step db (.revoke req rt) =
      (db.revoke rt.id, .inl (.insert req rt)) := rfl
  obtain ⟨next, outcome, inserted⟩ : ∃ next outcome,
      (refresh settings).step (db.revoke rt.id) (.insert req rt) = (next, .inr outcome) := by
    rcases @refreshStep_insert_cases settings db req rt with
      ⟨_, _, stored⟩ | ⟨_, _, same⟩
    · exact ⟨_, _, stored⟩
    · exact ⟨_, _, same⟩
  cases fault with
  | none =>
      have ends : afterVerification settings none db req rt = (next, some outcome) :=
        ((refresh settings).exec_of_step_inl revoked).trans
          ((refresh settings).exec_of_step_inr inserted)
      rw [keepsToken_iff_of_inserted found inserted (by simpa using ends)]
      simp [FaultSpares]
  | some steps =>
      rcases steps with _ | _ | steps
      · refine iff_of_true (.inl ⟨rt, ?_⟩) (.inl rfl)
        simp only [afterVerification, Program.runUntil, Program.runFor, found, scalarOneOrNone]
      · apply iff_of_false (not_keepsToken_between found)
        rintro (before | ⟨elsewhere, _⟩)
        · cases before
        · exact elsewhere rfl
      · have ends : afterVerification settings (some (steps + 2)) db req rt = (next, none) :=
          ((refresh settings).runUntil_succ_of_step_inl revoked (steps + 1)).trans
            ((refresh settings).runUntil_succ_of_step_inr inserted steps)
        rw [keepsToken_iff_of_inserted found inserted (by simpa using ends)]
        simp [FaultSpares]

end

/-- A request with the token of user 1. -/
def refreshOfOne : RefreshRequest := ⟨⟨"s", 11, 1, 2, 3⟩, "r"⟩

/-- The stored token of user 1. -/
def tokenOfOne : RefreshToken := ⟨10, 1, "r", 1000, false⟩

theorem keepsToken_refreshOfOne :
    KeepsToken plainSettings none oneToken refreshOfOne tokenOfOne ↔
      FaultSpares plainSettings none oneToken refreshOfOne tokenOfOne :=
  keepsToken_iff none (by decide)

/-- A crash between the two commits logs user 1 out. -/
theorem refreshOfOne_loses_token :
    oneToken.validTokens "r" 1 = [tokenOfOne] ∧
      ¬ KeepsToken plainSettings (some 1) oneToken refreshOfOne tokenOfOne := by
  refine ⟨by decide, ?_⟩
  rintro (⟨rt, found⟩ | ⟨pair, returned, _⟩)
  · exact AuthDb.not_verifies_of_eq_nil (by decide) ⟨rt, found⟩
  · cases returned

end PlgBooster.Server
