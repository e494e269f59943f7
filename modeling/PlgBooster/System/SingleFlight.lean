import PlgBooster.System.Rotation
import PlgBooster.Web.ApiFetch

/-!
# The website's refreshes

The website and the server's table of refresh tokens. The calls of a page share one refresh, so
a token that is on its way to be exchanged is never presented by another call, and the pair of
the answer is stored before anything presents a token again. However the calls, the log-ins, the
log-outs and the requests of others interleave, the server grants every refresh of the page, as
long as no answer to one is lost. The exchange is one step here, since nobody else presents its
token.
-/

namespace PlgBooster.System

open Web (Tab Sent Call FetchResult)
open Server (AuthDb RefreshToken RefreshDraws TokenSettings)

/-- A page, the answer to its refresh where that is on its way back, and the server's tokens. -/
structure Page where
  tab : Tab
  answer : Option (Option Web.TokenResponse)
  db : AuthDb

inductive PageEvent where
  | apiFetch
  | response (i : Nat) (result : FetchResult)
  /-- The server answers the refresh. -/
  | exchange (draws : RefreshDraws)
  /-- The fetch of the refresh fails, or is refused before it comes to the endpoint. -/
  | refreshFails
  | refreshed
  | handleTokens (tokens : Web.TokenResponse)
  | clearTokens
  /-- The server answers the refresh of somebody else. -/
  | otherExchange (draws : RefreshDraws) (presented : String)
  /-- A registration or a log-in stores a token. -/
  | stored (row : RefreshToken)

inductive PageOutput where
  | sent (request : Sent)
  | exchanged (presented : String) (answer : Except Client.ApiError Client.AuthTokens)
  deriving DecidableEq, Repr

section SingleFlight

variable (settings : TokenSettings)

/-- What `refreshTokens` gets of an answer. -/
def pairOf : Except Client.ApiError Client.AuthTokens → Option Web.TokenResponse
  | .ok tokens => some ⟨tokens.accessToken, tokens.refreshToken⟩
  | .error _ => none

def Page.withTab (page : Page) (step : Tab × List Sent) : Page × List PageOutput :=
  ({ page with tab := step.1 }, step.2.map .sent)

def pageStep (page : Page) : PageEvent → Page × List PageOutput
  | .apiFetch => page.withTab page.tab.apiFetch
  | .response i result => page.withTab (page.tab.onResponse i result)
  | .exchange draws =>
      match page.tab.refreshPromise, page.answer with
      | some presented, none =>
          let after := refreshToken settings draws page.db presented
          ({ page with db := after.1, answer := some (pairOf after.2) },
            [.exchanged presented after.2])
      | _, _ => (page, [])
  | .refreshFails =>
      if page.tab.refreshPromise.isSome then ({ page with answer := some none }, [])
      else (page, [])
  | .refreshed =>
      match page.answer with
      | some pair => { page with answer := none }.withTab (page.tab.onRefreshed pair)
      | none => (page, [])
  | .handleTokens tokens => ({ page with tab := page.tab.handleTokens tokens }, [])
  | .clearTokens => ({ page with tab := page.tab.clearTokens }, [])
  | .otherExchange draws presented =>
      ({ page with db := (refreshToken settings draws page.db presented).1 }, [])
  | .stored row => ({ page with db := page.db.insertToken row }, [])

/-- The server would exchange the token. -/
def Valid (db : AuthDb) (token : String) : Prop :=
  ∃ row, db.tokensWith (settings.hashToken token) = [row] ∧ row.revoked = false

/-- A token that the page holds: in its storage, presented, or in an answer. -/
def Page.Holds (page : Page) (token : String) : Prop :=
  page.tab.storage.refreshToken = some token ∨ page.tab.refreshPromise = some token ∨
    ∃ pair, page.answer = some (some pair) ∧ pair.refreshToken = token

/-- What may happen: tokens do not expire and what is drawn is new, no answer with a pair is
lost, the page logs in with a token it is given, and nobody else presents a token it holds. -/
def Undisturbed (page : Page) : PageEvent → Prop
  | .exchange draws => Rotates settings page.db draws
  | .refreshFails => ∀ pair, page.answer ≠ some (some pair)
  | .handleTokens tokens => Valid settings page.db tokens.refreshToken
  | .otherExchange draws presented => Rotates settings page.db draws ∧
      ∀ token, page.Holds token → settings.hashToken token ≠ settings.hashToken presented
  | .stored row => page.db.AcceptsToken row ∧
      ∀ rt ∈ page.db.refreshTokens, rt.tokenHash ≠ row.tokenHash
  | _ => True

/-- What the page presents is valid, what it is answered is valid, and so is what it has stored
unless an answer is about to take its place. -/
structure Page.Alive (page : Page) : Prop where
  keys : (page.db.refreshTokens.map (·.id)).Nodup
  stored : (∀ pair, page.answer ≠ some (some pair)) →
    ∀ token, page.tab.storage.refreshToken = some token → Valid settings page.db token
  presented : page.answer = none →
    ∀ token, page.tab.refreshPromise = some token → Valid settings page.db token
  issued : ∀ pair, page.answer = some (some pair) → Valid settings page.db pair.refreshToken
  answered : page.answer.isSome → page.tab.refreshPromise.isSome
  awaited : page.tab.Awaited

/-! ## One exchange -/

variable {settings} {db : AuthDb} {draws : RefreshDraws} {presented : String}

/-- All that an exchange does to the tables: nothing, or it revokes a row with the hash of the
presented token and stores the new one. -/
theorem refreshToken_effect (rotates : Rotates settings db draws) (presented : String) :
    (refreshToken settings draws db presented).1 = db ∨
      ∃ row ∈ db.refreshTokens, row.tokenHash = settings.hashToken presented ∧
        (refreshToken settings draws db presented).1 =
          (db.revoke row.id).insertToken (Server.storedToken settings ⟨draws, presented⟩ row
            (draws.storedAt + settings.refreshTokenExpireDays * Server.day)) := by
  rcases Server.refreshStep_select settings db ⟨draws, presented⟩ with
    ⟨e, refused⟩ | ⟨row, found, _⟩
  · left
    have ended : (Server.refresh settings).exec db (.select ⟨draws, presented⟩) =
        (db, some (.error e)) := (Server.refresh settings).exec_of_step_inr refused
    simp only [refreshToken, ended]
    split
    next answered => cases answered
    next answered => exact (congrArg Prod.fst answered).symm
    next answered => exact (congrArg Prod.fst answered).symm
  · right
    have member : row ∈ db.validTokens (settings.hashToken presented) draws.verifiedAt :=
      found ▸ List.mem_singleton_self row
    obtain ⟨inTable, hash⟩ := Table.mem_select.mp (List.mem_of_mem_filter member)
    have exchanges : Server.Exchanges settings db ⟨draws, presented⟩ row
        (draws.storedAt + settings.refreshTokenExpireDays * Server.day) :=
      ⟨found, Server.addDays_eq_ok.mpr ⟨rotates.inRange, rfl⟩, rotates.newKey,
        rotates.owned row inTable⟩
    refine ⟨row, inTable, hash, ?_⟩
    rw [refreshToken, Server.exec_of_exchanges settings exchanges]

theorem ids_revoke (db : AuthDb) (id : Server.Uuid) :
    (db.revoke id).refreshTokens.map (·.id) = db.refreshTokens.map (·.id) :=
  Table.map_update (f := fun rt : RefreshToken => { rt with revoked := true }) (fun _ => rfl) id
    db.refreshTokens

theorem keys_exchange (rotates : Rotates settings db draws)
    (keys : (db.refreshTokens.map (·.id)).Nodup) (presented : String) :
    ((refreshToken settings draws db presented).1.refreshTokens.map (·.id)).Nodup := by
  rcases refreshToken_effect rotates presented with same | ⟨row, _, _, exchanged⟩
  · rwa [same]
  · rw [exchanged]
    refine Table.nodup_map_append (by rwa [ids_revoke]) ?_
    intro rt inTable
    have there : rt.id ∈ (db.revoke row.id).refreshTokens.map (·.id) :=
      List.mem_map_of_mem inTable
    rw [ids_revoke] at there
    obtain ⟨old, inOld, same⟩ := List.mem_map.mp there
    rw [← same]
    exact rotates.newKey old inOld

/-- A valid token is exchanged for a valid one. -/
theorem Valid.granted (valid : Valid settings db presented) (rotates : Rotates settings db draws) :
    ∃ tokens, (refreshToken settings draws db presented).2 = .ok tokens ∧
      Valid settings (refreshToken settings draws db presented).1 tokens.refreshToken := by
  obtain ⟨row, known, alive⟩ := valid
  obtain ⟨db', tokens, answered, _, _, exchanged⟩ := refreshToken_cases rotates known alive
  rw [answered]
  exact ⟨tokens, rfl, exchanged.stored⟩

/-- The exchange of one token leaves the others valid. -/
theorem Valid.exchange {token : String} (valid : Valid settings db token)
    (keys : (db.refreshTokens.map (·.id)).Nodup) (rotates : Rotates settings db draws)
    (other : settings.hashToken token ≠ settings.hashToken presented) :
    Valid settings (refreshToken settings draws db presented).1 token := by
  rcases refreshToken_effect rotates presented with same | ⟨row, inTable, hash, exchanged⟩
  · rwa [same]
  · obtain ⟨mine, known, alive⟩ := valid
    obtain ⟨mineIn, mineHash⟩ := Table.of_select_eq_singleton known
    have key : mine.id ≠ row.id := by
      intro same
      obtain rfl := List.inj_on_of_nodup_map keys mineIn inTable same
      exact other (mineHash.symm.trans hash)
    have fresh : settings.hashToken draws.newRefresh ≠ settings.hashToken token := by
      intro same
      exact rotates.newHash mine mineIn (mineHash.trans same.symm)
    refine ⟨mine, ?_, alive⟩
    rw [exchanged, tokensWith_exchanged, known]
    simp [key, Server.storedToken, fresh]

theorem Valid.insertToken {token : String} {new : RefreshToken} (valid : Valid settings db token)
    (fresh : ∀ rt ∈ db.refreshTokens, rt.tokenHash ≠ new.tokenHash) :
    Valid settings (db.insertToken new) token := by
  obtain ⟨mine, known, alive⟩ := valid
  obtain ⟨mineIn, mineHash⟩ := Table.of_select_eq_singleton known
  have other : new.tokenHash ≠ settings.hashToken token := by
    intro same
    exact fresh mine mineIn (mineHash.trans same.symm)
  refine ⟨mine, ?_, alive⟩
  simp only [AuthDb.tokensWith, Table.select, AuthDb.insertToken, List.filter_append] at known ⊢
  rw [known]
  simp [other]

/-! ## The page -/

variable {page : Page}

/-- A change of the table that keeps valid what the page holds. -/
theorem Page.Alive.withDb (alive : page.Alive settings) {db : AuthDb}
    (keys : (db.refreshTokens.map (·.id)).Nodup)
    (kept : ∀ token, page.Holds token → Valid settings page.db token → Valid settings db token) :
    ({ page with db := db } : Page).Alive settings where
  keys := keys
  stored := fun pending token stored =>
    kept token (.inl stored) (alive.stored pending token stored)
  presented := fun waits token presented =>
    kept token (.inr (.inl presented)) (alive.presented waits token presented)
  issued := fun pair answer =>
    kept pair.refreshToken (.inr (.inr ⟨pair, answer, rfl⟩)) (alive.issued pair answer)
  answered := alive.answered
  awaited := alive.awaited

/-- A change of the page that leaves its refresh alone. -/
theorem Page.Alive.withTab (alive : page.Alive settings) {tab : Tab}
    (stored : ∀ token, tab.storage.refreshToken = some token →
      page.tab.storage.refreshToken = some token ∨ Valid settings page.db token)
    (same : tab.refreshPromise = page.tab.refreshPromise) (awaited : tab.Awaited) :
    ({ page with tab := tab } : Page).Alive settings where
  keys := alive.keys
  stored := fun pending token here =>
    (stored token here).elim (alive.stored pending token) id
  presented := fun waits token presented => alive.presented waits token (same ▸ presented)
  issued := alive.issued
  answered := fun answer => by
    change tab.refreshPromise.isSome
    rw [same]
    exact alive.answered answer
  awaited := awaited

/-- A call may start a refresh, with the stored token. -/
theorem Page.Alive.response (alive : page.Alive settings) (i : Nat) (result : FetchResult) :
    ({ page with tab := (page.tab.onResponse i result).1 } : Page).Alive settings := by
  obtain ⟨storage, same | ⟨idle, refresh, stored, starts⟩⟩ :=
    page.tab.onResponse_refreshPromise i result
  · refine alive.withTab (fun token here => .inl ?_) same (alive.awaited.onResponse i result)
    rwa [storage] at here
  · -- Without a refresh there is no answer, so what is stored is valid.
    have unanswered : page.answer = none := by
      cases answer : page.answer with
      | none => rfl
      | some pair =>
          have refreshing := alive.answered (Option.isSome_of_eq_some answer)
          rw [idle] at refreshing
          cases refreshing
    have pending : ∀ pair, page.answer ≠ some (some pair) := by simp [unanswered]
    refine ⟨alive.keys, ?_, ?_, alive.issued, ?_, alive.awaited.onResponse i result⟩
    · intro _ token here
      refine alive.stored pending token ?_
      rwa [storage] at here
    · intro _ token presented
      have same : refresh = token := Option.some.inj (starts.symm.trans presented)
      exact alive.stored pending token (same ▸ stored)
    · exact fun _ => Option.isSome_of_eq_some starts

/-- The server grants the refresh of the page. -/
theorem Page.Alive.exchange (alive : page.Alive settings) {presented : String}
    (refreshing : page.tab.refreshPromise = some presented) (waits : page.answer = none)
    {draws : RefreshDraws} (rotates : Rotates settings page.db draws) :
    ∃ tokens, (refreshToken settings draws page.db presented).2 = .ok tokens ∧
      ({ page with
          db := (refreshToken settings draws page.db presented).1
          answer := some (pairOf (refreshToken settings draws page.db presented).2) } :
        Page).Alive settings := by
  obtain ⟨tokens, granted, valid⟩ := (alive.presented waits presented refreshing).granted rotates
  refine ⟨tokens, granted, keys_exchange rotates alive.keys presented, ?_, ?_, ?_, ?_,
    alive.awaited⟩
  · intro pending
    simp [granted, pairOf] at pending
  · intro none_
    cases none_
  · intro pair answer
    simp only [granted, pairOf, Option.some.injEq] at answer
    rw [← answer]
    exact valid
  · exact fun _ => Option.isSome_of_eq_some refreshing

/-- The answer arrives: its pair takes the place of what is stored. -/
theorem Page.Alive.refreshed (alive : page.Alive settings) {pair : Option Web.TokenResponse}
    (answer : page.answer = some pair) :
    ({ page with answer := none, tab := (page.tab.onRefreshed pair).1 } : Page).Alive settings := by
  refine ⟨alive.keys, ?_, ?_, ?_, ?_, Web.Tab.awaited_onRefreshed pair⟩
  · intro _ token stored
    cases pair with
    | some tokens =>
        obtain rfl := Option.some.inj stored
        exact alive.issued tokens answer
    | none => exact alive.stored (by simp [answer]) token stored
  · intro _ token presented
    cases presented
  · intro tokens issued
    cases issued
  · intro some_
    cases some_

/-- One step keeps alive what the page holds, and the server grants the refresh it answers. -/
theorem Page.Alive.step (alive : page.Alive settings) (event : PageEvent)
    (undisturbed : Undisturbed settings page event) :
    (pageStep settings page event).1.Alive settings ∧
      ∀ presented answer, .exchanged presented answer ∈ (pageStep settings page event).2 →
        ∃ tokens, answer = .ok tokens := by
  have quiet {sent : List Sent} (presented : String)
      (answer : Except Client.ApiError Client.AuthTokens)
      (member : PageOutput.exchanged presented answer ∈ sent.map PageOutput.sent) :
      ∃ tokens, answer = .ok tokens := by
    simp at member
  cases event with
  | apiFetch =>
      exact ⟨alive.withTab (fun token stored => .inl stored) rfl alive.awaited.apiFetch, quiet⟩
  | response i result => exact ⟨alive.response i result, quiet⟩
  | exchange draws =>
      simp only [pageStep]
      split
      next presented refreshing waits =>
          obtain ⟨tokens, granted, after⟩ := alive.exchange refreshing waits undisturbed
          refine ⟨after, ?_⟩
          intro presented' answer member
          obtain ⟨rfl, rfl⟩ := PageOutput.exchanged.inj (List.mem_singleton.mp member)
          exact ⟨tokens, granted⟩
      next => exact ⟨alive, by simp⟩
  | refreshFails =>
      simp only [pageStep]
      split_ifs with refreshing
      · refine ⟨⟨alive.keys, fun _ => alive.stored undisturbed, ?_, ?_, fun _ => refreshing,
          alive.awaited⟩, by simp⟩
        · intro none_
          cases none_
        · intro pair issued
          cases issued
      · exact ⟨alive, by simp⟩
  | refreshed =>
      simp only [pageStep]
      split
      next pair answer => exact ⟨alive.refreshed answer, quiet⟩
      next => exact ⟨alive, by simp⟩
  | handleTokens tokens =>
      refine ⟨alive.withTab (fun token stored => .inr ?_) rfl alive.awaited, by simp [pageStep]⟩
      obtain rfl := Option.some.inj stored
      exact undisturbed
  | clearTokens =>
      refine ⟨alive.withTab (fun token stored => ?_) rfl alive.awaited, by simp [pageStep]⟩
      cases stored
  | otherExchange draws presented =>
      obtain ⟨rotates, other⟩ := undisturbed
      refine ⟨alive.withDb (keys_exchange rotates alive.keys presented) ?_, by simp [pageStep]⟩
      intro token holds valid
      exact valid.exchange alive.keys rotates (other token holds)
  | stored row =>
      obtain ⟨accepted, fresh⟩ := undisturbed
      refine ⟨alive.withDb (Table.nodup_map_append alive.keys accepted.1) ?_, by simp [pageStep]⟩
      exact fun token _ valid => valid.insertToken fresh

/-- A page that is opened with what was stored before. -/
def opened (db : AuthDb) (storage : Web.LocalStorage) : Page := ⟨⟨storage, none, []⟩, none, db⟩

end SingleFlight

/-- Two calls are refused at once, and a third while the answer is on its way; the refused
calls send one refresh and are tried again. Meanwhile another user logs in and refreshes. -/
def threeRefused : List PageEvent :=
  [.apiFetch, .apiFetch, .apiFetch, .response 0 (some 401), .stored ⟨20, 1, "q", 1000, false⟩,
    .response 1 (some 401), .exchange ⟨"s", 11, 1, 2, 3⟩, .otherExchange ⟨"t", 12, 4, 5, 6⟩ "q",
    .response 2 (some 401), .refreshed, .response 0 (some 200)]

end PlgBooster.System
