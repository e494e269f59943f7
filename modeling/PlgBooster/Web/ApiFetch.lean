import Mathlib.Data.List.Basic

/-!
# The web client's calls

`apiFetch` of the website, cut at its awaits. A call whose access token is refused waits for
`refreshPromise`, and only starts a refresh if there is none. The script runs to the end between
two awaits, and the calls that wait for one promise go on one after another before anything
else does, so the arrival of a refresh is one step here: it stores the pair and resumes all
that wait for it.
-/

namespace PlgBooster.Web

structure TokenResponse where
  accessToken : String
  refreshToken : String
  deriving DecidableEq, Repr

/-- The two items of `localStorage`. -/
structure LocalStorage where
  accessToken : Option String
  refreshToken : Option String
  deriving DecidableEq, Repr

namespace LocalStorage

def setTokens (tokens : TokenResponse) : LocalStorage where
  accessToken := some tokens.accessToken
  refreshToken := some tokens.refreshToken

/-- `clearTokens`. -/
def cleared : LocalStorage := ⟨none, none⟩

/-- `getRefreshToken`, where an empty item counts as none. -/
def getRefreshToken (storage : LocalStorage) : Option String :=
  storage.refreshToken.filter (· ≠ "")

/-- The header of a first request, if there is an access token. -/
def authorization (storage : LocalStorage) : Option String :=
  (storage.accessToken.filter (· ≠ "")).map ("Bearer " ++ ·)

/-- The header of a second request. -/
def retryAuthorization (storage : LocalStorage) : String :=
  "Bearer " ++ storage.accessToken.getD "null"

end LocalStorage

/-- What a `fetch` comes to: the status of its response, or a rejection. -/
abbrev FetchResult := Option Nat

/-- Where a call is. -/
inductive Call where
  | fetching
  /-- It was refused and awaits `refreshPromise`. -/
  | waiting
  | retrying
  | settled (result : FetchResult)
  deriving DecidableEq, Repr

/-- One page of the website. A refresh on its way is kept as the token it presents. -/
structure Tab where
  storage : LocalStorage
  refreshPromise : Option String
  calls : List Call
  deriving DecidableEq, Repr

/-- A request that the page sends: of a call with its header, or a refresh with its token. -/
inductive Sent where
  | fetch (authorization : Option String)
  | refresh (refreshToken : String)
  deriving DecidableEq, Repr

namespace Tab

/-- A call sends its first request. -/
def apiFetch (tab : Tab) : Tab × List Sent :=
  ({ tab with calls := tab.calls ++ [.fetching] }, [.fetch tab.storage.authorization])

/-- The fetch of a call returns. -/
def onResponse (tab : Tab) (i : Nat) (result : FetchResult) : Tab × List Sent :=
  let settled := { tab with calls := tab.calls.set i (.settled result) }
  match tab.calls[i]? with
  | some .fetching =>
      match tab.storage.getRefreshToken with
      | none => (settled, [])
      | some refresh =>
          -- Auto-refresh on 401
          if result = some 401 then
            let waiting := { tab with calls := tab.calls.set i .waiting }
            match tab.refreshPromise with
            | some _ => (waiting, [])
            | none => ({ waiting with refreshPromise := some refresh }, [.refresh refresh])
          else (settled, [])
  | some .retrying => (settled, [])
  | _ => (tab, [])

/-- What a call that waits goes on with. -/
def resume (refreshed : Bool) : Call → Call
  | .waiting => if refreshed then .retrying else .settled (some 401)
  | call => call

/-- `refreshTokens` returns, with the pair of an `ok` response, and the calls go on. -/
def onRefreshed (tab : Tab) (pair : Option TokenResponse) : Tab × List Sent :=
  let storage := pair.elim tab.storage .setTokens
  ({ storage := storage
     refreshPromise := none
     calls := tab.calls.map (resume pair.isSome) },
    if pair.isSome then
      (tab.calls.filter (· = .waiting)).map fun _ => .fetch (some storage.retryAuthorization)
    else [])

def handleTokens (tab : Tab) (tokens : TokenResponse) : Tab :=
  { tab with storage := .setTokens tokens }

def clearTokens (tab : Tab) : Tab := { tab with storage := .cleared }

/-- A call waits only while a refresh is on its way. -/
def Awaited (tab : Tab) : Prop := .waiting ∈ tab.calls → tab.refreshPromise.isSome

variable {tab : Tab}

theorem Awaited.onResponse (awaited : tab.Awaited) (i : Nat) (result : FetchResult) :
    (tab.onResponse i result).1.Awaited := by
  have settled : ({ tab with calls := tab.calls.set i (.settled result) } : Tab).Awaited := by
    intro member
    rcases List.mem_or_eq_of_mem_set member with old | new
    · exact awaited old
    · cases new
  unfold Tab.onResponse
  split
  · split
    · exact settled
    · split_ifs
      · split
        · next presented refreshing => exact fun _ => Option.isSome_of_eq_some refreshing
        · exact fun _ => rfl
      · exact settled
  · exact settled
  · exact awaited

theorem not_waiting_resume (refreshed : Bool) (call : Call) : resume refreshed call ≠ .waiting := by
  cases call <;> cases refreshed <;> simp [resume]

/-- The refresh resumes all that wait. -/
theorem awaited_onRefreshed (pair : Option TokenResponse) : (tab.onRefreshed pair).1.Awaited := by
  intro member
  obtain ⟨call, _, same⟩ := List.mem_map.mp member
  exact absurd same (not_waiting_resume _ call)

theorem Awaited.apiFetch (awaited : tab.Awaited) : tab.apiFetch.1.Awaited := by
  intro member
  rcases List.mem_append.mp member with old | new
  · exact awaited old
  · cases List.mem_singleton.mp new

/-- The response to a call starts at most one refresh, with the stored token. -/
theorem onResponse_refreshPromise (tab : Tab) (i : Nat) (result : FetchResult) :
    (tab.onResponse i result).1.storage = tab.storage ∧
      ((tab.onResponse i result).1.refreshPromise = tab.refreshPromise ∨
        tab.refreshPromise = none ∧ ∃ refresh, tab.storage.refreshToken = some refresh ∧
          (tab.onResponse i result).1.refreshPromise = some refresh) := by
  unfold onResponse
  split
  · split
    · exact ⟨rfl, .inl rfl⟩
    next refresh stored =>
      split_ifs
      · split
        next presented refreshing => exact ⟨rfl, .inl rfl⟩
        next idle =>
          exact ⟨rfl, .inr ⟨idle, refresh, (Option.filter_eq_some_iff.mp stored).1, rfl⟩⟩
      · exact ⟨rfl, .inl rfl⟩
  · exact ⟨rfl, .inl rfl⟩
  · exact ⟨rfl, .inl rfl⟩

end Tab

end PlgBooster.Web
