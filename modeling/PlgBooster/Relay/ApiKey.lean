import PlgBooster.Relay.System

/-!
# The key of the management API

`api_key_middleware` compares the first `x-api-key` header with the configured key, in a loop
that does not stop at the first difference. A header that is not there, or whose value is not
visible ASCII, is compared as the empty text. That is a value like any other: it is refused by
every key but the empty one, which an operator can configure.
-/

namespace PlgBooster.Relay

open Rust

/-- The headers of a request in order, under lower-case names. -/
abbrev HeaderMap := List (String × List UInt8)

namespace HeaderMap

/-- `headers.get(name)`: the first value. -/
def get (headers : HeaderMap) (name : String) : Option (List UInt8) := headers.lookup name

end HeaderMap

def isVisibleAscii (b : UInt8) : Bool := (32 ≤ b && b < 127) || b == 9

/-- `HeaderValue::to_str`, as bytes. -/
def toStr (value : List UInt8) : Option (List UInt8) :=
  if value.all isVisibleAscii then some value else none

/-- Constant-time byte comparison to prevent timing attacks. -/
def constantTimeEq (a b : List UInt8) : Bool :=
  if a.length ≠ b.length then false
  else (a.zip b).foldl (fun diff pair => diff ||| (pair.1 ^^^ pair.2)) 0 == 0

/-- What is compared with the key. -/
def providedKey (headers : HeaderMap) : List UInt8 :=
  ((headers.get "x-api-key").bind toStr).getD []

/-- What the management API answers. -/
inductive ApiResponse where
  | registered (sessionToken : UInt32) (localPort : UInt16)
  | unregistered (sessionToken : UInt32)
  | serviceUnavailable (error : String)
  | unauthorized (error : String)
  deriving DecidableEq, Repr

/-- API key middleware: run the rest of the request, or refuse it. -/
def apiKeyMiddleware {α : Type} (apiKey : String) (headers : HeaderMap)
    (refused : ApiResponse → α) (next : α) : α :=
  if constantTimeEq (providedKey headers) (asBytes apiKey) = false then
    refused (.unauthorized "invalid api key")
  else next

/-- A request to a protected route, with what the system answers in it. -/
inductive SessionRequest where
  | register (token : UInt32) (gameServerIps gamePorts : List String) (bind : BindResult)
      (now : Instant)
  | unregister (token : UInt32)

/-- The two session handlers. -/
def sessionHandler (state : RelayState) : SessionRequest → RelayState × ApiResponse
  | .register token gameServerIps gamePorts bind now =>
      match registerSession state token gameServerIps gamePorts bind now with
      | (state, .ok port) => (state, .registered token port)
      | (state, .error error) => (state, .serviceUnavailable error)
  | .unregister token => (unregisterSession state token, .unregistered token)

/-- A request to a protected route behind the middleware. -/
def protectedRoute (apiKey : String) (state : RelayState) (headers : HeaderMap)
    (request : SessionRequest) : RelayState × ApiResponse :=
  apiKeyMiddleware apiKey headers (fun response => (state, response))
    (sessionHandler state request)

/-- The middleware passes a request with these headers on. -/
def Passes (apiKey : String) (headers : HeaderMap) : Prop :=
  apiKeyMiddleware apiKey headers (fun _ => False) True

/-- The request has a first header that can be read as text. -/
def HasKeyHeader (headers : HeaderMap) (value : List UInt8) : Prop :=
  headers.get "x-api-key" = some value ∧ ∀ b ∈ value, isVisibleAscii b = true

/-! ## The comparison -/

theorem foldl_diff_eq_zero_iff (pairs : List (UInt8 × UInt8)) (diff : UInt8) :
    pairs.foldl (fun diff pair => diff ||| (pair.1 ^^^ pair.2)) diff = 0 ↔
      diff = 0 ∧ ∀ pair ∈ pairs, pair.1 = pair.2 := by
  induction pairs generalizing diff with
  | nil => simp
  | cons pair pairs ih =>
      rw [List.foldl_cons, ih, UInt8.or_eq_zero_iff, UInt8.xor_eq_zero_iff, List.forall_mem_cons,
        and_assoc]

theorem eq_iff_forall_zip {a b : List UInt8} (length : a.length = b.length) :
    a = b ↔ ∀ pair ∈ a.zip b, pair.1 = pair.2 := by
  induction a generalizing b with
  | nil =>
      obtain rfl := List.length_eq_zero_iff.mp length.symm
      simp
  | cons x a ih =>
      cases b with
      | nil => cases length
      | cons y b =>
          rw [List.cons.injEq, List.zip_cons_cons, List.forall_mem_cons,
            ih (Nat.succ.inj length)]

/-- Collecting the differences of all bytes is comparing the texts. -/
theorem constantTimeEq_iff (a b : List UInt8) : constantTimeEq a b = true ↔ a = b := by
  unfold constantTimeEq
  split_ifs with different
  · exact iff_of_false (by simp) fun same => different (congrArg List.length same)
  · rw [beq_iff_eq, foldl_diff_eq_zero_iff, eq_iff_forall_zip (not_not.mp different)]
    exact and_iff_right rfl

/-! ## The middleware -/

theorem passes_iff_providedKey (apiKey : String) (headers : HeaderMap) :
    Passes apiKey headers ↔ providedKey headers = asBytes apiKey := by
  unfold Passes apiKeyMiddleware
  split_ifs with different
  · refine iff_of_false id fun same => ?_
    rw [(constantTimeEq_iff _ _).mpr same] at different
    cases different
  · exact iff_of_true trivial ((constantTimeEq_iff _ _).mp (Bool.eq_true_of_not_eq_false different))

/-- A refused request does nothing, and any other is handled. -/
theorem protectedRoute_cases (apiKey : String) (state : RelayState) (headers : HeaderMap)
    (request : SessionRequest) :
    Passes apiKey headers ∧
        protectedRoute apiKey state headers request = sessionHandler state request ∨
      ¬ Passes apiKey headers ∧
        protectedRoute apiKey state headers request =
          (state, .unauthorized "invalid api key") := by
  unfold Passes protectedRoute apiKeyMiddleware
  split_ifs
  · exact .inr ⟨id, rfl⟩
  · exact .inl ⟨trivial, rfl⟩

theorem asBytes_eq_nil_iff {text : String} : asBytes text = [] ↔ text = "" := by
  constructor
  · intro empty
    have read := fromUtf8_asBytes text
    have blank : fromUtf8 [] = some "" := fromUtf8_asBytes ""
    rw [empty, blank] at read
    exact (Option.some.inj read).symm
  · rintro rfl
    rfl

/-- A readable header is compared as it is. -/
theorem providedKey_of_header {headers : HeaderMap} {value : List UInt8}
    (header : HasKeyHeader headers value) : providedKey headers = value := by
  have visible : value.all isVisibleAscii = true := List.all_eq_true.mpr header.2
  simp [providedKey, header.1, toStr, visible]

/-- No readable header is compared as the empty text. -/
theorem providedKey_of_no_header {headers : HeaderMap}
    (absent : ∀ value, ¬ HasKeyHeader headers value) : providedKey headers = [] := by
  cases found : headers.get "x-api-key" with
  | none => simp [providedKey, found]
  | some value =>
      have unread : value.all isVisibleAscii = false := by
        rw [← Bool.not_eq_true, List.all_eq_true]
        exact fun visible => absent value ⟨found, visible⟩
      simp [providedKey, found, toStr, unread]

/-- The middleware passes exactly the requests with the key in a readable first header if the
key is not empty or the request has a readable header; otherwise it passes one without. -/
theorem keyCheck_exact_iff (apiKey : String) (headers : HeaderMap) :
    (Passes apiKey headers ↔ ∃ value, HasKeyHeader headers value ∧ value = asBytes apiKey) ↔
      apiKey ≠ "" ∨ ∃ value, HasKeyHeader headers value := by
  rw [passes_iff_providedKey]
  by_cases header : ∃ value, HasKeyHeader headers value
  · refine iff_of_true ?_ (.inr header)
    obtain ⟨value, has⟩ := header
    rw [providedKey_of_header has]
    constructor
    · intro same
      exact ⟨value, has, same⟩
    · rintro ⟨other, ⟨found, _⟩, same⟩
      rwa [← Option.some.inj (found.symm.trans has.1)]
  · have none : ∀ value, ¬ HasKeyHeader headers value := fun value has => header ⟨value, has⟩
    have never : ¬ ∃ value, HasKeyHeader headers value ∧ value = asBytes apiKey :=
      fun ⟨value, has, _⟩ => none value has
    rw [providedKey_of_no_header none, iff_false_right never, eq_comm, asBytes_eq_nil_iff]
    exact (or_iff_left header).symm

/-- With an empty key configured, a request without any header is passed on. -/
theorem emptyKey_passes :
    ¬ (Passes "" [] ↔ ∃ value, HasKeyHeader [] value ∧ value = asBytes "") := by
  intro exact'
  obtain ⟨value, ⟨found, _⟩, _⟩ := exact'.mp ((passes_iff_providedKey "" []).mpr rfl)
  cases found

end PlgBooster.Relay
