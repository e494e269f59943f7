import PlgBooster.Library.Machine
import PlgBooster.Library.SlidingWindow
import Mathlib.Algebra.Order.Ring.Unbundled.Rat
import Mathlib.Data.List.AList
import Mathlib.Tactic.Linarith

/-!
# The rate limiter

`RateLimitMiddleware` keeps one sorted set for each limiter key. A request drops what has left
the window, adds a member named by its own reading of the clock, and counts the members. What
is in the set is therefore what a sliding window of names holds, with the printed reading as
the name, and two requests with one reading are one member.

The commands of a pipeline run at one instant, and the clock of the keys' expiry is the one
that the requests read. Readings are rational numbers of seconds, and `str` is how the
language prints one.
-/

namespace PlgBooster.Server

/-- What the middleware reads of a request: `type`, `path` and the host of `client`. -/
structure Scope where
  kind : String
  path : String
  client : Option String
  deriving DecidableEq, Repr

/-- Per-path rate limit overrides. -/
def authPaths : List String := ["/api/auth/register", "/api/auth/login", "/api/auth/refresh"]

/-- Requests and seconds: 5 req per 60s. -/
def authLimit : Nat × Nat := (5, 60)

/-- 100 req per 60s. -/
def globalLimit : Nat × Nat := (100, 60)

structure RateLimit where
  key : String
  maxRequests : Nat
  window : Nat
  deriving DecidableEq, Repr

/-- The limit a request falls under. The health check has none. -/
def rateLimitOf (scope : Scope) : Option RateLimit :=
  if scope.kind ≠ "http" ∨ scope.path = "/api/health" then none
  else
    let clientIp := scope.client.getD "unknown"
    if scope.path ∈ authPaths then
      some ⟨"rl:auth:" ++ clientIp ++ ":" ++ scope.path, authLimit.1, authLimit.2⟩
    else some ⟨"rl:global:" ++ clientIp, globalLimit.1, globalLimit.2⟩

/-! ## The sorted sets -/

/-- A sorted set with its members' scores, and when its key expires. -/
structure SortedSet where
  members : List (String × ℚ)
  expiresAt : Option ℚ
  deriving DecidableEq, Repr

namespace SortedSet

def empty : SortedSet := ⟨[], none⟩

/-- Remove the members with a score between the two bounds, both included. -/
def zremrangebyscore (set : SortedSet) (min max : ℚ) : SortedSet :=
  { set with members := set.members.filter fun m => ¬ (min ≤ m.2 ∧ m.2 ≤ max) }

/-- Add a member, or give it a new score. -/
def zadd (set : SortedSet) (member : String) (score : ℚ) : SortedSet :=
  { set with members := set.members.filter (fun m => m.1 ≠ member) ++ [(member, score)] }

def zcard (set : SortedSet) : Nat := set.members.length

def expire (set : SortedSet) (now : ℚ) (seconds : Nat) : SortedSet :=
  { set with expiresAt := some (now + seconds) }

end SortedSet

abbrev Redis := AList fun _ : String => SortedSet

namespace Redis

/-- What a command finds under a key: nothing, where the key has expired. -/
def live (redis : Redis) (key : String) (now : ℚ) : SortedSet :=
  match redis.lookup key with
  | none => .empty
  | some set => if ∃ e ∈ set.expiresAt, e < now then .empty else set

variable (str : ℚ → String)

/-- The pipeline of a request, with the result of its `zcard`. -/
def pipeline (redis : Redis) (key : String) (now : ℚ) (window : Nat) : Redis × Nat :=
  let removed := (redis.live key now).zremrangebyscore 0 (now - window)
  let added := removed.zadd (str now) now
  (redis.insert key (added.expire now window), added.zcard)

end Redis

/-- A request when it arrives: the reading of the clock, and whether Redis answers. -/
structure Arrival where
  scope : Scope
  now : ℚ
  redisAnswers : Bool
  deriving DecidableEq, Repr

/-- Where a request goes. -/
inductive Passed where
  | app (request : Arrival)
  | tooManyRequests (request : Arrival)
  deriving DecidableEq, Repr

/-- `RateLimitMiddleware.__call__`. -/
def rateLimit (str : ℚ → String) (redis : Redis) (request : Arrival) : Redis × List Passed :=
  match rateLimitOf request.scope with
  | none => (redis, [.app request])
  | some limit =>
      -- If Redis is down, allow the request
      if request.redisAnswers = false then (redis, [.app request])
      else
        let results := redis.pipeline str limit.key request.now limit.window
        if results.2 > limit.maxRequests then (results.1, [.tooManyRequests request])
        else (results.1, [.app request])

/-- The requests are counted under a key. -/
def Arrival.CountsFor (key : String) (request : Arrival) : Prop :=
  (rateLimitOf request.scope).map (·.key) = some key

instance (key : String) (request : Arrival) : Decidable (request.CountsFor key) :=
  inferInstanceAs (Decidable (_ = _))

/-- The readings of the requests that a key counts. -/
def readings (key : String) (requests : List Arrival) : List ℚ :=
  (requests.filter fun request => request.CountsFor key).map (·.now)

/-- The requests that reach the application. -/
def reached (outputs : List Passed) : List Arrival :=
  outputs.filterMap fun
    | .app request => some request
    | .tooManyRequests _ => none

/-! ## The limit of a key -/

theorem auth_key_ne_global_key (a b : String) : "rl:auth:" ++ a ≠ "rl:global:" ++ b := by
  intro same
  have letters := congrArg (fun s : String => s.toList.take 4) same
  simp [String.toList_append] at letters

/-- A key belongs to one limit. -/
theorem rateLimitOf_unique {first second : Scope} {limit limit' : RateLimit}
    (hl : rateLimitOf first = some limit) (hl' : rateLimitOf second = some limit')
    (same : limit.key = limit'.key) : limit = limit' := by
  unfold rateLimitOf at hl hl'
  split_ifs at hl hl' with _ auth _ auth'
  all_goals
    obtain rfl := Option.some.inj hl
    obtain rfl := Option.some.inj hl'
  · exact congrArg (RateLimit.mk · 5 60) same
  · rw [String.append_assoc, String.append_assoc] at same
    exact absurd same (auth_key_ne_global_key _ _)
  · rw [String.append_assoc, String.append_assoc] at same
    exact absurd same.symm (auth_key_ne_global_key _ _)
  · exact congrArg (RateLimit.mk · 100 60) same

theorem window_pos {scope : Scope} {limit : RateLimit} (hl : rateLimitOf scope = some limit) :
    0 < limit.window := by
  unfold rateLimitOf at hl
  split_ifs at hl
  all_goals
    obtain rfl := Option.some.inj hl
    exact Nat.zero_lt_succ _

/-! ## What a key remembers -/

section

variable (str : ℚ → String)

/-- The members stand for past readings, and every reading since the opening of a window has
its name among them, with a score as late. -/
structure Holds (members : List (String × ℚ)) (past : List ℚ) (opening : ℚ) : Prop where
  distinct : (members.map Prod.fst).Nodup
  stored : ∀ m ∈ members, m.2 ∈ past ∧ str m.2 = m.1
  complete : ∀ r ∈ past, opening < r → ∃ m ∈ members, m.1 = str r ∧ r ≤ m.2

/-- What is stored under a key after the requests of the past. -/
def Tracks (window : Nat) (past : List ℚ) : Option SortedSet → Prop
  | none => past = []
  | some set => ∃ last ∈ past, (∀ r ∈ past, r ≤ last) ∧ set.expiresAt = some (last + window) ∧
      Holds str set.members past (last - window)

variable {str}
variable {members : List (String × ℚ)} {past : List ℚ} {opening now : ℚ}

theorem Holds.mono {later : ℚ} (holds : Holds str members past opening)
    (after : opening ≤ later) : Holds str members past later where
  distinct := holds.distinct
  stored := holds.stored
  complete r member inside := holds.complete r member (lt_of_le_of_lt after inside)

/-- A key that has expired has nothing left in the window. -/
theorem Tracks.live {window : Nat} {redis : Redis} {key : String}
    (tracks : Tracks str window past (redis.lookup key)) (ordered : ∀ r ∈ past, r ≤ now) :
    Holds str (redis.live key now).members past (now - window) := by
  unfold Redis.live
  cases stored : redis.lookup key with
  | none =>
      rw [stored] at tracks
      obtain rfl : past = [] := tracks
      exact ⟨List.nodup_nil, by simp [SortedSet.empty], by simp⟩
  | some set =>
      rw [stored] at tracks
      obtain ⟨last, inPast, latest, expiry, holds⟩ := tracks
      dsimp only
      split_ifs with expired
      · refine ⟨List.nodup_nil, by simp [SortedSet.empty], ?_⟩
        intro r member inside
        obtain ⟨e, found, elapsed⟩ := expired
        rw [expiry] at found
        obtain rfl := Option.some.inj found
        have upTo := latest r member
        linarith
      · have upTo := ordered last inPast
        exact holds.mono (by linarith)

/-- What is removed has left the window. -/
theorem Holds.zremrangebyscore {set : SortedSet} (holds : Holds str set.members past opening)
    (sinceEpoch : ∀ r ∈ past, 0 ≤ r) :
    Holds str (set.zremrangebyscore 0 opening).members past opening ∧
      ∀ m ∈ (set.zremrangebyscore 0 opening).members, opening < m.2 := by
  have kept {m : String × ℚ} : m ∈ (set.zremrangebyscore 0 opening).members ↔
      m ∈ set.members ∧ ¬ (0 ≤ m.2 ∧ m.2 ≤ opening) := by
    simp only [SortedSet.zremrangebyscore, List.mem_filter, decide_eq_true_eq]
  refine ⟨⟨?_, ?_, ?_⟩, ?_⟩
  · exact (List.filter_sublist.map Prod.fst).nodup holds.distinct
  · intro m member
    exact holds.stored m (kept.mp member).1
  · intro r member inside
    obtain ⟨m, stored, named, later⟩ := holds.complete r member inside
    refine ⟨m, kept.mpr ⟨stored, fun gone => ?_⟩, named, later⟩
    exact absurd (lt_of_lt_of_le inside later) (not_lt.mpr gone.2)
  · intro m member
    obtain ⟨stored, stays⟩ := kept.mp member
    have positive := sinceEpoch m.2 (holds.stored m stored).1
    by_contra outside
    exact stays ⟨positive, not_lt.mp outside⟩

theorem Holds.zadd {set : SortedSet} (holds : Holds str set.members past opening)
    (ordered : ∀ r ∈ past, r ≤ now) :
    Holds str (set.zadd (str now) now).members (past ++ [now]) opening := by
  have others {m : String × ℚ} : m ∈ (set.zadd (str now) now).members ↔
      m ∈ set.members ∧ m.1 ≠ str now ∨ m = (str now, now) := by
    simp only [SortedSet.zadd, List.mem_append, List.mem_filter, decide_eq_true_eq,
      List.mem_singleton]
  refine ⟨?_, ?_, ?_⟩
  · have rest : ((set.members.filter fun m => m.1 ≠ str now).map Prod.fst).Nodup :=
      (List.filter_sublist.map Prod.fst).nodup holds.distinct
    simp only [SortedSet.zadd, List.map_append, List.map_cons, List.map_nil]
    refine List.nodup_append.mpr ⟨rest, List.nodup_singleton _, ?_⟩
    rintro name member _ new rfl
    obtain ⟨m, kept, rfl⟩ := List.mem_map.mp member
    have other := of_decide_eq_true (List.mem_filter.mp kept).2
    exact other (List.mem_singleton.mp new)
  · intro m member
    rcases others.mp member with ⟨old, _⟩ | rfl
    · obtain ⟨inPast, named⟩ := holds.stored m old
      exact ⟨List.mem_append_left _ inPast, named⟩
    · exact ⟨List.mem_append_right _ (List.mem_singleton_self _), rfl⟩
  · intro r member inside
    rcases List.mem_append.mp member with before | new
    · obtain ⟨m, old, named, later⟩ := holds.complete r before inside
      by_cases same : m.1 = str now
      · exact ⟨(str now, now), others.mpr (.inr rfl), same.symm.trans named, ordered r before⟩
      · exact ⟨m, others.mpr (.inl ⟨old, same⟩), named, later⟩
    · obtain rfl := List.mem_singleton.mp new
      exact ⟨(str r, r), others.mpr (.inr rfl), rfl, le_refl r⟩

/-- The windows of a key. -/
def opens (window : Nat) (t : ℚ) : ℚ := t - window

theorem opens_monotone (window : Nat) : Monotone (opens window) := by
  intro s t order
  simp only [opens]
  linarith

/-- The members a request counts are the names in the window that it ends. -/
theorem zcard_eq_names {set : SortedSet} {window : Nat}
    (holds : Holds str set.members (past ++ [now]) (now - window))
    (inside : ∀ m ∈ set.members, now - window < m.2) (ordered : ∀ r ∈ past, r ≤ now) :
    set.zcard = (SlidingWindow.names (opens window) str (past ++ [now]) now).length := by
  have upTo : ∀ r ∈ past ++ [now], r ≤ now := by
    intro r member
    rcases List.mem_append.mp member with before | new
    · exact ordered r before
    · exact le_of_eq (List.mem_singleton.mp new)
  have count : set.zcard = (set.members.map Prod.fst).length := (List.length_map _).symm
  rw [count]
  refine SlidingWindow.length_names_eq holds.distinct fun n => ?_
  rw [SlidingWindow.mem_names, List.mem_map]
  constructor
  · rintro ⟨m, member, rfl⟩
    obtain ⟨inPast, named⟩ := holds.stored m member
    exact ⟨m.2, inPast, ⟨inside m member, upTo m.2 inPast⟩, named⟩
  · rintro ⟨r, member, ⟨after, _⟩, rfl⟩
    obtain ⟨m, stored, named, _⟩ := holds.complete r member after
    exact ⟨m, stored, named⟩

/-- A request counts the names in its window, and the key remembers it. -/
theorem pipeline_spec {window : Nat} (positive : 0 < window) {redis : Redis} {key : String}
    (tracks : Tracks str window past (redis.lookup key)) (ordered : ∀ r ∈ past, r ≤ now)
    (sinceEpoch : ∀ r ∈ past, 0 ≤ r) :
    (redis.pipeline str key now window).2 =
        (SlidingWindow.names (opens window) str (past ++ [now]) now).length ∧
      Tracks str window (past ++ [now])
        ((redis.pipeline str key now window).1.lookup key) := by
  obtain ⟨kept, inside⟩ := (tracks.live ordered).zremrangebyscore sinceEpoch
  have added := kept.zadd ordered
  have open' : now - window < now := by
    have length : (0 : ℚ) < window := Nat.cast_pos.mpr positive
    linarith
  refine ⟨zcard_eq_names added ?_ ordered, ?_⟩
  · intro m member
    rcases List.mem_append.mp member with old | new
    · exact inside m (List.mem_filter.mp old).1
    · rw [List.mem_singleton.mp new]
      exact open'
  · simp only [Redis.pipeline, AList.lookup_insert]
    refine ⟨now, List.mem_append_right _ (List.mem_singleton_self now), ?_, rfl, added⟩
    intro r member
    rcases List.mem_append.mp member with before | new
    · exact ordered r before
    · exact le_of_eq (List.mem_singleton.mp new)

theorem pipeline_lookup_of_ne {redis : Redis} {key other : String} (different : other ≠ key)
    (window : Nat) :
    (redis.pipeline str key now window).1.lookup other = redis.lookup other :=
  AList.lookup_insert_ne different

end

/-! ## Runs -/

section

variable {str : ℚ → String} {scope : Scope} {limit : RateLimit}

/-- The requests that a key counts read the clock in order and find Redis. -/
structure Served (key : String) (requests : List Arrival) : Prop where
  ordered : (readings key requests).Pairwise (· ≤ ·)
  sinceEpoch : ∀ r ∈ readings key requests, 0 ≤ r
  answered : ∀ request ∈ requests, request.CountsFor key → request.redisAnswers = true

/-- A request of another key leaves this one alone. -/
theorem rateLimit_of_other (redis : Redis) {request : Arrival} {key : String}
    (other : ¬ request.CountsFor key) :
    (rateLimit str redis request).1.lookup key = redis.lookup key ∧
      readings key (reached (rateLimit str redis request).2) = [] := by
  have unread : readings key [request] = [] := by simp [readings, other]
  unfold rateLimit
  cases found : rateLimitOf request.scope with
  | none => exact ⟨rfl, unread⟩
  | some limit =>
      have different : key ≠ limit.key := by
        rintro rfl
        exact other (by rw [Arrival.CountsFor, found, Option.map_some])
      dsimp only
      split_ifs
      · exact ⟨rfl, unread⟩
      · exact ⟨pipeline_lookup_of_ne different _, rfl⟩
      · exact ⟨pipeline_lookup_of_ne different _, unread⟩

/-- A request of the key is admitted if its window has few enough names. -/
theorem rateLimit_of_countsFor (hl : rateLimitOf scope = some limit) {redis : Redis}
    {request : Arrival} {past : List ℚ} (counts : request.CountsFor limit.key)
    (answered : request.redisAnswers = true)
    (tracks : Tracks str limit.window past (redis.lookup limit.key))
    (ordered : ∀ r ∈ past, r ≤ request.now) (sinceEpoch : ∀ r ∈ past, 0 ≤ r) :
    Tracks str limit.window (past ++ [request.now])
        ((rateLimit str redis request).1.lookup limit.key) ∧
      readings limit.key (reached (rateLimit str redis request).2) =
        if SlidingWindow.Fits (opens limit.window) str limit.maxRequests (past ++ [request.now])
          request.now then [request.now] else [] := by
  obtain ⟨limit', found, same⟩ := Option.map_eq_some_iff.mp counts
  obtain rfl := rateLimitOf_unique found hl same
  obtain ⟨count, after⟩ := pipeline_spec (window_pos hl) tracks ordered sinceEpoch
  have admits : (redis.pipeline str limit'.key request.now limit'.window).2 > limit'.maxRequests ↔
      ¬ SlidingWindow.Fits (opens limit'.window) str limit'.maxRequests (past ++ [request.now])
        request.now := by
    rw [count, SlidingWindow.Fits]
    omega
  have read : readings limit'.key [request] = [request.now] := by simp [readings, counts]
  simp only [rateLimit, found, answered, Bool.true_eq_false, if_false]
  by_cases fits : SlidingWindow.Fits (opens limit'.window) str limit'.maxRequests
      (past ++ [request.now]) request.now
  · rw [if_neg (fun many => admits.mp many fits), if_pos fits]
    exact ⟨after, read⟩
  · rw [if_pos (admits.mpr fits), if_neg fits]
    exact ⟨after, rfl⟩

theorem reached_append (first second : List Passed) :
    reached (first ++ second) = reached first ++ reached second :=
  List.filterMap_append

theorem readings_append (key : String) (first second : List Arrival) :
    readings key (first ++ second) = readings key first ++ readings key second := by
  simp only [readings, List.filter_append, List.map_append]

/-- The middleware admits the requests of a key as a sliding window of names does. -/
theorem run_rateLimit (hl : rateLimitOf scope = some limit) {redis : Redis} {past : List ℚ}
    {requests : List Arrival} (tracks : Tracks str limit.window past (redis.lookup limit.key))
    (ordered : (past ++ readings limit.key requests).Pairwise (· ≤ ·))
    (sinceEpoch : ∀ r ∈ past ++ readings limit.key requests, 0 ≤ r)
    (answered : ∀ request ∈ requests, request.CountsFor limit.key → request.redisAnswers = true) :
    readings limit.key (reached (Machine.run (rateLimit str) redis requests).2) =
      SlidingWindow.admitted (opens limit.window) str limit.maxRequests past
        (readings limit.key requests) := by
  induction requests generalizing redis past with
  | nil => rfl
  | cons request rest ih =>
      have answeredRest := fun r member => answered r (List.mem_cons_of_mem _ member)
      rw [Machine.run_cons, reached_append, readings_append]
      by_cases counts : request.CountsFor limit.key
      · have split : readings limit.key (request :: rest) =
            request.now :: readings limit.key rest := by simp [readings, counts]
        rw [split] at ordered sinceEpoch ⊢
        have before : ∀ r ∈ past, r ≤ request.now := fun r member =>
          (List.pairwise_append.mp ordered).2.2 r member _ List.mem_cons_self
        obtain ⟨after, admits⟩ := rateLimit_of_countsFor hl counts
          (answered request List.mem_cons_self counts) tracks before
          fun r member => sinceEpoch r (List.mem_append_left _ member)
        have joined : past ++ request.now :: readings limit.key rest =
            past ++ [request.now] ++ readings limit.key rest := by simp
        rw [admits, ih after (joined ▸ ordered) (joined ▸ sinceEpoch) answeredRest,
          SlidingWindow.admitted]
      · obtain ⟨same, nothing⟩ := @rateLimit_of_other str redis request limit.key counts
        have split : readings limit.key (request :: rest) = readings limit.key rest := by
          simp [readings, counts]
        rw [split] at ordered sinceEpoch ⊢
        rw [nothing, List.nil_append]
        exact ih (same ▸ tracks) ordered sinceEpoch answeredRest

/-- What a key admits is what a sliding window of names admits of its readings. -/
theorem Served.admitted (hl : rateLimitOf scope = some limit) {requests : List Arrival}
    (served : Served limit.key requests) :
    readings limit.key (reached (Machine.run (rateLimit str) ∅ requests).2) =
      SlidingWindow.admitted (opens limit.window) str limit.maxRequests []
        (readings limit.key requests) :=
  @run_rateLimit str scope limit hl ∅ [] requests rfl served.ordered served.sinceEpoch
    served.answered

/-- The limit bounds the admitted requests of a key in every window, if in no window with more
requests of the key than the limit two of them print the same reading. -/
theorem admitted_window_le (hl : rateLimitOf scope = some limit) {requests : List Arrival}
    (served : Served limit.key requests)
    (apart : SlidingWindow.ToldApart (opens limit.window) str limit.maxRequests
      (readings limit.key requests)) (t : ℚ) :
    ((readings limit.key (reached (Machine.run (rateLimit str) ∅ requests).2)).filter
      fun r => t - limit.window < r ∧ r ≤ t).length ≤ limit.maxRequests := by
  rw [served.admitted hl]
  exact SlidingWindow.bounded_admitted (opens_monotone limit.window) served.ordered apart t

/-- Requests that all read different times are told apart. -/
theorem toldApart_of_distinct_readings (injective : Function.Injective str)
    {events : List ℚ} (distinct : events.Nodup) :
    SlidingWindow.ToldApart (opens limit.window) str limit.maxRequests events :=
  fun _ _ _ => (List.filter_sublist.map str).nodup (distinct.map injective)

end

/-- How the language prints a whole number of seconds. -/
def strOfSeconds (t : ℚ) : String := toString t.num ++ ".0"

/-- A login from one address. -/
def loginScope : Scope := ⟨"http", "/api/auth/login", some "203.0.113.7"⟩

def loginAt (now : ℚ) : Arrival := ⟨loginScope, now, true⟩

/-- The limit of that login. -/
def loginLimit : RateLimit := ⟨"rl:auth:203.0.113.7:/api/auth/login", 5, 60⟩

/-- Seven logins a second apart. -/
def sevenLogins : List Arrival := (List.range 7).map fun i => loginAt (1700000000 + i)

theorem admitted_window_le_sevenLogins :
    ((readings loginLimit.key
        (reached (Machine.run (rateLimit strOfSeconds) ∅ sevenLogins).2)).filter
      fun r => (1700000030 : ℚ) - loginLimit.window < r ∧ r ≤ 1700000030).length ≤
        loginLimit.maxRequests :=
  @admitted_window_le strOfSeconds loginScope loginLimit (by decide) sevenLogins
    ⟨by decide +kernel, by decide +kernel, by decide⟩ (by decide +kernel) 1700000030

/-- Six logins with one reading of the clock. -/
def sixLogins : List Arrival := List.replicate 6 (loginAt 1700000000)

/-- They are one member of the sorted set, so all of them are admitted. -/
theorem sixLogins_admitted :
    Served loginLimit.key sixLogins ∧
      ¬ ∀ t : ℚ, ((readings loginLimit.key
          (reached (Machine.run (rateLimit strOfSeconds) ∅ sixLogins).2)).filter
          fun r => t - loginLimit.window < r ∧ r ≤ t).length ≤ loginLimit.maxRequests := by
  refine ⟨⟨by decide, by decide, by decide⟩, ?_⟩
  intro bounded
  have all := bounded 1700000000
  revert all
  decide +kernel

end PlgBooster.Server
