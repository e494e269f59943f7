import Mathlib.Data.List.Dedup
import Mathlib.Data.List.MinMax
import Mathlib.Data.List.Perm.Basic

/-!
# Counting names in a sliding window

A limiter admits an event if the window that ends with it holds few enough names, its own
included. The names are how the limiter remembers events: two events with one name are
counted once, and both are admitted on the count of one. So no window has more admitted
events than the limit, as long as the events of a crowded window have names of their own.

An event is its time, and the time at which the window of `t` opens is `opens t`.
-/

namespace SlidingWindow

variable {τ ν : Type*} [LinearOrder τ] [DecidableEq ν]
variable (opens : τ → τ) (name : τ → ν) (limit : Nat)

/-- The events after the opening of a window and up to its end. -/
def window (events : List τ) (t : τ) : List τ := events.filter fun r => opens t < r ∧ r ≤ t

/-- The names in a window. -/
def names (events : List τ) (t : τ) : List ν := ((window opens events t).map name).dedup

/-- The window that ends at `t` holds few enough names. -/
def Fits (events : List τ) (t : τ) : Prop := (names opens name events t).length ≤ limit

instance (events : List τ) (t : τ) : Decidable (Fits opens name limit events t) :=
  inferInstanceAs (Decidable (_ ≤ _))

/-- The events that are admitted, each by the names of its window when it comes. -/
def admitted (past : List τ) : List τ → List τ
  | [] => []
  | t :: rest =>
      (if Fits opens name limit (past ++ [t]) t then [t] else []) ++ admitted (past ++ [t]) rest

/-- No window has more of the events than the limit. -/
def Bounded (events : List τ) : Prop := ∀ t, (window opens events t).length ≤ limit

/-- No two events of a window with more events than the limit have one name. -/
def ToldApart (events : List τ) : Prop :=
  ∀ t ∈ events, limit < (window opens events t).length →
    ((window opens events t).map name).Nodup

instance (events : List τ) : Decidable (ToldApart opens name limit events) :=
  inferInstanceAs (Decidable (∀ t ∈ events, _ → _))

variable {opens name limit}

theorem mem_window {events : List τ} {t r : τ} :
    r ∈ window opens events t ↔ r ∈ events ∧ opens t < r ∧ r ≤ t := by
  simp [window]

theorem mem_names {events : List τ} {t : τ} {n : ν} :
    n ∈ names opens name events t ↔ ∃ r ∈ events, (opens t < r ∧ r ≤ t) ∧ name r = n := by
  simp only [names, List.mem_dedup, List.mem_map, mem_window, and_assoc]

/-- A list of distinct names counts those of the window if it has the same ones. -/
theorem length_names_eq {events : List τ} {t : τ} {ns : List ν} (distinct : ns.Nodup)
    (same : ∀ n, n ∈ ns ↔ n ∈ names opens name events t) :
    ns.length = (names opens name events t).length :=
  ((List.perm_ext_iff_of_nodup distinct (List.nodup_dedup _)).mpr same).length_eq

/-- Later events change no name in the window of an earlier one. -/
theorem fits_append_iff {past rest : List τ} {t : τ} (later : ∀ r ∈ rest, t ≤ r) :
    Fits opens name limit (past ++ t :: rest) t ↔ Fits opens name limit (past ++ [t]) t := by
  have same : (names opens name (past ++ [t]) t).length =
      (names opens name (past ++ t :: rest) t).length := by
    refine length_names_eq (List.nodup_dedup _) fun n => ?_
    rw [mem_names, mem_names]
    constructor
    · rintro ⟨r, member, inside⟩
      refine ⟨r, ?_, inside⟩
      rcases List.mem_append.mp member with before | now
      · exact List.mem_append_left _ before
      · exact List.mem_append_right _ (List.mem_singleton.mp now ▸ List.mem_cons_self)
    · rintro ⟨r, member, ⟨open', upTo⟩, named⟩
      rcases List.mem_append.mp member with before | now
      · exact ⟨r, List.mem_append_left _ before, ⟨open', upTo⟩, named⟩
      · -- An event after `t` that is in its window is at `t`.
        have here : r = t := by
          rcases List.mem_cons.mp now with here | after
          · exact here
          · exact le_antisymm upTo (later r after)
        subst here
        exact ⟨r, List.mem_append_right _ (List.mem_singleton_self r), ⟨open', upTo⟩, named⟩
  simp only [Fits, same]

/-- For events in order it makes no difference that the later ones were not there yet. -/
theorem admitted_eq_filter (past : List τ) {events : List τ}
    (ordered : (past ++ events).Pairwise (· ≤ ·)) :
    admitted opens name limit past events =
      events.filter fun t => Fits opens name limit (past ++ events) t := by
  induction events generalizing past with
  | nil => rfl
  | cons t rest ih =>
      have split : past ++ t :: rest = past ++ [t] ++ rest := by simp
      have later : ∀ r ∈ rest, t ≤ r :=
        (List.pairwise_cons.mp (List.pairwise_append.mp ordered).2.1).1
      have first : Fits opens name limit (past ++ t :: rest) t ↔
          Fits opens name limit (past ++ [t]) t := fits_append_iff later
      rw [admitted, ih _ (split ▸ ordered), ← split, List.filter_cons]
      by_cases fits : Fits opens name limit (past ++ [t]) t
      · simp [fits, first.mpr fits]
      · simp [fits, mt first.mp fits]

/-- Only the windows that end with an event matter. -/
theorem bounded_of_forall_mem (mono : Monotone opens) {events : List τ}
    (ends : ∀ t ∈ events, (window opens events t).length ≤ limit) :
    Bounded opens limit events := by
  intro t
  cases last : (window opens events t).argmax id with
  | none =>
      rw [List.argmax_eq_none.mp last]
      exact Nat.zero_le _
  | some r =>
      obtain ⟨inEvents, _, upTo⟩ := mem_window.mp (List.argmax_mem last)
      refine Nat.le_trans ?_ (ends r inEvents)
      rw [window, window, ← List.countP_eq_length_filter, ← List.countP_eq_length_filter]
      refine List.countP_mono_left fun x member inside => ?_
      have inside : opens t < x ∧ x ≤ t := of_decide_eq_true inside
      have upToLast : x ≤ r := List.le_of_mem_argmax (mem_window.mpr ⟨member, inside⟩) last
      exact decide_eq_true ⟨lt_of_le_of_lt (mono upTo) inside.1, upToLast⟩

/-- A window whose events are told apart has as many names as events. -/
theorem length_names_of_nodup {events : List τ} {t : τ}
    (distinct : ((window opens events t).map name).Nodup) :
    (names opens name events t).length = (window opens events t).length := by
  rw [names, distinct.dedup, List.length_map]

/-- The limit bounds the admitted events in every window, if the names tell the events of a
crowded window apart. -/
theorem bounded_admitted (mono : Monotone opens) {events : List τ}
    (ordered : events.Pairwise (· ≤ ·)) (apart : ToldApart opens name limit events) :
    Bounded opens limit (admitted opens name limit [] events) := by
  have same : admitted opens name limit [] events =
      events.filter fun t => Fits opens name limit events t := admitted_eq_filter [] ordered
  rw [same]
  refine bounded_of_forall_mem mono fun t member => ?_
  obtain ⟨inEvents, fits⟩ := List.mem_filter.mp member
  have fits : (names opens name events t).length ≤ limit := of_decide_eq_true fits
  have fewer : (window opens (events.filter fun t => Fits opens name limit events t) t).length ≤
      (window opens events t).length :=
    (List.Sublist.filter _ List.filter_sublist).length_le
  -- A crowded window with an admitted end would have as many names.
  by_contra crowded
  have many : limit < (window opens events t).length := by omega
  have own := length_names_of_nodup (apart t inEvents many)
  omega

end SlidingWindow
