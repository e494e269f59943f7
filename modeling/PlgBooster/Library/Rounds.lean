import PlgBooster.Library.Dedup
import Mathlib.Data.List.Dedup
import Mathlib.Data.List.Perm.Subperm

/-!
# What a receiver that forgets everything lets through

A receiver that clears its memory when it gets too large works in rounds: a round ends with the
key that makes its distinct keys too many. What it remembers are the keys of the current round.
So it accepts a key a second time only in a later round, and two arrivals with few other keys
between them can only be in consecutive rounds.
-/

namespace Dedup

variable {κ : Type*} [DecidableEq κ]

/-- How many different keys other than this one there are. -/
def others (k : κ) (keys : List κ) : Nat := (keys.filter (· ≠ k)).dedup.length

theorem others_le_of_subset {k : κ} {keys keys' : List κ} (subset : keys ⊆ keys') :
    others k keys ≤ others k keys' := by
  refine (List.subperm_of_subset (List.nodup_dedup _) fun x member => ?_).length_le
  rw [List.mem_dedup, List.mem_filter] at member ⊢
  exact ⟨subset member.1, member.2⟩

theorem others_cons_self (k : κ) (keys : List κ) : others k (k :: keys) = others k keys := by
  simp [others]

theorem length_dedup_le (k : κ) (keys : List κ) : keys.dedup.length ≤ others k keys + 1 := by
  have subset : keys.dedup ⊆ k :: (keys.filter (· ≠ k)).dedup := by
    intro x member
    by_cases same : x = k
    · exact List.mem_cons.mpr (.inl same)
    · apply List.mem_cons_of_mem _
      rw [List.mem_dedup] at member ⊢
      exact List.mem_filter.mpr ⟨member, by simpa using same⟩
  exact (List.subperm_of_subset (List.nodup_dedup _) subset).length_le

variable (limit : Nat)

/-- The last finished round and the current one, after one more key. -/
def turn (rounds : List κ × List κ) (k : κ) : List κ × List κ :=
  let current := rounds.2 ++ [k]
  if current.dedup.length > limit then (current, []) else (rounds.1, current)

/-- The last finished round and the current one. -/
def rounds (keys : List κ) : List κ × List κ := keys.foldl (turn limit) ([], [])

theorem rounds_concat (keys : List κ) (k : κ) :
    rounds limit (keys ++ [k]) = turn limit (rounds limit keys) k := by
  rw [rounds, List.foldl_append]
  rfl

/-- The current round is not over. -/
theorem length_current_le (keys : List κ) : (rounds limit keys).2.dedup.length ≤ limit := by
  induction keys using List.reverseRecOn with
  | nil => exact Nat.zero_le _
  | append_singleton keys k ih =>
      rw [rounds_concat, turn]
      split_ifs with tooMany
      · exact Nat.zero_le _
      · exact Nat.not_lt.mp tooMany

/-- Different keys make up one round as long as they are not too many. -/
theorem rounds_of_nodup {keys : List κ} (nodup : keys.Nodup) (short : keys.length ≤ limit) :
    rounds limit keys = ([], keys) := by
  induction keys using List.reverseRecOn with
  | nil => rfl
  | append_singleton keys k ih =>
      have fits : ¬ (keys ++ [k]).dedup.length > limit := by
        rw [List.dedup_eq_self.mpr nodup]
        exact Nat.not_lt.mpr short
      rw [List.length_append, List.length_singleton] at short
      rw [rounds_concat, ih (List.nodup_append.mp nodup).1 (by omega), turn, if_neg fits]

/-- One more makes the round end. -/
theorem rounds_of_full {keys : List κ} {k : κ} (nodup : (keys ++ [k]).Nodup)
    (full : keys.length = limit) : rounds limit (keys ++ [k]) = (keys ++ [k], []) := by
  have tooMany : (keys ++ [k]).dedup.length > limit := by
    rw [List.dedup_eq_self.mpr nodup, List.length_append, List.length_singleton]
    omega
  rw [rounds_concat, rounds_of_nodup limit (List.nodup_append.mp nodup).1 (Nat.le_of_eq full), turn,
    if_pos tooMany]

/-- Where a round begins, its part so far is the current round. -/
def Begins (before round : List κ) : Prop :=
  ∀ front, front <+: round → front ≠ round → (rounds limit (before ++ front)).2 = front

/-- The current round follows the last finished one, if there is one. -/
theorem rounds_spec (keys : List κ) :
    ∃ before, keys = before ++ (rounds limit keys).2 ∧ Begins limit before (rounds limit keys).2 ∧
      ((rounds limit keys).1 = [] ∧ before = [] ∨
        limit < (rounds limit keys).1.dedup.length ∧
        ∃ earlier, before = earlier ++ (rounds limit keys).1 ∧
          Begins limit earlier (rounds limit keys).1) := by
  induction keys using List.reverseRecOn with
  | nil => exact ⟨[], rfl, fun front isPrefix other => absurd (List.prefix_nil.mp isPrefix) other,
      .inl ⟨rfl, rfl⟩⟩
  | append_singleton keys k ih =>
      obtain ⟨before, split, begins, last⟩ := ih
      generalize current : rounds limit keys = now at *
      have longer : Begins limit before (now.2 ++ [k]) := by
        intro front isPrefix other
        rcases List.prefix_concat_iff.mp isPrefix with whole | isPrefix
        · exact absurd whole other
        · by_cases same : front = now.2
          · rw [same, ← split, current]
          · exact begins front isPrefix same
      rw [rounds_concat, current, turn]
      split_ifs with tooMany
      · refine ⟨keys ++ [k], (List.append_nil _).symm, ?_, .inr ⟨tooMany, before, ?_, longer⟩⟩
        · exact fun front isPrefix other => absurd (List.prefix_nil.mp isPrefix) other
        · rw [← List.append_assoc, ← split]
      · refine ⟨before, ?_, longer, last⟩
        rw [← List.append_assoc, ← split]

theorem dropWhile_ne {front rest : List κ} {k : κ} (first : k ∉ front) :
    (front ++ k :: rest).dropWhile (· ≠ k) = k :: rest := by
  rw [List.dropWhile_append_of_pos, List.dropWhile_cons_of_neg (by simp)]
  intro x member
  rw [decide_eq_true_eq]
  rintro rfl
  exact first member

variable {limit} in
/-- Inside a round the current one is its part so far. -/
theorem Begins.current {before front rest : List κ} {k : κ}
    (begins : Begins limit before (front ++ k :: rest)) :
    (rounds limit (before ++ front)).2 = front :=
  begins front ⟨k :: rest, rfl⟩ fun same => by simp at same

omit [DecidableEq κ] in
/-- A key that is not behind a cut is before it. -/
theorem cut_behind {before between start now : List κ} {k : κ}
    (whole : before ++ k :: between = start ++ now) (behind : k ∉ now) :
    ∃ rest, start = before ++ k :: rest ∧ between = rest ++ now := by
  rcases List.append_eq_append_iff.mp whole with ⟨rest, first, second⟩ | ⟨rest, first, second⟩
  · cases rest with
    | nil =>
        rw [List.nil_append] at second
        exact absurd (second ▸ List.mem_cons_self) behind
    | cons x rest =>
        obtain ⟨rfl, rfl⟩ := List.cons.inj second
        exact ⟨rest, first, rfl⟩
  · exact absurd (second ▸ List.mem_append_right rest List.mem_cons_self) behind

/-- A key of the last finished round has a first arrival in it. -/
theorem first_of_mem_finished {before : List κ} {k : κ} (known : k ∈ (rounds limit before).1) :
    ∃ earlier rest, before = earlier ++ k :: (rest ++ (rounds limit before).2) ∧
      k ∉ (rounds limit earlier).2 ∧
      (rounds limit before).1.dropWhile (· ≠ k) ++ (rounds limit before).2 =
        k :: (rest ++ (rounds limit before).2) := by
  obtain ⟨start, whole, _, ⟨none, _⟩ | ⟨_, earlier, last, begins⟩⟩ := rounds_spec limit before
  · rw [none] at known
    cases known
  · obtain ⟨front, rest, finished, first⟩ := List.eq_append_cons_of_mem known
    rw [finished] at begins
    refine ⟨earlier ++ front, rest, ?_, ?_, ?_⟩
    · conv_lhs => rw [whole, last, finished]
      simp
    · rw [begins.current]
      exact first
    · rw [finished, dropWhile_ne first, List.cons_append]

/-- Two first arrivals are far apart if the round of the second follows that of the first, or
else because a whole round lies between them. -/
theorem apart_of_first {before between : List κ} {k : κ} (new : k ∉ (rounds limit before).2)
    (new' : k ∉ (rounds limit (before ++ k :: between)).2)
    (consecutive : k ∈ (rounds limit (before ++ k :: between)).1 →
      limit ≤ others k ((rounds limit (before ++ k :: between)).1.dropWhile (· ≠ k) ++
        (rounds limit (before ++ k :: between)).2)) :
    limit ≤ others k between := by
  obtain ⟨start, whole, _, last⟩ := rounds_spec limit (before ++ k :: between)
  generalize rounds limit (before ++ k :: between) = now at *
  obtain ⟨rest, since, rfl⟩ := cut_behind whole new'
  rcases last with ⟨_, none⟩ | ⟨full, earlier, last, begins⟩
  · rw [none] at since
    simp at since
  rw [since] at last
  -- The first arrival is in the finished round, or before it.
  have within {middle : List κ} (first : before = earlier ++ middle)
      (finished : now.1 = middle ++ k :: rest) : limit ≤ others k (rest ++ now.2) := by
    rw [finished] at begins
    rw [first, begins.current] at new
    have apart := consecutive (finished ▸ List.mem_append_right middle List.mem_cons_self)
    rwa [finished, dropWhile_ne new, List.cons_append, others_cons_self] at apart
  rcases List.append_eq_append_iff.mp last with ⟨front, first, second⟩ | ⟨middle, first, second⟩
  · cases front with
    | nil => exact @within [] (by simp [first]) second.symm
    | cons x front =>
        obtain ⟨rfl, rfl⟩ := List.cons.inj second
        have between : others k now.1 ≤ others k (front ++ now.1 ++ now.2) :=
          others_le_of_subset fun y member => by simp [member]
        have many := length_dedup_le k now.1
        refine Nat.le_trans ?_ between
        omega
  · exact within first second

/-- Arrivals of one key that are both the first of their round are far apart exactly if those in
consecutive rounds are. -/
theorem farApart_iff (keys : List κ) :
    (∀ before k between after, keys = before ++ k :: (between ++ k :: after) →
      k ∉ (rounds limit before).2 → k ∉ (rounds limit (before ++ k :: between)).2 →
      limit ≤ others k between) ↔
    ∀ before k after, keys = before ++ k :: after → k ∉ (rounds limit before).2 →
      k ∈ (rounds limit before).1 →
      limit ≤ others k ((rounds limit before).1.dropWhile (· ≠ k) ++ (rounds limit before).2) := by
  constructor
  · intro apart before k after split new known
    obtain ⟨earlier, rest, joined, first, dropped⟩ := first_of_mem_finished limit known
    rw [dropped, others_cons_self]
    refine apart earlier k (rest ++ (rounds limit before).2) after ?_ first ?_
    · rw [split]
      conv_lhs => rw [joined]
      simp
    · rw [← joined]
      exact new
  · intro consecutive before k between after split new new'
    refine apart_of_first limit new new' fun known => ?_
    exact consecutive (before ++ k :: between) k after (by simpa using split) new' known

/-! ## What is remembered -/

variable {α : Type*} (key : α → κ)

theorem memory_unit_concat (items : List α) (item : α) :
    memory limit key (fun _ => ()) (items ++ [item]) () =
      if key item ∈ memory limit key (fun _ => ()) items () then
        memory limit key (fun _ => ()) items ()
      else remember limit (memory limit key (fun _ => ()) items ()) (key item) := by
  rw [memory_concat]
  split_ifs
  · rfl
  · exact Function.update_self ..

/-- The keys of the current round are remembered, each once. -/
theorem memory_rounds (items : List α) :
    (memory limit key (fun _ => ()) items ()).Nodup ∧
      ∀ k, k ∈ memory limit key (fun _ => ()) items () ↔
        k ∈ (rounds limit (items.map key)).2 := by
  induction items using List.reverseRecOn with
  | nil => exact ⟨List.nodup_nil, fun k => Iff.rfl⟩
  | append_singleton items item ih =>
      obtain ⟨nodup, same⟩ := ih
      have small := length_current_le limit (items.map key)
      rw [memory_unit_concat, List.map_append, List.map_singleton, rounds_concat, turn]
      generalize memory limit key (fun _ => ()) items () = seen at *
      generalize rounds limit (items.map key) = now at *
      have members (k : κ) : k ∈ now.2 ++ [key item] ↔ k ∈ seen ∨ k = key item := by
        rw [List.mem_append, List.mem_singleton, same]
      by_cases known : key item ∈ seen
      · have still : ¬ (now.2 ++ [key item]).dedup.length > limit := by
          have perm : (now.2 ++ [key item]).dedup.Perm now.2.dedup := by
            apply (List.perm_ext_iff_of_nodup (List.nodup_dedup _) (List.nodup_dedup _)).mpr
            intro k
            rw [List.mem_dedup, List.mem_dedup, members, ← same, or_iff_left_of_imp]
            rintro rfl
            exact known
          rw [perm.length_eq]
          exact Nat.not_lt.mpr small
        simp only [if_pos known, if_neg still]
        refine ⟨nodup, ?_⟩
        intro k
        rw [members, or_iff_left_of_imp]
        rintro rfl
        exact known
      · have perm : (key item :: seen).Perm (now.2 ++ [key item]).dedup := by
          refine (List.perm_ext_iff_of_nodup (List.nodup_cons.mpr ⟨known, nodup⟩)
            (List.nodup_dedup _)).mpr ?_
          intro k
          rw [List.mem_dedup, members, List.mem_cons, or_comm]
        simp only [if_neg known, remember, perm.length_eq]
        split_ifs with tooMany
        · exact ⟨List.nodup_nil, fun k => Iff.rfl⟩
        · refine ⟨List.nodup_cons.mpr ⟨known, nodup⟩, ?_⟩
          intro k
          rw [members, List.mem_cons, or_comm]

theorem length_memory_le_limit (items : List α) :
    (memory limit key (fun _ => ()) items ()).length ≤ limit := by
  obtain ⟨nodup, same⟩ := memory_rounds limit key items
  have dedup : (memory limit key (fun _ => ()) items ()).Perm
      (rounds limit (items.map key)).2.dedup :=
    (List.perm_ext_iff_of_nodup nodup (List.nodup_dedup _)).mpr fun k => by
      rw [same, List.mem_dedup]
  rw [dedup.length_eq]
  exact length_current_le limit _

/-- What is remembered has been accepted. -/
theorem accepted_of_mem_memory {items : List α} {k : κ}
    (known : k ∈ memory limit key (fun _ => ()) items ()) :
    ∃ before item after, items = before ++ item :: after ∧ key item = k ∧
      key item ∉ memory limit key (fun _ => ()) before () := by
  induction items using List.reverseRecOn with
  | nil => cases known
  | append_singleton items item ih =>
      by_cases old : k ∈ memory limit key (fun _ => ()) items ()
      · obtain ⟨before, found, after, rfl, same, new⟩ := ih old
        exact ⟨before, found, after ++ [item], by simp, same, new⟩
      · rw [memory_unit_concat] at known
        split_ifs at known with dropped
        · exact absurd known old
        · rw [remember] at known
          split_ifs at known
          · cases known
          · rcases List.mem_cons.mp known with rfl | known
            · exact ⟨items, item, [], rfl, rfl, dropped⟩
            · exact absurd known old

end Dedup
