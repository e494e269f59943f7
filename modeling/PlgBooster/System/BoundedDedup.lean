import PlgBooster.Library.Rounds
import PlgBooster.System.Duplicates

/-!
# The bounded set of seen sequence numbers

The receive tasks of a `UdpProxy` keep their set of seen sequence numbers small by clearing it.
The number that makes it too large is cleared with the others, so what was delivered last can
be delivered again at once.
-/

namespace PlgBooster.System

open Rust Client

variable {start : Receivers}

/-- The payloads that task 2 or 2b forwards on an arrival, after others. -/
def forwardedNext (before : List (Arrival start)) (arrival : Arrival start) : List (List UInt8) :=
  (udpStep (Machine.run udpStep start.udp before).1 arrival).2

def Delivered (before : List (Arrival start)) (arrival : Arrival start) : Prop :=
  forwardedNext before arrival = [arrival.payload]

def Dropped (before : List (Arrival start)) (arrival : Arrival start) : Prop :=
  forwardedNext before arrival = []

/-- How many other sequence numbers arrive. -/
def otherNumbers (number : UInt32) (arrivals : List (Arrival start)) : Nat :=
  Dedup.others number (arrivals.map Arrival.seqNumber)

/-- What a bounded set of seen numbers is for. -/
structure Deduplicates (arrivals : List (Arrival start)) : Prop where
  onlyDuplicates : ∀ before arrival after, arrivals = before ++ arrival :: after →
    Dropped before arrival → ∃ earlier first between, before = earlier ++ first :: between ∧
      first.seqNumber = arrival.seqNumber ∧ Delivered earlier first
  nearDuplicates : ∀ before first between second after,
    arrivals = before ++ first :: (between ++ second :: after) →
    first.seqNumber = second.seqNumber → otherNumbers first.seqNumber between < 10000 →
    ¬ (Delivered before first ∧ Delivered (before ++ first :: between) second)
  bounded : ∀ before after, arrivals = before ++ after →
    (Machine.run udpStep start.udp before).1.seenSeqs.length ≤ 10000

/-- A round of arrivals ends with its 10001st sequence number. A number that arrives for the
first time in a round, and has arrived in the round before, has 10000 others between its first
arrivals in the two. -/
def SpacedRounds (arrivals : List (Arrival start)) : Prop :=
  ∀ before arrival after, arrivals = before ++ arrival :: after →
    let rounds := Dedup.rounds seenLimit (before.map Arrival.seqNumber)
    arrival.seqNumber ∉ rounds.2 → arrival.seqNumber ∈ rounds.1 →
      seenLimit ≤ Dedup.others arrival.seqNumber
        (rounds.1.dropWhile (· ≠ arrival.seqNumber) ++ rounds.2)

theorem forwardedNext_eq (before : List (Arrival start)) (arrival : Arrival start) :
    forwardedNext before arrival =
      if arrival.seqNumber ∈ (Dedup.rounds seenLimit (before.map Arrival.seqNumber)).2 then []
      else [arrival.payload] := by
  have running := Machine.run_always
    (fun proxy : UdpProxy => proxy.running = true ∧ proxy.gameAddr.isSome = true)
    (fun _ arrival ok => ⟨(udpStep_eq ok.1 ok.2 arrival).1, (udpStep_eq ok.1 ok.2 arrival).2.1⟩)
    ⟨start.running, start.gameAddr⟩ before
  have same := (udpStep_eq running.1 running.2 arrival).2.2.2
  have members := (Dedup.memory_rounds seenLimit Arrival.seqNumber before).2 arrival.seqNumber
  rw [(forwardedPayloads_eq before).1] at same
  rw [forwardedNext, same, Dedup.step]
  by_cases seen : arrival.seqNumber ∈
      Dedup.memory seenLimit Arrival.seqNumber (fun _ : Arrival start => ()) before ()
  · rw [if_pos seen, if_pos (members.mp seen)]
    rfl
  · rw [if_neg seen, if_neg fun current => seen (members.mpr current)]
    rfl

theorem delivered_iff {before : List (Arrival start)} {arrival : Arrival start} :
    Delivered before arrival ↔
      arrival.seqNumber ∉ (Dedup.rounds seenLimit (before.map Arrival.seqNumber)).2 := by
  rw [Delivered, forwardedNext_eq]
  split_ifs with seen
  · exact iff_of_false (fun same => nomatch same) (not_not.mpr seen)
  · exact iff_of_true rfl seen

theorem dropped_iff {before : List (Arrival start)} {arrival : Arrival start} :
    Dropped before arrival ↔
      arrival.seqNumber ∈ (Dedup.rounds seenLimit (before.map Arrival.seqNumber)).2 := by
  rw [Dropped, forwardedNext_eq]
  split_ifs with seen
  · exact iff_of_true rfl seen
  · exact iff_of_false (fun same => nomatch same) seen

/-- Only numbers that were delivered are in the set. -/
theorem delivered_of_dropped {before : List (Arrival start)} {arrival : Arrival start}
    (dropped : Dropped before arrival) :
    ∃ earlier first between, before = earlier ++ first :: between ∧
      first.seqNumber = arrival.seqNumber ∧ Delivered earlier first := by
  have known := ((Dedup.memory_rounds seenLimit Arrival.seqNumber before).2 _).mpr
    (dropped_iff.mp dropped)
  obtain ⟨earlier, first, between, split, same, new⟩ := Dedup.accepted_of_mem_memory _ _ known
  refine ⟨earlier, first, between, split, same, delivered_iff.mpr fun seen => new ?_⟩
  exact ((Dedup.memory_rounds seenLimit Arrival.seqNumber earlier).2 _).mpr seen

/-- Between the arrivals the set has at most 10000 entries. -/
theorem length_seenSeqs_le (before : List (Arrival start)) :
    (Machine.run udpStep start.udp before).1.seenSeqs.length ≤ seenLimit := by
  rw [congrFun (forwardedPayloads_eq before).1 ()]
  exact Dedup.length_memory_le_limit seenLimit Arrival.seqNumber before

/-- Near duplicates are dropped exactly if rounds are spaced. -/
theorem nearDuplicates_iff (arrivals : List (Arrival start)) :
    (∀ before first between second after,
      arrivals = before ++ first :: (between ++ second :: after) →
      first.seqNumber = second.seqNumber → otherNumbers first.seqNumber between < 10000 →
      ¬ (Delivered before first ∧ Delivered (before ++ first :: between) second)) ↔
    SpacedRounds arrivals := by
  have numbers := Dedup.farApart_iff seenLimit (arrivals.map Arrival.seqNumber)
  constructor
  · intro near before arrival after split rounds new known
    have cut : arrivals.map Arrival.seqNumber =
        before.map Arrival.seqNumber ++ arrival.seqNumber :: after.map Arrival.seqNumber := by
      rw [split, List.map_append, List.map_cons]
    refine numbers.mp ?_ _ _ _ cut new known
    intro earlier k between later cut new new'
    obtain ⟨before, rest, rfl, rfl, tail⟩ := List.map_eq_append_iff.mp cut
    obtain ⟨first, rest', rfl, rfl, tail'⟩ := List.map_eq_cons_iff.mp tail
    obtain ⟨between, rest'', rfl, rfl, tail''⟩ := List.map_eq_append_iff.mp tail'
    obtain ⟨second, after, rfl, same, rfl⟩ := List.map_eq_cons_iff.mp tail''
    refine Nat.not_lt.mp fun few => near before first between second after rfl same.symm few ?_
    refine ⟨delivered_iff.mpr new, delivered_iff.mpr ?_⟩
    rw [same, List.map_append, List.map_cons]
    exact new'
  · rintro spaced before first between second after rfl same few ⟨delivered, delivered'⟩
    rw [delivered_iff] at delivered delivered'
    rw [← same, List.map_append, List.map_cons] at delivered'
    refine Nat.not_le.mpr few (numbers.mpr ?_ _ _ _ (after.map Arrival.seqNumber) ?_ delivered
      delivered')
    · intro earlier k later cut new known
      obtain ⟨before', rest, split, rfl, tail⟩ := List.map_eq_append_iff.mp cut
      obtain ⟨arrival, after', rfl, rfl, rfl⟩ := List.map_eq_cons_iff.mp tail
      exact spaced before' arrival after' split new known
    · simp [same]

/-- The bounded set does what it is for exactly if the rounds of arrivals are spaced. -/
theorem deduplicates_iff (arrivals : List (Arrival start)) :
    Deduplicates arrivals ↔ SpacedRounds arrivals := by
  rw [← nearDuplicates_iff]
  constructor
  · exact Deduplicates.nearDuplicates
  · intro near
    refine ⟨fun before arrival after _ dropped => delivered_of_dropped dropped, near, ?_⟩
    intro before after _
    exact length_seenSeqs_le before

/-- A packet with a sequence number, by the primary relay. -/
def numbered (number : UInt32) : Arrival oneConnection :=
  { copyBy .primary with
    datagram := (PlgPacket.data 7 number [1]).encode
    pkt := .data 7 number [1]
    parsed := PlgPacket.parse_encode _
    notKeepalive := (PlgPacket.flags_data 7 number [1]).1 }

/-- As many packets with different sequence numbers as the set can hold. -/
def fullSet : List (Arrival oneConnection) := (List.range 10000).map fun n => numbered (.ofNat n)

theorem numbers_fullSet :
    fullSet.map Arrival.seqNumber = (List.range 10000).map UInt32.ofNat := by
  rw [fullSet, List.map_map]
  rfl

theorem nodup_numbers : (fullSet.map Arrival.seqNumber ++ [10000]).Nodup := by
  have toNat {n : Nat} (member : n ∈ List.range 10000) : (UInt32.ofNat n).toNat = n :=
    UInt32.toNat_ofNat_of_lt' (Nat.lt_trans (List.mem_range.mp member) (by decide))
  have apart : ((List.range 10000).map UInt32.ofNat).Nodup := by
    refine List.Nodup.map_on (fun m hm n hn same => ?_) List.nodup_range
    rw [← toNat hm, ← toNat hn, same]
  rw [numbers_fullSet, List.nodup_append]
  refine ⟨apart, List.nodup_singleton _, ?_⟩
  intro m hm n hn same
  obtain ⟨i, small, rfl⟩ := List.mem_map.mp hm
  obtain rfl := List.mem_singleton.mp hn
  have equal := congrArg UInt32.toNat same
  rw [toNat small] at equal
  exact absurd (List.mem_range.mp small) (equal ▸ by decide)

/-- The number that is one too many is delivered twice in a row. -/
theorem overflowing_delivered_twice :
    Delivered fullSet (numbered 10000) ∧ Delivered (fullSet ++ [numbered 10000]) (numbered 10000) ∧
      ¬ Deduplicates (fullSet ++ [numbered 10000, numbered 10000]) := by
  have size : (fullSet.map Arrival.seqNumber).length = seenLimit := by
    rw [numbers_fullSet, List.length_map, List.length_range]
    rfl
  have nodup := List.nodup_append.mp nodup_numbers
  have number : (numbered 10000).seqNumber = 10000 := rfl
  have new : (10000 : UInt32) ∉ fullSet.map Arrival.seqNumber := by
    intro member
    exact nodup.2.2 _ member _ (List.mem_singleton.mpr rfl) rfl
  have first : Delivered fullSet (numbered 10000) := by
    rw [delivered_iff, number, Dedup.rounds_of_nodup seenLimit nodup.1 (Nat.le_of_eq size)]
    dsimp only
    exact new
  have second : Delivered (fullSet ++ [numbered 10000]) (numbered 10000) := by
    rw [delivered_iff, List.map_append, List.map_singleton, number,
      Dedup.rounds_of_full seenLimit nodup_numbers size]
    exact List.not_mem_nil
  refine ⟨first, second, ?_⟩
  intro dedup
  exact dedup.nearDuplicates fullSet (numbered 10000) [] (numbered 10000) [] rfl rfl (by decide)
    ⟨first, second⟩

end PlgBooster.System
