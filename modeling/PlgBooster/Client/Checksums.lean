import PlgBooster.Client.PacketBuilder
import PlgBooster.Library.OnesComplement

/-!
# The checksums of injected packets

`build_udp_response` computes in `u16` and `u32`. The functions here are those of
`PacketBuilder` in a build that checks every addition: `none` is the panic of an overflow. For
a payload that fits into one datagram there is none, and a receiver that adds up the header,
or the pseudo-header and the segment, finds the sum that says that nothing is damaged.
-/

namespace PlgBooster.Client

open Rust

/-- `a + b` on `u16`. -/
def checkedAdd16 (a b : UInt16) : Option UInt16 :=
  if a.toNat + b.toNat < 65536 then some (a + b) else none

/-- `a + b` on `u32`. -/
@[irreducible] def checkedAdd32 (a b : UInt32) : Option UInt32 :=
  if a.toNat + b.toNat < 4294967296 then some (a + b) else none

theorem checkedAdd16_of_lt {a b : UInt16} (fits : a.toNat + b.toNat < 65536) :
    checkedAdd16 a b = some (a + b) ∧ (a + b).toNat = a.toNat + b.toNat := by
  refine ⟨if_pos fits, ?_⟩
  rw [UInt16.toNat_add]
  exact Nat.mod_eq_of_lt fits

theorem checkedAdd32_of_lt {a b : UInt32} (fits : a.toNat + b.toNat < 4294967296) :
    checkedAdd32 a b = some (a + b) ∧ (a + b).toNat = a.toNat + b.toNat := by
  refine ⟨by rw [checkedAdd32, if_pos fits], ?_⟩
  rw [UInt32.toNat_add]
  exact Nat.mod_eq_of_lt fits

/-! ## The functions with checked additions -/

/-- The loop of both checksums. -/
def sumWordsChecked (checksumAt : Nat) : Nat → UInt32 → List UInt8 → Option UInt32
  | i, sum, high :: low :: rest => do
      let sum ← (if i = checksumAt then some sum else checkedAdd32 sum (word high low))
      sumWordsChecked checksumAt (i + 2) sum rest
  | i, sum, [high] =>
      if i = checksumAt then some sum else checkedAdd32 sum (high.toUInt32 <<< 8)
  | _, sum, [] => some sum

theorem checked_descends {sum next : UInt32} (carries : sum >>> 16 ≠ 0)
    (added : checkedAdd32 (sum &&& (0xFFFF : UInt32)) (sum >>> 16) = some next) :
    next.toNat < sum.toNat := by
  unfold checkedAdd32 at added
  split_ifs at added
  obtain rfl := Option.some.inj added
  exact fold_descends sum carries

/-- The folding loop. -/
def foldCarriesChecked (sum : UInt32) : Option UInt32 :=
  if carries : sum >>> 16 ≠ 0 then
    (checkedAdd32 (sum &&& (0xFFFF : UInt32)) (sum >>> 16)).attach.bind fun next =>
      have := checked_descends carries next.property
      foldCarriesChecked next.val
  else some sum
termination_by sum.toNat

def computeIpChecksumChecked (header : List UInt8) : Option UInt16 := do
  let sum ← sumWordsChecked 10 0 0 header
  let sum ← foldCarriesChecked sum
  return (~~~sum).toUInt16

def pseudoHeaderChecked (srcIp dstIp : Ipv4Addr) (length : UInt32) : Option UInt32 := do
  let sum ← checkedAdd32 0 (word srcIp.a srcIp.b)
  let sum ← checkedAdd32 sum (word srcIp.c srcIp.d)
  let sum ← checkedAdd32 sum (word dstIp.a dstIp.b)
  let sum ← checkedAdd32 sum (word dstIp.c dstIp.d)
  let sum ← checkedAdd32 sum 17
  checkedAdd32 sum length

def computeUdpChecksumChecked (srcIp dstIp : Ipv4Addr) (udpSegment : List UInt8) :
    Option UInt16 := do
  let sum ← pseudoHeaderChecked srcIp dstIp (.ofNat udpSegment.length)
  let sum ← sumWordsChecked 6 0 sum udpSegment
  let sum ← foldCarriesChecked sum
  let result := (~~~sum).toUInt16
  return if result = 0 then 0xFFFF else result

def buildUdpResponseChecked (srcIp dstIp : Ipv4Addr) (srcPort dstPort : UInt16)
    (payload : List UInt8) : Option (List UInt8) := do
  let udpLen ← checkedAdd16 8 (.ofNat payload.length)
  let totalLen ← checkedAdd16 20 udpLen
  let buf := responseHeader srcIp dstIp totalLen
  let ipChecksum ← computeIpChecksumChecked buf
  let buf := (buf.set 10 (ipChecksum >>> 8).toUInt8).set 11 (ipChecksum &&& 0xFF).toUInt8
  let buf := buf ++ responseSegment srcPort dstPort udpLen payload
  let udpChecksum ← computeUdpChecksumChecked srcIp dstIp (buf.drop 20)
  return (buf.set 26 (udpChecksum >>> 8).toUInt8).set 27 (udpChecksum &&& 0xFF).toUInt8

/-! ## Words of bytes -/

/-- The 16-bit words of bytes in network order, an odd last byte padded with zero. -/
def words : List UInt8 → List Nat
  | high :: low :: rest => (high.toNat * 256 + low.toNat) :: words rest
  | [high] => [high.toNat * 256]
  | [] => []

theorem words_lt (bytes : List UInt8) : ∀ w ∈ words bytes, w < 65536 := by
  induction bytes using words.induct with
  | case1 high low rest ih =>
      have : high.toNat < 256 := high.toNat_lt
      have : low.toNat < 256 := low.toNat_lt
      refine List.forall_mem_cons.mpr ⟨by omega, ih⟩
  | case2 high =>
      have : high.toNat < 256 := high.toNat_lt
      exact List.forall_mem_singleton.mpr (by omega)
  | case3 => exact fun _ member => nomatch member

/-- An even front ends with a whole word. -/
theorem words_append {front : List UInt8} (even : front.length % 2 = 0) (back : List UInt8) :
    words (front ++ back) = words front ++ words back := by
  induction front using words.induct with
  | case1 high low rest ih =>
      simp only [List.length_cons] at even
      simp only [List.cons_append, words, ih (by omega)]
  | case2 high => simp at even
  | case3 => rfl

theorem sum_words_le (bytes : List UInt8) : (words bytes).sum ≤ 32768 * (bytes.length + 1) := by
  induction bytes using words.induct with
  | case1 high low rest ih =>
      have : high.toNat < 256 := high.toNat_lt
      have : low.toNat < 256 := low.toNat_lt
      simp only [words, List.sum_cons, List.length_cons]
      omega
  | case2 high =>
      have : high.toNat < 256 := high.toNat_lt
      simp only [words, List.sum_cons, List.sum_nil, List.length_cons, List.length_nil]
      omega
  | case3 => simp [words]

theorem toNat_high (high : UInt8) : (high.toUInt32 <<< 8).toNat = high.toNat * 256 := by
  have : high.toNat < 256 := high.toNat_lt
  rw [UInt32.toNat_shiftLeft, UInt8.toNat_toUInt32]
  change high.toNat <<< 8 % 4294967296 = _
  rw [Nat.shiftLeft_eq]
  omega

theorem toNat_word (high low : UInt8) : (word high low).toNat = high.toNat * 256 + low.toNat := by
  have shifted : high.toNat <<< 8 = high.toNat * 256 := Nat.shiftLeft_eq _ _
  rw [word, UInt32.toNat_or, toNat_high, UInt8.toNat_toUInt32, ← shifted]
  exact (Nat.shiftLeft_add_eq_or_of_lt low.toNat_lt high.toNat).symm

/-! ## The loops -/

/-- An addition that fits. -/
theorem checkedAdd32_toNat {a b : UInt32} {m n : Nat} (ha : a.toNat = m) (hb : b.toNat = n)
    (fits : m + n < 4294967296) : ∃ sum, checkedAdd32 a b = some sum ∧ sum.toNat = m + n := by
  subst ha hb
  exact ⟨a + b, checkedAdd32_of_lt fits⟩

/-- Summands that fit are added up one after the other. -/
theorem foldlM_checkedAdd32 {start : UInt32} {summands : List UInt32}
    (fits : start.toNat + (summands.map UInt32.toNat).sum < 4294967296) :
    summands.foldlM checkedAdd32 start = some (summands.foldl (· + ·) start) ∧
      (summands.foldl (· + ·) start).toNat =
        start.toNat + (summands.map UInt32.toNat).sum := by
  induction summands generalizing start with
  | nil => exact ⟨rfl, rfl⟩
  | cons summand summands ih =>
      rw [List.map_cons, List.sum_cons] at fits
      obtain ⟨here, next⟩ := checkedAdd32_of_lt (a := start) (b := summand) (by omega)
      obtain ⟨later, total⟩ := @ih (start + summand) (by omega)
      rw [List.foldlM_cons, here, List.foldl_cons, List.map_cons, List.sum_cons]
      exact ⟨later, by rw [total, next, Nat.add_assoc]⟩

/-- Where no addition overflows, the loop of a checked build is the loop of the other. -/
theorem sumWords_of_checked {checksumAt i : Nat} {sum result : UInt32} {bytes : List UInt8}
    (checked : sumWordsChecked checksumAt i sum bytes = some result) :
    sumWords checksumAt i sum bytes = result := by
  have added {a b c : UInt32} (ok : checkedAdd32 a b = some c) : a + b = c := by
    unfold checkedAdd32 at ok
    split_ifs at ok
    exact Option.some.inj ok
  induction bytes using words.induct generalizing i sum with
  | case1 high low rest ih =>
      simp only [sumWordsChecked, Option.bind_eq_bind, Option.bind_eq_some_iff] at checked
      obtain ⟨next, here, later⟩ := checked
      rw [sumWords]
      split_ifs at here ⊢
      · obtain rfl := Option.some.inj here
        exact ih later
      · rw [added here]
        exact ih later
  | case2 high =>
      simp only [sumWordsChecked] at checked
      rw [sumWords]
      split_ifs at checked ⊢
      · exact Option.some.inj checked
      · exact added checked
  | case3 => exact Option.some.inj checked

/-- Behind the checksum field all words are added. -/
theorem sumWordsChecked_behind {checksumAt i : Nat} (behind : checksumAt < i) {sum : UInt32}
    {bytes : List UInt8} (fits : sum.toNat + (words bytes).sum < 4294967296) :
    ∃ result, sumWordsChecked checksumAt i sum bytes = some result ∧
      result.toNat = sum.toNat + (words bytes).sum := by
  have other : i ≠ checksumAt := Nat.ne_of_gt behind
  induction bytes using words.induct generalizing i sum with
  | case1 high low rest ih =>
      rw [words, List.sum_cons] at fits
      have fits' : sum.toNat + (high.toNat * 256 + low.toNat) < 4294967296 :=
        Nat.lt_of_le_of_lt (Nat.add_le_add_left (Nat.le_add_right _ _) _) fits
      obtain ⟨next, ok, here⟩ := checkedAdd32_toNat (m := sum.toNat) rfl (toNat_word high low) fits'
      obtain ⟨result, later, total⟩ := @ih (i + 2) (by omega) next (by omega) (by omega)
      refine ⟨result, ?_, ?_⟩
      · simp only [sumWordsChecked, if_neg other, ok, Option.bind_eq_bind, Option.bind_some, later]
      · rw [total, here, words, List.sum_cons, Nat.add_assoc]
  | case2 high =>
      rw [words, List.sum_singleton] at fits
      obtain ⟨result, ok, here⟩ := checkedAdd32_toNat (m := sum.toNat) rfl (toNat_high high) fits
      refine ⟨result, ?_, ?_⟩
      · rw [sumWordsChecked, if_neg other, ok]
      · rw [here, words, List.sum_singleton]
  | case3 => exact ⟨sum, rfl, by simp [words]⟩

/-- The loop adds all words but the one at the checksum field. -/
theorem sumWordsChecked_spec {checksumAt i : Nat} {sum : UInt32} {front back : List UInt8}
    (high low : UInt8) (even : front.length % 2 = 0) (position : i + front.length = checksumAt)
    (fits : sum.toNat + (words front).sum + (words back).sum < 4294967296) :
    ∃ result, sumWordsChecked checksumAt i sum (front ++ high :: low :: back) = some result ∧
      result.toNat = sum.toNat + (words front).sum + (words back).sum := by
  induction front using words.induct generalizing i sum with
  | case1 a b rest ih =>
      simp only [List.length_cons] at even position
      rw [words, List.sum_cons] at fits
      have fits' : sum.toNat + (a.toNat * 256 + b.toNat) < 4294967296 := by omega
      obtain ⟨next, ok, here⟩ := checkedAdd32_toNat (m := sum.toNat) rfl (toNat_word a b) fits'
      obtain ⟨result, later, total⟩ := @ih (i + 2) next (by omega) (by omega) (by omega)
      refine ⟨result, ?_, ?_⟩
      · simp only [List.cons_append, sumWordsChecked, if_neg (by omega : i ≠ checksumAt), ok,
          Option.bind_eq_bind, Option.bind_some, later]
      · rw [total, here, words, List.sum_cons]
        omega
  | case2 a => simp at even
  | case3 =>
      obtain rfl : i = checksumAt := position
      rw [words, List.sum_nil, Nat.add_zero] at fits
      obtain ⟨result, later, total⟩ :=
        sumWordsChecked_behind (i := i + 2) (by omega : i < i + 2) fits
      refine ⟨result, ?_, ?_⟩
      · simp only [List.nil_append, sumWordsChecked, if_true, Option.bind_eq_bind,
          Option.bind_some, later]
      · rw [total, words, List.sum_nil, Nat.add_zero]

/-- One round of the folding loop adds the carry, and does not overflow. -/
theorem checkedAdd32_carry (sum : UInt32) :
    ∃ next, checkedAdd32 (sum &&& (0xFFFF : UInt32)) (sum >>> 16) = some next ∧
      (sum &&& (0xFFFF : UInt32)) + (sum >>> 16) = next ∧
      next.toNat = OnesComplement.carry 65536 sum.toNat := by
  have below : sum.toNat < 4294967296 := sum.toNat_lt
  have fits : (sum &&& (0xFFFF : UInt32)).toNat + (sum >>> 16).toNat < 4294967296 := by
    rw [toNat_and_ffff, toNat_shiftRight_16]
    omega
  obtain ⟨ok, exact_⟩ := checkedAdd32_of_lt fits
  refine ⟨_, ok, rfl, ?_⟩
  rw [exact_, toNat_and_ffff, toNat_shiftRight_16, OnesComplement.carry]

theorem bind_attach {α β : Type} {o : Option α} {x : α} (found : o = some x)
    (g : α → Option β) : (o.attach.bind fun y => g y.val) = g x := by
  subst found
  rfl

theorem foldCarriesChecked_of_carries {sum next : UInt32} (carries : sum >>> 16 ≠ 0)
    (added : checkedAdd32 (sum &&& (0xFFFF : UInt32)) (sum >>> 16) = some next) :
    foldCarriesChecked sum = foldCarriesChecked next := by
  rw [foldCarriesChecked, dif_pos carries]
  exact bind_attach added foldCarriesChecked

/-- The folding loop ends without an overflow, with the folded sum. -/
theorem foldCarries_spec (sum : UInt32) :
    foldCarriesChecked sum = some (foldCarries sum) ∧
      OnesComplement.Folds 65536 (foldCarries sum).toNat sum.toNat := by
  induction sum using foldCarries.induct with
  | case1 sum carries _ ih =>
      obtain ⟨next, ok, rfl, carried⟩ := checkedAdd32_carry sum
      rw [foldCarriesChecked_of_carries carries ok, foldCarries, dif_pos carries]
      refine ⟨ih.1, .of_carry ?_⟩
      rw [← carried]
      exact ih.2
  | case2 sum done =>
      have small : sum.toNat < 65536 := by
        have none := congrArg UInt32.toNat (not_not.mp done)
        rw [UInt32.toNat_shiftRight] at none
        change sum.toNat >>> 16 = 0 at none
        rw [Nat.shiftRight_eq_div_pow] at none
        omega
      rw [foldCarriesChecked, dif_neg done, foldCarries, dif_neg done]
      exact ⟨rfl, .of_lt small⟩

theorem toNat_complement {sum : UInt32} (small : sum.toNat < 65536) :
    (~~~sum).toUInt16.toNat = 65535 - sum.toNat := by
  rw [UInt32.toNat_toUInt16, UInt32.toNat_not]
  change (4294967295 - sum.toNat) % 65536 = _
  omega

/-- The folded sum of words, complemented. -/
theorem complement_foldCarries {sum : UInt32} {n : Nat} (total : sum.toNat = n) :
    OnesComplement.Folds 65536 (foldCarries sum).toNat n ∧
      (~~~foldCarries sum).toUInt16.toNat = 65535 - (foldCarries sum).toNat := by
  subst total
  have folds := (foldCarries_spec sum).2
  exact ⟨folds, toNat_complement (by have := folds.below; exact this)⟩

/-! ## The two checksums -/

/-- What makes words with a given sum add up to maximal digits. -/
structure Completes (checksum : UInt16) (n : Nat) (folded : Nat) : Prop where
  folds : OnesComplement.Folds 65536 folded n
  complements : checksum.toNat = 65535 - folded ∨ 65535 - folded = 0 ∧ checksum.toNat = 65535

/-- The header checksum is computed without an overflow. -/
theorem computeIpChecksum_spec {front : List UInt8} (high low : UInt8) (back : List UInt8)
    (position : front.length = 10) (fits : (words front).sum + (words back).sum < 4294967296) :
    computeIpChecksumChecked (front ++ high :: low :: back) =
        some (computeIpChecksum (front ++ high :: low :: back)) ∧
      ∃ folded, Completes (computeIpChecksum (front ++ high :: low :: back))
        ((words front).sum + (words back).sum) folded := by
  have fits' : (0 : UInt32).toNat + (words front).sum + (words back).sum < 4294967296 := by
    rwa [UInt32.toNat_zero, Nat.zero_add]
  obtain ⟨sum, ok, total⟩ := sumWordsChecked_spec high low
    (by omega : front.length % 2 = 0) (by omega : 0 + front.length = 10) fits'
  rw [UInt32.toNat_zero, Nat.zero_add] at total
  have same := sumWords_of_checked ok
  obtain ⟨folds, complement⟩ := complement_foldCarries total
  refine ⟨?_, (foldCarries sum).toNat, folds, .inl ?_⟩
  · simp only [computeIpChecksumChecked, ok, (foldCarries_spec sum).1, computeIpChecksum, same,
      Option.bind_eq_bind, Option.bind_some, Option.pure_def]
  · rw [computeIpChecksum, same]
    exact complement

/-! ## The pseudo-header -/

/-- The pseudo-header of a UDP datagram as bytes. -/
def pseudoHeaderBytes (srcIp dstIp : Ipv4Addr) (udpLen : UInt16) : List UInt8 :=
  octets srcIp ++ octets dstIp ++ [0x00, 17] ++ u16ToBeBytes udpLen

theorem words_u16ToBeBytes (n : UInt16) (back : List UInt8) :
    words (u16ToBeBytes n ++ back) = n.toNat :: words back := by
  have below : n.toNat < 65536 := n.toNat_lt
  simp only [u16ToBeBytes, List.cons_append, List.nil_append, words, UInt8.toNat_ofNat',
    List.cons.injEq, and_true]
  omega

theorem pseudoHeader_spec (srcIp dstIp : Ipv4Addr) (udpLen : UInt16) :
    pseudoHeaderChecked srcIp dstIp (.ofNat udpLen.toNat) =
        some (pseudoHeader srcIp dstIp (.ofNat udpLen.toNat)) ∧
      (pseudoHeader srcIp dstIp (.ofNat udpLen.toNat)).toNat =
        (words (pseudoHeaderBytes srcIp dstIp udpLen)).sum := by
  let summands : List UInt32 := [word srcIp.a srcIp.b, word srcIp.c srcIp.d, word dstIp.a dstIp.b,
    word dstIp.c dstIp.d, 17, .ofNat udpLen.toNat]
  have length : (UInt32.ofNat udpLen.toNat).toNat = udpLen.toNat :=
    UInt32.toNat_ofNat_of_lt' (Nat.lt_trans udpLen.toNat_lt (by decide))
  have total : (summands.map UInt32.toNat).sum =
      (words (pseudoHeaderBytes srcIp dstIp udpLen)).sum := by
    have split : pseudoHeaderBytes srcIp dstIp udpLen =
        srcIp.a :: srcIp.b :: srcIp.c :: srcIp.d :: dstIp.a :: dstIp.b :: dstIp.c :: dstIp.d ::
          0x00 :: 17 :: (u16ToBeBytes udpLen ++ []) := rfl
    simp only [split, summands, words, words_u16ToBeBytes, List.map_cons, List.map_nil, toNat_word,
      length]
    rfl
  have short := sum_words_le (pseudoHeaderBytes srcIp dstIp udpLen)
  have size : (pseudoHeaderBytes srcIp dstIp udpLen).length = 12 := rfl
  obtain ⟨ok, exact_⟩ := @foldlM_checkedAdd32 0 summands
    (by rw [total, UInt32.toNat_zero]; omega)
  have same : summands.foldl (· + ·) 0 = pseudoHeader srcIp dstIp (.ofNat udpLen.toNat) := by
    simp only [summands, List.foldl_cons, List.foldl_nil, UInt32.zero_add, pseudoHeader]
  rw [same] at ok exact_
  rw [UInt32.toNat_zero, Nat.zero_add, total] at exact_
  refine ⟨?_, exact_⟩
  rw [← ok]
  simp only [pseudoHeaderChecked, summands, List.foldlM_cons, List.foldlM_nil, Option.bind_eq_bind,
    Option.pure_def, Option.bind_fun_some]

/-- The UDP checksum is computed without an overflow, and is never zero. -/
theorem computeUdpChecksum_spec (srcIp dstIp : Ipv4Addr) {front : List UInt8} (high low : UInt8)
    (back : List UInt8) {udpLen : UInt16} (position : front.length = 6)
    (length : (front ++ high :: low :: back).length = udpLen.toNat) :
    computeUdpChecksumChecked srcIp dstIp (front ++ high :: low :: back) =
        some (computeUdpChecksum srcIp dstIp (front ++ high :: low :: back)) ∧
      computeUdpChecksum srcIp dstIp (front ++ high :: low :: back) ≠ 0 ∧
      ∃ folded, Completes (computeUdpChecksum srcIp dstIp (front ++ high :: low :: back))
        ((words (pseudoHeaderBytes srcIp dstIp udpLen)).sum + (words front).sum +
          (words back).sum) folded := by
  obtain ⟨pseudo, start⟩ := pseudoHeader_spec srcIp dstIp udpLen
  have short := sum_words_le (pseudoHeaderBytes srcIp dstIp udpLen)
  have short₁ := sum_words_le front
  have short₂ := sum_words_le back
  have size : (pseudoHeaderBytes srcIp dstIp udpLen).length = 12 := rfl
  have limit : udpLen.toNat < 65536 := udpLen.toNat_lt
  have backSize : back.length < 65536 := by
    rw [List.length_append, List.length_cons, List.length_cons] at length
    omega
  have fits : (pseudoHeader srcIp dstIp (.ofNat udpLen.toNat)).toNat + (words front).sum +
      (words back).sum < 4294967296 := by
    rw [start]
    omega
  obtain ⟨sum, ok, total⟩ := sumWordsChecked_spec high low
    (by omega : front.length % 2 = 0) (by omega : 0 + front.length = 6) fits
  rw [start] at total
  have same := sumWords_of_checked ok
  obtain ⟨folds, complement⟩ := complement_foldCarries total
  have computed : computeUdpChecksum srcIp dstIp (front ++ high :: low :: back) =
      if (~~~foldCarries sum).toUInt16 = 0 then 0xFFFF else (~~~foldCarries sum).toUInt16 := by
    rw [computeUdpChecksum, length, same]
  refine ⟨?_, ?_, (foldCarries sum).toNat, folds, ?_⟩
  · simp only [computeUdpChecksumChecked, length, pseudo, ok, (foldCarries_spec sum).1, computed,
      Option.bind_eq_bind, Option.bind_some, Option.pure_def]
  · rw [computed]
    split_ifs with zero
    · decide
    · exact zero
  · rw [computed]
    split_ifs with zero
    · rw [zero, UInt16.toNat_zero] at complement
      exact .inr ⟨complement.symm, rfl⟩
    · exact .inl complement

/-- A checksum in its field completes the words around it. -/
theorem sum_eq_max_of_completes {checksum : UInt16} (before front : List UInt8) {back : List UInt8}
    {folded : Nat} (evenBefore : before.length % 2 = 0) (even : front.length % 2 = 0)
    (completes : Completes checksum
      ((words before).sum + (words front).sum + (words back).sum) folded) :
    OnesComplement.sum 65536 (words (before ++ (front ++ (u16ToBeBytes checksum ++ back)))) =
      65535 := by
  refine OnesComplement.sum_eq_max (by decide) (words_lt _) completes.folds ?_
    completes.complements
  rw [words_append evenBefore, words_append even, words_u16ToBeBytes]
  simp only [List.sum_append, List.sum_cons]
  omega

/-! ## The injected packet -/

/-- The header in front of its checksum. -/
def headerFront (totalLen : UInt16) : List UInt8 :=
  [0x45, 0x00] ++ u16ToBeBytes totalLen ++ [0x00, 0x00, 0x40, 0x00, 64, 17]

/-- The segment in front of its checksum. -/
def segmentFront (srcPort dstPort udpLen : UInt16) : List UInt8 :=
  u16ToBeBytes srcPort ++ u16ToBeBytes dstPort ++ u16ToBeBytes udpLen

/-- A built packet is its header and its segment, each with its checksum in its field. -/
theorem buildUdpResponse_eq (srcIp dstIp : Ipv4Addr) (srcPort dstPort : UInt16)
    (payload : List UInt8) {udpLen totalLen : UInt16} (hudp : 8 + .ofNat payload.length = udpLen)
    (htotal : 20 + udpLen = totalLen) :
    buildUdpResponse srcIp dstIp srcPort dstPort payload =
      (headerFront totalLen ++
        (u16ToBeBytes (computeIpChecksum
            (headerFront totalLen ++ 0x00 :: 0x00 :: (octets srcIp ++ octets dstIp))) ++
          (octets srcIp ++ octets dstIp))) ++
      (segmentFront srcPort dstPort udpLen ++
        (u16ToBeBytes (computeUdpChecksum srcIp dstIp
            (segmentFront srcPort dstPort udpLen ++ 0x00 :: 0x00 :: payload)) ++ payload)) := by
  subst hudp htotal
  simp only [u16ToBeBytes_eq (computeIpChecksum _), u16ToBeBytes_eq (computeUdpChecksum _ _ _)]
  rfl

/-- A packet that a receiver accepts as a UDP datagram with that many bytes of payload. -/
structure IsValid (srcIp dstIp : Ipv4Addr) (payloadLength : Nat) (packet : List UInt8) : Prop where
  length : packet.length = 28 + payloadLength
  totalLength : (words (packet.take 20))[1]? = some (28 + payloadLength)
  udpLength : (words (packet.drop 20))[2]? = some (8 + payloadLength)
  headerSum : OnesComplement.sum 65536 (words (packet.take 20)) = 65535
  udpChecksum : ∃ checksum, (words (packet.drop 20))[3]? = some checksum ∧ checksum ≠ 0
  segmentSum : OnesComplement.sum 65536
    (words (pseudoHeaderBytes srcIp dstIp (.ofNat (8 + payloadLength)) ++ packet.drop 20)) = 65535

/-- A header and a segment with the right lengths and checksums are a valid packet. -/
theorem isValid_of_completes {srcIp dstIp : Ipv4Addr} {srcPort dstPort udpLen totalLen ipChecksum
    udpChecksum : UInt16} {payload : List UInt8} {ipFolded udpFolded : Nat}
    (udpSize : udpLen.toNat = 8 + payload.length) (totalSize : totalLen.toNat = 28 + payload.length)
    (ipCompletes : Completes ipChecksum ((words (headerFront totalLen)).sum +
      (words (octets srcIp ++ octets dstIp)).sum) ipFolded)
    (nonzero : udpChecksum ≠ 0)
    (udpCompletes : Completes udpChecksum ((words (pseudoHeaderBytes srcIp dstIp udpLen)).sum +
      (words (segmentFront srcPort dstPort udpLen)).sum + (words payload).sum) udpFolded) :
    IsValid srcIp dstIp payload.length
      ((headerFront totalLen ++ (u16ToBeBytes ipChecksum ++ (octets srcIp ++ octets dstIp))) ++
        (segmentFront srcPort dstPort udpLen ++ (u16ToBeBytes udpChecksum ++ payload))) := by
  have header (segment : List UInt8) : ((headerFront totalLen ++
      (u16ToBeBytes ipChecksum ++ (octets srcIp ++ octets dstIp))) ++ segment).take 20 =
        headerFront totalLen ++ (u16ToBeBytes ipChecksum ++ (octets srcIp ++ octets dstIp)) :=
    List.take_left' rfl
  have rest (segment : List UInt8) : ((headerFront totalLen ++
      (u16ToBeBytes ipChecksum ++ (octets srcIp ++ octets dstIp))) ++ segment).drop 20 = segment :=
    List.drop_left' rfl
  have segmentWords : words (segmentFront srcPort dstPort udpLen ++
      (u16ToBeBytes udpChecksum ++ payload)) =
        srcPort.toNat :: dstPort.toNat :: udpLen.toNat :: udpChecksum.toNat :: words payload := by
    simp only [segmentFront, List.append_assoc, words_u16ToBeBytes]
  have field : (.ofNat (8 + payload.length) : UInt16) = udpLen := by
    rw [← udpSize, UInt16.ofNat_toNat]
  constructor
  · change payload.length + 28 = _
    omega
  · have front : headerFront totalLen ++ (u16ToBeBytes ipChecksum ++
        (octets srcIp ++ octets dstIp)) = 0x45 :: 0x00 :: (u16ToBeBytes totalLen ++
          ([0x00, 0x00, 0x40, 0x00, 64, 17] ++ (u16ToBeBytes ipChecksum ++
            (octets srcIp ++ octets dstIp)))) := rfl
    rw [header, front, words, words_u16ToBeBytes, totalSize]
    rfl
  · rw [rest, segmentWords, udpSize]
    rfl
  · have completes : Completes ipChecksum ((words []).sum + (words (headerFront totalLen)).sum +
        (words (octets srcIp ++ octets dstIp)).sum) ipFolded := by
      rwa [words, List.sum_nil, Nat.zero_add]
    rw [header]
    exact sum_eq_max_of_completes [] _ rfl (by simp [headerFront, u16ToBeBytes]) completes
  · refine ⟨udpChecksum.toNat, by rw [rest, segmentWords]; rfl, fun zero => nonzero ?_⟩
    exact UInt16.toNat_inj.mp zero
  · rw [rest, field]
    exact sum_eq_max_of_completes _ _ (by simp [pseudoHeaderBytes, octets, u16ToBeBytes])
      (by simp [segmentFront, u16ToBeBytes]) udpCompletes

/-- The two length fields of a payload that fits into one datagram. -/
theorem lengthFields_of_fits {n : Nat} (fits : n ≤ 65497) :
    ∃ udpLen totalLen, checkedAdd16 8 (.ofNat n) = some udpLen ∧ 8 + UInt16.ofNat n = udpLen ∧
      udpLen.toNat = 8 + n ∧ checkedAdd16 20 udpLen = some totalLen ∧ 20 + udpLen = totalLen ∧
      totalLen.toNat = 28 + n := by
  have size : (UInt16.ofNat n).toNat = n :=
    UInt16.toNat_ofNat_of_lt' (Nat.lt_of_le_of_lt fits (by decide))
  obtain ⟨udpOk, udpSize⟩ := checkedAdd16_of_lt (a := 8) (b := .ofNat n)
    (by rw [size]; change 8 + _ < _; omega)
  replace udpSize : (8 + UInt16.ofNat n).toNat = 8 + n := by
    rw [udpSize, size]
    rfl
  obtain ⟨totalOk, totalSize⟩ := checkedAdd16_of_lt (a := 20) (b := 8 + UInt16.ofNat n)
    (by rw [udpSize]; change 20 + _ < _; omega)
  refine ⟨_, _, udpOk, rfl, udpSize, totalOk, rfl, ?_⟩
  rw [totalSize, udpSize]
  change 20 + (8 + n) = _
  omega

/-- A payload that fits into one datagram becomes a valid packet, and nothing overflows. -/
theorem injected_packet_valid (srcIp dstIp : Ipv4Addr) (srcPort dstPort : UInt16)
    (payload : List UInt8) (fits : payload.length ≤ 65497) :
    buildUdpResponseChecked srcIp dstIp srcPort dstPort payload =
        some (buildUdpResponse srcIp dstIp srcPort dstPort payload) ∧
      IsValid srcIp dstIp payload.length
        (buildUdpResponse srcIp dstIp srcPort dstPort payload) := by
  obtain ⟨udpLen, totalLen, udpOk, hudp, udpSize, totalOk, htotal, totalSize⟩ :=
    lengthFields_of_fits fits
  -- the two checksums, over the bytes with placeholders
  let addresses := octets srcIp ++ octets dstIp
  have short := sum_words_le (headerFront totalLen)
  have short' := sum_words_le addresses
  have sizes : (headerFront totalLen).length = 10 ∧ addresses.length = 8 := ⟨rfl, rfl⟩
  have frontSize : (headerFront totalLen).length = 10 := rfl
  have frontSize' : (segmentFront srcPort dstPort udpLen).length = 6 := rfl
  have segmentSize : (segmentFront srcPort dstPort udpLen ++ 0x00 :: 0x00 :: payload).length =
      udpLen.toNat := by
    rw [udpSize]
    change payload.length + 1 + 1 + 6 = _
    omega
  obtain ⟨ipOk, _, ipCompletes⟩ := computeIpChecksum_spec 0x00 0x00 addresses frontSize (by omega)
  obtain ⟨udpSumOk, nonzero, _, udpCompletes⟩ :=
    computeUdpChecksum_spec srcIp dstIp 0x00 0x00 payload frontSize' segmentSize
  constructor
  · have ip : computeIpChecksumChecked (responseHeader srcIp dstIp totalLen) = some _ := ipOk
    have udp : computeUdpChecksumChecked srcIp dstIp
      (responseSegment srcPort dstPort udpLen payload) = some _ := udpSumOk
    have segment (high low : UInt8) : (((responseHeader srcIp dstIp totalLen).set 10 high).set 11
        low ++ responseSegment srcPort dstPort udpLen payload).drop 20 =
          responseSegment srcPort dstPort udpLen payload := rfl
    simp only [buildUdpResponseChecked, udpOk, totalOk, ip, udp, segment, buildUdpResponse, hudp,
      htotal, Option.bind_eq_bind, Option.bind_some, Option.pure_def]
    rfl
  · have built := buildUdpResponse_eq srcIp dstIp srcPort dstPort payload hudp htotal
    generalize computeIpChecksum _ = ipChecksum at built ipCompletes
    generalize computeUdpChecksum srcIp dstIp _ = udpChecksum at built udpCompletes nonzero
    rw [built]
    exact isValid_of_completes udpSize totalSize ipCompletes nonzero udpCompletes

/-- For one: an answer of two bytes from a game server. -/
theorem injected_packet_valid_pong :
    ([1, 2] : List UInt8).length ≤ 65497 ∧ IsValid ⟨1, 2, 3, 4⟩ ⟨10, 0, 0, 7⟩ 2
      (buildUdpResponse ⟨1, 2, 3, 4⟩ ⟨10, 0, 0, 7⟩ 27015 50000 [1, 2]) :=
  ⟨by decide, (injected_packet_valid ⟨1, 2, 3, 4⟩ ⟨10, 0, 0, 7⟩ 27015 50000 [1, 2] (by decide)).2⟩

end PlgBooster.Client
