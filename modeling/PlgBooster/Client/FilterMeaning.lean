import PlgBooster.Client.FilterBuilder
import PlgBooster.Client.FilterLanguage

/-!
# What the built filter means

Read by the rules of the filter language, the filter of a profile is true of exactly the
outbound UDP packets to an address and a port the profile lists. A block lists the addresses
that share its leading bits; its bounds are computed with masks of 32 bits.
-/

namespace PlgBooster.Client

open Rust Precedence

/-! ## Blocks -/

/-- The address has the leading bits of the listed block, or is the listed address. -/
def ListedIp (cidr : String) (ip : Ipv4Addr) : Prop :=
  match splitOnce '/' cidr.toList with
  | some (ipStr, lengthStr) =>
      ∃ net length, parseIpv4Addr ipStr = some net ∧ parseU32 lengthStr = .ok length ∧
        length ≤ 32 ∧
        ip.toU32.toNat >>> (32 - length.toNat) = net.toU32.toNat >>> (32 - length.toNat)
  | none => parseIpv4Addr cidr.toList = some ip

/-- The port is the listed one, or lies in the listed range. Blanks may surround a number. -/
def ListedPort (portStr : String) (port : UInt16) : Prop :=
  match splitOnce '-' portStr.toList with
  | some (startStr, endStr) =>
      ∃ first last, parseU16 (trim startStr) = .ok first ∧ parseU16 (trim endStr) = .ok last ∧
        first ≤ port ∧ port ≤ last
  | none => parseU16 (trim portStr.toList) = .ok port

/-- The mask of `cidr_to_ip_range`. -/
def prefixMask (length : UInt32) : UInt32 :=
  if length = 0 then 0 else ~~~0 <<< (32 - length)

theorem prefixMask_spec {length : UInt32} (short : length ≤ 32) :
    (prefixMask length).toBitVec = BitVec.allOnes 32 <<< (32 - length.toNat) ∧
      (~~~prefixMask length).toNat = 2 ^ (32 - length.toNat) - 1 := by
  have bound : length.toNat ≤ 32 := UInt32.le_iff_toNat_le.mp short
  have all : ∀ n : Fin 33,
      (prefixMask (.ofNat n.val)).toBitVec = BitVec.allOnes 32 <<< (32 - n.val) ∧
        (~~~prefixMask (.ofNat n.val)).toNat = 2 ^ (32 - n.val) - 1 := by decide
  have here := all ⟨length.toNat, by omega⟩
  rwa [UInt32.ofNat_toNat] at here

/-- The addresses between the bounds of a block are those with its leading bits. -/
theorem mem_block_iff {length : UInt32} (short : length ≤ 32) (net ip : UInt32) :
    net &&& prefixMask length ≤ ip ∧ ip ≤ net &&& prefixMask length ||| ~~~prefixMask length ↔
      ip.toNat >>> (32 - length.toNat) = net.toNat >>> (32 - length.toNat) := by
  obtain ⟨ones, rest⟩ := prefixMask_spec short
  generalize 32 - length.toNat = k at ones rest ⊢
  have positive : 0 < 2 ^ k := Nat.two_pow_pos k
  have first : (net &&& prefixMask length).toNat = net.toNat >>> k <<< k := by
    have shifted := congrArg BitVec.toNat
      (BitVec.shiftLeft_ushiftRight (x := net.toBitVec) (n := k))
    have below : net.toNat >>> k <<< k < 2 ^ 32 := by
      rw [Nat.shiftRight_eq_div_pow, Nat.shiftLeft_eq]
      exact Nat.lt_of_le_of_lt (Nat.div_mul_le_self _ _) net.toNat_lt
    rw [BitVec.toNat_shiftLeft, BitVec.toNat_ushiftRight, ← ones] at shifted
    exact shifted.symm.trans (Nat.mod_eq_of_lt below)
  have last : (net &&& prefixMask length ||| ~~~prefixMask length).toNat =
      net.toNat >>> k <<< k + (2 ^ k - 1) := by
    rw [UInt32.toNat_or, first, rest]
    exact (Nat.shiftLeft_add_eq_or_of_lt (by omega) _).symm
  rw [UInt32.le_iff_toNat_le, UInt32.le_iff_toNat_le, first, last, Nat.shiftLeft_eq,
    Nat.shiftRight_eq_div_pow ip.toNat, Nat.div_eq_iff positive]
  omega

theorem toU32_ofU32 (bits : UInt32) : (Ipv4Addr.ofU32 bits).toU32 = bits := by
  have below : bits.toNat < 4294967296 := bits.toNat_lt
  apply UInt32.toNat_inj.mp
  simp only [Ipv4Addr.toU32, Ipv4Addr.ofU32, UInt8.toNat_ofNat', UInt32.toNat_ofNat']
  omega

/-- What an accepted entry is: a block with a length, or an address. -/
theorem cidrToIpRange_cases {cidr : String} {first last : Ipv4Addr}
    (ok : cidrToIpRange cidr = .ok (first, last)) :
    (∃ ipStr lengthStr net length, splitOnce '/' cidr.toList = some (ipStr, lengthStr) ∧
      parseIpv4Addr ipStr = some net ∧ parseU32 lengthStr = .ok length ∧ length ≤ 32 ∧
      first = .ofU32 (net.toU32 &&& prefixMask length) ∧
      last = .ofU32 (net.toU32 &&& prefixMask length ||| ~~~prefixMask length)) ∨
    splitOnce '/' cidr.toList = none ∧ parseIpv4Addr cidr.toList = some first ∧ last = first := by
  unfold cidrToIpRange at ok
  cases found : splitOnce '/' cidr.toList with
  | some parts =>
      obtain ⟨ipStr, lengthStr⟩ := parts
      rw [found] at ok
      dsimp only at ok
      cases parsedIp : parseIpv4Addr ipStr with
      | none =>
          rw [parsedIp] at ok
          cases ok
      | some net =>
          rw [parsedIp] at ok
          dsimp only at ok
          cases parsedLength : parseU32 lengthStr with
          | error e =>
              rw [parsedLength] at ok
              cases ok
          | ok length =>
              rw [parsedLength] at ok
              dsimp only at ok
              by_cases long : length > 32
              · rw [if_pos long] at ok
                cases ok
              · rw [if_neg long] at ok
                obtain ⟨rfl, rfl⟩ := Prod.mk.inj (Except.ok.inj ok)
                exact .inl ⟨ipStr, lengthStr, net, length, rfl, parsedIp, parsedLength,
                  UInt32.not_lt.mp long, rfl, rfl⟩
  | none =>
      rw [found] at ok
      dsimp only at ok
      cases parsed : parseIpv4Addr cidr.toList with
      | none =>
          rw [parsed] at ok
          cases ok
      | some net =>
          rw [parsed] at ok
          obtain ⟨rfl, rfl⟩ := Prod.mk.inj (Except.ok.inj ok)
          exact .inr ⟨rfl, rfl, rfl⟩

/-- An accepted entry lists the addresses between its bounds. -/
theorem mem_range_iff {cidr : String} {first last : Ipv4Addr}
    (ok : cidrToIpRange cidr = .ok (first, last)) (ip : Ipv4Addr) :
    first.toU32 ≤ ip.toU32 ∧ ip.toU32 ≤ last.toU32 ↔ ListedIp cidr ip := by
  unfold ListedIp
  rcases cidrToIpRange_cases ok with
    ⟨ipStr, lengthStr, net, length, found, parsedIp, parsedLength, short, rfl, rfl⟩ |
    ⟨whole, parsed, rfl⟩
  · rw [toU32_ofU32, toU32_ofU32, found]
    refine (mem_block_iff short net.toU32 ip.toU32).trans ⟨fun same => ?_, ?_⟩
    · exact ⟨net, length, parsedIp, parsedLength, short, same⟩
    · rintro ⟨net', length', parsedIp', parsedLength', _, same⟩
      obtain rfl := Option.some.inj (parsedIp.symm.trans parsedIp')
      obtain rfl := Except.ok.inj (parsedLength.symm.trans parsedLength')
      exact same
  · rw [whole]
    constructor
    · rintro ⟨lower, upper⟩
      rw [Ipv4Addr.toU32_injective (UInt32.le_antisymm lower upper)] at parsed
      exact parsed
    · intro same
      obtain rfl := Option.some.inj (parsed.symm.trans same)
      exact ⟨UInt32.le_refl _, UInt32.le_refl _⟩

/-! ## Ranges -/

theorem parsePort_eq_ok {text : List Char} {port : UInt16} :
    parsePort text = .ok port ↔ parseU16 (trim text) = .ok port :=
  Result.mapError_eq_ok

/-- What an accepted entry is: a range that is not empty, or a number. -/
theorem parsePortRange_cases {portStr : String} {first last : UInt16}
    (ok : parsePortRange portStr = .ok (first, last)) :
    (∃ startStr endStr, splitOnce '-' portStr.toList = some (startStr, endStr) ∧
      parseU16 (trim startStr) = .ok first ∧ parseU16 (trim endStr) = .ok last ∧ first ≤ last) ∨
    splitOnce '-' portStr.toList = none ∧ parseU16 (trim portStr.toList) = .ok first ∧
      last = first := by
  unfold parsePortRange at ok
  cases found : splitOnce '-' portStr.toList with
  | some parts =>
      obtain ⟨startStr, endStr⟩ := parts
      rw [found] at ok
      simp only [Result.bind_eq_ok, parsePort_eq_ok] at ok
      obtain ⟨first', readFirst, last', readLast, ok⟩ := ok
      split_ifs at ok with empty
      obtain ⟨rfl, rfl⟩ := Prod.mk.inj (Except.ok.inj ok)
      exact .inl ⟨startStr, endStr, rfl, readFirst, readLast, UInt16.not_lt.mp empty⟩
  | none =>
      rw [found] at ok
      simp only [Result.bind_eq_ok, parsePort_eq_ok] at ok
      obtain ⟨port, read, ok⟩ := ok
      obtain ⟨rfl, rfl⟩ := Prod.mk.inj (Except.ok.inj ok)
      exact .inr ⟨rfl, read, rfl⟩

/-- An accepted entry lists the ports between its bounds. -/
theorem mem_portRange_iff {portStr : String} {first last : UInt16}
    (ok : parsePortRange portStr = .ok (first, last)) (port : UInt16) :
    first ≤ port ∧ port ≤ last ↔ ListedPort portStr port := by
  unfold ListedPort
  rcases parsePortRange_cases ok with
    ⟨startStr, endStr, found, readFirst, readLast, _⟩ | ⟨whole, read, rfl⟩
  · rw [found]
    constructor
    · exact fun inside => ⟨first, last, readFirst, readLast, inside⟩
    · rintro ⟨first', last', readFirst', readLast', inside⟩
      obtain rfl := Except.ok.inj (readFirst.symm.trans readFirst')
      obtain rfl := Except.ok.inj (readLast.symm.trans readLast')
      exact inside
  · rw [whole]
    constructor
    · rintro ⟨lower, upper⟩
      rw [UInt16.le_antisymm lower upper] at read
      exact read
    · intro same
      obtain rfl := Except.ok.inj (read.symm.trans same)
      exact ⟨UInt16.le_refl _, UInt16.le_refl _⟩

/-! ## Clauses -/

theorem isWord_of_notMem {word : List Char} (nonempty : word ≠ []) (blank : ' ' ∉ word)
    (opening : '(' ∉ word) (closing : ')' ∉ word) : isWord word := by
  have plain : word.all isPlain := by
    refine List.all_eq_true.mpr fun c member => ?_
    simp only [isPlain, Bool.and_eq_true, bne_iff_ne]
    refine ⟨⟨?_, ?_⟩, ?_⟩
    · exact fun same => blank (same ▸ member)
    · exact fun same => opening (same ▸ member)
    · exact fun same => closing (same ▸ member)
  rw [isWord, plain, Bool.and_true, bne_iff_ne]
  exact nonempty

/-- A field of numbers, and how its tests are written. -/
structure NumericField (α : Type) where
  name : String
  display : α → String
  key : α → Nat
  test : Comparison → α → FilterTest
  /-- The number in a packet. -/
  found : NetworkPacket → Option Nat
  isName : isWord name.toList
  notKeyword : keyword name.toList = none
  isValue (a : α) : isWord (display a).toList
  reads {operator : List Char} {c : Comparison} (known : comparison operator = some c) (a : α) :
    fieldTest name.toList operator (display a).toList = some (test c a)
  holds_test (c : Comparison) (a : α) (packet : NetworkPacket) :
    (test c a).holds packet = true ↔ ∃ n, found packet = some n ∧ c.holds n (key a) = true

namespace NumericField

variable {α : Type} (field : NumericField α)

/-- The packet has a number between the two. -/
def Between (first last : α) (packet : NetworkPacket) : Prop :=
  ∃ n, field.found packet = some n ∧ field.key first ≤ n ∧ n ≤ field.key last

theorem expresses (operator : String) {c : Comparison} (isOperator : isWord operator.toList)
    (known : comparison operator.toList = some c) (a : α) :
    Expresses .primary (field.name ++ " " ++ operator ++ " " ++ field.display a).toList
      fun packet => ∃ n, field.found packet = some n ∧ c.holds n (field.key a) = true := by
  have whole := (Expresses.comparison field.isName isOperator (field.isValue a) field.notKeyword
    (field.reads known a)).congr (field.holds_test c a)
  simpa using whole

/-- The clause of a range, or of the one number in it. -/
def rangeClause [DecidableEq α] (first last : α) : String :=
  if first = last then field.name ++ " == " ++ field.display first
  else "(" ++ field.name ++ " >= " ++ field.display first ++ " and " ++ field.name ++ " <= " ++
    field.display last ++ ")"

theorem expresses_rangeClause [DecidableEq α] (first last : α) :
    Expresses .primary (field.rangeClause first last).toList (field.Between first last) := by
  by_cases same : first = last
  · subst same
    have clause := field.expresses "==" (by decide) rfl first
    rw [rangeClause, if_pos rfl]
    have same (packet : NetworkPacket) :
        (∃ n, field.found packet = some n ∧ Comparison.equal.holds n (field.key first) = true) ↔
          field.Between first first packet := by
      refine exists_congr fun n => and_congr_right fun _ => ?_
      rw [Comparison.holds, decide_eq_true_eq, ← Nat.le_antisymm_iff, eq_comm]
    refine Expresses.congr ?_ same
    simpa using clause
  · have lower := field.expresses ">=" (by decide) rfl first
    have upper := field.expresses "<=" (by decide) rfl last
    rw [rangeClause, if_neg same]
    have both (packet : NetworkPacket) :
        ((∃ n, field.found packet = some n ∧ Comparison.atLeast.holds n (field.key first) = true) ∧
          ∃ n, field.found packet = some n ∧ Comparison.atMost.holds n (field.key last) = true) ↔
          field.Between first last packet := by
      simp only [Comparison.holds, decide_eq_true_eq]
      constructor
      · rintro ⟨⟨n, found, lower⟩, m, found', upper⟩
        obtain rfl := Option.some.inj (found.symm.trans found')
        exact ⟨n, found, lower, upper⟩
      · rintro ⟨n, found, lower, upper⟩
        exact ⟨⟨n, found, lower⟩, n, found, upper⟩
    refine Expresses.congr ?_ both
    simpa using (lower.single.and upper).only.parens

end NumericField

/-- `ip.DstAddr`. -/
def dstAddrField : NumericField Ipv4Addr where
  name := "ip.DstAddr"
  display := Ipv4Addr.display
  key ip := ip.toU32.toNat
  test := .dstAddr
  found packet := match packet.dstAddr with
    | .V4 ip => some ip.toU32.toNat
    | .V6 _ => none
  isName := by decide
  notKeyword := by decide
  isValue ip := isWord_of_notMem (by simp [Ipv4Addr.toList_display])
    (ip.notMem_display (by decide) (by decide)) (ip.notMem_display (by decide) (by decide))
    (ip.notMem_display (by decide) (by decide))
  reads {operator c} known ip := by
    rw [fieldTest, known]
    simp [parseIpv4Addr_eq_some_iff.mpr rfl]
  holds_test c ip packet := by
    cases dst : packet.dstAddr <;> simp [FilterTest.holds, dst]

/-- `udp.DstPort`. -/
def dstPortField : NumericField UInt16 where
  name := "udp.DstPort"
  display port := toString port.toNat
  key port := port.toNat
  test := .dstPort
  found packet := packet.udpDstPort.map UInt16.toNat
  isName := by decide
  notKeyword := by decide
  isValue port := by
    have canonical := Decimal.canonical_toDigits port.toNat
    have absent {c : Char} (notDigit : c.isDigit = false) : c ∉ Nat.toDigits 10 port.toNat := by
      intro member
      have := canonical.digits c member
      simp [notDigit] at this
    have shown : (toString port.toNat).toList = Nat.toDigits 10 port.toNat := by simp
    rw [shown]
    exact isWord_of_notMem canonical.nonempty (absent (by decide)) (absent (by decide))
      (absent (by decide))
  reads {operator c} known port := by
    rw [fieldTest, known]
    simp [parseU16_display, Except.toOption]
  holds_test c port packet := by
    cases dst : packet.udpDstPort <;> simp [FilterTest.holds, dst]

theorem dstAddrField_rangeClause (first last : Ipv4Addr) :
    dstAddrField.rangeClause first last =
      if first = last then "ip.DstAddr == " ++ first.display
      else "(ip.DstAddr >= " ++ first.display ++ " and ip.DstAddr <= " ++ last.display ++ ")" := by
  apply String.toList_inj.mp
  by_cases same : first = last
  · rw [NumericField.rangeClause, if_pos same, if_pos same]
    simp [dstAddrField]
  · rw [NumericField.rangeClause, if_neg same, if_neg same]
    simp [dstAddrField]

theorem dstPortField_rangeClause (first last : UInt16) :
    dstPortField.rangeClause first last =
      if first = last then "udp.DstPort == " ++ toString first.toNat
      else "(udp.DstPort >= " ++ toString first.toNat ++ " and udp.DstPort <= " ++
        toString last.toNat ++ ")" := by
  apply String.toList_inj.mp
  by_cases same : first = last
  · rw [NumericField.rangeClause, if_pos same, if_pos same]
    simp [dstPortField]
  · rw [NumericField.rangeClause, if_neg same, if_neg same]
    simp [dstPortField]

theorem ipClause_eq_ok {cidr clause : String} :
    ipClause cidr = .ok clause ↔ ∃ first last, cidrToIpRange cidr = .ok (first, last) ∧
      dstAddrField.rangeClause first last = clause := by
  simp only [ipClause, Result.bind_eq_ok, Result.pure_eq_ok, Prod.exists, dstAddrField_rangeClause]

theorem portClause_eq_ok {portStr clause : String} :
    portClause portStr = .ok clause ↔ ∃ first last, parsePortRange portStr = .ok (first, last) ∧
      dstPortField.rangeClause first last = clause := by
  simp only [portClause, Result.bind_eq_ok, Result.pure_eq_ok, Prod.exists,
    dstPortField_rangeClause]

/-- The clause of an entry is true of the packets to an address it lists. -/
theorem expresses_ipClause {cidr clause : String} (ok : ipClause cidr = .ok clause) :
    Expresses .primary clause.toList fun packet =>
      ∃ ip, packet.dstAddr = .V4 ip ∧ ListedIp cidr ip := by
  obtain ⟨first, last, range, rfl⟩ := ipClause_eq_ok.mp ok
  refine (dstAddrField.expresses_rangeClause first last).congr fun packet => ?_
  simp only [← mem_range_iff range, UInt32.le_iff_toNat_le]
  cases dst : packet.dstAddr with
  | V4 ip => simp [NumericField.Between, dstAddrField, dst]
  | V6 ip => simp [NumericField.Between, dstAddrField, dst]

theorem expresses_portClause {portStr clause : String} (ok : portClause portStr = .ok clause) :
    Expresses .primary clause.toList fun packet =>
      ∃ port, packet.udpDstPort = some port ∧ ListedPort portStr port := by
  obtain ⟨first, last, range, rfl⟩ := portClause_eq_ok.mp ok
  refine (dstPortField.expresses_rangeClause first last).congr fun packet => ?_
  simp only [← mem_portRange_iff range, UInt16.le_iff_toNat_le]
  cases dst : packet.udpDstPort with
  | none => simp [NumericField.Between, dstPortField, dst]
  | some port => simp [NumericField.Between, dstPortField, dst]

/-! ## Alternatives -/

theorem expresses_intercalate {α : Type} {P : α → NetworkPacket → Prop} {entries : List α}
    {clauses : List String}
    (each : List.Forall₂ (fun entry clause => Expresses .primary clause.toList (P entry))
      entries clauses)
    {front : String} {Q : NetworkPacket → Prop}
    (expresses : Expresses .disjunction front.toList Q) :
    Expresses .disjunction (String.intercalate " or " (front :: clauses)).toList
      fun packet => Q packet ∨ ∃ entry ∈ entries, P entry packet := by
  induction each generalizing front Q with
  | nil =>
      rw [String.intercalate_singleton]
      exact expresses.congr fun packet => by simp
  | @cons entry clause entries clauses first _ ih =>
      have joined : String.intercalate " or " (front :: clause :: clauses) =
          String.intercalate " or " ((front ++ " or " ++ clause) :: clauses) := by
        rw [String.intercalate_cons_cons, String.intercalate_cons_append]
      have alternatives : Expresses .disjunction (front ++ " or " ++ clause).toList
          fun packet => Q packet ∨ P entry packet := by
        rw [String.toList_append, String.toList_append]
        exact expresses.or first.single
      rw [joined]
      refine (ih alternatives).congr fun packet => ?_
      rw [List.exists_mem_cons_iff, or_assoc]

/-- Alternatives in one pair of parentheses, or the only one as it is. -/
theorem expresses_combineClauses {α : Type} {P : α → NetworkPacket → Prop} {entries : List α}
    {clauses : List String} (nonempty : entries ≠ [])
    (each : List.Forall₂ (fun entry clause => Expresses .primary clause.toList (P entry))
      entries clauses) :
    Expresses .primary (combineClauses clauses).toList
      fun packet => ∃ entry ∈ entries, P entry packet := by
  cases each with
  | nil => exact absurd rfl nonempty
  | @cons entry clause entries clauses first rest =>
      cases rest with
      | nil => exact first.congr fun packet => by simp
      | @cons next clause' entries clauses second rest =>
          have inside := expresses_intercalate (.cons second rest) first.single.only
          have whole := inside.parens.congr fun packet =>
            (List.exists_mem_cons_iff (P · packet) entry (next :: entries)).symm
          have written : (combineClauses (clause :: clause' :: clauses)).toList =
              '(' ::
                (String.intercalate " or " (clause :: clause' :: clauses)).toList ++ [')'] := by
            rw [combineClauses, String.toList_append, String.toList_append]
            · rfl
            · exact nofun
          rw [written]
          exact whole

/-! ## The filter -/

/-- The traffic a profile is about: outbound UDP to a listed address and a listed port. -/
structure InProfile (serverIps ports : List String) (packet : NetworkPacket) : Prop where
  outbound : packet.outbound = true
  listedIp : ∃ cidr ∈ serverIps, ∃ ip, packet.dstAddr = .V4 ip ∧ ListedIp cidr ip
  listedPort : ∃ portStr ∈ ports, ∃ port, packet.udpDstPort = some port ∧ ListedPort portStr port

/-- The filter of a profile is read, and it is true of the traffic of the profile. -/
theorem filterValue_iff {serverIps ports : List String} {filter : String}
    (built : buildWindivertFilter serverIps ports = .ok filter) (packet : NetworkPacket) :
    ∃ value, filterValue filter packet = some value ∧
      (value = true ↔ InProfile serverIps ports packet) := by
  unfold buildWindivertFilter at built
  split_ifs at built with noIps noPorts
  simp only [Result.bind_eq_ok, Result.pure_eq_ok, Result.mapM_eq_ok] at built
  obtain ⟨ipClauses, ips, portClauses, ranges, rfl⟩ := built
  have ipPart := expresses_combineClauses noIps (ips.imp fun cidr clause => expresses_ipClause)
  have portPart :=
    expresses_combineClauses noPorts (ranges.imp fun portStr clause => expresses_portClause)
  have outbound : Expresses .primary "outbound".toList (FilterTest.outbound.holds · = true) :=
    .keyword (by decide) (by decide)
  have udp : Expresses .primary "udp".toList (FilterTest.udp.holds · = true) :=
    .keyword (by decide) (by decide)
  have whole := ((outbound.single.and udp).and ipPart).and portPart
  have means (packet : NetworkPacket) :
      (((FilterTest.outbound.holds packet = true ∧ FilterTest.udp.holds packet = true) ∧
        ∃ cidr ∈ serverIps, ∃ ip, packet.dstAddr = .V4 ip ∧ ListedIp cidr ip) ∧
        ∃ portStr ∈ ports, ∃ port, packet.udpDstPort = some port ∧ ListedPort portStr port) ↔
        InProfile serverIps ports packet := by
    constructor
    · rintro ⟨⟨⟨outbound, _⟩, ip⟩, port⟩
      exact ⟨outbound, ip, port⟩
    · rintro ⟨outbound, ip, port⟩
      obtain ⟨portStr, member, number, isUdp, listed⟩ := port
      refine ⟨⟨⟨outbound, ?_⟩, ip⟩, portStr, member, number, isUdp, listed⟩
      rw [FilterTest.holds, isUdp, Option.isSome_some]
  have written : Expresses .conjunction ("outbound and udp and " ++ combineClauses ipClauses ++
      " and " ++ combineClauses portClauses).toList (InProfile serverIps ports) := by
    refine Expresses.congr ?_ means
    simpa using whole
  exact written.filterValue_eq packet

/-- What is built is built from entries. -/
theorem accepted_of_built {serverIps ports : List String} {filter : String}
    (built : buildWindivertFilter serverIps ports = .ok filter) :
    serverIps ≠ [] ∧ ports ≠ [] ∧
      (∀ cidr ∈ serverIps, ∃ range, cidrToIpRange cidr = .ok range) ∧
      ∀ portStr ∈ ports, ∃ range, parsePortRange portStr = .ok range := by
  unfold buildWindivertFilter at built
  split_ifs at built with noIps noPorts
  simp only [Result.bind_eq_ok] at built
  obtain ⟨_, ips, _, ranges, _⟩ := built
  refine ⟨noIps, noPorts, fun cidr member => ?_, fun portStr member => ?_⟩
  · obtain ⟨_, ok⟩ := Result.exists_of_mapM_eq_ok ips cidr member
    obtain ⟨first, last, range, _⟩ := ipClause_eq_ok.mp ok
    exact ⟨_, range⟩
  · obtain ⟨_, ok⟩ := Result.exists_of_mapM_eq_ok ranges portStr member
    obtain ⟨first, last, range, _⟩ := portClause_eq_ok.mp ok
    exact ⟨_, range⟩

/-- A filter is built exactly for lists with entries that are all accepted, and it means the
profile. -/
theorem filter_means_profile (serverIps ports : List String) :
    ((∃ filter, buildWindivertFilter serverIps ports = .ok filter) ↔
      serverIps ≠ [] ∧ ports ≠ [] ∧
      (∀ cidr ∈ serverIps, ∃ range, cidrToIpRange cidr = .ok range) ∧
      ∀ portStr ∈ ports, ∃ range, parsePortRange portStr = .ok range) ∧
    ∀ filter, buildWindivertFilter serverIps ports = .ok filter → ∀ packet,
      ∃ value, filterValue filter packet = some value ∧
        (value = true ↔ InProfile serverIps ports packet) := by
  refine ⟨⟨?_, ?_⟩, fun filter built packet => filterValue_iff built packet⟩
  · rintro ⟨filter, built⟩
    exact accepted_of_built built
  · rintro ⟨listedIps, listedPorts, ips, ranges⟩
    exact exists_filter listedIps listedPorts ips ranges

end PlgBooster.Client
