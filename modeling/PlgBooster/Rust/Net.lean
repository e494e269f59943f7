import PlgBooster.Rust.Text
import Mathlib.Data.Vector.Basic
import Mathlib.Data.Nat.Digits.Defs

/-!
# Addresses of `std::net` and clocks of `std::time`

Addresses, their `Display` text, and the parser behind `from_str`. The parser
reads a prefix of its input and returns the rest; `from_str` accepts only when
nothing is left. An IPv4 address is read by exactly one text, its own display:
octets have no superfluous leading zeros. That is the fact which makes comparing
printed addresses the same as comparing addresses.
-/

namespace Rust

structure Ipv4Addr where
  a : UInt8
  b : UInt8
  c : UInt8
  d : UInt8
  deriving DecidableEq, Repr

/-- Eight 16-bit segments. -/
structure Ipv6Addr where
  segments : Vector UInt16 8
  deriving DecidableEq, Repr

inductive IpAddr where
  | V4 (ip : Ipv4Addr)
  | V6 (ip : Ipv6Addr)
  deriving DecidableEq, Repr

structure SocketAddr where
  ip : IpAddr
  port : UInt16
  deriving DecidableEq, Repr

/-- A reading of the monotonic clock, and a span between two readings, in nanoseconds. -/
abbrev Instant := Nat
abbrev Duration := Nat

/-- `Instant::duration_since`, which saturates at zero. -/
def Instant.durationSince (later earlier : Instant) : Duration := later - earlier

theorem Instant.durationSince_le {later later' : Instant} (forward : later ≤ later')
    (earlier : Instant) : later.durationSince earlier ≤ later'.durationSince earlier :=
  Nat.sub_le_sub_right forward earlier

namespace Ipv4Addr

/-- `u32::from(ip)`: the octets in network order. -/
def toU32 (ip : Ipv4Addr) : UInt32 :=
  .ofNat (((ip.a.toNat * 256 + ip.b.toNat) * 256 + ip.c.toNat) * 256 + ip.d.toNat)

/-- `Ipv4Addr::from(bits)`. -/
def ofU32 (bits : UInt32) : Ipv4Addr where
  a := .ofNat (bits.toNat / 16777216)
  b := .ofNat (bits.toNat / 65536)
  c := .ofNat (bits.toNat / 256)
  d := .ofNat bits.toNat

/-- `impl Display for Ipv4Addr`. -/
def display (ip : Ipv4Addr) : String :=
  toString ip.a.toNat ++ "." ++ toString ip.b.toNat ++ "." ++ toString ip.c.toNat ++ "." ++
    toString ip.d.toNat

theorem toList_display (ip : Ipv4Addr) :
    ip.display.toList =
      Nat.toDigits 10 ip.a.toNat ++ '.' :: (Nat.toDigits 10 ip.b.toNat ++
        '.' :: (Nat.toDigits 10 ip.c.toNat ++ '.' :: Nat.toDigits 10 ip.d.toNat)) := by
  simp [display]

theorem length_display_le (ip : Ipv4Addr) : ip.display.toList.length ≤ 15 := by
  have octet (n : UInt8) : (Nat.toDigits 10 n.toNat).length ≤ 3 :=
    Nat.toDigits_length 10 n.toNat 3 (by decide) (by have := n.toNat_lt; omega)
  have a := octet ip.a
  have b := octet ip.b
  have c := octet ip.c
  have d := octet ip.d
  rw [toList_display]
  simp only [List.length_append, List.length_cons]
  omega

@[simp] theorem ofU32_toU32 (ip : Ipv4Addr) : ofU32 ip.toU32 = ip := by
  obtain ⟨a, b, c, d⟩ := ip
  have ha := a.toNat_lt
  have hb := b.toNat_lt
  have hc := c.toNat_lt
  have hd := d.toNat_lt
  simp only [ofU32, toU32, UInt32.toNat_ofNat', mk.injEq, ← UInt8.toNat_inj,
    UInt8.toNat_ofNat']
  omega

theorem toU32_injective : Function.Injective toU32 :=
  Function.LeftInverse.injective ofU32_toU32

/-- The display has digits and dots only. -/
theorem notMem_display {c : Char} (notDigit : c.isDigit = false) (notDot : c ≠ '.')
    (ip : Ipv4Addr) : c ∉ ip.display.toList := by
  have absent (n : Nat) : c ∉ Nat.toDigits 10 n := fun member => by
    simp [(Decimal.canonical_toDigits n).digits c member] at notDigit
  simp [toList_display, absent, notDot]

end Ipv4Addr

namespace Ipv6Addr

/-- The first of the longest runs of zero segments, as start and length. -/
def longestZeroRun (segments : List UInt16) : Nat × Nat :=
  let scan := segments.zipIdx.foldl (fun (spans : (Nat × Nat) × (Nat × Nat)) entry =>
    if entry.1 = 0 then
      let start := if spans.2.2 = 0 then entry.2 else spans.2.1
      let current := (start, spans.2.2 + 1)
      (if current.2 > spans.1.2 then current else spans.1, current)
    else (spans.1, (0, 0))) ((0, 0), (0, 0))
  scan.1

/-- Segments in lower-case hexadecimal, separated by colons. -/
def displaySegments (segments : List UInt16) : String :=
  String.intercalate ":" (segments.map fun s => String.ofList (Nat.toDigits 16 s.toNat))

/-- `impl Display for Ipv6Addr`: IPv4-mapped addresses end in dotted decimal, and
otherwise the longest run of at least two zero segments is written `::`. -/
def display (ip : Ipv6Addr) : String :=
  let segments := ip.segments.toList
  match segments with
  | [0, 0, 0, 0, 0, 0xffff, ab, cd] =>
      "::ffff:" ++ (Ipv4Addr.ofU32 (.ofNat (ab.toNat * 65536 + cd.toNat))).display
  | _ =>
      let zeroes := longestZeroRun segments
      if zeroes.2 > 1 then
        displaySegments (segments.take zeroes.1) ++ "::" ++
          displaySegments (segments.drop (zeroes.1 + zeroes.2))
      else displaySegments segments

end Ipv6Addr

/-- `impl Display for IpAddr`. -/
def IpAddr.display : IpAddr → String
  | .V4 ip => ip.display
  | .V6 ip => ip.display

/-! ## The parser -/

/-- `char::to_digit(radix)`. -/
def toDigit (radix : Nat) (c : Char) : Option Nat :=
  let n := c.toNat
  let digit :=
    if c.isDigit then n - 48
    else if 97 ≤ n ∧ n ≤ 122 then n - 87
    else if 65 ≤ n ∧ n ≤ 90 then n - 55
    else radix
  if digit < radix then some digit else none

/-- `Parser::read_number`, for a target type with largest value `limit`. -/
def readNumber (radix maxDigits limit : Nat) (allowZeroPrefix : Bool) (text : List Char) :
    Option (Nat × List Char) :=
  let digits := text.takeWhile fun c => (toDigit radix c).isSome
  if digits.length = 0 ∨ maxDigits < digits.length then none
  else if !allowZeroPrefix ∧ digits.head? = some '0' ∧ 1 < digits.length then none
  else
    let value := digits.foldl (fun value c => radix * value + (toDigit radix c).getD 0) 0
    if value ≤ limit then
      some (value, text.dropWhile fun c => (toDigit radix c).isSome)
    else none

/-- `Parser::read_given_char`. -/
def readGivenChar (target : Char) : List Char → Option (List Char)
  | [] => none
  | c :: text => if c = target then some text else none

/-- `Parser::read_separator`: every item but the first follows a separator. -/
def readSeparator {α : Type} (sep : Char) (index : Nat)
    (inner : List Char → Option (α × List Char)) (text : List Char) : Option (α × List Char) :=
  if 0 < index then (readGivenChar sep text).bind inner else inner text

/-- One octet: at most three decimal digits, no leading zero, at most 255. -/
def readOctet (text : List Char) : Option (UInt8 × List Char) :=
  (readNumber 10 3 255 false text).map fun read => (UInt8.ofNat read.1, read.2)

/-- `Parser::read_ipv4_addr`. -/
def readIpv4Addr (text : List Char) : Option (Ipv4Addr × List Char) := do
  let (a, text) ← readSeparator '.' 0 readOctet text
  let (b, text) ← readSeparator '.' 1 readOctet text
  let (c, text) ← readSeparator '.' 2 readOctet text
  let (d, text) ← readSeparator '.' 3 readOctet text
  some (⟨a, b, c, d⟩, text)

/-- `read_groups`: colon-separated groups while they can be read, at most
`remaining` of the `limit` slots. An embedded IPv4 address takes two slots and
ends the series; the flag reports it. -/
def readGroups (limit : Nat) : Nat → List Char → List UInt16 × Bool × List Char
  | 0, text => ([], false, text)
  | remaining + 1, text =>
      let index := limit - (remaining + 1)
      match if 0 < remaining then readSeparator ':' index readIpv4Addr text else none with
      | some (ip, text) =>
          ([.ofNat (ip.a.toNat * 256 + ip.b.toNat), .ofNat (ip.c.toNat * 256 + ip.d.toNat)],
            true, text)
      | none =>
          match readSeparator ':' index (readNumber 16 4 65535 true) text with
          | some (group, text) =>
              let (groups, ipv4, rest) := readGroups limit remaining text
              (.ofNat group :: groups, ipv4, rest)
          | none => ([], false, text)

/-- `Parser::read_ipv6_addr`: eight groups, or a head and a tail around `::`. -/
def readIpv6Addr (text : List Char) : Option (Ipv6Addr × List Char) :=
  let (head, headIpv4, text) := readGroups 8 8 text
  let ofSegments (segments : List UInt16) : Ipv6Addr :=
    ⟨Vector.ofFn fun i => segments.getD i.val 0⟩
  if head.length = 8 then some (ofSegments head, text)
  else if headIpv4 then none
  else do
    let text ← readGivenChar ':' text
    let text ← readGivenChar ':' text
    let limit := 8 - (head.length + 1)
    let (tail, _, text) := readGroups limit limit text
    some (ofSegments (head ++ List.replicate (8 - head.length - tail.length) 0 ++ tail), text)

/-- `Parser::read_ip_addr`: IPv6 is tried only where no IPv4 address can be read. -/
def readIpAddr (text : List Char) : Option (IpAddr × List Char) :=
  match readIpv4Addr text with
  | some (ip, text) => some (.V4 ip, text)
  | none => (readIpv6Addr text).map fun read => (.V6 read.1, read.2)

/-- `Parser::parse_with`: the whole text has to be read. -/
def parseWith {α : Type} (inner : List Char → Option (α × List Char)) (text : List Char) :
    Option α :=
  match inner text with
  | some (value, []) => some value
  | _ => none

/-- `IpAddr::from_str(..).ok()`. -/
def parseIpAddr : List Char → Option IpAddr := parseWith readIpAddr

/-- `Ipv4Addr::from_str(..).ok()`. -/
def parseIpv4Addr : List Char → Option Ipv4Addr := parseWith readIpv4Addr

/-- `Parser::read_port`. -/
def readPort (text : List Char) : Option (UInt16 × List Char) := do
  let text ← readGivenChar ':' text
  (readNumber 10 text.length 65535 true text).map fun read => (UInt16.ofNat read.1, read.2)

/-- `Parser::read_scope_id`; the scope of an address is not kept. -/
def skipScopeId (text : List Char) : List Char :=
  let scope := do
    let text ← readGivenChar '%' text
    readNumber 10 text.length 4294967295 true text
  match scope with
  | some (_, rest) => rest
  | none => text

/-- `Parser::read_socket_addr`: an IPv6 address stands in brackets. -/
def readSocketAddr (text : List Char) : Option (SocketAddr × List Char) :=
  let v4 := do
    let (ip, text) ← readIpv4Addr text
    let (port, text) ← readPort text
    some ((⟨.V4 ip, port⟩ : SocketAddr), text)
  let v6 := do
    let text ← readGivenChar '[' text
    let (ip, text) ← readIpv6Addr text
    let text ← readGivenChar ']' (skipScopeId text)
    let (port, text) ← readPort text
    some ((⟨.V6 ip, port⟩ : SocketAddr), text)
  v4.or v6

/-- `SocketAddr::from_str(..).ok()`. -/
def parseSocketAddr : List Char → Option SocketAddr := parseWith readSocketAddr

/-- `impl Display for AddrParseError` of `SocketAddr::from_str`. -/
def socketAddrParseError : String := "invalid socket address syntax"

/-- `impl Display for AddrParseError` of `Ipv4Addr::from_str`. -/
def ipv4ParseError : String := "invalid IPv4 address syntax"

/-! ## Reading an IPv4 address is undoing its display -/

theorem toDigit_ten (c : Char) :
    toDigit 10 c = if c.isDigit then some (c.toNat - '0'.toNat) else none := by
  by_cases digit : c.isDigit
  · have small := (Decimal.digitChar_of_isDigit digit).2
    change c.toNat - 48 < 10 at small
    simp only [toDigit, digit, if_true, small]
    rfl
  · simp only [toDigit, digit]
    split_ifs <;> first | omega | rfl

theorem isSome_toDigit_ten (c : Char) : (toDigit 10 c).isSome = c.isDigit := by
  rw [toDigit_ten]
  cases c.isDigit <;> rfl

theorem foldl_toDigit_ten {digits : List Char} (all : ∀ c ∈ digits, c.isDigit) (value : Nat) :
    digits.foldl (fun value c => 10 * value + (toDigit 10 c).getD 0) value =
      Nat.ofDigitChars 10 digits value := by
  induction digits generalizing value with
  | nil => rfl
  | cons c digits ih =>
      rw [List.foldl_cons, Nat.ofDigitChars_cons, ih (fun d member => all d (by simp [member])),
        toDigit_ten, if_pos (all c (by simp))]
      rfl

/-- The rest of a text after a number does not continue the number. -/
def NoDigitAhead (text : List Char) : Prop := ∀ c ∈ text.head?, ¬ c.isDigit

/-- An octet is read from exactly one text, its decimal display. -/
theorem readOctet_eq_some_iff {text rest : List Char} {n : UInt8} :
    readOctet text = some (n, rest) ↔
      text = Nat.toDigits 10 n.toNat ++ rest ∧ NoDigitAhead rest := by
  have scan : (fun c => (toDigit 10 c).isSome) = Char.isDigit := funext isSome_toDigit_ten
  simp only [readOctet, readNumber, scan]
  constructor
  · intro read
    have all : ∀ c ∈ text.takeWhile Char.isDigit, c.isDigit :=
      List.all_eq_true.mp List.all_takeWhile
    split_ifs at read with bad lead fits
    all_goals simp only [Option.map_none, reduceCtorEq, Option.map_some, Option.some.injEq,
      Prod.mk.injEq] at read
    obtain ⟨value, dropped⟩ := read
    rw [foldl_toDigit_ten all] at fits value
    have canonical : Decimal.Canonical (text.takeWhile Char.isDigit) :=
      ⟨fun empty => bad (.inl (by simp [empty])), all, fun long zero => lead ⟨rfl, zero, long⟩⟩
    constructor
    · rw [← value, UInt8.toNat_ofNat_of_lt' (by simp [UInt8.size]; omega),
        Decimal.toDigits_ofDigitChars canonical, ← dropped, List.takeWhile_append_dropWhile]
    · intro c member
      have stop := List.head?_dropWhile_not Char.isDigit text
      rw [dropped, Option.mem_def.mp member] at stop
      simpa using stop
  · rintro ⟨rfl, stop⟩
    have canonical := Decimal.canonical_toDigits n.toNat
    have taken : (Nat.toDigits 10 n.toNat ++ rest).takeWhile Char.isDigit =
        Nat.toDigits 10 n.toNat := by
      rw [List.takeWhile_append_of_pos canonical.digits]
      cases rest with
      | nil => simp
      | cons c rest => simp [stop c (by simp)]
    have dropped : (Nat.toDigits 10 n.toNat ++ rest).dropWhile Char.isDigit = rest := by
      rw [List.dropWhile_append_of_pos canonical.digits]
      cases rest with
      | nil => simp
      | cons c rest => simp [stop c (by simp)]
    have below : n.toNat < 256 := n.toNat_lt
    have short : (Nat.toDigits 10 n.toNat).length ≤ 3 :=
      (Nat.length_toDigits_le_iff (by decide) (by decide)).mpr (by omega)
    have long : 0 < (Nat.toDigits 10 n.toNat).length := Nat.length_toDigits_pos
    rw [taken, dropped, foldl_toDigit_ten canonical.digits, Nat.ofDigitChars_ten_toDigits,
      if_neg (by omega), if_neg (by rintro ⟨-, zero, two⟩; exact canonical.lead two zero),
      if_pos (by omega)]
    simp

theorem readSeparator_succ_eq_some_iff {α : Type} {sep : Char} {index : Nat}
    {inner : List Char → Option (α × List Char)} {text : List Char} {result : α × List Char} :
    readSeparator sep (index + 1) inner text = some result ↔
      ∃ back, text = sep :: back ∧ inner back = some result := by
  cases text with
  | nil => simp [readSeparator, readGivenChar]
  | cons c text =>
      by_cases here : c = sep
      · simp [readSeparator, readGivenChar, here]
      · simp [readSeparator, readGivenChar, here]

theorem noDigitAhead_dot (text : List Char) : NoDigitAhead ('.' :: text) := by
  simp [NoDigitAhead]

theorem readIpv4Addr_eq_some_iff {text rest : List Char} {ip : Ipv4Addr} :
    readIpv4Addr text = some (ip, rest) ↔
      text = ip.display.toList ++ rest ∧ NoDigitAhead rest := by
  obtain ⟨a, b, c, d⟩ := ip
  constructor
  · intro read
    simp only [readIpv4Addr, Option.bind_eq_bind, Option.bind_eq_some_iff, Prod.exists] at read
    obtain ⟨a', text₁, read₁, b', text₂, read₂, c', text₃, read₃, d', text₄, read₄, same⟩ := read
    obtain ⟨back₂, rfl, read₂⟩ := readSeparator_succ_eq_some_iff.mp read₂
    obtain ⟨back₃, rfl, read₃⟩ := readSeparator_succ_eq_some_iff.mp read₃
    obtain ⟨back₄, rfl, read₄⟩ := readSeparator_succ_eq_some_iff.mp read₄
    obtain ⟨rfl, -⟩ := readOctet_eq_some_iff.mp read₁
    obtain ⟨rfl, -⟩ := readOctet_eq_some_iff.mp read₂
    obtain ⟨rfl, -⟩ := readOctet_eq_some_iff.mp read₃
    obtain ⟨rfl, stop⟩ := readOctet_eq_some_iff.mp read₄
    obtain ⟨⟨rfl, rfl, rfl, rfl⟩, rfl⟩ : (a' = a ∧ b' = b ∧ c' = c ∧ d' = d) ∧ text₄ = rest := by
      simpa using same
    exact ⟨by simp [Ipv4Addr.toList_display], stop⟩
  · rintro ⟨rfl, stop⟩
    have read₄ : readSeparator '.' 3 readOctet ('.' :: (Nat.toDigits 10 d.toNat ++ rest)) =
        some (d, rest) :=
      readSeparator_succ_eq_some_iff.mpr ⟨_, rfl, readOctet_eq_some_iff.mpr ⟨rfl, stop⟩⟩
    have inner (index : Nat) (octet : UInt8) (back : List Char) :
        readSeparator '.' (index + 1) readOctet
          ('.' :: (Nat.toDigits 10 octet.toNat ++ '.' :: back)) = some (octet, '.' :: back) :=
      readSeparator_succ_eq_some_iff.mpr
        ⟨_, rfl, readOctet_eq_some_iff.mpr ⟨rfl, noDigitAhead_dot back⟩⟩
    have read₁ (back : List Char) :
        readSeparator '.' 0 readOctet (Nat.toDigits 10 a.toNat ++ '.' :: back) =
          some (a, '.' :: back) :=
      readOctet_eq_some_iff.mpr ⟨rfl, noDigitAhead_dot back⟩
    simp only [readIpv4Addr, Ipv4Addr.toList_display, List.append_assoc, List.cons_append,
      Option.bind_eq_bind, read₁, inner 0, inner 1, read₄, Option.bind_some]

theorem parseIpv4Addr_eq_some_iff {text : List Char} {ip : Ipv4Addr} :
    parseIpv4Addr text = some ip ↔ text = ip.display.toList := by
  constructor
  · intro parsed
    unfold parseIpv4Addr parseWith at parsed
    split at parsed
    · rename_i value read
      obtain rfl := Option.some.inj parsed
      simpa using (readIpv4Addr_eq_some_iff.mp read).1
    · simp at parsed
  · rintro rfl
    have read : readIpv4Addr ip.display.toList = some (ip, []) :=
      readIpv4Addr_eq_some_iff.mpr ⟨by simp, by simp [NoDigitAhead]⟩
    simp only [parseIpv4Addr, parseWith, read]

/-- `IpAddr::from_str` returns an IPv4 address on its display only. -/
theorem parseIpAddr_eq_V4_iff {text : List Char} {ip : Ipv4Addr} :
    parseIpAddr text = some (.V4 ip) ↔ text = ip.display.toList := by
  rw [← parseIpv4Addr_eq_some_iff]
  cases read : readIpv4Addr text with
  | none =>
      cases read' : readIpv6Addr text with
      | none => simp [parseIpAddr, parseIpv4Addr, parseWith, readIpAddr, read, read']
      | some result =>
          obtain ⟨ip', rest⟩ := result
          cases rest <;> simp [parseIpAddr, parseIpv4Addr, parseWith, readIpAddr, read, read']
  | some result =>
      obtain ⟨ip', rest⟩ := result
      cases rest <;> simp [parseIpAddr, parseIpv4Addr, parseWith, readIpAddr, read]

@[simp] theorem parseIpAddr_display (ip : Ipv4Addr) :
    parseIpAddr ip.display.toList = some (.V4 ip) :=
  parseIpAddr_eq_V4_iff.mpr rfl

/-! ## Text without a colon is never read as an IPv6 address -/

theorem readGivenChar_eq_none {target : Char} {text : List Char} (absent : target ∉ text) :
    readGivenChar target text = none := by
  cases text with
  | nil => rfl
  | cons c text =>
      have other : c ≠ target := fun same => absent (same ▸ List.mem_cons_self)
      simp [readGivenChar, other]

theorem readGroups_eq_nil {text : List Char} (absent : ':' ∉ text) {limit remaining : Nat}
    (later : remaining < limit) : readGroups limit remaining text = ([], false, text) := by
  cases remaining with
  | zero => rfl
  | succ remaining =>
      have separated : 0 < limit - (remaining + 1) := by omega
      simp [readGroups, readSeparator, separated, readGivenChar_eq_none absent]

theorem notMem_of_readNumber {radix maxDigits limit : Nat} {allowZeroPrefix : Bool}
    {text rest : List Char} {n : Nat} {c : Char}
    (read : readNumber radix maxDigits limit allowZeroPrefix text = some (n, rest))
    (absent : c ∉ text) : c ∉ rest := by
  unfold readNumber at read
  dsimp only at read
  split_ifs at read
  obtain ⟨_, rfl⟩ := Prod.mk.inj (Option.some.inj read)
  exact fun member => absent ((List.dropWhile_sublist _).subset member)

theorem readIpv6Addr_eq_none {text : List Char} (absent : ':' ∉ text) :
    readIpv6Addr text = none := by
  cases embedded : readIpv4Addr text with
  | some result =>
      -- Two segments from dotted decimal cannot be followed by more.
      simp [readIpv6Addr, readGroups, readSeparator, embedded]
  | none =>
      cases group : readNumber 16 4 65535 true text with
      | none =>
          simp [readIpv6Addr, readGroups, readSeparator, embedded, group,
            readGivenChar_eq_none absent]
      | some result =>
          obtain ⟨n, rest⟩ := result
          have absent' : ':' ∉ rest := notMem_of_readNumber group absent
          have stop : readGroups 8 7 rest = ([], false, rest) :=
            readGroups_eq_nil absent' (by omega)
          rw [readIpv6Addr, readGroups]
          simp [readSeparator, embedded, group, stop, readGivenChar_eq_none absent']

/-- Text without a colon is no IPv6 address. -/
theorem parseIpAddr_ne_V6 {text : List Char} (absent : ':' ∉ text) (ip : Ipv6Addr) :
    parseIpAddr text ≠ some (.V6 ip) := by
  intro parsed
  cases read : readIpv4Addr text with
  | none =>
      simp [parseIpAddr, parseWith, readIpAddr, read, readIpv6Addr_eq_none absent] at parsed
  | some result =>
      obtain ⟨ip', rest⟩ := result
      cases rest <;> simp [parseIpAddr, parseWith, readIpAddr, read] at parsed

/-- Without a colon in it, the text of an address is the display of an IPv4 address. -/
theorem parseIpAddr_of_notMem_colon {text : List Char} {ip : IpAddr} (absent : ':' ∉ text)
    (parsed : parseIpAddr text = some ip) : text = ip.display.toList := by
  cases ip with
  | V4 ip => exact parseIpAddr_eq_V4_iff.mp parsed
  | V6 ip => exact absurd parsed (parseIpAddr_ne_V6 absent ip)

end Rust
