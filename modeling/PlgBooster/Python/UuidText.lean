import PlgBooster.Python.Uuid
import Mathlib.Tactic.NormNum

/-!
# What is written is read back

`uuid.UUID(str(id))` is `id`, and percent-decoding undoes `urllib.parse.quote`. A UUID is
written in lower-case hexadecimal digits and hyphens, so none of the deletions and strips of
the reader touches anything but the hyphens.
-/

namespace PlgBooster.Python

/-- How many UUIDs there are. -/
def uuidCount : Nat := 340282366920938463463374607431768211456

/-- The number that hexadecimal digits stand for, the first one being the highest. -/
def ofHexDigits (acc : Nat) (digits : List Nat) : Nat :=
  digits.foldl (fun acc d => 16 * acc + d) acc

/-- The lower-case digits of a number's hexadecimal form. -/
def hexText (digits : List Nat) : List Char := digits.map Nat.digitChar

/-- The characters that the readers treat in a way of their own. -/
def special : List Char := ['_', '+', '-', 'x', 'X', 'P', 'u', '\x7b', '\x7d']

/-- What the readers see in one digit. -/
theorem hexDigit_spec : ∀ d < 16, hexValue d.digitChar = some d ∧
    isSpace d.digitChar = false ∧ d.digitChar ∉ special ∧
      toAscii d.digitChar = d.digitChar ∧ isCSpace d.digitChar = false := by
  decide +kernel

theorem hexDigit_ne {d : Nat} (small : d < 16) {c : Char} (listed : c ∈ special) :
    d.digitChar ≠ c := by
  rintro rfl
  exact (hexDigit_spec d small).2.2.1 listed

/-- The digits of a number. -/
theorem exists_hexDigits (n : Nat) : ∃ digits, (∀ d ∈ digits, d < 16) ∧
    Nat.toDigits 16 n = hexText digits ∧ ofHexDigits 0 digits = n := by
  induction n using Nat.strongRecOn with
  | ind n ih =>
      by_cases small : n < 16
      · refine ⟨[n], by simpa using small, Nat.toDigits_of_lt_base small, ?_⟩
        simp [ofHexDigits]
      · obtain ⟨digits, below, written, value⟩ := ih (n / 16) (by omega)
        refine ⟨digits ++ [n % 16], ?_, ?_, ?_⟩
        · intro d member
          rcases List.mem_append.mp member with front | last
          · exact below d front
          · obtain rfl := List.mem_singleton.mp last
            omega
        · rw [Nat.toDigits_of_base_le (by decide) (by omega), written, hexText, hexText,
            List.map_append]
          rfl
        · rw [ofHexDigits, List.foldl_append]
          change 16 * ofHexDigits 0 digits + n % 16 = n
          omega

theorem ofHexDigits_replicate_zero (k : Nat) (digits : List Nat) :
    ofHexDigits 0 (List.replicate k 0 ++ digits) = ofHexDigits 0 digits := by
  induction k with
  | zero => rfl
  | succ k ih => exact ih

/-- The 32 digits of a UUID. -/
theorem exists_uuidDigits {id : Nat} (bounded : id < uuidCount) : ∃ digits, digits.length = 32 ∧
    (∀ d ∈ digits, d < 16) ∧ (Nat.toDigits 16 id).leftpad 32 '0' = hexText digits ∧
      ofHexDigits 0 digits = id := by
  obtain ⟨digits, below, written, value⟩ := exists_hexDigits id
  have short : digits.length ≤ 32 := by
    have length : (Nat.toDigits 16 id).length ≤ 32 := by
      rw [Nat.length_toDigits_le_iff (by decide) (by decide)]
      exact Nat.lt_of_lt_of_le bounded (by decide)
    rwa [written, hexText, List.length_map] at length
  refine ⟨List.replicate (32 - digits.length) 0 ++ digits, ?_, ?_, ?_, ?_⟩
  · rw [List.length_append, List.length_replicate]
    omega
  · intro d member
    rcases List.mem_append.mp member with zero | digit
    · rw [List.eq_of_mem_replicate zero]
      decide
    · exact below d digit
  · rw [List.leftpad, written, hexText, hexText, List.length_map, List.map_append,
      List.map_replicate]
    rfl
  · rw [ofHexDigits_replicate_zero, value]

/-! ## The reader -/

theorem remove_eq_self {first : Char} {old text : List Char} (absent : first ∉ text) :
    remove (first :: old) 0 text = text := by
  induction text with
  | nil => rfl
  | cons c text ih =>
      have other : first ≠ c := fun same => absent (same ▸ List.mem_cons_self)
      have later : first ∉ text := fun member => absent (List.mem_cons_of_mem _ member)
      simp [remove, List.isPrefixOf, other, ih later]

theorem remove_singleton (c : Char) (text : List Char) :
    remove [c] 0 text = text.filter (· ≠ c) := by
  induction text with
  | nil => rfl
  | cons x text ih =>
      by_cases same : x = c
      · subst same
        simpa [remove, List.isPrefixOf] using ih
      · simpa [remove, List.isPrefixOf, same, Ne.symm same] using ih

theorem stripOf_eq_self {drop : Char → Bool} {text : List Char}
    (keeps : ∀ c ∈ text, drop c = false) : stripOf drop text = text := by
  have front (cs : List Char) (kept : ∀ c ∈ cs, drop c = false) : cs.dropWhile drop = cs := by
    cases cs with
    | nil => rfl
    | cons c cs => simp [kept c List.mem_cons_self]
  rw [stripOf, front text keeps, front _ fun c member => keeps c (List.mem_reverse.mp member),
    List.reverse_reverse]

theorem hexDigits_hexText {digits : List Nat} (below : ∀ d ∈ digits, d < 16) (acc : Nat) :
    hexDigits acc true (hexText digits) = some (ofHexDigits acc digits) := by
  induction digits generalizing acc with
  | nil => rfl
  | cons d digits ih =>
      have small := below d List.mem_cons_self
      have underscore := hexDigit_ne small (c := '_') (by decide)
      have rest := ih (fun d member => below d (List.mem_cons_of_mem _ member)) (16 * acc + d)
      simpa only [hexText, List.map_cons, hexDigits, underscore, if_false,
        (hexDigit_spec d small).1, ofHexDigits, List.foldl_cons] using rest

theorem unsignedHex_eq_hexDigits {text : List Char}
    (plain : ∀ x rest, text = '0' :: x :: rest → x ≠ 'x' ∧ x ≠ 'X') :
    unsignedHex text = hexDigits 0 false text := by
  unfold unsignedHex
  split
  next x rest =>
    obtain ⟨lower, upper⟩ := plain x rest rfl
    simp [lower, upper]
  next => rfl

theorem unsignedHex_hexText {digits : List Nat} (nonempty : digits ≠ [])
    (below : ∀ d ∈ digits, d < 16) :
    unsignedHex (hexText digits) = some (ofHexDigits 0 digits) := by
  have noPrefix (x : Char) (rest : List Char) (same : hexText digits = '0' :: x :: rest) :
      x ≠ 'x' ∧ x ≠ 'X' := by
    have member : x ∈ hexText digits := same ▸ List.mem_cons_of_mem _ List.mem_cons_self
    obtain ⟨d, inDigits, rfl⟩ := List.mem_map.mp member
    exact ⟨hexDigit_ne (below d inDigits) (by decide), hexDigit_ne (below d inDigits) (by decide)⟩
  rw [unsignedHex_eq_hexDigits noPrefix]
  cases digits with
  | nil => exact absurd rfl nonempty
  | cons d rest =>
      have small := below d List.mem_cons_self
      have underscore := hexDigit_ne small (c := '_') (by decide)
      have tail := hexDigits_hexText (fun d member => below d (List.mem_cons_of_mem _ member))
        (16 * 0 + d)
      simpa only [hexText, List.map_cons, hexDigits, underscore, if_false,
        (hexDigit_spec d small).1, ofHexDigits, List.foldl_cons] using tail

/-- Digits alone have neither a sign nor a prefix. -/
theorem intOfHex_hexText {digits : List Nat} (nonempty : digits ≠ [])
    (below : ∀ d ∈ digits, d < 16) :
    intOfHex (hexText digits) = some (Int.ofNat (ofHexDigits 0 digits)) := by
  have digitOf {c : Char} (member : c ∈ hexText digits) : ∃ d < 16, d.digitChar = c := by
    obtain ⟨d, inDigits, same⟩ := List.mem_map.mp member
    exact ⟨d, below d inDigits, same⟩
  have ascii : (hexText digits).map toAscii = hexText digits := by
    refine (List.map_congr_left fun c member => ?_).trans (List.map_id _)
    obtain ⟨d, small, rfl⟩ := digitOf member
    exact (hexDigit_spec d small).2.2.2.1
  have stripped : stripOf isCSpace (hexText digits) = hexText digits := by
    refine stripOf_eq_self fun c member => ?_
    obtain ⟨d, small, rfl⟩ := digitOf member
    exact (hexDigit_spec d small).2.2.2.2
  have unsigned {sign : Char} (listed : sign ∈ special) (rest : List Char) :
      hexText digits ≠ sign :: rest := by
    intro same
    obtain ⟨d, small, digit⟩ := digitOf (same ▸ List.mem_cons_self : sign ∈ hexText digits)
    exact hexDigit_ne small listed digit
  unfold intOfHex
  rw [ascii, stripped]
  split
  next rest same => exact absurd same (unsigned (by decide) rest)
  next rest same => exact absurd same (unsigned (by decide) rest)
  next => rw [unsignedHex_hexText nonempty below, Option.map_some]

/-! ## A UUID is read back -/

/-- The groups of a UUID's text, without the hyphens, are its digits. -/
theorem filter_groups (hex : List Char) (plain : '-' ∉ hex) :
    (hex.take 8 ++ '-' :: (hex.drop 8).take 4 ++ '-' :: (hex.drop 12).take 4 ++
      '-' :: (hex.drop 16).take 4 ++ '-' :: hex.drop 20).filter (· ≠ '-') = hex := by
  have keep {part : List Char} (within : part ⊆ hex) : part.filter (· ≠ '-') = part := by
    refine List.filter_eq_self.mpr fun c member => decide_eq_true ?_
    rintro rfl
    exact plain (within member)
  have group (from' : Nat) : (hex.drop from').take 4 ⊆ hex := fun c member =>
    List.mem_of_mem_drop (List.mem_of_mem_take member)
  have first : hex.take 8 ⊆ hex := fun c => List.mem_of_mem_take
  have last : hex.drop 20 ⊆ hex := fun c => List.mem_of_mem_drop
  have join (from' : Nat) : (hex.drop from').take 4 ++ hex.drop (from' + 4) = hex.drop from' := by
    rw [← List.drop_drop, List.take_append_drop]
  simp only [List.filter_append, List.filter_cons, keep first, keep (group _), keep last, ne_eq,
    not_true_eq_false, decide_false, Bool.false_eq_true, if_false, List.append_assoc]
  rw [join 16, join 12, join 8, List.take_append_drop]

/-- A UUID's text has no other characters than digits and hyphens. -/
theorem mem_strOfUuid {id : Nat} {digits : List Nat}
    (written : (Nat.toDigits 16 id).leftpad 32 '0' = hexText digits) {c : Char}
    (member : c ∈ strOfUuid id) : c ∈ hexText digits ∨ c = '-' := by
  simp only [strOfUuid, written, List.mem_append, List.mem_cons] at member
  have group {from' : Nat} (inGroup : c ∈ ((hexText digits).drop from').take 4) :
      c ∈ hexText digits := List.mem_of_mem_drop (List.mem_of_mem_take inGroup)
  rcases member with (((first | rfl | second) | rfl | third) | rfl | fourth) | rfl | fifth
  · exact .inl (List.mem_of_mem_take first)
  · exact .inr rfl
  · exact .inl (group second)
  · exact .inr rfl
  · exact .inl (group third)
  · exact .inr rfl
  · exact .inl (group fourth)
  · exact .inr rfl
  · exact .inl (List.mem_of_mem_drop fifth)

/-- None of the characters that the reader deletes or strips at the ends is in a UUID's text. -/
theorem strOfUuid_plain {id : Nat} (bounded : id < uuidCount) {c : Char}
    (member : c ∈ strOfUuid id) :
    isSpace c = false ∧ c ≠ 'P' ∧ c ≠ 'u' ∧ c ≠ '\x7b' ∧ c ≠ '\x7d' := by
  obtain ⟨digits, _, below, written, _⟩ := exists_uuidDigits bounded
  rcases mem_strOfUuid written member with digit | rfl
  · obtain ⟨d, inDigits, rfl⟩ := List.mem_map.mp digit
    have small := below d inDigits
    exact ⟨(hexDigit_spec d small).2.1, hexDigit_ne small (by decide),
      hexDigit_ne small (by decide), hexDigit_ne small (by decide), hexDigit_ne small (by decide)⟩
  · decide

/-- `uuid.UUID(str(id))` is `id`. -/
theorem uuidOfString_strOfUuid {id : Nat} (bounded : id < uuidCount) :
    uuidOfString (strOfUuid id) = some id := by
  obtain ⟨digits, length, below, written, value⟩ := exists_uuidDigits bounded
  have noU : 'u' ∉ strOfUuid id := fun member => (strOfUuid_plain bounded member).2.2.1 rfl
  have noHyphen : '-' ∉ hexText digits := by
    intro member
    obtain ⟨d, inDigits, same⟩ := List.mem_map.mp member
    exact hexDigit_ne (below d inDigits) (by decide) same
  have noBrace : stripOf (fun c => c = '\x7b' || c = '\x7d') (strOfUuid id) = strOfUuid id := by
    refine stripOf_eq_self fun c member => ?_
    obtain ⟨_, _, _, opening, closing⟩ := strOfUuid_plain bounded member
    simp [opening, closing]
  have hex : remove ['-'] 0 (strOfUuid id) = hexText digits := by
    rw [remove_singleton, strOfUuid, written]
    exact filter_groups (hexText digits) noHyphen
  have nonempty : digits ≠ [] := by
    rintro rfl
    cases length
  have urn : remove "urn:".toList 0 (strOfUuid id) = strOfUuid id := remove_eq_self noU
  have uuid : remove "uuid:".toList 0 (strOfUuid id) = strOfUuid id := remove_eq_self noU
  have long : (hexText digits).length = 32 := by rw [hexText, List.length_map, length]
  simp only [uuidOfString, urn, uuid, noBrace, hex, long, ne_eq, not_true_eq_false, if_false,
    intOfHex_hexText nonempty below, value, Int.ofNat_eq_natCast, Int.natCast_nonneg, if_true,
    Int.toNat_natCast]

/-! ## A quoted text is read back -/

/-- The bytes of a percent-encoded text, which is ASCII. -/
def percentDecode : List Char → List UInt8
  | [] => []
  | '%' :: high :: low :: text =>
      match hexValue high, hexValue low with
      | some h, some l => UInt8.ofNat (16 * h + l) :: percentDecode text
      | _, _ => UInt8.ofNat '%'.toNat :: percentDecode (high :: low :: text)
  | c :: text => UInt8.ofNat c.toNat :: percentDecode text

/-- `urllib.parse.unquote(text)` where the bytes are UTF-8. -/
def unquote (text : String) : Option String := Rust.fromUtf8 (percentDecode text.toList)

/-- What `quote` writes for one byte. -/
def quoteByte (b : UInt8) : List Char :=
  if unreserved b then [Char.ofNat b.toNat]
  else ['%', (b.toNat / 16).digitChar.toUpper, (b.toNat % 16).digitChar.toUpper]

theorem toList_quote (text : String) :
    (quote text).toList = (Rust.asBytes text).flatMap quoteByte :=
  String.toList_ofList

theorem upperDigit_spec : ∀ d < 16, hexValue d.digitChar.toUpper = some d ∧
    d.digitChar.toUpper ≠ '&' := by
  decide +kernel

theorem unreserved_spec : ∀ n < 256, unreserved (UInt8.ofNat n) = true →
    Char.ofNat n ≠ '%' ∧ Char.ofNat n ≠ '&' ∧ (Char.ofNat n).toNat = n := by
  decide +kernel

theorem percentDecode_quoteByte (b : UInt8) (text : List Char) :
    percentDecode (quoteByte b ++ text) = b :: percentDecode text := by
  have small : b.toNat < 256 := b.toNat_lt
  unfold quoteByte
  split_ifs with plain
  · rw [← UInt8.ofNat_toNat (x := b)] at plain
    obtain ⟨percent, _, value⟩ := unreserved_spec b.toNat small plain
    have decoded : percentDecode (Char.ofNat b.toNat :: text) =
        UInt8.ofNat (Char.ofNat b.toNat).toNat :: percentDecode text := by
      rw [percentDecode]
      intro high low rest same
      exact absurd same percent
    rw [List.singleton_append, decoded, value, UInt8.ofNat_toNat]
  · have high := (upperDigit_spec (b.toNat / 16) (by omega)).1
    have low := (upperDigit_spec (b.toNat % 16) (by omega)).1
    have whole : 16 * (b.toNat / 16) + b.toNat % 16 = b.toNat := by omega
    simp only [List.cons_append, List.nil_append, percentDecode, high, low, whole,
      UInt8.ofNat_toNat]

/-- `unquote(quote(text))` is `text`. -/
theorem unquote_quote (text : String) : unquote (quote text) = some text := by
  have bytes (bs : List UInt8) : percentDecode (bs.flatMap quoteByte) = bs := by
    induction bs with
    | nil => rfl
    | cons b bs ih => rw [List.flatMap_cons, percentDecode_quoteByte, ih]
  rw [unquote, toList_quote, bytes, Rust.fromUtf8_asBytes]

/-- A quoted text does not end a parameter. -/
theorem ampersand_notMem_quote (text : String) : '&' ∉ (quote text).toList := by
  rw [toList_quote]
  intro member
  obtain ⟨b, _, inByte⟩ := List.mem_flatMap.mp member
  have small : b.toNat < 256 := b.toNat_lt
  unfold quoteByte at inByte
  split_ifs at inByte with plain
  · rw [← UInt8.ofNat_toNat (x := b)] at plain
    exact (unreserved_spec b.toNat small plain).2.1 (List.mem_singleton.mp inByte).symm
  · rcases List.mem_cons.mp inByte with percent | digit
    · cases percent
    · rcases List.mem_cons.mp digit with high | low
      · exact (upperDigit_spec (b.toNat / 16) (by omega)).2 high.symm
      · exact (upperDigit_spec (b.toNat % 16) (by omega)).2 (List.mem_singleton.mp low).symm

end PlgBooster.Python
