import PlgBooster.Library.Decimal

/-!
# Text of the Rust standard library

Strings are Lean's `String`, which like Rust's `str` is a sequence of Unicode
scalar values with a UTF-8 encoding. This file has the operations the client
and the relay apply to text: the two directions of the UTF-8 encoding,
`str::split_once`, `str::splitn(2, _)`, `str::trim`, and `from_str` of the
unsigned integer types with its error messages.
-/

namespace Rust

/-- `str::as_bytes`. -/
def asBytes (text : String) : List UInt8 := text.toByteArray.data.toList

/-- `std::str::from_utf8(..).ok()`. -/
def fromUtf8 (bytes : List UInt8) : Option String := String.fromUTF8? ⟨bytes.toArray⟩

@[simp] theorem fromUtf8_asBytes (text : String) : fromUtf8 (asBytes text) = some text := by
  have valid : String.fromUTF8? text.toByteArray = some text := by
    rw [String.fromUTF8?, dif_pos text.isValidUTF8]
    rfl
  simpa [fromUtf8, asBytes] using valid

theorem size_utf8Encode_le (text : List Char) : text.utf8Encode.size ≤ 4 * text.length := by
  induction text with
  | nil => simp
  | cons c text ih =>
      have one : [c].utf8Encode.size ≤ 4 := by
        rw [List.utf8Encode_singleton]
        simpa using c.utf8Size_le_four
      rw [List.utf8Encode_cons, ByteArray.size_append, List.length_cons]
      omega

theorem length_asBytes_le (text : String) : (asBytes text).length ≤ 4 * text.toList.length := by
  have bound := size_utf8Encode_le text.toList
  rwa [← String.toByteArray_ofList, String.ofList_toList] at bound

/-- `str::split_once(sep)` on the characters of a string. -/
def splitOnce (sep : Char) : List Char → Option (List Char × List Char)
  | [] => none
  | c :: text =>
      if c = sep then some ([], text)
      else (splitOnce sep text).map fun parts => (c :: parts.1, parts.2)

/-- `str::splitn(2, sep)`: one part when the separator does not occur. -/
def splitn2 (sep : Char) (text : List Char) : List (List Char) :=
  match splitOnce sep text with
  | some (front, back) => [front, back]
  | none => [text]

theorem splitOnce_append {sep : Char} {front : List Char} (absent : sep ∉ front)
    (back : List Char) : splitOnce sep (front ++ sep :: back) = some (front, back) := by
  induction front with
  | nil => simp [splitOnce]
  | cons c front ih =>
      simp only [List.mem_cons, not_or] at absent
      rw [List.cons_append, splitOnce, if_neg (Ne.symm absent.1), ih absent.2]
      rfl

/-- The text is cut at its first separator. -/
theorem splitOnce_eq_some_iff {sep : Char} {text front back : List Char} :
    splitOnce sep text = some (front, back) ↔ sep ∉ front ∧ text = front ++ sep :: back := by
  constructor
  · intro split
    induction text generalizing front with
    | nil => simp [splitOnce] at split
    | cons c text ih =>
        rw [splitOnce] at split
        by_cases here : c = sep
        · rw [if_pos here] at split
          obtain ⟨rfl, rfl⟩ : [] = front ∧ text = back := by simpa using split
          exact ⟨List.not_mem_nil, by rw [here, List.nil_append]⟩
        · rw [if_neg here] at split
          obtain ⟨parts, rest, same⟩ := Option.map_eq_some_iff.mp split
          obtain ⟨rfl, rfl⟩ := Prod.mk.inj same
          obtain ⟨absent, whole⟩ := ih rest
          rw [List.mem_cons, not_or]
          exact ⟨⟨Ne.symm here, absent⟩, by rw [whole, List.cons_append]⟩
  · rintro ⟨absent, rfl⟩
    exact splitOnce_append absent back

theorem notMem_of_splitOnce {sep : Char} {text front back : List Char}
    (split : splitOnce sep text = some (front, back)) : sep ∉ front :=
  (splitOnce_eq_some_iff.mp split).1

/-- The parts and the separator are the text. -/
theorem eq_of_splitOnce {sep : Char} {text front back : List Char}
    (split : splitOnce sep text = some (front, back)) : text = front ++ sep :: back :=
  (splitOnce_eq_some_iff.mp split).2

theorem mem_of_splitOnce {sep : Char} {text front back : List Char}
    (split : splitOnce sep text = some (front, back)) : sep ∈ text := by
  rw [eq_of_splitOnce split]
  simp

/-- The characters with the Unicode property `White_Space`, which `str::trim` removes. -/
def isWhitespace (c : Char) : Bool :=
  let n := c.toNat
  (9 ≤ n && n ≤ 13) || n == 0x20 || n == 0x85 || n == 0xA0 || n == 0x1680 ||
    (0x2000 ≤ n && n ≤ 0x200A) || n == 0x2028 || n == 0x2029 || n == 0x202F ||
    n == 0x205F || n == 0x3000

/-- `str::trim`. -/
def trim (text : List Char) : List Char :=
  ((text.dropWhile isWhitespace).reverse.dropWhile isWhitespace).reverse

/-- The reasons for which `from_str` of an unsigned integer type fails. -/
inductive IntErrorKind where
  | empty
  | invalidDigit
  | posOverflow
  deriving DecidableEq, Repr

/-- `impl Display for ParseIntError`. -/
def IntErrorKind.message : IntErrorKind → String
  | .empty => "cannot parse integer from empty string"
  | .invalidDigit => "invalid digit found in string"
  | .posOverflow => "number too large to fit in target type"

/-- The digit loop of `from_str_radix(_, 10)` for a type with largest value `max`. -/
def parseDigits (max : Nat) : Nat → List Char → Except IntErrorKind Nat
  | value, [] => .ok value
  | value, c :: text =>
      if c.isDigit then
        if 10 * value + (c.toNat - '0'.toNat) ≤ max then
          parseDigits max (10 * value + (c.toNat - '0'.toNat)) text
        else .error .posOverflow
      else .error .invalidDigit

/-- `from_str` of an unsigned type: a single `+` may precede the digits, a sign
alone is refused, and `-` is never a digit of an unsigned type. -/
def parseUnsigned (max : Nat) : List Char → Except IntErrorKind Nat
  | [] => .error .empty
  | ['+'] => .error .invalidDigit
  | ['-'] => .error .invalidDigit
  | '+' :: text => parseDigits max 0 text
  | text => parseDigits max 0 text

/-- `u16::from_str`. -/
def parseU16 (text : List Char) : Except IntErrorKind UInt16 :=
  (parseUnsigned 65535 text).map UInt16.ofNat

/-- `u32::from_str`. -/
def parseU32 (text : List Char) : Except IntErrorKind UInt32 :=
  (parseUnsigned 4294967295 text).map UInt32.ofNat

/-- The value read so far only grows, so no prefix overflows when the whole does not. -/
theorem parseDigits_of_le {max : Nat} {text : List Char} (digits : ∀ c ∈ text, c.isDigit)
    {value : Nat} (fits : Nat.ofDigitChars 10 text value ≤ max) :
    parseDigits max value text = .ok (Nat.ofDigitChars 10 text value) := by
  induction text generalizing value with
  | nil => rfl
  | cons c text ih =>
      rw [Nat.ofDigitChars_cons] at fits ⊢
      have grows : 10 * value + (c.toNat - '0'.toNat) ≤ max := by
        rw [Nat.ofDigitChars_eq_ofDigitChars_zero] at fits
        exact Nat.le_trans (Nat.le_mul_of_pos_left _ (Nat.pow_pos (by decide)))
          (Nat.le_trans (Nat.le_add_right _ _) fits)
      rw [parseDigits, if_pos (digits c (by simp)), if_pos grows]
      exact ih (fun d member => digits d (by simp [member])) fits

/-- A printed number is read back. -/
theorem parseUnsigned_toDigits {max n : Nat} (fits : n ≤ max) :
    parseUnsigned max (Nat.toDigits 10 n) = .ok n := by
  have canonical := Decimal.canonical_toDigits n
  have parsed : parseDigits max 0 (Nat.toDigits 10 n) = .ok n := by
    rw [parseDigits_of_le canonical.digits (by simpa using fits), Nat.ofDigitChars_ten_toDigits]
  have plus : ∀ text, Nat.toDigits 10 n ≠ '+' :: text := by
    intro text same
    have := canonical.digits '+' (by simp [same])
    simp at this
  have minus : Nat.toDigits 10 n ≠ ['-'] := by
    intro same
    have := canonical.digits '-' (by simp [same])
    simp at this
  unfold parseUnsigned
  split
  · exact absurd ‹_› canonical.nonempty
  · exact absurd ‹_› (plus [])
  · exact absurd ‹_› minus
  · exact absurd ‹_› (plus _)
  · exact parsed

theorem isDigit_of_parseDigits {max value n : Nat} {text : List Char}
    (ok : parseDigits max value text = .ok n) : ∀ c ∈ text, c.isDigit := by
  induction text generalizing value with
  | nil => exact fun _ member => nomatch member
  | cons c text ih =>
      rw [parseDigits] at ok
      split_ifs at ok with digit fits
      exact List.forall_mem_cons.mpr ⟨digit, ih ok⟩

/-- A number is read from digits, which a plus sign may precede. -/
theorem notMem_of_parseUnsigned {max n : Nat} {text : List Char}
    (ok : parseUnsigned max text = .ok n) {c : Char} (notDigit : c.isDigit = false)
    (notPlus : c ≠ '+') : c ∉ text := by
  have absent {digits : List Char} (ok : parseDigits max 0 digits = .ok n) : c ∉ digits := by
    intro member
    have := isDigit_of_parseDigits ok c member
    rw [notDigit] at this
    cases this
  unfold parseUnsigned at ok
  split at ok
  · cases ok
  · cases ok
  · cases ok
  · intro member
    rcases List.mem_cons.mp member with same | later
    · exact notPlus same
    · exact absent ok later
  · exact absent ok

theorem isWhitespace_of_isDigit {c : Char} (digit : c.isDigit) : isWhitespace c = false := by
  have range : 48 ≤ c.toNat ∧ c.toNat ≤ 57 := by
    simpa [Char.isDigit, UInt32.le_iff_toNat_le] using digit
  generalize read : c.toNat = n at range
  simp only [isWhitespace, read, Bool.or_eq_false_iff, Bool.and_eq_false_iff,
    decide_eq_false_iff_not, beq_eq_false_iff_ne]
  omega

theorem isWhitespace_of_parseUnsigned {max n : Nat} {text : List Char}
    (ok : parseUnsigned max text = .ok n) : ∀ c ∈ text, isWhitespace c = false := by
  intro c member
  cases digit : c.isDigit with
  | true => exact isWhitespace_of_isDigit digit
  | false =>
      by_cases plus : c = '+'
      · subst plus
        decide
      · exact absurd member (notMem_of_parseUnsigned ok digit plus)

/-- Nothing is trimmed from a text without blanks. -/
theorem trim_eq_self {text : List Char} (solid : ∀ c ∈ text, isWhitespace c = false) :
    trim text = text := by
  have keeps {text : List Char} (solid : ∀ c ∈ text, isWhitespace c = false) :
      text.dropWhile isWhitespace = text := by
    cases text with
    | nil => rfl
    | cons c text =>
        rw [List.dropWhile_cons_of_neg]
        rw [solid c List.mem_cons_self]
        exact Bool.false_ne_true
  rw [trim, keeps solid, keeps fun c member => solid c (List.mem_reverse.mp member),
    List.reverse_reverse]

theorem parseU16_eq_ok {text : List Char} {port : UInt16} (ok : parseU16 text = .ok port) :
    ∃ n, parseUnsigned 65535 text = .ok n := by
  cases read : parseUnsigned 65535 text with
  | error e => simp [parseU16, read, Except.map] at ok
  | ok n => exact ⟨n, rfl⟩

theorem parseU32_eq_ok {text : List Char} {value : UInt32} (ok : parseU32 text = .ok value) :
    ∃ n, parseUnsigned 4294967295 text = .ok n := by
  cases read : parseUnsigned 4294967295 text with
  | error e => simp [parseU32, read, Except.map] at ok
  | ok n => exact ⟨n, rfl⟩

theorem parseU16_display (n : UInt16) : parseU16 (Nat.toDigits 10 n.toNat) = .ok n := by
  have : n.toNat ≤ 65535 := by have := n.toNat_lt; omega
  rw [parseU16, parseUnsigned_toDigits this]
  simp [Except.map]

end Rust
