import PlgBooster.Rust.Text

/-!
# Reading and writing a UUID

`uuid.UUID(text)` as the Python library has it: `urn:` and `uuid:` are deleted wherever they
stand, braces are stripped, hyphens are deleted, and the 32 characters that must remain are
read by `int(hex, 16)`, which takes blanks at both ends, a sign, a prefix `0x`, single
underscores between digits, and the decimal digits of every script.
-/

namespace PlgBooster.Python

/-- `text.replace(old, "")` for a nonempty `old`. The count is what is left to delete of the
occurrence at hand. -/
def remove (old : List Char) : Nat → List Char → List Char
  | _, [] => []
  | n + 1, _ :: text => remove old n text
  | 0, c :: text =>
      if old.isPrefixOf (c :: text) then remove old (old.length - 1) text
      else c :: remove old 0 text

/-- The characters of which `str.isspace` is true. -/
def isSpace (c : Char) : Bool := Rust.isWhitespace c || (28 ≤ c.toNat && c.toNat ≤ 31)

/-- Delete characters at both ends. -/
def stripOf (drop : Char → Bool) (text : List Char) : List Char :=
  ((text.dropWhile drop).reverse.dropWhile drop).reverse

/-- `text.strip()`. -/
def strip (text : List Char) : List Char := stripOf isSpace text

def hexValue (c : Char) : Option Nat :=
  let n := c.toNat
  if 48 ≤ n && n ≤ 57 then some (n - 48)
  else if 97 ≤ n && n ≤ 102 then some (n - 87)
  else if 65 ≤ n && n ≤ 70 then some (n - 55)
  else none

/-- Hexadecimal digits, with single underscores between them. -/
def hexDigits (acc : Nat) (afterDigit : Bool) : List Char → Option Nat
  | [] => if afterDigit then some acc else none
  | c :: text =>
      if c = '_' then
        if afterDigit then hexDigits acc false text else none
      else
        match hexValue c with
        | some digit => hexDigits (16 * acc + digit) true text
        | none => none

/-- The digits may come after `0x`, and then after one more underscore. -/
def unsignedHex : List Char → Option Nat
  | '0' :: x :: text =>
      if x = 'x' || x = 'X' then
        match text with
        | '_' :: text => hexDigits 0 false text
        | text => hexDigits 0 false text
      else hexDigits 0 false ('0' :: x :: text)
  | text => hexDigits 0 false text

/-- The zeros of the decimal digits in Unicode 15, each with the other nine behind it. -/
def decimalZeros : List Nat :=
  [0x0030, 0x0660, 0x06F0, 0x07C0, 0x0966, 0x09E6, 0x0A66, 0x0AE6, 0x0B66, 0x0BE6, 0x0C66,
    0x0CE6, 0x0D66, 0x0DE6, 0x0E50, 0x0ED0, 0x0F20, 0x1040, 0x1090, 0x17E0, 0x1810, 0x1946,
    0x19D0, 0x1A80, 0x1A90, 0x1B50, 0x1BB0, 0x1C40, 0x1C50, 0xA620, 0xA8D0, 0xA900, 0xA9D0,
    0xA9F0, 0xAA50, 0xABF0, 0xFF10, 0x104A0, 0x10D30, 0x11066, 0x110F0, 0x11136, 0x111D0,
    0x112F0, 0x11450, 0x114D0, 0x11650, 0x116C0, 0x11730, 0x118E0, 0x11950, 0x11C50, 0x11D50,
    0x11DA0, 0x11F50, 0x16A60, 0x16AC0, 0x16B50, 0x1D7CE, 0x1D7D8, 0x1D7E2, 0x1D7EC, 0x1D7F6,
    0x1E140, 0x1E2F0, 0x1E4F0, 0x1E950, 0x1FBF0]

/-- `unicodedata.decimal(c)`. -/
def decimalValue (c : Char) : Option Nat :=
  (decimalZeros.find? fun first => first ≤ c.toNat && c.toNat ≤ first + 9).map (c.toNat - ·)

/-- The ASCII character that a reader of numbers takes for a character. -/
def toAscii (c : Char) : Char :=
  if c.toNat < 127 then c
  else if isSpace c then ' '
  else
    match decimalValue c with
    | some digit => digit.digitChar
    | none => '?'

/-- `Py_ISSPACE`, the blanks of C. -/
def isCSpace (c : Char) : Bool := c.toNat == 32 || (9 ≤ c.toNat && c.toNat ≤ 13)

/-- `int(text, 16)`. -/
def intOfHex (text : List Char) : Option Int :=
  match stripOf isCSpace (text.map toAscii) with
  | '+' :: text => (unsignedHex text).map Int.ofNat
  | '-' :: text => (unsignedHex text).map fun n => -Int.ofNat n
  | text => (unsignedHex text).map Int.ofNat

/-- `uuid.UUID(text)`; none is a `ValueError`. -/
def uuidOfString (text : List Char) : Option Nat :=
  let hex := remove "uuid:".toList 0 (remove "urn:".toList 0 text)
  let hex := remove ['-'] 0 (stripOf (fun c => c = '\x7b' || c = '\x7d') hex)
  if hex.length ≠ 32 then none
  else
    match intOfHex hex with
    | some n => if 0 ≤ n then some n.toNat else none
    | none => none

/-- `str(id)` of a UUID: its 32 hexadecimal digits in groups of 8, 4, 4, 4 and 12. -/
def strOfUuid (id : Nat) : List Char :=
  let hex := (Nat.toDigits 16 id).leftpad 32 '0'
  hex.take 8 ++ '-' :: (hex.drop 8).take 4 ++ '-' :: (hex.drop 12).take 4 ++
    '-' :: (hex.drop 16).take 4 ++ '-' :: hex.drop 20

/-- A byte that `urllib.parse.quote` keeps. -/
def unreserved (b : UInt8) : Bool :=
  let c := Char.ofNat b.toNat
  b < 128 && (c.isAlphanum || "_.-~/".toList.contains c)

/-- `urllib.parse.quote(text)`: all other bytes as `%` and two hexadecimal digits. -/
def quote (text : String) : String :=
  String.ofList ((Rust.asBytes text).flatMap fun b =>
    if unreserved b then [Char.ofNat b.toNat]
    else ['%', (b.toNat / 16).digitChar.toUpper, (b.toNat % 16).digitChar.toUpper])

end PlgBooster.Python
