import WeaponDetection.Foundations.DotNet

/-!
# `Guid.TryParse`

The five formats `Guid.TryParse` accepts: 32 digits (`N`), groups with hyphens (`D`), the same in
braces (`B`) or parentheses (`P`), and hexadecimal numbers in nested braces (`X`).
-/

namespace WeaponDetection.Foundations.DotNet

/-- The value of a hexadecimal digit. -/
def hexDigit (c : Char) : Option ℕ :=
  if '0' ≤ c ∧ c ≤ '9' then some (c.toNat - 48)
  else if 'a' ≤ c ∧ c ≤ 'f' then some (c.toNat - 87)
  else if 'A' ≤ c ∧ c ≤ 'F' then some (c.toNat - 55)
  else none

/-- The number written by hexadecimal digits. -/
def hexNumber (digits : List Char) : Option ℕ :=
  digits.foldlM (fun value c => (hexDigit c).map (16 * value + ·)) 0

/-- Drop a prefix `0x` or `0X`. -/
def dropHexPrefix : List Char → List Char
  | '0' :: 'x' :: digits | '0' :: 'X' :: digits => digits
  | digits => digits

/-- `TryParseHex`: hexadecimal digits after an optional `+` and an optional `0x`.  No digits are
zero; more than 32 bits are an overflow. -/
def tryParseHex (text : List Char) : Option ℕ :=
  let unsigned := if text.head? = some '+' then text.tail else text
  (hexNumber (dropHexPrefix unsigned)).filter (· < 2 ^ 32)

/-- `TryParseExactN`. -/
def tryParseExactN (text : List Char) : Option (BitVec 128) :=
  if text.length = 32 then (hexNumber text).map (BitVec.ofNat 128) else none

/-- `TryParseExactD`.  All groups but the last eight digits may carry the prefixes of
`TryParseHex`. -/
def tryParseExactD (text : List Char) : Option (BitVec 128) :=
  let group (start length : ℕ) := (text.drop start).take length
  if text.length = 36 ∧ ∀ i ∈ [8, 13, 18, 23], text[i]? = some '-' then do
    let a ← tryParseHex (group 0 8)
    let b ← tryParseHex (group 9 4)
    let c ← tryParseHex (group 14 4)
    let de ← tryParseHex (group 19 4)
    let fg ← tryParseHex (group 24 4)
    let hijk ← hexNumber (group 28 8)
    return .ofNat 128 (((((a * 2 ^ 16 + b) * 2 ^ 16 + c) * 2 ^ 16 + de) * 2 ^ 16 + fg) * 2 ^ 32 + hijk)
  else none

/-- `TryParseExactB` and `TryParseExactP`: format `D` between two delimiters. -/
def tryParseBetween (closing : Char) (text : List Char) : Option (BitVec 128) :=
  if text.length = 38 ∧ text.getLast? = some closing then tryParseExactD (text.tail.take 36) else none

/-- A number of format `X`, from its `0x` to the delimiter after it, and the rest of the text. -/
def takeNumber (delimiter : Char) (text : List Char) : Option (ℕ × List Char) :=
  let digits := (text.drop 2).takeWhile (· ≠ delimiter)
  match text, (text.drop 2).drop digits.length with
  | '0' :: x :: _, _ :: rest =>
    if (x = 'x' ∨ x = 'X') ∧ digits ≠ [] then (tryParseHex digits).map (·, rest) else none
  | _, _ => none

/-- The last eight bytes of format `X`, most significant first. -/
def takeBytes : ℕ → ℕ → List Char → Option (ℕ × List Char)
  | 0, value, text => some (value, text)
  | more + 1, value, text => do
    let (byte, rest) ← takeNumber (if more = 0 then '\x7d' else ',') text
    if byte < 256 then takeBytes more (256 * value + byte) rest else none

/-- `TryParseExactX`: white space may stand anywhere, and the second and third number are cut to
16 bits. -/
def tryParseExactX (text : List Char) : Option (BitVec 128) :=
  match text.filter (!isWhiteSpace ·) with
  | '\x7b' :: rest => do
    let (a, rest) ← takeNumber ',' rest
    let (b, rest) ← takeNumber ',' rest
    let (c, rest) ← takeNumber ',' rest
    if rest.head? = some '\x7b' then
      let (bytes, rest) ← takeBytes 8 0 rest.tail
      if rest = ['\x7d'] then
        some (.ofNat 128 (((a * 2 ^ 16 + b % 2 ^ 16) * 2 ^ 16 + c % 2 ^ 16) * 2 ^ 64 + bytes))
      else none
    else none
  | _ => none

/-- `Guid.TryParse`. -/
def guidTryParse (text : String) : Option (BitVec 128) :=
  let trimmed := (trim text).toList
  if length (trim text) < 32 then none
  else
    match trimmed.head? with
    | some '(' => tryParseBetween ')' trimmed
    | some '\x7b' =>
      if trimmed[9]? = some '-' then tryParseBetween '\x7d' trimmed else tryParseExactX trimmed
    | _ => if trimmed[8]? = some '-' then tryParseExactD trimmed else tryParseExactN trimmed

example : guidTryParse " 00000000-0000-0000-0000-0000000000FF " = some 255 := by decide +kernel

example :
    guidTryParse "\x7b0x0,0x1,0x2,\x7b0x3,0x4,0x5,0x6,0x7,0x8,0x9,0xa\x7d\x7d" =
      some 0x0000000000010002030405060708090a := by
  decide +kernel

end WeaponDetection.Foundations.DotNet
