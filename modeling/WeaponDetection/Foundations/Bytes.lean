import WeaponDetection.Foundations.Python

/-!
# Byte strings

`int.to_bytes` and `int.from_bytes` in big-endian order, and `str.encode` and `bytes.decode` for
UTF-8.  Text that stays within ASCII has one byte for each character and decodes to itself.
-/

namespace WeaponDetection.Foundations.Bytes

open WeaponDetection.Foundations.Python (PyError)

/-! ## Integers -/

/-- `n.to_bytes(width, "big")`: raises `OverflowError` when `n` needs more bytes. -/
def toBytes (n width : ℕ) : Except PyError (List UInt8) :=
  if n < 256 ^ width then
    .ok ((List.range width).map fun i => UInt8.ofNat (n / 256 ^ (width - 1 - i)))
  else .error .overflowError

/-- `int.from_bytes(bytes, "big")`. -/
def fromBytes (bytes : List UInt8) : ℕ :=
  bytes.foldl (fun n b => n * 256 + b.toNat) 0

theorem toBytes_one {n : ℕ} (h : n < 256) : toBytes n 1 = .ok [UInt8.ofNat n] := by
  simp [toBytes, h, List.range_succ]

theorem toBytes_four {n : ℕ} (h : n < 256 ^ 4) :
    toBytes n 4 = .ok [UInt8.ofNat (n / 256 ^ 3), UInt8.ofNat (n / 256 ^ 2),
      UInt8.ofNat (n / 256), UInt8.ofNat n] := by
  rw [toBytes, if_pos h]
  simp [List.range_succ]

theorem fromBytes_four (a b c d : UInt8) :
    fromBytes [a, b, c, d] = ((a.toNat * 256 + b.toNat) * 256 + c.toNat) * 256 + d.toNat := by
  simp [fromBytes]

/-- Four bytes read back the number they were written for. -/
theorem fromBytes_toBytes_four {n : ℕ} (h : n < 256 ^ 4) :
    fromBytes [UInt8.ofNat (n / 256 ^ 3), UInt8.ofNat (n / 256 ^ 2), UInt8.ofNat (n / 256),
      UInt8.ofNat n] = n := by
  rw [fromBytes_four]
  simp only [UInt8.toNat_ofNat']
  omega

/-! ## UTF-8 -/

/-- `text.encode("utf-8")`. -/
def encodeUtf8 (text : List Char) : List UInt8 := text.flatMap String.utf8EncodeChar

/-- A byte `10xxxxxx` that continues a character. -/
def isContinuation (b : UInt8) : Bool := 0x80 ≤ b ∧ b ≤ 0xbf

/-- The code point of a sequence: the payload of its first byte, then six bits from each byte that
continues it. -/
def codePoint (first : ℕ) (rest : List UInt8) : ℕ :=
  rest.foldl (fun n b => n * 64 + (b.toNat - 0x80)) first

/-- The character of a sequence of bytes, `none` for an overlong form, a surrogate, or a value past
the last code point. -/
def charOfSequence (least first : ℕ) (rest : List UInt8) : Option Char :=
  let n := codePoint first rest
  if rest.all isContinuation ∧ least ≤ n ∧ n.isValidChar then some (Char.ofNat n) else none

/-- `body.decode("utf-8")`, `none` for `UnicodeDecodeError`. -/
def decodeUtf8 : List UInt8 → Option (List Char)
  | [] => some []
  | a :: rest =>
    if a < 0x80 then (decodeUtf8 rest).map (Char.ofNat a.toNat :: ·)
    else if a < 0xc2 then none
    else
      match rest with
      | [] => none
      | b :: rest =>
        if a < 0xe0 then
          (charOfSequence 0x80 (a.toNat - 0xc0) [b]).bind fun ch =>
            (decodeUtf8 rest).map (ch :: ·)
        else
          match rest with
          | [] => none
          | c :: rest =>
            if a < 0xf0 then
              (charOfSequence 0x800 (a.toNat - 0xe0) [b, c]).bind fun ch =>
                (decodeUtf8 rest).map (ch :: ·)
            else
              match rest with
              | [] => none
              | d :: rest =>
                (charOfSequence 0x10000 (a.toNat - 0xf0) [b, c, d]).bind fun ch =>
                  (decodeUtf8 rest).map (ch :: ·)

example : decodeUtf8 [0x41, 0xc3, 0xa9, 0xe2, 0x82, 0xac, 0xf0, 0x9f, 0x98, 0x80] =
    some ['A', 'é', '€', '😀'] := by decide

/-- A byte below `0x80` is a character of its own. -/
theorem decodeUtf8_cons_ascii {a : UInt8} (h : a < 0x80) (rest : List UInt8) :
    decodeUtf8 (a :: rest) = (decodeUtf8 rest).map (Char.ofNat a.toNat :: ·) := by
  rw [decodeUtf8.eq_def]
  simp only [h, if_true]

/-- A character of one byte. -/
def IsAscii (c : Char) : Prop := c.toNat < 0x80

instance (c : Char) : Decidable (IsAscii c) := inferInstanceAs (Decidable (_ < _))

theorem utf8EncodeChar_ascii {c : Char} (h : IsAscii c) :
    String.utf8EncodeChar c = [UInt8.ofNat c.toNat] := by
  have hsize : c.utf8Size = 1 := by
    rw [Char.utf8Size_eq_one_iff, UInt32.le_iff_toNat_le]
    exact Nat.le_of_lt_succ h
  rw [String.utf8EncodeChar_eq_singleton hsize]
  rfl

theorem encodeUtf8_cons_ascii {c : Char} (h : IsAscii c) (text : List Char) :
    encodeUtf8 (c :: text) = UInt8.ofNat c.toNat :: encodeUtf8 text := by
  simp [encodeUtf8, utf8EncodeChar_ascii h]

/-- ASCII text is encoded as the list of its code points. -/
theorem encodeUtf8_ascii {text : List Char} (h : ∀ c ∈ text, IsAscii c) :
    encodeUtf8 text = text.map fun c => UInt8.ofNat c.toNat := by
  induction text with
  | nil => rfl
  | cons c text ih =>
    rw [encodeUtf8_cons_ascii (h c (by simp)), ih fun x hx => h x (by simp [hx])]
    rfl

/-- ASCII text in front of other bytes decodes to itself. -/
theorem decodeUtf8_encodeUtf8_append {text : List Char} (h : ∀ c ∈ text, IsAscii c)
    (rest : List UInt8) :
    decodeUtf8 (encodeUtf8 text ++ rest) = (decodeUtf8 rest).map (text ++ ·) := by
  induction text with
  | nil =>
    show decodeUtf8 rest = _
    cases decodeUtf8 rest <;> rfl
  | cons c text ih =>
    have hc : IsAscii c := h c (by simp)
    have hnat : (UInt8.ofNat c.toNat).toNat = c.toNat := by
      rw [UInt8.toNat_ofNat']
      exact Nat.mod_eq_of_lt (by unfold IsAscii at hc; omega)
    have hlt : UInt8.ofNat c.toNat < 0x80 := by
      rw [UInt8.lt_iff_toNat_lt, hnat]
      exact hc
    rw [encodeUtf8_cons_ascii hc, List.cons_append, decodeUtf8_cons_ascii hlt,
      ih fun x hx => h x (by simp [hx]), hnat, Char.ofNat_toNat]
    cases decodeUtf8 rest <;> rfl

/-- **ASCII text decodes to itself.** -/
theorem decodeUtf8_encodeUtf8_ascii {text : List Char} (h : ∀ c ∈ text, IsAscii c) :
    decodeUtf8 (encodeUtf8 text) = some text := by
  have hdecode := decodeUtf8_encodeUtf8_append h []
  rw [List.append_nil] at hdecode
  simp [hdecode, decodeUtf8]

end WeaponDetection.Foundations.Bytes
