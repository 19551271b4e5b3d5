import WeaponDetection.Foundations.Bytes

/-!
# UTF-8 in both directions

The strict decoder reads back what the encoder wrote, and accepts nothing else: overlong forms,
surrogates and values past the last code point are no character of `charOfSequence`, so every byte string
that decodes is the encoding of its text.
-/

namespace WeaponDetection.Foundations.Bytes

/-! ## One character -/

theorem isContinuation_iff {b : UInt8} : isContinuation b = true ↔ 0x80 ≤ b.toNat ∧ b.toNat ≤ 0xbf := by
  simp [isContinuation, UInt8.le_iff_toNat_le]

theorem toNat_ofNat {n : ℕ} (h : n.isValidChar) : (Char.ofNat n).toNat = n := by
  rw [Char.ofNat, dif_pos h]
  rfl

/-- A sequence stands for the character of its code point. -/
theorem charOfSequence_eq_some_iff {least first : ℕ} {rest : List UInt8} {c : Char} :
    charOfSequence least first rest = some c ↔
      (∀ b ∈ rest, isContinuation b = true) ∧ least ≤ codePoint first rest ∧
        c.toNat = codePoint first rest := by
  simp only [charOfSequence, Option.ite_none_right_eq_some, Option.some.injEq, List.all_eq_true]
  constructor
  · rintro ⟨⟨hrest, hleast, hvalid⟩, rfl⟩
    exact ⟨hrest, hleast, toNat_ofNat hvalid⟩
  · rintro ⟨hrest, hleast, hc⟩
    rw [← hc]
    exact ⟨⟨hrest, hc ▸ hleast, c.valid⟩, Char.ofNat_toNat c⟩

/-! ## Sequences of two, three and four bytes -/

section Sequences

variable {a b c d : UInt8} (rest : List UInt8)

theorem decodeUtf8_two (hlow : 0xc2 ≤ a.toNat) (hhigh : a.toNat < 0xe0) :
    decodeUtf8 (a :: b :: rest) =
      (charOfSequence 0x80 (a.toNat - 0xc0) [b]).bind fun ch => (decodeUtf8 rest).map (ch :: ·) := by
  rw [decodeUtf8.eq_def]
  simp only [UInt8.lt_iff_toNat_lt, UInt8.reduceToNat]
  rw [if_neg (by omega), if_neg (by omega), if_pos (by omega)]

theorem decodeUtf8_three (hlow : 0xe0 ≤ a.toNat) (hhigh : a.toNat < 0xf0) :
    decodeUtf8 (a :: b :: c :: rest) =
      (charOfSequence 0x800 (a.toNat - 0xe0) [b, c]).bind fun ch => (decodeUtf8 rest).map (ch :: ·) := by
  rw [decodeUtf8.eq_def]
  simp only [UInt8.lt_iff_toNat_lt, UInt8.reduceToNat]
  rw [if_neg (by omega), if_neg (by omega), if_neg (by omega), if_pos (by omega)]

theorem decodeUtf8_four (hlow : 0xf0 ≤ a.toNat) :
    decodeUtf8 (a :: b :: c :: d :: rest) =
      (charOfSequence 0x10000 (a.toNat - 0xf0) [b, c, d]).bind fun ch => (decodeUtf8 rest).map (ch :: ·) := by
  rw [decodeUtf8.eq_def]
  simp only [UInt8.lt_iff_toNat_lt, UInt8.reduceToNat]
  rw [if_neg (by omega), if_neg (by omega), if_neg (by omega), if_neg (by omega)]

end Sequences

/-! ## The encoding of a character decodes to it -/

/-- The encoding of a character, by the size of its code point. -/
theorem utf8EncodeChar_cases (c : Char) :
    (IsAscii c ∧ String.utf8EncodeChar c = [UInt8.ofNat c.toNat]) ∨
    (0x80 ≤ c.toNat ∧ c.toNat < 0x800 ∧ String.utf8EncodeChar c =
      [UInt8.ofNat (c.toNat / 64 + 0xc0), UInt8.ofNat (c.toNat % 64 + 0x80)]) ∨
    (0x800 ≤ c.toNat ∧ c.toNat < 0x10000 ∧ String.utf8EncodeChar c =
      [UInt8.ofNat (c.toNat / 4096 + 0xe0), UInt8.ofNat (c.toNat / 64 % 64 + 0x80),
        UInt8.ofNat (c.toNat % 64 + 0x80)]) ∨
    (0x10000 ≤ c.toNat ∧ c.toNat < 0x110000 ∧ String.utf8EncodeChar c =
      [UInt8.ofNat (c.toNat / 262144 + 0xf0), UInt8.ofNat (c.toNat / 4096 % 64 + 0x80),
        UInt8.ofNat (c.toNat / 64 % 64 + 0x80), UInt8.ofNat (c.toNat % 64 + 0x80)]) := by
  have hvalid : c.toNat < 0x110000 := by
    rcases c.valid with h | h
    · exact Nat.lt_trans h (by decide)
    · exact h.2
  have hval : c.val.toNat = c.toNat := rfl
  unfold String.utf8EncodeChar IsAscii
  simp only [hval]
  -- the encoder reduces the first payload modulo its width, which the size of the code point makes idle
  split_ifs with h1 h2 h3
  · exact .inl ⟨by omega, rfl⟩
  · exact .inr (.inl ⟨by omega, by omega, by rw [Nat.mod_eq_of_lt (by omega)]⟩)
  · exact .inr (.inr (.inl ⟨by omega, by omega, by rw [Nat.mod_eq_of_lt (by omega)]⟩))
  · refine .inr (.inr (.inr ⟨by omega, hvalid, ?_⟩))
    rw [Nat.mod_eq_of_lt (show c.toNat / 262144 < 8 by omega)]

theorem decodeUtf8_utf8EncodeChar_append (c : Char) (rest : List UInt8) :
    decodeUtf8 (String.utf8EncodeChar c ++ rest) = (decodeUtf8 rest).map (c :: ·) := by
  rcases utf8EncodeChar_cases c with ⟨hc, henc⟩ | ⟨hlow, hhigh, henc⟩ | ⟨hlow, hhigh, henc⟩ | ⟨hlow, hhigh, henc⟩
  · have hascii : ∀ d ∈ [c], IsAscii d := by simp [hc]
    have hone := decodeUtf8_encodeUtf8_append hascii rest
    simpa [encodeUtf8] using hone
  · have hchar : charOfSequence 0x80 (c.toNat / 64) [UInt8.ofNat (c.toNat % 64 + 0x80)] = some c := by
      rw [charOfSequence_eq_some_iff]
      simp only [List.mem_singleton, forall_eq, isContinuation_iff, codePoint, List.foldl_cons, List.foldl_nil,
        UInt8.toNat_ofNat']
      omega
    rw [henc, List.cons_append, List.cons_append, List.nil_append,
      decodeUtf8_two rest (by simp; omega) (by simp; omega)]
    simp only [UInt8.toNat_ofNat']
    rw [show (c.toNat / 64 + 0xc0) % 2 ^ 8 - 0xc0 = c.toNat / 64 by omega, hchar, Option.bind_some]
  · have hchar : charOfSequence 0x800 (c.toNat / 4096)
        [UInt8.ofNat (c.toNat / 64 % 64 + 0x80), UInt8.ofNat (c.toNat % 64 + 0x80)] = some c := by
      rw [charOfSequence_eq_some_iff]
      simp only [List.forall_mem_cons, isContinuation_iff, codePoint, List.foldl_cons, List.foldl_nil,
        UInt8.toNat_ofNat']
      refine ⟨⟨by omega, by omega, List.forall_mem_nil _⟩, by omega, by omega⟩
    rw [henc, List.cons_append, List.cons_append, List.cons_append, List.nil_append,
      decodeUtf8_three rest (by simp; omega) (by simp; omega)]
    simp only [UInt8.toNat_ofNat']
    rw [show (c.toNat / 4096 + 0xe0) % 2 ^ 8 - 0xe0 = c.toNat / 4096 by omega, hchar, Option.bind_some]
  · have hchar : charOfSequence 0x10000 (c.toNat / 262144)
        [UInt8.ofNat (c.toNat / 4096 % 64 + 0x80), UInt8.ofNat (c.toNat / 64 % 64 + 0x80),
          UInt8.ofNat (c.toNat % 64 + 0x80)] = some c := by
      rw [charOfSequence_eq_some_iff]
      simp only [List.forall_mem_cons, isContinuation_iff, codePoint, List.foldl_cons, List.foldl_nil,
        UInt8.toNat_ofNat']
      refine ⟨⟨by omega, by omega, by omega, List.forall_mem_nil _⟩, by omega, by omega⟩
    rw [henc, List.cons_append, List.cons_append, List.cons_append, List.cons_append, List.nil_append,
      decodeUtf8_four rest (by simp; omega)]
    simp only [UInt8.toNat_ofNat']
    rw [show (c.toNat / 262144 + 0xf0) % 2 ^ 8 - 0xf0 = c.toNat / 262144 by omega, hchar, Option.bind_some]

/-- **Text decodes to itself, whatever follows it.** -/
theorem decodeUtf8_encode_append (text : List Char) (rest : List UInt8) :
    decodeUtf8 (encodeUtf8 text ++ rest) = (decodeUtf8 rest).map (text ++ ·) := by
  induction text with
  | nil =>
    show decodeUtf8 rest = _
    cases decodeUtf8 rest <;> rfl
  | cons c text ih =>
    have hsplit : encodeUtf8 (c :: text) = String.utf8EncodeChar c ++ encodeUtf8 text := by simp [encodeUtf8]
    rw [hsplit, List.append_assoc, decodeUtf8_utf8EncodeChar_append, ih]
    cases decodeUtf8 rest <;> rfl

theorem decodeUtf8_encodeUtf8 (text : List Char) : decodeUtf8 (encodeUtf8 text) = some text := by
  have hdecode := decodeUtf8_encode_append text []
  simpa [decodeUtf8] using hdecode

/-! ## Nothing else decodes -/

theorem ofNat_eq_of_toNat_eq {n : ℕ} {a : UInt8} (h : n = a.toNat) : UInt8.ofNat n = a := by
  rw [h, UInt8.ofNat_toNat]

theorem utf8EncodeChar_of_two {a b : UInt8} {ch : Char} (hhigh : a.toNat < 0xe0)
    (h : charOfSequence 0x80 (a.toNat - 0xc0) [b] = some ch) (hlow : 0xc2 ≤ a.toNat) :
    String.utf8EncodeChar ch = [a, b] := by
  obtain ⟨hrest, hleast, hch⟩ := charOfSequence_eq_some_iff.1 h
  simp only [List.forall_mem_cons, isContinuation_iff, codePoint, List.foldl_cons, List.foldl_nil] at hrest hleast hch
  rcases utf8EncodeChar_cases ch with ⟨hc, -⟩ | ⟨-, -, henc⟩ | ⟨hlarge, -, -⟩ | ⟨hlarge, -, -⟩
  · unfold IsAscii at hc
    omega
  · rw [henc, ofNat_eq_of_toNat_eq (a := a) (by omega), ofNat_eq_of_toNat_eq (a := b) (by omega)]
  · omega
  · omega

theorem utf8EncodeChar_of_three {a b c : UInt8} {ch : Char} (hhigh : a.toNat < 0xf0)
    (h : charOfSequence 0x800 (a.toNat - 0xe0) [b, c] = some ch) (hlow : 0xe0 ≤ a.toNat) :
    String.utf8EncodeChar ch = [a, b, c] := by
  obtain ⟨hrest, hleast, hch⟩ := charOfSequence_eq_some_iff.1 h
  simp only [List.forall_mem_cons, isContinuation_iff, codePoint, List.foldl_cons, List.foldl_nil] at hrest hleast hch
  obtain ⟨hb, hc, -⟩ := hrest
  rcases utf8EncodeChar_cases ch with ⟨hascii, -⟩ | ⟨-, hsmall, -⟩ | ⟨-, -, henc⟩ | ⟨hlarge, -, -⟩
  · unfold IsAscii at hascii
    omega
  · omega
  · rw [henc, ofNat_eq_of_toNat_eq (a := a) (by omega), ofNat_eq_of_toNat_eq (a := b) (by omega),
      ofNat_eq_of_toNat_eq (a := c) (by omega)]
  · omega

theorem utf8EncodeChar_of_four {a b c d : UInt8} {ch : Char}
    (h : charOfSequence 0x10000 (a.toNat - 0xf0) [b, c, d] = some ch) (hlow : 0xf0 ≤ a.toNat) :
    String.utf8EncodeChar ch = [a, b, c, d] := by
  obtain ⟨hrest, hleast, hch⟩ := charOfSequence_eq_some_iff.1 h
  simp only [List.forall_mem_cons, isContinuation_iff, codePoint, List.foldl_cons, List.foldl_nil] at hrest hleast hch
  obtain ⟨hb, hc, hd, -⟩ := hrest
  rcases utf8EncodeChar_cases ch with ⟨hascii, -⟩ | ⟨-, hsmall, -⟩ | ⟨-, hsmall, -⟩ | ⟨-, -, henc⟩
  · unfold IsAscii at hascii
    omega
  · omega
  · omega
  · rw [henc, ofNat_eq_of_toNat_eq (a := a) (by omega), ofNat_eq_of_toNat_eq (a := b) (by omega),
      ofNat_eq_of_toNat_eq (a := c) (by omega), ofNat_eq_of_toNat_eq (a := d) (by omega)]

/-- A text that starts with a character is encoded by its encoding and the rest's. -/
theorem encodeUtf8_cons (c : Char) (text : List Char) :
    encodeUtf8 (c :: text) = String.utf8EncodeChar c ++ encodeUtf8 text := by
  simp [encodeUtf8]

/-- **Every byte string that decodes is the encoding of its text.** -/
theorem encodeUtf8_of_decodeUtf8 {bytes : List UInt8} {text : List Char} (h : decodeUtf8 bytes = some text) :
    encodeUtf8 text = bytes := by
  -- one case for each branch of the decoder; the refusals have nothing to prove
  induction bytes using decodeUtf8.induct generalizing text with
  | case1 =>
    cases h
    rfl
  | case2 a rest hascii ih =>
    rw [decodeUtf8_cons_ascii hascii] at h
    obtain ⟨tail, htail, rfl⟩ := Option.map_eq_some_iff.1 h
    have hlt : a.toNat < 0x80 := UInt8.lt_iff_toNat_lt.1 hascii
    have hvalid : a.toNat.isValidChar := .inl (by omega)
    rw [encodeUtf8_cons_ascii (by rw [IsAscii, toNat_ofNat hvalid]; exact hlt), ih htail, toNat_ofNat hvalid,
      UInt8.ofNat_toNat]
  | case3 a rest hascii hlow =>
    rw [decodeUtf8.eq_def] at h
    simp [hascii, hlow] at h
  | case4 a hascii hlow => simp [decodeUtf8, hascii, hlow] at h
  | case5 a hascii hlow b rest hhigh ih =>
    simp only [UInt8.lt_iff_toNat_lt, UInt8.reduceToNat, Nat.not_lt] at hascii hlow hhigh
    rw [decodeUtf8_two rest hlow hhigh] at h
    obtain ⟨ch, hch, hrest⟩ := Option.bind_eq_some_iff.1 h
    obtain ⟨tail, htail, rfl⟩ := Option.map_eq_some_iff.1 hrest
    rw [encodeUtf8_cons, ih htail, utf8EncodeChar_of_two hhigh hch hlow]
    rfl
  | case6 a hascii hlow b hhigh => simp [decodeUtf8, hascii, hlow, hhigh] at h
  | case7 a hascii hlow b htwo c rest hhigh ih =>
    simp only [UInt8.lt_iff_toNat_lt, UInt8.reduceToNat, Nat.not_lt] at hascii hlow htwo hhigh
    rw [decodeUtf8_three rest htwo hhigh] at h
    obtain ⟨ch, hch, hrest⟩ := Option.bind_eq_some_iff.1 h
    obtain ⟨tail, htail, rfl⟩ := Option.map_eq_some_iff.1 hrest
    rw [encodeUtf8_cons, ih htail, utf8EncodeChar_of_three hhigh hch htwo]
    rfl
  | case8 a hascii hlow b htwo c hthree => simp [decodeUtf8, hascii, hlow, htwo, hthree] at h
  | case9 a hascii hlow b htwo c hthree d rest ih =>
    simp only [UInt8.lt_iff_toNat_lt, UInt8.reduceToNat, Nat.not_lt] at hascii hlow htwo hthree
    rw [decodeUtf8_four rest hthree] at h
    obtain ⟨ch, hch, hrest⟩ := Option.bind_eq_some_iff.1 h
    obtain ⟨tail, htail, rfl⟩ := Option.map_eq_some_iff.1 hrest
    rw [encodeUtf8_cons, ih htail, utf8EncodeChar_of_four hch hthree]
    rfl

theorem decodeUtf8_eq_some_iff {bytes : List UInt8} {text : List Char} :
    decodeUtf8 bytes = some text ↔ encodeUtf8 text = bytes := by
  constructor
  · exact encodeUtf8_of_decodeUtf8
  · rintro rfl
    exact decodeUtf8_encodeUtf8 text

end WeaponDetection.Foundations.Bytes
