import Mathlib.Data.List.GetD
import Mathlib.Data.List.Nodup

/-!
# Base 64

Texts of 64 characters for bytes: `Convert.ToBase64String` and `FromBase64String` with the standard alphabet
and padding, and `Base64Url.EncodeToString` without.  Three bytes become four sextets, and one or two bytes at
the end two or three.
-/

namespace WeaponDetection.Foundations.Base64

/-! ## Bytes and sextets -/

/-- The sextets of the bytes. -/
def sextets : List UInt8 → List ℕ
  | [] => []
  | [x] => [x.toNat / 4, x.toNat % 4 * 16]
  | [x, y] => [x.toNat / 4, x.toNat % 4 * 16 + y.toNat / 16, y.toNat % 16 * 4]
  | x :: y :: z :: rest =>
    x.toNat / 4 :: (x.toNat % 4 * 16 + y.toNat / 16) :: (y.toNat % 16 * 4 + z.toNat / 64) :: z.toNat % 64 ::
      sextets rest

/-- The bytes of the sextets; a single one at the end is none. -/
def octets : List ℕ → Option (List UInt8)
  | [] => some []
  | [_] => none
  | [a, b] => some [UInt8.ofNat (a * 4 + b / 16)]
  | [a, b, c] => some [UInt8.ofNat (a * 4 + b / 16), UInt8.ofNat (b * 16 + c / 4)]
  | a :: b :: c :: d :: rest =>
    (octets rest).map fun bytes =>
      UInt8.ofNat (a * 4 + b / 16) :: UInt8.ofNat (b * 16 + c / 4) :: UInt8.ofNat (c * 64 + d) :: bytes

theorem sextets_lt {bytes : List UInt8} : ∀ n ∈ sextets bytes, n < 64 := by
  induction bytes using sextets.induct with
  | case1 => exact fun n hn => absurd hn List.not_mem_nil
  | case2 x =>
    have hx := x.toNat_lt
    intro n hn
    simp only [sextets, List.mem_cons, List.not_mem_nil, or_false] at hn
    omega
  | case3 x y =>
    have hx := x.toNat_lt
    have hy := y.toNat_lt
    intro n hn
    simp only [sextets, List.mem_cons, List.not_mem_nil, or_false] at hn
    omega
  | case4 x y z rest ih =>
    have hx := x.toNat_lt
    have hy := y.toNat_lt
    have hz := z.toNat_lt
    intro n hn
    simp only [sextets, List.mem_cons] at hn
    rcases hn with hn | hn | hn | hn | hn
    · omega
    · omega
    · omega
    · omega
    · exact ih n hn

theorem length_sextets (bytes : List UInt8) : (sextets bytes).length = (bytes.length * 4 + 2) / 3 := by
  induction bytes using sextets.induct with
  | case1 => rfl
  | case2 x => simp [sextets]
  | case3 x y => simp [sextets]
  | case4 x y z rest ih =>
    simp only [sextets, List.length_cons, ih]
    omega

/-- A byte is what its number says, whatever is above it. -/
theorem ofNat_eq {n : ℕ} {x : UInt8} (h : n % 256 = x.toNat) : UInt8.ofNat n = x := by
  apply UInt8.toNat_inj.1
  rw [UInt8.toNat_ofNat', h]

/-- **The sextets give the bytes back.** -/
theorem octets_sextets (bytes : List UInt8) : octets (sextets bytes) = some bytes := by
  induction bytes using sextets.induct with
  | case1 => rfl
  | case2 x =>
    have hx := x.toNat_lt
    simp only [sextets, octets]
    rw [ofNat_eq (x := x) (by omega)]
  | case3 x y =>
    have hx := x.toNat_lt
    have hy := y.toNat_lt
    simp only [sextets, octets]
    rw [ofNat_eq (x := x) (by omega), ofNat_eq (x := y) (by omega)]
  | case4 x y z rest ih =>
    have hx := x.toNat_lt
    have hy := y.toNat_lt
    have hz := z.toNat_lt
    simp only [sextets, octets, ih, Option.map_some]
    rw [ofNat_eq (x := x) (by omega), ofNat_eq (x := y) (by omega), ofNat_eq (x := z) (by omega)]

/-! ## Alphabets -/

/-- 64 different characters. -/
structure Alphabet where
  chars : List Char
  length : chars.length = 64
  nodup : chars.Nodup

variable {a : Alphabet}

/-- The character of a sextet. -/
def Alphabet.char (a : Alphabet) (n : ℕ) : Char := a.chars.getD n '='

/-- The sextet of a character. -/
def Alphabet.value (a : Alphabet) (c : Char) : Option ℕ :=
  if c ∈ a.chars then some (a.chars.idxOf c) else none

theorem Alphabet.char_mem {n : ℕ} (h : n < 64) : a.char n ∈ a.chars := by
  have hlt : n < a.chars.length := by rw [a.length]; exact h
  rw [Alphabet.char, List.getD_eq_getElem _ _ hlt]
  exact List.getElem_mem hlt

theorem Alphabet.value_char {n : ℕ} (h : n < 64) : a.value (a.char n) = some n := by
  have hlt : n < a.chars.length := by rw [a.length]; exact h
  rw [Alphabet.value, if_pos (Alphabet.char_mem h), Alphabet.char, List.getD_eq_getElem _ _ hlt,
    a.nodup.idxOf_getElem n hlt]

theorem mapM_value_char {ns : List ℕ} (h : ∀ n ∈ ns, n < 64) :
    (ns.map a.char).mapM a.value = some ns := by
  induction ns with
  | nil => rfl
  | cons n ns ih =>
    rw [List.map_cons, List.mapM_cons, Alphabet.value_char (h n List.mem_cons_self),
      ih fun m hm => h m (List.mem_cons_of_mem _ hm)]
    rfl

/-- The text of the bytes, without padding. -/
def encode (a : Alphabet) (bytes : List UInt8) : List Char := (sextets bytes).map a.char

/-- The bytes of a text without padding. -/
def decode (a : Alphabet) (text : List Char) : Option (List UInt8) := (text.mapM a.value).bind octets

theorem decode_encode (bytes : List UInt8) : decode a (encode a bytes) = some bytes := by
  rw [decode, encode, mapM_value_char sextets_lt, Option.bind_some, octets_sextets]

theorem mem_chars_of_mem_encode {bytes : List UInt8} {c : Char} (h : c ∈ encode a bytes) : c ∈ a.chars := by
  obtain ⟨n, hn, rfl⟩ := List.mem_map.1 h
  exact Alphabet.char_mem (sextets_lt n hn)

@[simp] theorem length_encode (bytes : List UInt8) : (encode a bytes).length = (bytes.length * 4 + 2) / 3 := by
  rw [encode, List.length_map, length_sextets]

/-! ## Alphabets of letters and digits -/

/-- The letters and digits, in the order of both alphabets. -/
def alphanumericChars : List Char :=
  ['A', 'B', 'C', 'D', 'E', 'F', 'G', 'H', 'I', 'J', 'K', 'L', 'M', 'N', 'O', 'P', 'Q', 'R', 'S', 'T', 'U', 'V', 'W', 'X',
    'Y', 'Z', 'a', 'b', 'c', 'd', 'e', 'f', 'g', 'h', 'i', 'j', 'k', 'l', 'm', 'n', 'o', 'p', 'q', 'r', 's', 't', 'u',
    'v', 'w', 'x', 'y', 'z', '0', '1', '2', '3', '4', '5', '6', '7', '8', '9']

theorem map_toNat_alphanumericChars : alphanumericChars.map Char.toNat =
    List.range' 65 26 ++ (List.range' 97 26 ++ List.range' 48 10) := rfl

theorem nodup_alphanumericChars : alphanumericChars.Nodup := by
  refine List.Nodup.of_map Char.toNat ?_
  rw [map_toNat_alphanumericChars]
  refine List.nodup_append.2 ⟨List.nodup_range', List.nodup_append.2 ⟨List.nodup_range', List.nodup_range', ?_⟩, ?_⟩
  · intro a ha b hb
    rw [List.mem_range'_1] at ha hb
    omega
  · intro a ha b hb
    rw [List.mem_append, List.mem_range'_1, List.mem_range'_1] at hb
    rw [List.mem_range'_1] at ha
    omega

/-- Two more characters make an alphabet of them. -/
theorem nodup_append_pair {c d : Char} (hne : c ≠ d) (hc : c ∉ alphanumericChars) (hd : d ∉ alphanumericChars) :
    (alphanumericChars ++ [c, d]).Nodup := by
  refine List.nodup_append.2 ⟨nodup_alphanumericChars, by simp [hne], fun a ha b hb heq => ?_⟩
  subst heq
  rcases List.mem_pair.1 hb with rfl | rfl
  · exact hc ha
  · exact hd ha

/-! ## `Base64Url` -/

/-- The alphabet of texts that may stand in a URL. -/
def urlChars : List Char := alphanumericChars ++ ['-', '_']

theorem length_urlChars : urlChars.length = 64 := rfl

theorem nodup_urlChars : urlChars.Nodup :=
  nodup_append_pair (by decide) (by decide) (by decide)

/-- The alphabet of `Base64Url`. -/
def url : Alphabet := ⟨urlChars, length_urlChars, nodup_urlChars⟩

/-- `Base64Url.EncodeToString`. -/
def encodeToString (bytes : List UInt8) : String := String.ofList (encode url bytes)

/-! ## `Convert` -/

/-- The alphabet of `Convert`. -/
def standardChars : List Char := alphanumericChars ++ ['+', '/']

theorem length_standardChars : standardChars.length = 64 := rfl

theorem nodup_standardChars : standardChars.Nodup :=
  nodup_append_pair (by decide) (by decide) (by decide)

/-- The alphabet of `Convert`. -/
def standard : Alphabet := ⟨standardChars, length_standardChars, nodup_standardChars⟩

/-- The characters that fill the last four. -/
def padding (bytes : List UInt8) : List Char := List.replicate ((3 - bytes.length % 3) % 3) '='

/-- `Convert.ToBase64String`. -/
def toBase64String (bytes : List UInt8) : String := String.ofList (encode standard bytes ++ padding bytes)

/-- The characters `FromBase64String` skips. -/
def isSpace (c : Char) : Bool := c = ' ' || c = '\t' || c = '\n' || c = '\r'

/-- Without one or two padding characters at the end. -/
def unpad (text : List Char) : List Char :=
  match text.reverse with
  | '=' :: '=' :: rest => rest.reverse
  | '=' :: rest => rest.reverse
  | _ => text

/-- `Convert.FromBase64String`, `none` for a `FormatException`. -/
def fromBase64String (text : String) : Option (List UInt8) :=
  let chars := text.toList.filter fun c => !isSpace c
  if chars.length % 4 = 0 then decode standard (unpad chars) else none

/-- No character of the alphabet is skipped or fills. -/
theorem standardChars_plain : (standardChars.all fun c => !isSpace c && c ≠ '=') = true := rfl

theorem plain_of_mem_encode {bytes : List UInt8} {c : Char} (h : c ∈ encode standard bytes) :
    isSpace c = false ∧ c ≠ '=' := by
  have hplain := List.all_eq_true.1 standardChars_plain c (mem_chars_of_mem_encode h)
  simpa using hplain

/-- Padding goes where no character of the text is one. -/
theorem unpad_append {text : List Char} (h : ∀ c ∈ text, c ≠ '=') {n : ℕ} (hn : n ≤ 2) :
    unpad (text ++ List.replicate n '=') = text := by
  have hreverse : text.reverse.head? ≠ some '=' := by
    intro heq
    exact h '=' (List.mem_reverse.1 (List.mem_of_head? heq)) rfl
  unfold unpad
  rw [List.reverse_append, List.reverse_replicate]
  obtain rfl | rfl | rfl : n = 0 ∨ n = 1 ∨ n = 2 := by omega
  · rw [List.replicate_zero, List.nil_append, List.append_nil]
    cases hchars : text.reverse with
    | nil => rfl
    | cons c rest =>
      have hc : c ≠ '=' := by
        intro heq
        rw [hchars, heq] at hreverse
        exact hreverse rfl
      split
      · rename_i heq
        exact absurd (List.cons.inj heq).1 hc
      · rename_i heq
        exact absurd (List.cons.inj heq).1 hc
      · rfl
  · cases hchars : text.reverse with
    | nil =>
      rw [List.reverse_eq_nil_iff.1 hchars]
      rfl
    | cons c rest =>
      have hc : c ≠ '=' := by
        intro heq
        rw [hchars, heq] at hreverse
        exact hreverse rfl
      split
      · rename_i heq
        exact absurd (List.cons.inj (List.cons.inj heq).2).1 hc
      · rename_i heq
        rw [← (List.cons.inj heq).2]
        change (c :: rest).reverse = text
        rw [← hchars, List.reverse_reverse]
      · rename_i _ hone
        exact absurd rfl (hone _)
  · change (text.reverse).reverse = text
    exact List.reverse_reverse text

/-- **What `Convert` writes it reads back.** -/
theorem fromBase64String_toBase64String (bytes : List UInt8) :
    fromBase64String (toBase64String bytes) = some bytes := by
  have hkept : (encode standard bytes ++ padding bytes).filter (fun c => !isSpace c) =
      encode standard bytes ++ padding bytes := by
    refine List.filter_eq_self.2 fun c hc => ?_
    rcases List.mem_append.1 hc with hc | hc
    · rw [(plain_of_mem_encode hc).1]
      rfl
    · rw [List.eq_of_mem_replicate hc]
      decide
  have hlength : (encode standard bytes ++ padding bytes).length % 4 = 0 := by
    rw [List.length_append, length_encode, padding, List.length_replicate]
    have hrest : bytes.length % 3 = 0 ∨ bytes.length % 3 = 1 ∨ bytes.length % 3 = 2 := by omega
    rcases hrest with hrest | hrest | hrest
    · rw [hrest]
      omega
    · rw [hrest]
      omega
    · rw [hrest]
      omega
  unfold fromBase64String toBase64String
  rw [String.toList_ofList, hkept]
  simp only [hlength, if_true]
  rw [padding, unpad_append (fun c hc => (plain_of_mem_encode hc).2) (by omega), decode_encode]

theorem mem_of_mem_unpad {text : List Char} {c : Char} (h : c ∈ unpad text) : c ∈ text := by
  unfold unpad at h
  split at h
  · rename_i rest hreverse
    rw [← List.mem_reverse, hreverse]
    exact List.mem_cons_of_mem _ (List.mem_cons_of_mem _ (List.mem_reverse.1 h))
  · rename_i rest _ hreverse
    rw [← List.mem_reverse, hreverse]
    exact List.mem_cons_of_mem _ (List.mem_reverse.1 h)
  · exact h

/-- A text of some bytes has a character of the alphabet. -/
theorem exists_mem_of_fromBase64String {text : String} {bytes : List UInt8} (h : fromBase64String text = some bytes)
    (hne : bytes ≠ []) : ∃ c ∈ text.toList, c ∈ standardChars := by
  unfold fromBase64String at h
  simp only at h
  split at h
  · cases hchars : unpad (text.toList.filter fun c => !isSpace c) with
    | nil =>
      rw [hchars] at h
      exact absurd (Option.some.inj h).symm hne
    | cons c rest =>
      have hmem : c ∈ text.toList.filter fun c => !isSpace c := mem_of_mem_unpad (hchars ▸ List.mem_cons_self)
      refine ⟨c, List.mem_of_mem_filter hmem, ?_⟩
      by_contra hnot
      have hvalue : standard.value c = none := if_neg hnot
      rw [hchars, decode, List.mapM_cons, hvalue] at h
      cases h
  · cases h

end WeaponDetection.Foundations.Base64
