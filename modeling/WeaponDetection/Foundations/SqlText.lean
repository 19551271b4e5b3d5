import Mathlib.Data.List.DropRight
import Mathlib.Data.Nat.Basic
import Mathlib.Algebra.Ring.Int.Defs
import Mathlib.Algebra.Ring.Nat
import WeaponDetection.Foundations.Trim

/-!
# Text functions of SQL Server

`REPLACE` with the empty text, `CHARINDEX` of a character, `LEFT`, `SUBSTRING` and `TRY_CAST` to `int`,
on the characters of a text.  Letters are compared as the default collation does, without their case;
this is exact for patterns in ASCII.
-/

namespace WeaponDetection.Foundations.SqlText

/-! ## Functions -/

/-- The default collation takes the two texts for the same. -/
def sameText (a b : List Char) : Bool := a.map Char.toLower == b.map Char.toLower

/-- The text begins with the pattern. -/
def startsWith (pattern text : List Char) : Bool := sameText (text.take pattern.length) pattern

/-- `REPLACE(text, pattern, '')`: leftmost, non-overlapping.  `skip` counts the characters of a match
still to drop. -/
def replaceEmptyFrom (pattern : List Char) : ℕ → List Char → List Char
  | _, [] => []
  | skip + 1, _ :: cs => replaceEmptyFrom pattern skip cs
  | 0, c :: cs =>
    if startsWith pattern (c :: cs) then replaceEmptyFrom pattern (pattern.length - 1) cs
    else c :: replaceEmptyFrom pattern 0 cs

/-- `REPLACE(text, pattern, '')`. -/
def replaceEmpty (text pattern : List Char) : List Char := replaceEmptyFrom pattern 0 text

/-- `CHARINDEX(c, text)`, counted from one; zero where the character does not occur. -/
def charIndex (c : Char) (text : List Char) : ℕ := if c ∈ text then text.idxOf c + 1 else 0

/-- `LEFT(text, length)`. -/
def left (text : List Char) (length : ℕ) : List Char := text.take length

/-- `SUBSTRING(text, start, length)`, `start` counted from one. -/
def substring (text : List Char) (start length : ℕ) : List Char := (text.drop (start - 1)).take length

/-- The number digits write. -/
def digitsValue (digits : List Char) : ℕ := Nat.ofDigitChars 10 digits 0

/-- Digits behind a sign as an `int`; no digits are zero. -/
def castDigits (sign : ℤ) (digits : List Char) : Option ℤ :=
  let value := sign * digitsValue digits
  if digits.all Char.isDigit && -2 ^ 31 ≤ value && value < 2 ^ 31 then some value else none

/-- `TRY_CAST(text AS int)`: an optional sign and digits, between spaces. -/
def tryCastInt (text : List Char) : Option ℤ :=
  match trimList (· = ' ') text with
  | '-' :: digits => castDigits (-1) digits
  | '+' :: digits => castDigits 1 digits
  | digits => castDigits 1 digits

example : replaceEmpty "RTSP://a".toList "rtsp://".toList = "a".toList := by decide

example : tryCastInt " 85 ".toList = some 85 ∧ tryCastInt [] = some 0 := by decide

/-! ## Lower case -/

/-- Lower case changes a character into a letter or not at all. -/
theorem toLower_eq_self_or (c : Char) : c.toLower = c ∨ ('a' ≤ c.toLower ∧ c.toLower ≤ 'z') := by
  by_cases h : 'A'.val ≤ c.val ∧ c.val ≤ 'Z'.val
  · have hval : c.toLower.val = c.val + 32 := by
      have hlower : c.toLower = _ := dif_pos h
      rw [hlower]
      rfl
    have hlow : 65 ≤ c.val.toNat := UInt32.le_iff_toNat_le.1 h.1
    have hhigh : c.val.toNat ≤ 90 := UInt32.le_iff_toNat_le.1 h.2
    have hadd : (c.val + 32).toNat = c.val.toNat + 32 := by
      rw [UInt32.toNat_add]
      exact Nat.mod_eq_of_lt (show c.val.toNat + 32 < 2 ^ 32 by omega)
    refine .inr ⟨UInt32.le_iff_toNat_le.2 ?_, UInt32.le_iff_toNat_le.2 ?_⟩
    · rw [hval, hadd]
      exact Nat.add_le_add_right hlow 32
    · rw [hval, hadd]
      exact Nat.add_le_add_right hhigh 32
  · exact .inl (dif_neg h)

theorem eq_of_toLower_eq {c d : Char} (hd : ¬ ('a' ≤ d ∧ d ≤ 'z')) (h : c.toLower = d) : c = d := by
  rcases toLower_eq_self_or c with hself | hletter
  · rw [← hself, h]
  · exact absurd (h ▸ hletter) hd

/-! ## `REPLACE` -/

section Replace

variable {pattern text start rest : List Char}

theorem startsWith_append (rest : List Char) (h : start.map Char.toLower = pattern.map Char.toLower) :
    startsWith pattern (start ++ rest) = true := by
  have hlength : pattern.length = start.length := by
    simpa using (congrArg List.length h).symm
  simp [startsWith, sameText, hlength, h]

/-- A match cannot begin where the first letters differ. -/
theorem startsWith_of_ne {p c : Char} (h : c.toLower ≠ p.toLower) :
    startsWith (p :: pattern) (c :: rest) = false := by
  simp [startsWith, sameText, h]

theorem replaceEmptyFrom_drop (skip : ℕ) :
    replaceEmptyFrom pattern skip text = replaceEmptyFrom pattern 0 (text.drop skip) := by
  induction skip generalizing text with
  | zero => rfl
  | succ skip ih =>
    cases text with
    | nil => simp [replaceEmptyFrom]
    | cons c cs => rw [replaceEmptyFrom, ih, List.drop_succ_cons]

/-- A match at the start is dropped. -/
theorem replaceEmpty_append (hne : start ≠ []) (h : start.map Char.toLower = pattern.map Char.toLower) :
    replaceEmpty (start ++ rest) pattern = replaceEmpty rest pattern := by
  have hlength : pattern.length = start.length := by
    simpa using (congrArg List.length h).symm
  cases start with
  | nil => exact absurd rfl hne
  | cons c cs =>
    have hstart := startsWith_append rest h
    rw [List.cons_append] at hstart
    rw [replaceEmpty, List.cons_append, replaceEmptyFrom, if_pos hstart, replaceEmptyFrom_drop, hlength,
      List.length_cons, Nat.add_sub_cancel, List.drop_left]
    rfl

theorem replaceEmpty_cons (c : Char) (h : startsWith pattern (c :: rest) = false) :
    replaceEmpty (c :: rest) pattern = c :: replaceEmpty rest pattern := by
  rw [replaceEmpty, replaceEmptyFrom, if_neg (by simp [h])]
  rfl

/-- A text without one of the letters of the pattern is left alone. -/
theorem replaceEmpty_of_not_mem {p : Char} (hp : p ∈ pattern) (h : ∀ c ∈ text, c.toLower ≠ p.toLower) :
    replaceEmpty text pattern = text := by
  induction text with
  | nil => rfl
  | cons c cs ih =>
    have hstart : startsWith pattern (c :: cs) = false := by
      rw [startsWith, sameText, beq_eq_false_iff_ne]
      intro heq
      have hmem : p.toLower ∈ ((c :: cs).take pattern.length).map Char.toLower :=
        heq ▸ List.mem_map_of_mem hp
      obtain ⟨d, hd, hlower⟩ := List.mem_map.1 hmem
      exact h d (List.mem_of_mem_take hd) hlower
    rw [replaceEmpty_cons c hstart, ih fun d hd => h d (List.mem_cons_of_mem c hd)]

end Replace

/-! ## Cutting at a character -/

theorem charIndex_of_not_mem {c : Char} {text : List Char} (h : c ∉ text) : charIndex c text = 0 :=
  if_neg h

theorem charIndex_append {c : Char} {text : List Char} (h : c ∉ text) (rest : List Char) :
    charIndex c (text ++ c :: rest) = text.length + 1 := by
  rw [charIndex, if_pos (by simp), List.idxOf_append_of_notMem h, List.idxOf_cons_self,
    Nat.add_zero]

/-- What `LEFT` and `SUBSTRING` take before and behind the character. -/
theorem left_append {c : Char} (text rest : List Char) :
    left (text ++ c :: rest) (text.length + 1 - 1) = text := by
  simp [left]

theorem substring_append {c : Char} (text rest : List Char) (length : ℕ) :
    substring (text ++ c :: rest) (text.length + 1 + 1) length = rest.take length := by
  have hdrop : (text ++ c :: rest).drop (text.length + 1) = rest := by
    rw [List.append_cons, List.drop_left' (by simp)]
  rw [substring, Nat.add_sub_cancel, hdrop]

/-! ## Digits -/

theorem digitsValue_append (high low : List Char) :
    digitsValue (high ++ low) = digitsValue high * 10 ^ low.length + digitsValue low := by
  rw [digitsValue, digitsValue, digitsValue, Nat.ofDigitChars_append,
    Nat.ofDigitChars_eq_ofDigitChars_zero, Nat.mul_comm]

/-- The number of the first digits is at most that of all of them. -/
theorem digitsValue_take_le (digits : List Char) (n : ℕ) :
    digitsValue (digits.take n) ≤ digitsValue digits := by
  calc digitsValue (digits.take n)
      ≤ digitsValue (digits.take n) * 10 ^ (digits.drop n).length := Nat.le_mul_of_pos_right _ (Nat.pow_pos (by decide))
    _ ≤ digitsValue (digits.take n ++ digits.drop n) := by
      rw [digitsValue_append]
      exact Nat.le_add_right _ _
    _ = digitsValue digits := by rw [List.take_append_drop]

/-- Cutting digits off changes the number unless it is zero. -/
theorem digitsValue_take_eq_iff {digits : List Char} {n : ℕ} :
    digitsValue (digits.take n) = digitsValue digits ↔ digits.length ≤ n ∨ digitsValue digits = 0 := by
  by_cases hlength : digits.length ≤ n
  · simp [List.take_of_length_le hlength, hlength]
  · have hsplit := digitsValue_append (digits.take n) (digits.drop n)
    have hpos : 2 ≤ 10 ^ (digits.drop n).length := by
      have hne : (digits.drop n).length ≠ 0 := by
        rw [List.length_drop]
        omega
      calc 2 ≤ 10 ^ 1 := by decide
        _ ≤ 10 ^ (digits.drop n).length := Nat.pow_le_pow_right (by decide) (by omega)
    have hdouble := Nat.mul_le_mul_left (digitsValue (digits.take n)) hpos
    have hle := digitsValue_take_le digits n
    rw [List.take_append_drop] at hsplit
    constructor
    · intro heq
      exact .inr (by omega)
    · rintro (h | hzero)
      · exact absurd h hlength
      · omega

/-- `TRY_CAST` reads digits. -/
theorem tryCastInt_of_digits {digits : List Char} (h : ∀ c ∈ digits, c.isDigit = true)
    (hlt : digitsValue digits < 2 ^ 31) : tryCastInt digits = some (digitsValue digits : ℤ) := by
  have hplain : ∀ c : Char, c.isDigit = true → c ≠ ' ' ∧ c ≠ '-' ∧ c ≠ '+' := by
    intro c hc
    refine ⟨?_, ?_, ?_⟩ <;> rintro rfl <;> exact absurd hc (by decide)
  have htrim : trimList (· = ' ') digits = digits := by
    refine trimList_eq_self ⟨?_, ?_⟩ <;> intro c hc
    · simpa using (hplain c (h c (List.mem_of_mem_head? hc))).1
    · simpa using (hplain c (h c (List.mem_of_getLast? hc))).1
  have hcast : castDigits 1 digits = some (digitsValue digits : ℤ) := by
    have hlow : (-2 ^ 31 : ℤ) ≤ digitsValue digits := by omega
    have hhigh : (digitsValue digits : ℤ) < 2 ^ 31 := by omega
    simp only [castDigits, one_mul]
    rw [List.all_eq_true.2 h, decide_eq_true hlow, decide_eq_true hhigh]
    rfl
  unfold tryCastInt
  rw [htrim]
  cases digits with
  | nil => exact hcast
  | cons c cs =>
    obtain ⟨-, hminus, hplus⟩ := hplain c (h c List.mem_cons_self)
    split
    · rename_i heq
      exact absurd (List.cons.inj heq).1 hminus
    · rename_i heq
      exact absurd (List.cons.inj heq).1 hplus
    · exact hcast

end WeaponDetection.Foundations.SqlText
