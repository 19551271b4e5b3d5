import WeaponDetection.Foundations.GuidText
import WeaponDetection.Foundations.Trim
import WeaponDetection.Foundations.UuidText

/-!
# `Guid.TryParse` reads what `str(uuid)` and `Guid.ToString()` write

Both write lower-case digits in groups of 8, 4, 4, 4 and 12, and the text is read back as the same identifier.
-/

namespace WeaponDetection.Foundations.DotNet

open WeaponDetection.Foundations.Python

/-! ## Digits -/

theorem hexDigit_hexChar : ∀ d < 16, hexDigit (hexChar d) = some d := by decide

/-- Digits from a position on are the last ones of a quotient. -/
theorem hexDigitsFrom_eq (v lo n : ℕ) : hexDigitsFrom v (lo + n - 1) n = hexDigitsFrom (v / 16 ^ lo) (n - 1) n := by
  refine List.map_congr_left fun i hi => ?_
  have hlt : i < n := List.mem_range.1 hi
  have hposition : lo + n - 1 - i = lo + (n - 1 - i) := by omega
  rw [hposition, pow_add, Nat.div_div_eq_div_mul]

theorem foldlM_hexDigitsFrom (v n acc : ℕ) :
    (hexDigitsFrom v (n - 1) n).foldlM (fun value c => (hexDigit c).map (16 * value + ·)) acc =
      some (acc * 16 ^ n + v % 16 ^ n) := by
  induction n generalizing acc with
  | zero => simp [hexDigitsFrom, Nat.mod_one]
  | succ n ih =>
    have hdigit : v / 16 ^ n % 16 < 16 := Nat.mod_lt _ (by decide)
    have hsplit : v % 16 ^ (n + 1) = v % 16 ^ n + 16 ^ n * (v / 16 ^ n % 16) := by
      rw [pow_succ, Nat.mod_mul]
    rw [Nat.add_sub_cancel, hexDigitsFrom_succ, List.foldlM_cons, hexDigit_hexChar _ hdigit, Option.map_some,
      Option.bind_eq_bind, Option.bind_some, ih, hsplit, pow_succ]
    congr 1
    ring

/-- The number of a group of digits. -/
theorem hexNumber_hexDigitsFrom (v lo n : ℕ) :
    hexNumber (hexDigitsFrom v (lo + n - 1) n) = some (v / 16 ^ lo % 16 ^ n) := by
  rw [hexNumber, hexDigitsFrom_eq, foldlM_hexDigitsFrom, zero_mul, zero_add]

/-- A group of digits has neither a sign nor a prefix. -/
theorem tryParseHex_hexDigitsFrom (v lo : ℕ) {n : ℕ} (hn : n ≤ 8) :
    tryParseHex (hexDigitsFrom v (lo + n - 1) n) = some (v / 16 ^ lo % 16 ^ n) := by
  have hplain : ∀ c ∈ hexDigitsFrom v (lo + n - 1) n, c ≠ '+' ∧ c ≠ 'x' ∧ c ≠ 'X' := by
    intro c hc
    have hchar := (isHexChar_of_mem hc).plain.2.2
    simp only [List.mem_cons, not_or] at hchar
    exact ⟨hchar.2.2.2.1, hchar.2.1, hchar.2.2.1⟩
  have hsign : (hexDigitsFrom v (lo + n - 1) n).head? ≠ some '+' :=
    fun hhead => (hplain _ (List.mem_of_head? hhead)).1 rfl
  have hprefix : dropHexPrefix (hexDigitsFrom v (lo + n - 1) n) = hexDigitsFrom v (lo + n - 1) n := by
    unfold dropHexPrefix
    split
    · next heq => exact absurd rfl (hplain 'x' (by rw [heq]; simp)).2.1
    · next heq => exact absurd rfl (hplain 'X' (by rw [heq]; simp)).2.2
    · rfl
  have hsmall : v / 16 ^ lo % 16 ^ n < 2 ^ 32 := by
    have hpow : 16 ^ n ≤ 16 ^ 8 := Nat.pow_le_pow_right (by decide) hn
    have hmod := Nat.mod_lt (v / 16 ^ lo) (show 0 < 16 ^ n by positivity)
    omega
  unfold tryParseHex
  simp only [hsign, if_false, hprefix, hexNumber_hexDigitsFrom]
  exact Option.filter_eq_some_iff.2 ⟨rfl, decide_eq_true hsmall⟩

/-! ## Groups -/

theorem group_eq {α : Type} {before group after : List α} {start length : ℕ} (hstart : before.length = start)
    (hlength : group.length = length) : ((before ++ (group ++ after)).drop start).take length = group := by
  rw [← hstart, List.drop_left, ← hlength, List.take_left]

theorem getElem?_eq {α : Type} {before after : List α} {a : α} {i : ℕ} (hi : before.length = i) :
    (before ++ a :: after)[i]? = some a := by
  rw [← hi, List.getElem?_append_right (Nat.le_refl _), Nat.sub_self]
  rfl

/-- The groups are the digits of the number. -/
theorem number_of_groups {v : ℕ} (h : v < 2 ^ 128) :
    ((((v / 16 ^ 24 % 16 ^ 8 * 2 ^ 16 + v / 16 ^ 20 % 16 ^ 4) * 2 ^ 16 + v / 16 ^ 16 % 16 ^ 4) * 2 ^ 16 +
      v / 16 ^ 12 % 16 ^ 4) * 2 ^ 16 + v / 16 ^ 8 % 16 ^ 4) * 2 ^ 32 + v / 16 ^ 0 % 16 ^ 8 = v := by
  norm_num at h ⊢
  omega

/-- The text of six groups. -/
def dashed (a b c d e f : List Char) : List Char := a ++ '-' :: (b ++ '-' :: (c ++ '-' :: (d ++ '-' :: (e ++ f))))

theorem tryParseExactD_dashed {a b c d e f : List Char} (ha : a.length = 8) (hb : b.length = 4) (hc : c.length = 4)
    (hd : d.length = 4) (he : e.length = 4) (hf : f.length = 8) :
    tryParseExactD (dashed a b c d e f) = do
      let a ← tryParseHex a
      let b ← tryParseHex b
      let c ← tryParseHex c
      let de ← tryParseHex d
      let fg ← tryParseHex e
      let hijk ← hexNumber f
      return .ofNat 128 (((((a * 2 ^ 16 + b) * 2 ^ 16 + c) * 2 ^ 16 + de) * 2 ^ 16 + fg) * 2 ^ 32 + hijk) := by
  have hlength : (dashed a b c d e f).length = 36 := by
    simp [dashed, ha, hb, hc, hd, he, hf]
  have hdashes : ∀ i ∈ [8, 13, 18, 23], (dashed a b c d e f)[i]? = some '-' := by
    intro i hi
    simp only [List.mem_cons, List.not_mem_nil, or_false] at hi
    rcases hi with rfl | rfl | rfl | rfl
    · exact getElem?_eq ha
    · have hsplit : dashed a b c d e f = (a ++ '-' :: b) ++ '-' :: (c ++ '-' :: (d ++ '-' :: (e ++ f))) := by
        simp [dashed]
      rw [hsplit]
      exact getElem?_eq (by simp [ha, hb])
    · have hsplit : dashed a b c d e f = (a ++ '-' :: (b ++ '-' :: c)) ++ '-' :: (d ++ '-' :: (e ++ f)) := by
        simp [dashed]
      rw [hsplit]
      exact getElem?_eq (by simp [ha, hb, hc])
    · have hsplit : dashed a b c d e f = (a ++ '-' :: (b ++ '-' :: (c ++ '-' :: d))) ++ '-' :: (e ++ f) := by
        simp [dashed]
      rw [hsplit]
      exact getElem?_eq (by simp [ha, hb, hc, hd])
  have h0 : ((dashed a b c d e f).drop 0).take 8 = a := by
    rw [List.drop_zero, dashed, ← ha, List.take_left]
  have h9 : ((dashed a b c d e f).drop 9).take 4 = b := by
    have hsplit : dashed a b c d e f = (a ++ ['-']) ++ (b ++ '-' :: (c ++ '-' :: (d ++ '-' :: (e ++ f)))) := by
      simp [dashed]
    rw [hsplit, group_eq (by simp [ha]) hb]
  have h14 : ((dashed a b c d e f).drop 14).take 4 = c := by
    have hsplit : dashed a b c d e f = (a ++ '-' :: (b ++ ['-'])) ++ (c ++ '-' :: (d ++ '-' :: (e ++ f))) := by
      simp [dashed]
    rw [hsplit, group_eq (by simp [ha, hb]) hc]
  have h19 : ((dashed a b c d e f).drop 19).take 4 = d := by
    have hsplit : dashed a b c d e f = (a ++ '-' :: (b ++ '-' :: (c ++ ['-']))) ++ (d ++ '-' :: (e ++ f)) := by
      simp [dashed]
    rw [hsplit, group_eq (by simp [ha, hb, hc]) hd]
  have h24 : ((dashed a b c d e f).drop 24).take 4 = e := by
    have hsplit : dashed a b c d e f = (a ++ '-' :: (b ++ '-' :: (c ++ '-' :: (d ++ ['-'])))) ++ (e ++ f) := by
      simp [dashed]
    rw [hsplit, group_eq (by simp [ha, hb, hc, hd]) he]
  have h28 : ((dashed a b c d e f).drop 28).take 8 = f := by
    have hsplit : dashed a b c d e f = (a ++ '-' :: (b ++ '-' :: (c ++ '-' :: (d ++ '-' :: e)))) ++ (f ++ []) := by
      simp [dashed]
    rw [hsplit, group_eq (by simp [ha, hb, hc, hd, he]) hf]
  unfold tryParseExactD
  simp only [hlength, true_and, h0, h9, h14, h19, h24, h28]
  rw [if_pos hdashes]

theorem uuidText_eq_dashed (u : BitVec 128) :
    (uuidText u).toList = dashed (hexDigitsFrom u.toNat 31 8) (hexDigitsFrom u.toNat 23 4) (hexDigitsFrom u.toNat 19 4)
      (hexDigitsFrom u.toNat 15 4) (hexDigitsFrom u.toNat 11 4) (hexDigitsFrom u.toNat 7 8) := by
  have hlast : hexDigitsFrom u.toNat 11 12 = hexDigitsFrom u.toNat 11 4 ++ hexDigitsFrom u.toNat 7 8 :=
    hexDigitsFrom_add u.toNat 11 4 8
  simp [uuidText, dashed, hlast]

/-- The characters of the text. -/
theorem plain_of_mem_uuidText {u : BitVec 128} {c : Char} (h : c ∈ (uuidText u).toList) :
    isWhiteSpace c = false ∧ c.toNat < 0x10000 := by
  have hhex : ∀ d < 16, isWhiteSpace (hexChar d) = false ∧ (hexChar d).toNat < 0x10000 := by decide
  have hdigits : ∀ hi count, c ∈ hexDigitsFrom u.toNat hi count → isWhiteSpace c = false ∧ c.toNat < 0x10000 := by
    intro hi count hmem
    obtain ⟨d, hd, rfl⟩ := isHexChar_of_mem hmem
    exact hhex d hd
  have hdash : c = '-' → isWhiteSpace c = false ∧ c.toNat < 0x10000 := by
    rintro rfl
    decide
  simp only [uuidText, String.toList_ofList, List.append_assoc, List.cons_append, List.mem_append, List.mem_cons] at h
  rcases h with h | h | h | h | h | h | h | h | h
  · exact hdigits _ _ h
  · exact hdash h
  · exact hdigits _ _ h
  · exact hdash h
  · exact hdigits _ _ h
  · exact hdash h
  · exact hdigits _ _ h
  · exact hdash h
  · exact hdigits _ _ h

theorem trim_uuidText (u : BitVec 128) : trim (uuidText u) = uuidText u := by
  have hhead : ∀ c ∈ (uuidText u).toList.head?, isWhiteSpace c = false :=
    fun c hc => (plain_of_mem_uuidText (List.mem_of_head? hc)).1
  have hlast : ∀ c ∈ (uuidText u).toList.reverse.head?, isWhiteSpace c = false :=
    fun c hc => (plain_of_mem_uuidText (List.mem_reverse.1 (List.mem_of_head? hc))).1
  rw [trim, dropWhile_eq_self hhead, dropWhile_eq_self hlast, List.reverse_reverse, String.ofList_toList]

theorem length_uuidText (u : BitVec 128) : length (uuidText u) = 36 := by
  have hunits : (uuidText u).toList.map (fun c => if c.toNat < 0x10000 then 1 else 2) = (uuidText u).toList.map fun _ => 1 :=
    List.map_congr_left fun c hc => if_pos (plain_of_mem_uuidText hc).2
  rw [length, hunits, List.map_const', List.sum_replicate_nat, Python.length_uuidText]

/-- **`Guid.TryParse(str(u)) = u`.** -/
theorem guidTryParse_uuidText (u : BitVec 128) : guidTryParse (uuidText u) = some u := by
  have hparse : tryParseExactD (uuidText u).toList = some u := by
    rw [uuidText_eq_dashed, tryParseExactD_dashed (length_hexDigitsFrom _ _ _) (length_hexDigitsFrom _ _ _)
      (length_hexDigitsFrom _ _ _) (length_hexDigitsFrom _ _ _) (length_hexDigitsFrom _ _ _)
      (length_hexDigitsFrom _ _ _)]
    have h0 := tryParseHex_hexDigitsFrom u.toNat 24 (n := 8) (by decide)
    have h1 := tryParseHex_hexDigitsFrom u.toNat 20 (n := 4) (by decide)
    have h2 := tryParseHex_hexDigitsFrom u.toNat 16 (n := 4) (by decide)
    have h3 := tryParseHex_hexDigitsFrom u.toNat 12 (n := 4) (by decide)
    have h4 := tryParseHex_hexDigitsFrom u.toNat 8 (n := 4) (by decide)
    have h5 := hexNumber_hexDigitsFrom u.toNat 0 8
    simp only [Nat.reduceAdd, Nat.reduceSub] at h0 h1 h2 h3 h4 h5
    simp only [h0, h1, h2, h3, h4, h5, Option.bind_eq_bind, Option.bind_some, Option.pure_def]
    have hnumber := number_of_groups u.isLt
    rw [hnumber]
    simp
  have hhead : ∃ d < 16, (uuidText u).toList.head? = some (hexChar d) := by
    refine ⟨u.toNat / 16 ^ 31 % 16, Nat.mod_lt _ (by decide), ?_⟩
    rw [uuidText_eq_dashed, hexDigitsFrom_succ]
    rfl
  have hdash : (uuidText u).toList[8]? = some '-' := by
    rw [uuidText_eq_dashed]
    exact getElem?_eq (length_hexDigitsFrom _ _ _)
  have hopening : ∀ d < 16, hexChar d ≠ '(' ∧ hexChar d ≠ '\x7b' := by decide
  obtain ⟨d, hd, hfirst⟩ := hhead
  unfold guidTryParse
  simp only [trim_uuidText, length_uuidText, hfirst, hdash, hparse, if_true, Nat.reduceLT, if_false]
  split
  · rename_i heq
    exact absurd (Option.some.inj heq) (hopening d hd).1
  · rename_i heq
    exact absurd (Option.some.inj heq) (hopening d hd).2
  · rfl

end WeaponDetection.Foundations.DotNet
