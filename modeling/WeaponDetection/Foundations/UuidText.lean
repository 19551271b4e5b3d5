import WeaponDetection.Foundations.Python

/-!
# `UUID` reads back what `str` writes

The canonical text of a UUID has lower-case digits and hyphens only, so none of the liberties of the
constructor applies to it: no prefix is removed, no brace stripped, and the digits left are those of
the number.
-/

namespace WeaponDetection.Foundations.Python

/-! ## Characters that are left alone -/

/-- `replace` leaves a text alone in which the first character of the pattern does not occur. -/
theorem removeAll_of_not_mem (p : Char) (pattern : List Char) {cs : List Char} (h : p ∉ cs) :
    removeAll (p :: pattern) 0 cs = cs := by
  induction cs with
  | nil => rfl
  | cons c cs ih =>
    have hne : p ≠ c := fun heq => h (heq ▸ List.mem_cons_self)
    have hstart : (p :: pattern).isPrefixOf (c :: cs) = false := by
      simp [List.isPrefixOf, hne]
    rw [removeAll, hstart, if_neg Bool.false_ne_true,
      ih fun hmem => h (List.mem_cons_of_mem c hmem)]

/-- `strip` leaves a text without braces alone. -/
theorem stripBraces_of_not_mem {cs : List Char} (h : ∀ c ∈ cs, ¬ (c = '\x7b' ∨ c = '\x7d')) :
    stripBraces cs = cs := by
  have hdrop : ∀ l : List Char, (∀ c ∈ l, ¬ (c = '\x7b' ∨ c = '\x7d')) →
      l.dropWhile (fun c => decide (c = '\x7b' ∨ c = '\x7d')) = l := by
    intro l hl
    cases l with
    | nil => rfl
    | cons c cs => exact List.dropWhile_cons_of_neg (by simpa using hl c List.mem_cons_self)
  unfold stripBraces
  simp only [hdrop cs h]
  rw [hdrop cs.reverse fun c hc => h c (List.mem_reverse.1 hc), List.reverse_reverse]

/-! ## The text -/

theorem length_uuidText (u : Uuid) : (uuidText u).toList.length = 36 := by
  simp [uuidText]

/-! ## Hexadecimal digits -/

/-- A lower-case hexadecimal digit. -/
def IsHexChar (c : Char) : Prop := ∃ d < 16, c = hexChar d

theorem isHexChar_of_mem {v hi count : ℕ} {c : Char} (h : c ∈ hexDigitsFrom v hi count) :
    IsHexChar c := by
  obtain ⟨i, -, rfl⟩ := List.mem_map.1 h
  exact ⟨_, Nat.mod_lt _ (by decide), rfl⟩

/-- What the digits of a number are read as, one by one. -/
theorem IsHexChar.plain {c : Char} (h : IsHexChar c) :
    toAsciiDigit c = c ∧ isAsciiSpace c = false ∧ c ∉ ['u', 'x', 'X', '+', '-', '\x7b', '\x7d'] := by
  obtain ⟨d, hd, rfl⟩ := h
  have hall : ∀ d < 16, toAsciiDigit (hexChar d) = hexChar d ∧ isAsciiSpace (hexChar d) = false ∧
      hexChar d ∉ ['u', 'x', 'X', '+', '-', '\x7b', '\x7d'] := by decide
  exact hall d hd

theorem hexValue_hexDigit : ∀ d < 16, hexValue (hexChar d) = some d := by decide

/-- The digits from a position down, split at another. -/
theorem hexDigitsFrom_add (v hi m n : ℕ) :
    hexDigitsFrom v hi (m + n) = hexDigitsFrom v hi m ++ hexDigitsFrom v (hi - m) n := by
  simp only [hexDigitsFrom, List.range_add, List.map_append, List.map_map, List.append_cancel_left_eq]
  refine List.map_congr_left fun i _ => ?_
  simp only [Function.comp_apply, Nat.sub_sub]

theorem hexDigitsFrom_succ (v n : ℕ) :
    hexDigitsFrom v n (n + 1) = hexChar (v / 16 ^ n % 16) :: hexDigitsFrom v (n - 1) n := by
  rw [add_comm, hexDigitsFrom_add]
  rfl

/-- Reading the last `n` digits of a number appends them to what was read before. -/
theorem readHexDigits_hexDigitsFrom (v n acc : ℕ) :
    readHexDigits false acc (hexDigitsFrom v (n - 1) n) = some (acc * 16 ^ n + v % 16 ^ n, []) := by
  induction n generalizing acc with
  | zero => simp [hexDigitsFrom, readHexDigits, Nat.mod_one]
  | succ n ih =>
    have hdigit : v / 16 ^ n % 16 < 16 := Nat.mod_lt _ (by decide)
    have hsplit : v % 16 ^ (n + 1) = v % 16 ^ n + 16 ^ n * (v / 16 ^ n % 16) := by
      rw [pow_succ, Nat.mod_mul]
    rw [Nat.add_sub_cancel, hexDigitsFrom_succ, readHexDigits, hexValue_hexDigit _ hdigit]
    simp only
    rw [ih, hsplit, pow_succ]
    congr 2
    ring

/-- `int(text, 16)` of the digits of a number. -/
theorem intOfHex_hexDigitsFrom (v n : ℕ) :
    intOfHex (hexDigitsFrom v n (n + 1)) = some ((v % 16 ^ (n + 1) : ℕ) : ℤ) := by
  have hmem : ∀ c ∈ hexDigitsFrom v n (n + 1), IsHexChar c := fun c hc => isHexChar_of_mem hc
  have hmap : (hexDigitsFrom v n (n + 1)).map toAsciiDigit = hexDigitsFrom v n (n + 1) := by
    conv_rhs => rw [← List.map_id (hexDigitsFrom v n (n + 1))]
    exact List.map_congr_left fun c hc => (hmem c hc).plain.1
  have hread := readHexDigits_hexDigitsFrom v (n + 1) 0
  rw [Nat.add_sub_cancel, zero_mul, zero_add] at hread
  rw [intOfHex, hmap]
  obtain ⟨c, cs, hcs⟩ : ∃ c cs, hexDigitsFrom v n (n + 1) = c :: cs := ⟨_, _, hexDigitsFrom_succ v n⟩
  rw [hcs] at hmem hread ⊢
  have hc := (hmem c List.mem_cons_self).plain
  have hspace : (c :: cs).dropWhile isAsciiSpace = c :: cs :=
    List.dropWhile_cons_of_neg (by simp [hc.2.1])
  have hsign : dropSign (c :: cs) = (false, c :: cs) := by
    unfold dropSign
    split
    · next heq =>
      cases heq
      exact absurd hc.2.2 (by decide)
    · next heq =>
      cases heq
      exact absurd hc.2.2 (by decide)
    · rfl
  -- no digit is an `x`, so there is no prefix to drop
  have hstart : dropHexPrefix (c :: cs) = c :: cs := by
    have hx : ∀ x ∈ c :: cs, x ≠ 'x' ∧ x ≠ 'X' := fun x hx => by
      have hplain := (hmem x hx).plain.2.2
      simp only [List.mem_cons, not_or] at hplain
      exact ⟨hplain.2.1, hplain.2.2.1⟩
    unfold dropHexPrefix
    split
    · next heq => exact absurd rfl (hx 'x' (by rw [heq]; simp)).1
    · next heq => exact absurd rfl (hx 'X' (by rw [heq]; simp)).2
    · next heq => exact absurd rfl (hx 'x' (by rw [heq]; simp)).1
    · next heq => exact absurd rfl (hx 'X' (by rw [heq]; simp)).2
    · rfl
  have hvalue : hexValue c ≠ none := by
    obtain ⟨d, hd, rfl⟩ := hmem c List.mem_cons_self
    rw [hexValue_hexDigit d hd]
    exact Option.some_ne_none d
  simp only [hspace, hsign, hstart, if_neg hvalue, hread, List.all_nil, if_true]
  rfl

/-! ## The text of a UUID -/

/-- **`UUID(str(u)) = u`.** -/
theorem uuidOfText_uuidText (u : Uuid) : uuidOfText (uuidText u) = some u := by
  obtain ⟨text, htext⟩ : ∃ text, (uuidText u).toList = text := ⟨_, rfl⟩
  have hgroups := htext
  simp only [uuidText, String.toList_ofList] at hgroups
  have hchars : ∀ c ∈ text, IsHexChar c ∨ c = '-' := by
    intro c hc
    rw [← hgroups] at hc
    simp only [List.append_assoc, List.cons_append, List.mem_append, List.mem_cons] at hc
    rcases hc with hc | hc | hc | hc | hc | hc | hc | hc | hc
    · exact .inl (isHexChar_of_mem hc)
    · exact .inr hc
    · exact .inl (isHexChar_of_mem hc)
    · exact .inr hc
    · exact .inl (isHexChar_of_mem hc)
    · exact .inr hc
    · exact .inl (isHexChar_of_mem hc)
    · exact .inr hc
    · exact .inl (isHexChar_of_mem hc)
  have hu : 'u' ∉ text := by
    intro hmem
    rcases hchars _ hmem with h | h
    · exact absurd h.plain.2.2 (by decide)
    · exact absurd h (by decide)
  have hbrace : ∀ c ∈ text, ¬ (c = '\x7b' ∨ c = '\x7d') := by
    intro c hc
    rcases hchars c hc with h | rfl
    · have hplain := h.plain.2.2
      simp only [List.mem_cons, not_or] at hplain
      exact fun hb => hb.elim hplain.2.2.2.2.2.1 hplain.2.2.2.2.2.2.1
    · decide
  -- without the hyphens the groups are the digits of the number
  have hfilter : text.filter (· ≠ '-') = hexDigitsFrom u.toNat 31 32 := by
    have hgroup : ∀ hi count, (hexDigitsFrom u.toNat hi count).filter (· ≠ '-') =
        hexDigitsFrom u.toNat hi count := by
      intro hi count
      refine List.filter_eq_self.2 fun c hc => ?_
      have hplain := (isHexChar_of_mem hc).plain.2.2
      simp only [List.mem_cons, not_or] at hplain
      simpa using hplain.2.2.2.2.1
    have hsplit : hexDigitsFrom u.toNat 31 32 = hexDigitsFrom u.toNat 31 8 ++
        (hexDigitsFrom u.toNat 23 4 ++ (hexDigitsFrom u.toNat 19 4 ++
          (hexDigitsFrom u.toNat 15 4 ++ hexDigitsFrom u.toNat 11 12))) := by
      rw [← hexDigitsFrom_add _ 15 4 12, ← hexDigitsFrom_add _ 19 4 16, ← hexDigitsFrom_add _ 23 4 20,
        ← hexDigitsFrom_add _ 31 8 24]
    have hhyphen : ∀ cs : List Char, ('-' :: cs).filter (· ≠ '-') = cs.filter (· ≠ '-') :=
      fun cs => List.filter_cons_of_neg (by decide)
    rw [← hgroups, hsplit]
    simp only [List.append_assoc, List.cons_append, List.filter_append, hhyphen, hgroup]
  rw [uuidOfText, htext]
  have hurn : removeAll "urn:".toList 0 text = text := removeAll_of_not_mem 'u' _ hu
  have huuid : removeAll "uuid:".toList 0 text = text := removeAll_of_not_mem 'u' _ hu
  simp only [hurn, huuid, stripBraces_of_not_mem hbrace, hfilter, length_hexDigitsFrom, ne_eq,
    not_true, if_false, intOfHex_hexDigitsFrom u.toNat 31]
  have hlt : u.toNat < 16 ^ (31 + 1) := by simpa using u.isLt
  rw [Nat.mod_eq_of_lt hlt, if_pos ⟨Int.natCast_nonneg _, by simpa using Int.ofNat_lt.2 u.isLt⟩]
  simp

end WeaponDetection.Foundations.Python
