import WeaponDetection.Contract.DetectionInstant
import WeaponDetection.Foundations.TextOrder
import WeaponDetection.Foundations.UuidText
import Mathlib.Data.Char
import Mathlib.Data.Int.ConditionallyCompleteOrder

/-!
# The stored texts order as what they stand for

`to_iso_utc` writes every instant with the same fields, from the year down to the second, and always
in UTC.  Where two texts agree on them, one may go on with the fraction of the second and the other
with the offset; `+` comes before `.`, so a text without a fraction comes first, as its instant does.
-/

namespace WeaponDetection.Contract

open WeaponDetection.Foundations
open WeaponDetection.Foundations.Python
open WeaponDetection.Foundations.TextOrder
open WeaponDetection.Agent.Detection
open WeaponDetection.Backend.AlertSync

/-! ## Decimal fields -/

theorem decimalDigit_lt : ∀ m < 10, ∀ n < 10, m < n → Char.ofNat (48 + m) < Char.ofNat (48 + n) := by decide

theorem paddedDigits_eq_numeral (width n : ℕ) :
    paddedDigits width n = numeral (fun d => Char.ofNat (48 + d)) 10 width n := by
  induction width generalizing n with
  | zero => rfl
  | succ width ih => rw [paddedDigits, numeral, ih]

theorem isDigit_of_mem_paddedDigits {width n : ℕ} {c : Char} (h : c ∈ paddedDigits width n) : c.isDigit = true := by
  induction width generalizing n with
  | zero => cases h
  | succ width ih =>
    have hdigit : ∀ d < 10, (Char.ofNat (48 + d)).isDigit = true := by decide
    rcases List.mem_append.1 h with h | h
    · exact ih h
    · rw [List.mem_singleton.1 h]
      exact hdigit _ (Nat.mod_lt n (by decide))

theorem fixedField_paddedDigits (width : ℕ) : FixedField (paddedDigits width) (10 ^ width) := by
  have hdigit : StrictMonoOn (fun d => Char.ofNat (48 + d)) (Set.Iio 10) := by
    intro m hm n hn hlt
    exact decimalDigit_lt m hm n hn hlt
  rw [show paddedDigits width = numeral (fun d => Char.ofNat (48 + d)) 10 width from
    funext (paddedDigits_eq_numeral width)]
  exact fixedField_numeral hdigit width

/-! ## The date -/

/-- A date is before another one, by year, then month, then day. -/
def DateBefore (a b : ℕ × ℕ × ℕ) : Prop :=
  a.1 < b.1 ∨ a.1 = b.1 ∧ (a.2.1 < b.2.1 ∨ a.2.1 = b.2.1 ∧ a.2.2 < b.2.2)

theorem daysBeforeMonth_add_le : ∀ leapYear : Bool, ∀ month ≤ 12, 1 ≤ month →
    daysBeforeMonth leapYear month + daysInMonth leapYear month ≤ (if leapYear then 366 else 365) ∧
    ∀ month' ≤ 12, month < month' →
      daysBeforeMonth leapYear month + daysInMonth leapYear month ≤ daysBeforeMonth leapYear month' := by
  decide

/-- The days of the years before a year, which is counted from 0. -/
def daysBeforeYear (y : ℕ) : ℕ := y * 365 + y / 4 - y / 100 + y / 400

theorem daysBeforeYear_succ (y : ℕ) :
    daysBeforeYear (y + 1) = daysBeforeYear y + if isLeapYear (y + 1) = true then 366 else 365 := by
  have hleap : isLeapYear (y + 1) = true ↔
      (y + 1) % 4 = 0 ∧ ((y + 1) % 100 ≠ 0 ∨ (y + 1) % 400 = 0) := by
    simp [isLeapYear]
  -- a century is 25 periods of four years
  have h100 : ∀ n : ℕ, n / 100 = n / 4 / 25 := fun n => (Nat.div_div_eq_div_mul n 4 25).symm
  have h400 : ∀ n : ℕ, n / 400 = n / 4 / 25 / 4 := by
    intro n
    rw [Nat.div_div_eq_div_mul, Nat.div_div_eq_div_mul]
  unfold daysBeforeYear
  rw [h100, h400, h100, h400]
  split_ifs with hyear
  · rw [hleap] at hyear
    omega
  · rw [hleap] at hyear
    omega

/-- The last day of a year comes before the first day of a later one. -/
theorem daysBeforeYear_add_le {y y' : ℕ} (h : y < y') :
    daysBeforeYear y + (if isLeapYear (y + 1) = true then 366 else 365) ≤ daysBeforeYear y' := by
  rw [← daysBeforeYear_succ]
  have hmono : Monotone daysBeforeYear := by
    refine monotone_nat_of_le_succ ?_
    intro n
    rw [daysBeforeYear_succ]
    exact Nat.le_add_right _ _
  exact hmono h

/-- A date that does not come before another one does not have a smaller day. -/
theorem day_le_of_not_dateBefore {a b : ℕ × ℕ × ℕ} {m n : ℕ} (ha : dayOfDate a.1 a.2.1 a.2.2 = some m)
    (hb : dayOfDate b.1 b.2.1 b.2.2 = some n) (h : ¬ DateBefore a b) : n ≤ m := by
  unfold dayOfDate at ha hb
  split at ha
  case isFalse => cases ha
  split at hb
  case isFalse => cases hb
  rename_i hvalid hvalid'
  obtain ⟨year, month, day⟩ := a
  obtain ⟨year', month', day'⟩ := b
  simp only [Option.some.injEq, DateBefore, not_or, not_and] at ha hb h hvalid hvalid'
  obtain ⟨hyear, hmonth, hmonth12, hday, hdaylt⟩ := hvalid
  obtain ⟨hyear', hmonth', hmonth12', hday', hdaylt'⟩ := hvalid'
  obtain ⟨hfit, hnext⟩ := daysBeforeMonth_add_le (isLeapYear year') month' hmonth12' hmonth'
  obtain ⟨hnot, hrest⟩ := h
  rcases (Nat.not_lt.1 hnot).lt_or_eq with hlt | rfl
  · have hyears := daysBeforeYear_add_le (show year' - 1 < year - 1 by omega)
    rw [show year' - 1 + 1 = year' by omega] at hyears
    unfold daysBeforeYear at hyears
    omega
  · obtain ⟨hnotm, hdays⟩ := hrest rfl
    rcases (Nat.not_lt.1 hnotm).lt_or_eq with hlt | rfl
    · have hmonths := hnext month hmonth12 hlt
      omega
    · have hnotd := hdays rfl
      omega

/-- The calendar runs with the days. -/
theorem dateBefore_of_lt {m n : ℕ} (h : m < n) : DateBefore (dateOfDay m) (dateOfDay n) := by
  by_contra hnot
  exact absurd (day_le_of_not_dateBefore (dayOfDate_dateOfDay m) (dayOfDate_dateOfDay n) hnot) (Nat.not_le.2 h)

/-- The text of a date. -/
def dateText (day : ℕ) : List Char := (formatDate (dateOfDay day)).toList

theorem dateText_eq (day : ℕ) : dateText day = (paddedDigits 4 (dateOfDay day).1 ++ ['-']) ++
    ((paddedDigits 2 (dateOfDay day).2.1 ++ ['-']) ++ paddedDigits 2 (dateOfDay day).2.2) := by
  simp [dateText, formatDate]

theorem fixedField_dateText : FixedField dateText 3652059 := by
  have hyearField := (fixedField_paddedDigits 4).suffix ['-']
  have hmonthField := (fixedField_paddedDigits 2).suffix ['-']
  have hdayField := fixedField_paddedDigits 2
  refine ⟨?_, ?_⟩
  · intro m n
    rw [dateText_eq, dateText_eq]
    simp only [List.length_append, (fixedField_paddedDigits 4).length_eq (dateOfDay m).1 (dateOfDay n).1,
      (fixedField_paddedDigits 2).length_eq (dateOfDay m).2.1 (dateOfDay n).2.1,
      (fixedField_paddedDigits 2).length_eq (dateOfDay m).2.2 (dateOfDay n).2.2]
  · intro m hm n hn hlt
    obtain ⟨hyear, hmonth, hday⟩ := dateOfDay_fits hm
    obtain ⟨hyear', hmonth', hday'⟩ := dateOfDay_fits hn
    rw [dateText_eq, dateText_eq]
    rcases dateBefore_of_lt hlt with hbefore | ⟨heq, hbefore | ⟨heq', hbefore⟩⟩
    · exact append_lt_append_of_lt (hyearField.length_eq _ _)
        (hyearField.strictMonoOn hyear hyear' hbefore) _ _
    · rw [heq]
      apply List.append_left_lt
      exact append_lt_append_of_lt (hmonthField.length_eq _ _)
        (hmonthField.strictMonoOn hmonth hmonth' hbefore) _ _
    · rw [heq, heq']
      exact List.append_left_lt (List.append_left_lt (hdayField.strictMonoOn hday hday' hbefore))

/-! ## The time of day -/

/-- The text of a second of a day. -/
def clockText (second : ℕ) : List Char :=
  (paddedDigits 2 (second / 60 / 60) ++ ':' :: paddedDigits 2 (second / 60 % 60)) ++
    ':' :: paddedDigits 2 (second % 60)

theorem fixedField_clockText : FixedField clockText 86400 := by
  have htwo : ∀ c ≤ 100, FixedField (paddedDigits 2) c := fun c hc => (fixedField_paddedDigits 2).mono hc
  have hminutes := (htwo 24 (by decide)).split ((htwo 60 (by decide)).cons ':')
  exact hminutes.split ((htwo 60 (by decide)).cons ':')

/-- What follows the seconds. -/
def fractionText (fraction : ℕ) : List Char :=
  (if fraction = 0 then [] else '.' :: paddedDigits 6 fraction) ++ "+00:00".toList

/-- The offset of a text without a fraction comes before the point of one that has it. -/
theorem strictMonoOn_fractionText : StrictMonoOn fractionText (Set.Iio 1000000) := by
  intro m hm n hn hlt
  have hn0 : n ≠ 0 := Nat.ne_zero_of_lt hlt
  unfold fractionText
  rw [if_neg hn0]
  by_cases hm0 : m = 0
  · rw [if_pos hm0]
    exact List.cons_lt_cons_iff.2 (.inl (by decide))
  · rw [if_neg hm0]
    have hfraction := ((fixedField_paddedDigits 6).cons '.').strictMonoOn hm hn hlt
    exact append_lt_append_of_lt (((fixedField_paddedDigits 6).cons '.').length_eq m n) hfraction _ _

/-! ## The instant -/

theorem toIsoUtc_eq (micros : ℕ) : toIsoUtc micros =
    (dateText (micros / 1000000 / 86400) ++ 'T' :: clockText (micros / 1000000 % 86400)) ++
      fractionText (micros % 1000000) := by
  have hday : micros / 86400000000 = micros / 1000000 / 86400 := by omega
  have hhour : micros % 86400000000 / 3600000000 = micros / 1000000 % 86400 / 60 / 60 := by omega
  have hminute : micros % 86400000000 / 60000000 % 60 = micros / 1000000 % 86400 / 60 % 60 := by omega
  have hsecond : micros % 86400000000 / 1000000 % 60 = micros / 1000000 % 86400 % 60 := by omega
  have hfraction : micros % 86400000000 % 1000000 = micros % 1000000 := by omega
  simp only [toIsoUtc, Int.toNat_natCast, hday, hhour, hminute, hsecond, hfraction, dateText, clockText,
    fractionText, List.append_assoc, List.cons_append]

/-- **The texts order as the instants.** -/
theorem toIsoUtc_strictMonoOn : StrictMonoOn toIsoUtc {instant | IsDatetime instant} := by
  intro a ha b hb hlt
  obtain ⟨hnonneg, ha⟩ := ha
  obtain ⟨hnonneg', hb⟩ := hb
  obtain ⟨m, rfl⟩ := Int.eq_ofNat_of_zero_le hnonneg
  obtain ⟨n, rfl⟩ := Int.eq_ofNat_of_zero_le hnonneg'
  have hseconds := fixedField_dateText.split (fixedField_clockText.cons 'T')
  have hmono := strictMonoOn_split hseconds strictMonoOn_fractionText
  rw [toIsoUtc_eq, toIsoUtc_eq]
  have hm : m < 3652059 * 86400 * 1000000 := by exact_mod_cast ha
  have hn : n < 3652059 * 86400 * 1000000 := by exact_mod_cast hb
  exact hmono hm hn (by exact_mod_cast hlt)

theorem toIsoUtc_lt_iff {a b : Instant} (ha : IsDatetime a) (hb : IsDatetime b) :
    toIsoUtc a < toIsoUtc b ↔ a < b :=
  toIsoUtc_strictMonoOn.lt_iff_lt ha hb

theorem toIsoUtc_inj {a b : Instant} (ha : IsDatetime a) (hb : IsDatetime b) :
    toIsoUtc a = toIsoUtc b ↔ a = b :=
  toIsoUtc_strictMonoOn.eq_iff_eq ha hb

/-! ## The identifier -/

theorem hexChar_lt : ∀ m < 16, ∀ n < 16, m < n → hexChar m < hexChar n := by decide

/-- A run of hexadecimal digits of a number, as a numeral of what is left of it. -/
theorem hexDigitsFrom_eq_numeral (v count low : ℕ) :
    hexDigitsFrom v (low + count - 1) count = numeral hexChar 16 count (v / 16 ^ low) := by
  induction count generalizing low with
  | zero => rfl
  | succ count ih =>
    have hsplit : hexDigitsFrom v (low + (count + 1) - 1) (count + 1) =
        hexDigitsFrom v (low + 1 + count - 1) count ++ [hexChar (v / 16 ^ low % 16)] := by
      simp only [hexDigitsFrom, List.range_succ, List.map_append, List.map_cons, List.map_nil,
        show low + (count + 1) - 1 = low + 1 + count - 1 by omega,
        show low + 1 + count - 1 - count = low by omega]
    rw [hsplit, ih (low + 1), numeral, Nat.div_div_eq_div_mul, ← pow_succ]

theorem fixedField_hexNumeral (width : ℕ) : FixedField (numeral hexChar 16 width) (16 ^ width) := by
  apply fixedField_numeral
  intro m hm n hn hlt
  exact hexChar_lt m hm n hn hlt

/-- The groups of `str(uuid)`. -/
def uuidGroups (v : ℕ) : List Char :=
  ((((numeral hexChar 16 8 (v / 16 ^ 12 / 16 ^ 4 / 16 ^ 4 / 16 ^ 4) ++
    '-' :: numeral hexChar 16 4 (v / 16 ^ 12 / 16 ^ 4 / 16 ^ 4 % 16 ^ 4)) ++
    '-' :: numeral hexChar 16 4 (v / 16 ^ 12 / 16 ^ 4 % 16 ^ 4)) ++
    '-' :: numeral hexChar 16 4 (v / 16 ^ 12 % 16 ^ 4)) ++
    '-' :: numeral hexChar 16 12 (v % 16 ^ 12))

theorem toList_uuidText (u : Uuid) : (uuidText u).toList = uuidGroups u.toNat := by
  have h8 := hexDigitsFrom_eq_numeral u.toNat 8 24
  have h4 := hexDigitsFrom_eq_numeral u.toNat 4 20
  have h4' := hexDigitsFrom_eq_numeral u.toNat 4 16
  have h4'' := hexDigitsFrom_eq_numeral u.toNat 4 12
  have h12 := hexDigitsFrom_eq_numeral u.toNat 12 0
  simp only [Nat.reduceAdd, Nat.reduceSub] at h8 h4 h4' h4'' h12
  simp only [uuidText, String.toList_ofList, uuidGroups, numeral_mod, Nat.div_div_eq_div_mul, ← pow_add,
    Nat.reduceAdd, h8, h4, h4', h4'', h12, pow_zero, Nat.div_one, List.append_assoc, List.cons_append]

/-- **The texts order as the identifiers.** -/
theorem uuidText_lt_iff {u v : Uuid} : (uuidText u).toList < (uuidText v).toList ↔ u < v := by
  have hfour := (fixedField_hexNumeral 4).cons '-'
  have hgroups := ((((fixedField_hexNumeral 8).split hfour).split hfour).split hfour).split
    ((fixedField_hexNumeral 12).cons '-')
  rw [toList_uuidText, toList_uuidText, BitVec.lt_def]
  exact hgroups.strictMonoOn.lt_iff_lt u.isLt v.isLt

end WeaponDetection.Contract
