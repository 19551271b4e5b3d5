import WeaponDetection.Contract.IsoOrder

/-!
# Timestamps of the local store

Models `to_iso_utc` and `parse_iso_utc` of `persistence/models.py` on `datetime` values: what the clock
of a value shows and how far that clock is ahead of UTC.  `fromisoformat` is the one of Python 3.10,
which reads `YYYY-MM-DD[*HH[:MM[:SS[.fff[fff]]]][+HH:MM[:SS[.ffffff]]]]`.
-/

namespace WeaponDetection.Agent.Persistence

open WeaponDetection.Foundations.Python
open WeaponDetection.Agent.Detection (Instant)
open WeaponDetection.Backend.AlertSync (paddedDigits formatDate dateOfDay)
open WeaponDetection.Contract

/-! ## `datetime` -/

instance (instant : Instant) : Decidable (IsDatetime instant) := inferInstanceAs (Decidable (_ ∧ _))

/-- The offset of a zone is less than a day, either way. -/
def IsUtcOffset (offset : ℤ) : Prop := -86400000000 < offset ∧ offset < 86400000000

instance (offset : ℤ) : Decidable (IsUtcOffset offset) := inferInstanceAs (Decidable (_ ∧ _))

/-- A `datetime`: the microseconds from year 1 its clock shows, and what `utcoffset()` says, `none`
for a naive one. -/
structure Datetime where
  reading : ℤ
  utcOffset : Option ℤ
  isDatetime : IsDatetime reading
  isUtcOffset : ∀ offset, utcOffset = some offset → IsUtcOffset offset

/-- `datetime.tzinfo` is set. -/
def Datetime.IsAware (value : Datetime) : Prop := value.utcOffset ≠ none

/-- The instant an aware value stands for. -/
def Datetime.instant (value : Datetime) : Instant := value.reading - value.utcOffset.getD 0

/-- `astimezone(timezone.utc)` of a clock `offset` ahead of UTC: `OverflowError` before year 1 and after
year 9999. -/
def astimezoneUtc (reading offset : ℤ) : Except PyError Instant :=
  if IsDatetime (reading - offset) then .ok (reading - offset) else .error .overflowError

/-- `to_iso_utc`. -/
def Datetime.toIsoUtc (value : Datetime) : Except PyError (List Char) :=
  match value.utcOffset with
  | none => .error .valueError
  | some offset => (astimezoneUtc value.reading offset).map Contract.toIsoUtc

/-! ## `fromisoformat` -/

/-- The three or six digits of a fraction, in microseconds. -/
def readMicroseconds (text : List Char) : Option (ℕ × List Char) :=
  let digits := text.takeWhile Char.isDigit
  if digits.length = 6 then readDigits 6 0 text
  else if digits.length = 3 then (readDigits 3 0 text).map fun (millis, cs) => (1000 * millis, cs)
  else none

/-- `[:SS[.fff[fff]]]`, in microseconds. -/
def readSeconds : List Char → Option (ℕ × List Char)
  | ':' :: cs => do
    let (second, cs) ← readDigits 2 0 cs
    if 59 < second then none
    else
      match cs with
      | '.' :: cs => (readMicroseconds cs).map fun (micros, cs) => (1000000 * second + micros, cs)
      | cs => some (1000000 * second, cs)
  | cs => some (0, cs)

/-- `HH[:MM[:SS[.fff[fff]]]]`, in microseconds. -/
def readClock (text : List Char) : Option (ℕ × List Char) := do
  let (hour, cs) ← readDigits 2 0 text
  if 23 < hour then none
  else
    match cs with
    | ':' :: cs =>
      let (minute, cs) ← readDigits 2 0 cs
      if 59 < minute then none
      else
        let (rest, cs) ← readSeconds cs
        some (3600000000 * hour + 60000000 * minute + rest, cs)
    | cs => some (3600000000 * hour, cs)

/-- `[:SS[.ffffff]]` at the end of an offset, in microseconds. -/
def readOffsetSeconds : List Char → Option ℕ
  | [] => some 0
  | ':' :: cs => do
    let (second, cs) ← readDigits 2 0 cs
    match cs with
    | [] => some (1000000 * second)
    | '.' :: cs =>
      let (micros, cs) ← readDigits 6 0 cs
      if cs = [] then some (1000000 * second + micros) else none
    | _ => none
  | _ => none

/-- `[+HH:MM[:SS[.ffffff]]]`; only the whole of an offset is bounded. -/
def readUtcOffset : List Char → Option (Option ℤ)
  | [] => some none
  | sign :: cs => do
    let (hours, cs) ← readDigits 2 0 cs
    let cs ← readChar ':' cs
    let (minutes, cs) ← readDigits 2 0 cs
    let rest ← readOffsetSeconds cs
    let offset : ℤ := 3600000000 * hours + 60000000 * minutes + rest
    if sign = '+' then some (some offset) else if sign = '-' then some (some (-offset)) else none

/-- What follows a date: nothing, or any one character, a time and perhaps an offset. -/
def readTimeOfDate : List Char → Option (ℕ × Option ℤ)
  | [] => some (0, none)
  | _ :: cs => do
    let (time, cs) ← readClock cs
    let utcOffset ← readUtcOffset cs
    return (time, utcOffset)

/-- What the clock shows at a time of a day. -/
def readingOf (day time : ℕ) : ℤ := (86400000000 * day + time : ℕ)

/-- The constructor of `datetime`, `none` for `ValueError`. -/
def Datetime.new (reading : ℤ) (utcOffset : Option ℤ) : Option Datetime :=
  if h : IsDatetime reading ∧ ∀ offset, utcOffset = some offset → IsUtcOffset offset then
    some ⟨reading, utcOffset, h.1, h.2⟩
  else none

/-- `datetime.fromisoformat`, `none` for `ValueError`. -/
def fromisoformat (text : List Char) : Option Datetime := do
  let (day, cs) ← readDate text
  let (time, utcOffset) ← readTimeOfDate cs
  Datetime.new (readingOf day time) utcOffset

/-- `parse_iso_utc`. -/
def parseIsoUtc (text : List Char) : Except PyError Instant :=
  match fromisoformat text with
  | none => .error .valueError
  | some parsed =>
    match parsed.utcOffset with
    | none => .error .valueError
    | some offset => astimezoneUtc parsed.reading offset

-- Half past midnight two hours east of UTC.
example : parseIsoUtc "2024-03-01 00:30:00.250+02:00".toList =
    parseIsoUtc "2024-02-29T22:30:00.250000+00:00".toList := by decide +kernel

/-! ## What is written is read back -/

theorem readSeconds_written {second fraction : ℕ} (hsecond : second < 60) (hfraction : fraction < 1000000) :
    readSeconds (':' :: (paddedDigits 2 second ++ fractionText fraction)) =
      some (1000000 * second + fraction, "+00:00".toList) := by
  have hread : readDigits 2 0 (paddedDigits 2 second ++ fractionText fraction) =
      some (second, fractionText fraction) := readDigits_written (by omega) _
  rw [readSeconds, hread]
  simp only [Option.bind_eq_bind, Option.bind_some]
  rw [if_neg (by omega), fractionText]
  by_cases hzero : fraction = 0
  · rw [if_pos hzero, hzero]
    rfl
  · rw [if_neg hzero]
    have htake : (paddedDigits 6 fraction ++ "+00:00".toList).takeWhile Char.isDigit =
        paddedDigits 6 fraction := by
      rw [List.takeWhile_append_of_pos fun c => isDigit_of_mem_paddedDigits]
      exact List.append_nil _
    have hsix : readDigits 6 0 (paddedDigits 6 fraction ++ "+00:00".toList) =
        some (fraction, "+00:00".toList) := readDigits_written hfraction _
    have hlength : (paddedDigits 6 fraction).length = 6 := rfl
    simp only [List.cons_append, readMicroseconds, htake, hlength, if_true, hsix, Option.map_some]

theorem readTimeOfDate_written {second fraction : ℕ} (hsecond : second < 86400) (hfraction : fraction < 1000000) :
    readTimeOfDate ('T' :: (clockText second ++ fractionText fraction)) =
      some (1000000 * second + fraction, some 0) := by
  have htwo : ∀ n < 60, ∀ rest, readDigits 2 0 (paddedDigits 2 n ++ rest) = some (n, rest) :=
    fun n hn => readDigits_written (lt_trans hn (by decide))
  have hminutes : second / 60 % 60 < 60 := Nat.mod_lt _ (by decide)
  have hoffset : readUtcOffset "+00:00".toList = some (some 0) := by decide
  have hseconds := readSeconds_written (Nat.mod_lt second (show 0 < 60 by decide)) hfraction
  have hclock : readClock (clockText second ++ fractionText fraction) =
      some (1000000 * second + fraction, "+00:00".toList) := by
    rw [readClock, clockText]
    simp only [List.append_assoc, List.cons_append, htwo (second / 60 / 60) (by omega), Option.bind_eq_bind,
      Option.bind_some]
    rw [if_neg (by omega), htwo _ hminutes]
    simp only [Option.bind_some]
    rw [if_neg (by omega), hseconds]
    simp only [Option.bind_some, Option.some.injEq, Prod.mk.injEq, and_true]
    omega
  rw [readTimeOfDate, hclock]
  simp only [Option.bind_eq_bind, Option.bind_some, hoffset]
  rfl

theorem fromisoformat_eq_some {text cs : List Char} {day time : ℕ} {utcOffset : Option ℤ} {reading : ℤ}
    (hdate : readDate text = some (day, cs)) (htime : readTimeOfDate cs = some (time, utcOffset))
    (hreading : readingOf day time = reading) (h : IsDatetime reading)
    (hzone : ∀ offset, utcOffset = some offset → IsUtcOffset offset) :
    fromisoformat text = some ⟨reading, utcOffset, h, hzone⟩ := by
  have hnew : Datetime.new reading utcOffset = some ⟨reading, utcOffset, h, hzone⟩ := dif_pos ⟨h, hzone⟩
  rw [fromisoformat, hdate]
  show (readTimeOfDate cs).bind (fun p => Datetime.new (readingOf day p.1) p.2) = _
  rw [htime, Option.bind_some, hreading]
  exact hnew

/-- `fromisoformat` reads back what `isoformat` writes of a time in UTC. -/
theorem fromisoformat_toIsoUtc {instant : Instant} (h : IsDatetime instant) :
    ∃ parsed, fromisoformat (Contract.toIsoUtc instant) = some parsed ∧ parsed.utcOffset = some 0 ∧
      parsed.reading = instant := by
  obtain ⟨micros, rfl⟩ := Int.eq_ofNat_of_zero_le h.1
  have hmicros : micros < 315537897600000000 := by exact_mod_cast h.2
  have hday : micros / 1000000 / 86400 < 3652059 := by omega
  have htime := readTimeOfDate_written (Nat.mod_lt (micros / 1000000) (show 0 < 86400 by decide))
    (Nat.mod_lt micros (show 0 < 1000000 by decide))
  have hreading : (86400000000 * (micros / 1000000 / 86400) +
      (1000000 * (micros / 1000000 % 86400) + micros % 1000000) : ℕ) = micros := by omega
  have hzone : ∀ offset : ℤ, some (0 : ℤ) = some offset → IsUtcOffset offset := by
    rintro offset ⟨⟩
    decide
  have hdate : readDate (Contract.toIsoUtc micros) = some (micros / 1000000 / 86400,
      'T' :: (clockText (micros / 1000000 % 86400) ++ fractionText (micros % 1000000))) := by
    rw [toIsoUtc_eq, dateText, List.append_assoc, readDate_written hday, List.cons_append]
  exact ⟨_, fromisoformat_eq_some hdate htime (congrArg Nat.cast hreading) h hzone, rfl, rfl⟩

/-- **`parse_iso_utc` reads back what `to_iso_utc` writes.** -/
theorem parseIsoUtc_toIsoUtc {instant : Instant} (h : IsDatetime instant) :
    parseIsoUtc (Contract.toIsoUtc instant) = .ok instant := by
  obtain ⟨parsed, hparsed, hoffset, hreading⟩ := fromisoformat_toIsoUtc h
  rw [parseIsoUtc, hparsed]
  simp only [hoffset, astimezoneUtc, sub_zero, hreading]
  exact if_pos h

/-- An aware value that UTC can show is written as its instant. -/
theorem Datetime.toIsoUtc_eq_ok {value : Datetime} (haware : value.IsAware) (h : IsDatetime value.instant) :
    value.toIsoUtc = .ok (Contract.toIsoUtc value.instant) := by
  obtain ⟨reading, utcOffset, hreading, hoffset⟩ := value
  cases utcOffset with
  | none => exact absurd rfl haware
  | some offset =>
    simp only [Datetime.instant, Option.getD_some] at h
    simp only [Datetime.toIsoUtc, astimezoneUtc, Datetime.instant, Option.getD_some, if_pos h]
    rfl

end WeaponDetection.Agent.Persistence
