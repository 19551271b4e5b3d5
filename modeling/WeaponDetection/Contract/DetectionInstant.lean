import WeaponDetection.Backend.AlertSync.Sequential
import WeaponDetection.Contract.SyncItem

/-!
# The instant of a detection on both sides of the wire

The Agent writes an instant with `to_iso_utc`, always with the explicit offset `+00:00`.  The JSON
binder of the Backend turns such a text into a `DateTime` on the clock of the host, `BuildAlert`
stores its ticks as `DetectedAtUtc`, and `ResolveLocalDate` relabels the same ticks as UTC before it
asks for the Branch's calendar date.  `instant_kept_iff` says when the instant survives: exactly when
the clock of the host shows UTC.
-/

namespace WeaponDetection.Contract

open WeaponDetection.Foundations
open WeaponDetection.Foundations.Python
open WeaponDetection.Agent.Detection
open WeaponDetection.Agent.Persistence
open WeaponDetection.Backend
open WeaponDetection.Backend.AlertSync

/-! ## The calendar -/

/-- Month and day of a day of the year, as `dateOfDay` finds them. -/
def monthDay (leapYear : Bool) (n : ℕ) : ℕ × ℕ :=
  let starts := daysToMonth.zipIdx.map fun (days, i) => if leapYear && 2 ≤ i then days + 1 else days
  let month := (starts.filter (· ≤ n)).length
  (month, n - starts.getD (month - 1) 0 + 1)

/-- `DateTime.IsLeapYear`. -/
def isLeapYear (year : ℕ) : Bool := year % 4 == 0 && (year % 100 != 0 || year % 400 == 0)

/-- The days before a month. -/
def daysBeforeMonth (leapYear : Bool) (month : ℕ) : ℕ :=
  daysToMonth.getD (month - 1) 0 + if leapYear && 3 ≤ month then 1 else 0

/-- `DateTime.DaysInMonth`. -/
def daysInMonth (leapYear : Bool) (month : ℕ) : ℕ :=
  if month = 12 then 31
  else daysBeforeMonth leapYear (month + 1) - daysBeforeMonth leapYear month

/-- The constructor of `DateTime` on a date, in days from 0001-01-01; `none` where it throws. -/
def dayOfDate (year month day : ℕ) : Option ℕ :=
  if 1 ≤ year ∧ 1 ≤ month ∧ month ≤ 12 ∧ 1 ≤ day ∧ day ≤ daysInMonth (isLeapYear year) month then
    let y := year - 1
    some (y * 365 + y / 4 - y / 100 + y / 400 + daysBeforeMonth (isLeapYear year) month + day - 1)
  else none

theorem monthDay_valid (leapYear : Bool) : ∀ n < if leapYear then 366 else 365,
    1 ≤ (monthDay leapYear n).1 ∧ (monthDay leapYear n).1 ≤ 12 ∧ 1 ≤ (monthDay leapYear n).2 ∧
      (monthDay leapYear n).2 ≤ daysInMonth leapYear (monthDay leapYear n).1 ∧
      daysBeforeMonth leapYear (monthDay leapYear n).1 + (monthDay leapYear n).2 = n + 1 := by
  cases leapYear <;> decide +kernel

/-- Four periods and a day over: the last of the four is one day longer. -/
theorem quarter {r p : ℕ} (hp : 0 < p) (h : r ≤ 4 * p) :
    ∃ q s, min (r / p) 3 = q ∧ r = q * p + s ∧ q ≤ 3 ∧ s ≤ p ∧ (q < 3 → s < p) := by
  have hdiv := Nat.div_add_mod r p
  have hmod := Nat.mod_lt r hp
  rw [mul_comm] at hdiv
  rcases Nat.lt_or_ge (r / p) 3 with hlt | hge
  · exact ⟨r / p, r % p, min_eq_left hlt.le, hdiv.symm, hlt.le, hmod.le, fun _ => hmod⟩
  · have hle : 3 * p ≤ r := le_trans (Nat.mul_le_mul_right p hge) (by omega)
    exact ⟨3, r - 3 * p, min_eq_right hge, by omega, le_rfl, by omega, fun hlt => absurd hlt (by omega)⟩

/-- The calendar of `dateOfDay` counts the days `dayOfDate` does. -/
theorem dayOfDate_dateOfDay (n : ℕ) :
    dayOfDate (dateOfDay n).1 (dateOfDay n).2.1 (dateOfDay n).2.2 = some n := by
  -- the periods of 400, 100, 4 and 1 years before the day, and the day of its year
  obtain ⟨b, s, hb, hs, hb3, hsle, hslt⟩ : ∃ b s, min (n % 146097 / 36524) 3 = b ∧
      n % 146097 = b * 36524 + s ∧ b ≤ 3 ∧ s ≤ 36524 ∧ (b < 3 → s < 36524) :=
    quarter (by decide) (Nat.le_of_lt_succ (Nat.mod_lt n (by decide)))
  obtain ⟨d, m, hd, hm, hd3, hmle, hmlt⟩ : ∃ d m, min (s % 1461 / 365) 3 = d ∧
      s % 1461 = d * 365 + m ∧ d ≤ 3 ∧ m ≤ 365 ∧ (d < 3 → m < 365) :=
    quarter (by decide) (Nat.le_of_lt_succ (Nat.mod_lt s (by decide)))
  obtain ⟨c, hc⟩ : ∃ c, s / 1461 = c := ⟨_, rfl⟩
  obtain ⟨a, ha⟩ : ∃ a, n / 146097 = a := ⟨_, rfl⟩
  have hs' : n % 146097 - b * 36524 = s := by rw [hs, Nat.add_sub_cancel_left]
  have hm' : s % 1461 - d * 365 = m := by rw [hm, Nat.add_sub_cancel_left]
  have hn : n = a * 146097 + (b * 36524 + s) := by rw [← hs, ← ha, mul_comm, Nat.div_add_mod]
  have hsc : s = c * 1461 + (d * 365 + m) := by rw [← hm, ← hc, mul_comm, Nat.div_add_mod]
  have hyear : (dateOfDay n).1 = a * 400 + b * 100 + c * 4 + d + 1 := by
    simp only [dateOfDay, hb, hs', hd, hc, ha]
  have hrest : (dateOfDay n).2 = monthDay (d == 3 && (c != 24 || b == 3)) m := by
    simp only [dateOfDay, hb, hs', hd, hc, hm', monthDay]
  clear ha hc hs hs' hm hm' hb hd
  have hc24 : c ≤ 24 := by omega
  have hisLeap : isLeapYear (a * 400 + b * 100 + c * 4 + d + 1) =
      (d == 3 && (c != 24 || b == 3)) := by
    rw [isLeapYear, Bool.eq_iff_iff]
    simp only [Bool.and_eq_true, Bool.or_eq_true, beq_iff_eq, bne_iff_ne]
    omega
  have hbound : m < if (d == 3 && (c != 24 || b == 3)) = true then 366 else 365 := by
    split
    · omega
    · next h =>
      simp only [Bool.and_eq_true, Bool.or_eq_true, beq_iff_eq, bne_iff_ne] at h
      omega
  obtain ⟨hmonth, hmonth', hday, hday', hsum⟩ := monthDay_valid _ m hbound
  rw [dayOfDate, hyear, hrest, hisLeap, if_pos ⟨by omega, hmonth, hmonth', hday, hday'⟩]
  have hpred : a * 400 + b * 100 + c * 4 + d + 1 - 1 = a * 400 + b * 100 + c * 4 + d := rfl
  have h4 : (a * 400 + b * 100 + c * 4 + d) / 4 = a * 100 + b * 25 + c := by omega
  have h100 : (a * 400 + b * 100 + c * 4 + d) / 100 = a * 4 + b := by omega
  have h400 : (a * 400 + b * 100 + c * 4 + d) / 400 = a := by omega
  simp only [hpred, h4, h100, h400, Option.some.injEq]
  omega

/-! ## Instants as text -/

/-- The instants of `datetime`, from year 1 to year 9999, in microseconds. -/
def IsDatetime (instant : Instant) : Prop := 0 ≤ instant ∧ instant < 315537897600000000

/-- `to_iso_utc`: `isoformat` leaves out a fraction that is zero. -/
def toIsoUtc (instant : Instant) : List Char :=
  let micros := instant.toNat
  let time := micros % 86400000000
  let fraction := time % 1000000
  (formatDate (dateOfDay (micros / 86400000000))).toList ++
    'T' :: paddedDigits 2 (time / 3600000000) ++ ':' :: paddedDigits 2 (time / 60000000 % 60) ++
    ':' :: paddedDigits 2 (time / 1000000 % 60) ++
    (if fraction = 0 then [] else '.' :: paddedDigits 6 fraction) ++ "+00:00".toList

-- 2024-02-29T23:30:00.25+00:00
example : toIsoUtc 63844846200250000 = "2024-02-29T23:30:00.250000+00:00".toList := by
  decide +kernel

/-- Read a fixed count of decimal digits. -/
def readDigits : ℕ → ℕ → List Char → Option (ℕ × List Char)
  | 0, acc, cs => some (acc, cs)
  | count + 1, acc, c :: cs =>
    if c.isDigit then readDigits count (acc * 10 + (c.toNat - 48)) cs else none
  | _ + 1, _, [] => none

/-- Read one character. -/
def readChar (expected : Char) : List Char → Option (List Char)
  | c :: cs => if c = expected then some cs else none
  | [] => none

/-- The fraction of a second in ticks: one to sixteen digits, seven of which count. -/
def readFraction : List Char → Option (ℕ × List Char)
  | '.' :: cs =>
    let digits := cs.takeWhile Char.isDigit
    if digits = [] ∨ 16 < digits.length then none
    else
      (readDigits 7 0 ((digits ++ List.replicate 7 '0').take 7)).map fun (ticks, _) =>
        (ticks, cs.dropWhile Char.isDigit)
  | cs => some (0, cs)

/-- The offset a text ends with, in ticks: `Z`, none, or an explicit one. -/
inductive IsoOffset where
  | utc
  | unspecified
  | explicit (ticks : ℤ)
  deriving DecidableEq

/-- Read the end of a text. -/
def readOffset : List Char → Option IsoOffset
  | [] => some .unspecified
  | ['Z'] => some .utc
  | sign :: cs => do
    let (hours, cs) ← readDigits 2 0 cs
    let cs ← readChar ':' cs
    let (minutes, cs) ← readDigits 2 0 cs
    if cs ≠ [] ∨ 14 < hours ∨ 59 < minutes then none
    else if sign = '+' then some (.explicit (36000000000 * hours + 600000000 * minutes))
    else if sign = '-' then some (.explicit (-(36000000000 * hours + 600000000 * minutes)))
    else none

/-- The clock of a zone at a UTC tick, within the range of `DateTime`. -/
def clock (zone : TimeZone) (utcTicks : ℤ) : ℤ := max 0 (min maxTicks (utcTicks + zone.offset utcTicks))

/-- Read a date, as its day. -/
def readDate (text : List Char) : Option (ℕ × List Char) := do
  let (year, cs) ← readDigits 4 0 text
  let cs ← readChar '-' cs
  let (month, cs) ← readDigits 2 0 cs
  let cs ← readChar '-' cs
  let (day, cs) ← readDigits 2 0 cs
  let days ← dayOfDate year month day
  return (days, cs)

/-- Read a time of day, in ticks. -/
def readTime (text : List Char) : Option (ℕ × List Char) := do
  let (hour, cs) ← readDigits 2 0 text
  let cs ← readChar ':' cs
  let (minute, cs) ← readDigits 2 0 cs
  let cs ← readChar ':' cs
  let (second, cs) ← readDigits 2 0 cs
  let (fraction, cs) ← readFraction cs
  if 23 < hour ∨ 59 < minute ∨ 59 < second then none
  else some (36000000000 * hour + 600000000 * minute + 10000000 * second + fraction, cs)

/-- The JSON binder of `DateTime` on an ISO 8601 text: a text with an explicit offset becomes the
time on the clock of the host, one that ends in `Z` stays on UTC. -/
def readDateTime (host : TimeZone) (text : List Char) : Option DateTime := do
  let (days, cs) ← readDate text
  let cs ← readChar 'T' cs
  let (time, cs) ← readTime cs
  let offset ← readOffset cs
  let ticks : ℤ := (864000000000 * days + time : ℕ)
  match offset with
  | .utc => some ⟨ticks, .utc⟩
  | .unspecified => some ⟨ticks, .unspecified⟩
  | .explicit offsetTicks =>
    if 0 ≤ ticks - offsetTicks ∧ ticks - offsetTicks ≤ maxTicks then
      some ⟨clock host (ticks - offsetTicks), .local⟩
    else none

/-! ## What the Agent writes is what the Backend reads -/

theorem readDigits_paddedDigits (width acc n : ℕ) (rest : List Char) :
    readDigits width acc (paddedDigits width n ++ rest) =
      some (acc * 10 ^ width + n % 10 ^ width, rest) := by
  -- the digits are written from the right, so a reader first takes all but the last
  have hsplit : ∀ (k width acc : ℕ) (cs : List Char), readDigits (width + k) acc cs =
      (readDigits width acc cs).bind fun r => readDigits k r.1 r.2 := by
    intro k width
    induction width with
    | zero =>
      intro acc cs
      rw [Nat.zero_add]
      rfl
    | succ width ih =>
      intro acc cs
      cases cs with
      | nil =>
        rw [Nat.succ_add]
        rfl
      | cons c cs =>
        rw [Nat.succ_add, readDigits, readDigits]
        by_cases hc : c.isDigit = true
        · rw [if_pos hc, if_pos hc, ih]
        · rw [if_neg hc, if_neg hc]
          rfl
  induction width generalizing acc n rest with
  | zero => simp [readDigits, paddedDigits, Nat.mod_one]
  | succ width ih =>
    have hdigit : (Char.ofNat (48 + n % 10)).isDigit = true ∧
        (Char.ofNat (48 + n % 10)).toNat - 48 = n % 10 := by
      have hlt : n % 10 < 10 := Nat.mod_lt n (by decide)
      generalize n % 10 = d at hlt
      revert d
      decide
    rw [hsplit 1, paddedDigits, List.append_assoc, ih, Option.bind_some, List.singleton_append]
    simp only [readDigits, hdigit, if_true, Option.some.injEq, Prod.mk.injEq, and_true]
    rw [pow_succ, mul_comm (10 ^ width) 10, Nat.mod_mul]
    ring

theorem readDigits_written {width n : ℕ} (h : n < 10 ^ width) (rest : List Char) :
    readDigits width 0 (paddedDigits width n ++ rest) = some (n, rest) := by
  rw [readDigits_paddedDigits, Nat.zero_mul, Nat.zero_add, Nat.mod_eq_of_lt h]

theorem readChar_self (c : Char) (rest : List Char) : readChar c (c :: rest) = some rest := if_pos rfl

/-- The dates of the instants of `datetime` fit the digits they are written in. -/
theorem dateOfDay_fits {n : ℕ} (h : n < 3652059) :
    (dateOfDay n).1 < 10000 ∧ (dateOfDay n).2.1 < 100 ∧ (dateOfDay n).2.2 < 100 := by
  have hday := dayOfDate_dateOfDay n
  unfold dayOfDate at hday
  split at hday
  · next hvalid =>
    obtain ⟨hyear, -, hmonth, hfirst, hlast⟩ := hvalid
    have hlong : ∀ leapYear : Bool, ∀ month ≤ 12, daysInMonth leapYear month < 100 := by decide
    have hdays := hlong (isLeapYear (dateOfDay n).1) _ hmonth
    simp only [Option.some.injEq] at hday
    refine ⟨?_, by omega, by omega⟩
    by_contra hge
    obtain ⟨y, hy⟩ : ∃ y, (dateOfDay n).1 - 1 = y := ⟨_, rfl⟩
    rw [hy] at hday
    omega
  · cases hday

theorem readFraction_written {fraction : ℕ} (h : fraction < 1000000) :
    readFraction ((if fraction = 0 then [] else '.' :: paddedDigits 6 fraction) ++
      "+00:00".toList) = some (10 * fraction, "+00:00".toList) := by
  by_cases hzero : fraction = 0
  · rw [if_pos hzero, hzero]
    rfl
  · rw [if_neg hzero]
    have hdigits : ∀ c ∈ paddedDigits 6 fraction, c.isDigit = true := by
      intro c hc
      have hdigit : ∀ d < 10, (Char.ofNat (48 + d)).isDigit = true := by decide
      simp only [paddedDigits, List.nil_append, List.cons_append, List.mem_cons,
        List.not_mem_nil, or_false] at hc
      rcases hc with rfl | rfl | rfl | rfl | rfl | rfl <;>
        exact hdigit _ (Nat.mod_lt _ (by decide))
    have htake : (paddedDigits 6 fraction ++ "+00:00".toList).takeWhile Char.isDigit =
        paddedDigits 6 fraction := by
      rw [List.takeWhile_append_of_pos hdigits]
      exact List.append_nil _
    have hdrop : (paddedDigits 6 fraction ++ "+00:00".toList).dropWhile Char.isDigit =
        "+00:00".toList := by
      rw [List.dropWhile_append_of_pos hdigits]
      rfl
    have hpad : (paddedDigits 6 fraction ++ List.replicate 7 '0').take 7 =
        paddedDigits 7 (10 * fraction) ++ [] := by
      have hlast : Char.ofNat (48 + 10 * fraction % 10) = '0' := by
        rw [Nat.mul_mod_right]
      have hinit : 10 * fraction / 10 = fraction := Nat.mul_div_cancel_left _ (by decide)
      rw [show paddedDigits 7 (10 * fraction) =
        paddedDigits 6 (10 * fraction / 10) ++ [Char.ofNat (48 + 10 * fraction % 10)] from rfl,
        hlast, hinit]
      rfl
    have hlength : (paddedDigits 6 fraction).length = 6 := rfl
    simp only [List.cons_append, readFraction, htake, hdrop, hpad, readDigits_paddedDigits]
    rw [if_neg (by simp [← List.length_eq_zero_iff, hlength])]
    simp only [Option.map_some, zero_mul, zero_add]
    rw [Nat.mod_eq_of_lt (by omega)]

theorem readDate_written {day : ℕ} (h : day < 3652059) (rest : List Char) :
    readDate ((formatDate (dateOfDay day)).toList ++ rest) = some (day, rest) := by
  obtain ⟨hyear, hmonth, hdom⟩ := dateOfDay_fits h
  have hdays := dayOfDate_dateOfDay day
  generalize dateOfDay day = date at hyear hmonth hdom hdays ⊢
  obtain ⟨year, month, dom⟩ := date
  have htext : (formatDate (year, month, dom)).toList ++ rest = paddedDigits 4 year ++ ('-' ::
      (paddedDigits 2 month ++ ('-' :: (paddedDigits 2 dom ++ rest)))) := by
    simp [formatDate]
  rw [htext, readDate]
  have hyear' : year < 10 ^ 4 := hyear
  have hmonth' : month < 10 ^ 2 := hmonth
  have hdom' : dom < 10 ^ 2 := hdom
  simp only [readDigits_written hyear', readDigits_written hmonth', readDigits_written hdom',
    readChar_self, Option.bind_eq_bind, Option.bind_some]
  have hdays' : dayOfDate year month dom = some day := hdays
  rw [hdays']
  rfl

/-- The text of the time of day. -/
def timeText (hour minute second fraction : ℕ) : List Char :=
  paddedDigits 2 hour ++ (':' :: (paddedDigits 2 minute ++ (':' :: (paddedDigits 2 second ++
    ((if fraction = 0 then [] else '.' :: paddedDigits 6 fraction) ++ "+00:00".toList)))))

theorem readTime_written {hour minute second fraction : ℕ} (hhour : hour < 24)
    (hminute : minute < 60) (hsecond : second < 60) (hfraction : fraction < 1000000) :
    readTime (timeText hour minute second fraction) =
      some (36000000000 * hour + 600000000 * minute + 10000000 * second + 10 * fraction,
        "+00:00".toList) := by
  have htwo : ∀ n < 60, ∀ rest, readDigits 2 0 (paddedDigits 2 n ++ rest) = some (n, rest) :=
    fun n hn => readDigits_written (lt_trans hn (by decide))
  have hclock : ¬ (23 < hour ∨ 59 < minute ∨ 59 < second) := by omega
  rw [readTime, timeText]
  simp only [htwo hour (by omega), htwo minute hminute, htwo second hsecond, readChar_self,
    readFraction_written hfraction, Option.bind_eq_bind, Option.bind_some]
  exact if_neg hclock

theorem readDateTime_utcText (host : TimeZone) {text cs : List Char} {days time ticks : ℕ}
    (hdate : readDate text = some (days, 'T' :: cs)) (htime : readTime cs = some (time, "+00:00".toList))
    (hticks : 864000000000 * days + time = ticks) (hrange : (ticks : ℤ) ≤ maxTicks) :
    readDateTime host text = some ⟨clock host ticks, .local⟩ := by
  have hoffset : readOffset "+00:00".toList = some (.explicit 0) := by decide
  rw [readDateTime, hdate]
  simp only [Option.bind_eq_bind, Option.bind_some, readChar_self, htime, hoffset]
  rw [hticks, sub_zero, if_pos ⟨Int.natCast_nonneg ticks, hrange⟩]

/-- Every instant of `datetime` is read back as the time on the clock of the host. -/
theorem readDateTime_toIsoUtc (host : TimeZone) {instant : Instant} (h : IsDatetime instant) :
    readDateTime host (toIsoUtc instant) = some ⟨clock host (10 * instant), .local⟩ := by
  obtain ⟨hnonneg, hlt⟩ := h
  obtain ⟨micros, rfl⟩ := Int.eq_ofNat_of_zero_le hnonneg
  have hmicros : micros < 315537897600000000 := by exact_mod_cast hlt
  obtain ⟨day, hday⟩ : ∃ day, micros / 86400000000 = day := ⟨_, rfl⟩
  obtain ⟨time, htime⟩ : ∃ time, micros % 86400000000 = time := ⟨_, rfl⟩
  obtain ⟨hour, hhour⟩ : ∃ hour, time / 3600000000 = hour := ⟨_, rfl⟩
  obtain ⟨minute, hminute⟩ : ∃ minute, time / 60000000 % 60 = minute := ⟨_, rfl⟩
  obtain ⟨second, hsecond⟩ : ∃ second, time / 1000000 % 60 = second := ⟨_, rfl⟩
  obtain ⟨fraction, hfraction⟩ : ∃ fraction, time % 1000000 = fraction := ⟨_, rfl⟩
  have htext : toIsoUtc (micros : ℕ) = (formatDate (dateOfDay day)).toList ++
      ('T' :: timeText hour minute second fraction) := by
    simp only [toIsoUtc, timeText, Int.toNat_natCast, List.append_assoc, List.cons_append, hday,
      htime, hhour, hminute, hsecond, hfraction]
  have hdaylt : day < 3652059 := by omega
  have hhourlt : hour < 24 := by omega
  have hminutelt : minute < 60 := by omega
  have hsecondlt : second < 60 := by omega
  have hfractionlt : fraction < 1000000 := by omega
  have hticks : 864000000000 * day + (36000000000 * hour + 600000000 * minute + 10000000 * second +
      10 * fraction) = 10 * micros := by omega
  have hrange : ((10 * micros : ℕ) : ℤ) ≤ maxTicks := by
    unfold maxTicks
    omega
  rw [htext]
  exact readDateTime_utcText host (readDate_written hdaylt _)
    (readTime_written hhourlt hminutelt hsecondlt hfractionlt) hticks hrange

/-! ## From the outbox to the Alert -/

/-- A stored detection on the wire: its item with both instants as text, bound on a host. -/
def bindRow (host : TimeZone) (row : OutboxRow) : Option DetectionEventDto := do
  let dto ← bindDetectionEventDto host (serializeEvent row)
  let detectedAtUtc ← readDateTime host (toIsoUtc row.event.detectedAtUtc)
  let createdAtUtc ← readDateTime host (toIsoUtc row.createdAtUtc)
  return { dto with detectedAtUtc, createdAtUtc }

/-- The calendar date of an instant in a Branch. -/
def branchLocalDate (timeZone : TimeZone) (instant : Instant) : String :=
  formatDate (dateOfDay (clock timeZone (10 * instant) / ticksPerDay).toNat)

/-- The Alert stands for the instant of the detection: its `DetectedAtUtc`, of which the column keeps
the ticks and every reader takes them for UTC, and the date of the quota row it was charged to. -/
structure KeepsInstant (timeZone : TimeZone) (instant : Instant) (stored : StoredAlert) : Prop where
  detectedAtUtc : stored.alert.detectedAtUtc.ticks = 10 * instant
  localDate : ∀ slot ∈ stored.chargedTo, slot.localDate = branchLocalDate timeZone instant

theorem resolveLocalDate_eq (detectedAtUtc : DateTime) (timeZone : TimeZone) :
    resolveLocalDate detectedAtUtc timeZone =
      formatDate (dateOfDay (clock timeZone detectedAtUtc.ticks / ticksPerDay).toNat) := rfl

theorem detectedAtUtc_of_bindRow {host : TimeZone} {row : OutboxRow} {dto : DetectionEventDto}
    (hdetected : IsDatetime row.event.detectedAtUtc) (h : bindRow host row = some dto) :
    dto.detectedAtUtc = ⟨clock host (10 * row.event.detectedAtUtc), .local⟩ := by
  unfold bindRow at h
  rw [readDateTime_toIsoUtc host hdetected] at h
  simp only [Option.bind_eq_bind, Option.bind_eq_some_iff, Option.bind_some, Option.pure_def,
    Option.some.injEq] at h
  obtain ⟨dto', -, createdAtUtc, -, rfl⟩ := h
  rfl

theorem stored_of_insertAlert {batch : SyncBatch} {draws : Draws} {evt : DetectionEventDto}
    {resolvedCameraId alertId : Guid} {charge : Option Slot} {db db' : AlertDb}
    (h : insertAlert batch draws evt resolvedCameraId charge db =
      .ok (db', .accepted evt.eventId alertId)) :
    ∃ stored, db'.alerts = db.alerts ++ [stored] ∧ stored.alert.alertId = alertId ∧
      stored.alert.detectedAtUtc = evt.detectedAtUtc ∧ stored.chargedTo = charge := by
  unfold insertAlert at h
  cases hbuild : buildAlert draws.newGuid batch.deviceId resolvedCameraId draws.receivedAtUtc evt with
  | error e => simp [hbuild] at h
  | ok alert =>
    simp only [hbuild] at h
    split at h
    · cases h
    · simp only [Except.ok.injEq, Prod.mk.injEq, SyncEventOutcome.accepted.injEq] at h
      obtain ⟨rfl, -, rfl⟩ := h
      have hdetected : alert.detectedAtUtc = evt.detectedAtUtc := by
        unfold buildAlert at hbuild
        cases hcheck : Alert.check batch.deviceId resolvedCameraId evt with
        | error e => simp [hcheck, Except.map] at hbuild
        | ok u =>
          simp only [hcheck, Except.map, Except.ok.injEq] at hbuild
          rw [← hbuild]
      exact ⟨⟨alert, charge⟩, rfl, rfl, hdetected, rfl⟩

/-- An accepted event adds one Alert, with the event's own `DetectedAtUtc`, charged to the event's
own quota row if the quota is enabled. -/
theorem stored_of_accepted {options : AlertQuotaOptions} {batch : SyncBatch} {draws : Draws}
    {db db' : AlertDb} {evt : DetectionEventDto} {resolvedCameraId alertId : Guid}
    (h : processEvent options batch draws db evt resolvedCameraId =
      .ok (db', .accepted evt.eventId alertId)) :
    ∃ stored, db'.alerts = db.alerts ++ [stored] ∧ stored.alert.alertId = alertId ∧
      stored.alert.detectedAtUtc = evt.detectedAtUtc ∧
      stored.chargedTo = if options.enabled then some (batch.slot evt) else none := by
  unfold processEvent at h
  split at h
  · next row _ =>
    -- an Alert that was there is answered as a duplicate or as a conflict
    simp only [Except.ok.injEq, Prod.mk.injEq, duplicateOrConflict] at h
    split at h
    · cases h.2
    · cases h.2
  · cases henabled : options.enabled with
    | false =>
      simp only [henabled, Bool.not_false, if_true] at h
      exact stored_of_insertAlert h
    | true =>
      simp only [henabled, Bool.not_true, Bool.false_eq_true, if_false] at h
      split at h
      · simp [quotaExceeded] at h
      · unfold enforceQuotaAndInsert at h
        cases hrow : ensureQuotaRowExists (batch.slot evt) db with
        | error failure => simp [hrow] at h
        | ok mid =>
          have hmid : mid.alerts = db.alerts := by
            unfold ensureQuotaRowExists at hrow
            split at hrow
            · cases hrow
              rfl
            · split at hrow
              · cases hrow
              · cases hrow
                exact List.append_nil _
          simp only [hrow] at h
          split at h
          · obtain ⟨stored, halerts, hrest⟩ := stored_of_insertAlert h
            refine ⟨stored, ?_, hrest⟩
            rw [halerts, ← hmid]
            exact congrArg (· ++ [stored]) (List.append_nil _)
          · cases hsuppressed : recordSuppression batch draws evt mid with
            | error failure => simp [hsuppressed, Except.map] at h
            | ok after => simp [hsuppressed, Except.map, quotaExceeded] at h

/-- The instant of a detection survives on its way to the Alert exactly when the clock of the Backend
host shows UTC at it. -/
theorem instant_kept_iff (host : TimeZone) (options : AlertQuotaOptions) (batch : SyncBatch)
    (draws : Draws) (db db' : AlertDb) (row : OutboxRow) (dto : DetectionEventDto)
    (resolvedCameraId alertId : Guid) (hdetected : IsDatetime row.event.detectedAtUtc)
    (hbind : bindRow host row = some dto)
    (haccepted : processEvent options batch draws db dto resolvedCameraId =
      .ok (db', .accepted dto.eventId alertId)) :
    ∃ stored, db'.alerts = db.alerts ++ [stored] ∧ stored.alert.alertId = alertId ∧
      (KeepsInstant batch.timeZone row.event.detectedAtUtc stored ↔
        clock host (10 * row.event.detectedAtUtc) = 10 * row.event.detectedAtUtc) := by
  have hdto := detectedAtUtc_of_bindRow hdetected hbind
  obtain ⟨stored, halerts, hid, hstored, hcharged⟩ := stored_of_accepted haccepted
  refine ⟨stored, halerts, hid, ?_⟩
  constructor
  · intro hkeeps
    have hticks := hkeeps.detectedAtUtc
    rw [hstored, hdto] at hticks
    exact hticks
  · intro hclock
    refine ⟨by rw [hstored, hdto, hclock], ?_⟩
    intro slot hslot
    rw [hcharged] at hslot
    split at hslot
    · cases hslot
      show resolveLocalDate dto.detectedAtUtc batch.timeZone = _
      rw [resolveLocalDate_eq, hdto, hclock, branchLocalDate]
    · cases hslot

/-! ## A host five hours east of UTC -/

/-- A detection of 2024-02-29, at 23:30 UTC. -/
def lateEvening : OutboxRow :=
  newRow { wideFrameEvent with
    detectedAtUtc := 63844846200250000, frameWidth := 1920, wellFormed := by decide +kernel }
    63844846200500000

/-- A host whose clock is always so many hours east of UTC. -/
def hostEast (hours : ℤ) : TimeZone := ⟨fun _ => hours * 36000000000⟩

/-- The service inserts the Alert of the detection and charges it to this day. -/
theorem lateEvening_accepted (hours : ℤ) (localDate : String)
    (h : ((bindRow (hostEast hours) lateEvening).map fun dto =>
      (dto.eventId, (sampleBatch 0).slot dto,
        match processEvent onePerDay (sampleBatch 0) ⟨100, ⟨0, .utc⟩, ⟨0, .utc⟩, ⟨0, .utc⟩⟩
            emptyTables dto 7 with
        | .ok (_, outcome) => some outcome
        | .error _ => none)) = some (1, ⟨2, localDate⟩, some (.accepted 1 100))) :
    ∃ dto db', bindRow (hostEast hours) lateEvening = some dto ∧
      ((sampleBatch 0).slot dto).localDate = localDate ∧
      processEvent onePerDay (sampleBatch 0) ⟨100, ⟨0, .utc⟩, ⟨0, .utc⟩, ⟨0, .utc⟩⟩ emptyTables dto 7 =
        .ok (db', .accepted dto.eventId 100) := by
  obtain ⟨dto, hbind, hdto⟩ := Option.map_eq_some_iff.mp h
  simp only [Prod.mk.injEq] at hdto
  obtain ⟨heventId, hslot, houtcome⟩ := hdto
  split at houtcome
  · next db' outcome hprocess =>
    cases houtcome
    exact ⟨dto, db', hbind, by rw [hslot], by rw [hprocess, heventId]⟩
  · cases houtcome

theorem instant_kept_lateEvening : ∃ stored dto db',
    processEvent onePerDay (sampleBatch 0) ⟨100, ⟨0, .utc⟩, ⟨0, .utc⟩, ⟨0, .utc⟩⟩ emptyTables dto 7 =
      .ok (db', .accepted dto.eventId 100) ∧ stored ∈ db'.alerts ∧
    KeepsInstant (sampleBatch 0).timeZone lateEvening.event.detectedAtUtc stored := by
  obtain ⟨dto, db', hbind, -, haccepted⟩ :=
    lateEvening_accepted 0 "2024-02-29" (by decide +kernel)
  obtain ⟨stored, halerts, -, hkeeps⟩ := instant_kept_iff (hostEast 0) onePerDay (sampleBatch 0) _
    emptyTables db' lateEvening dto 7 100 ⟨by decide +kernel, by decide +kernel⟩ hbind haccepted
  exact ⟨stored, dto, db', haccepted, by simp [halerts], hkeeps.mpr (by decide +kernel)⟩

/-- Five hours east of UTC the Alert is stored five hours late and charged to the next day, although
the Branch is in UTC. -/
theorem detection_shifted_fiveHoursEast : ¬ ∀ (host : TimeZone) (options : AlertQuotaOptions)
    (batch : SyncBatch) (draws : Draws) (db db' : AlertDb) (row : OutboxRow)
    (dto : DetectionEventDto) (resolvedCameraId alertId : Guid),
    IsDatetime row.event.detectedAtUtc → bindRow host row = some dto →
    processEvent options batch draws db dto resolvedCameraId =
      .ok (db', .accepted dto.eventId alertId) →
    ∀ stored ∈ db'.alerts, stored.alert.alertId = alertId →
      KeepsInstant batch.timeZone row.event.detectedAtUtc stored := by
  intro hall
  obtain ⟨dto, db', hbind, hslot, haccepted⟩ :=
    lateEvening_accepted 5 "2024-03-01" (by decide +kernel)
  obtain ⟨stored, halerts, hid, -, hcharged⟩ := stored_of_accepted haccepted
  have hkeeps := hall (hostEast 5) onePerDay (sampleBatch 0) _ emptyTables db' lateEvening dto 7 100
    ⟨by decide +kernel, by decide +kernel⟩ hbind haccepted stored (by simp [halerts]) hid
  have hdate := hkeeps.localDate ((sampleBatch 0).slot dto) (by rw [hcharged]; rfl)
  rw [hslot] at hdate
  exact absurd hdate (by decide +kernel)

end WeaponDetection.Contract
