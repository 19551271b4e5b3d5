import WeaponDetection.Backend.AlertSync.Records
import WeaponDetection.Foundations.Histogram

/-!
# The window of the analytics and its buckets

Models `AnalyticsWindow.cs`: the buckets an accepted window is shown in.  Instants are UTC ticks.  The
start of a bucket is a whole number of hours, days or weeks behind 0001-01-01, which was a Monday, so the
buckets tile the window (`tiling_of_enumerateBuckets`) unless the step behind the last of them leaves the
range of `DateTime`, where `AdvanceBucket` throws (`enumerateBuckets_isSome_iff`).
-/

namespace WeaponDetection.Backend.Analytics

open WeaponDetection.Foundations.Histogram
open WeaponDetection.Backend.AlertSync (ticksPerDay maxTicks)

/-! ## Windows -/

/-- `TimeSpan.TicksPerHour`. -/
def ticksPerHour : ℤ := 36000000000

/-- `AnalyticsBucket`. -/
inductive AnalyticsBucket where
  | hour
  | day
  | week
  deriving DecidableEq

/-- `MaxRangeDays`. -/
def maxRangeDays : ℤ := 366

/-- A window the API accepts, `[FromUtc, ToUtc)`.  Those of the range presets are among them. -/
structure Window where
  fromUtc : ℤ
  toUtc : ℤ
  nonneg : 0 ≤ fromUtc
  lt : fromUtc < toUtc
  le_max : toUtc ≤ maxTicks
  width : toUtc - fromUtc ≤ maxRangeDays * ticksPerDay

/-! ## Buckets -/

/-- `DateTime.Date`. -/
def dateOf (utc : ℤ) : ℤ := utc / ticksPerDay * ticksPerDay

/-- `DateTime.DayOfWeek`: Sunday is 0, and 0001-01-01 was a Monday. -/
def dayOfWeek (utc : ℤ) : ℤ := (utc / ticksPerDay + 1) % 7

/-- `TruncateToBucketStart`. -/
def truncateToBucketStart (utc : ℤ) : AnalyticsBucket → ℤ
  | .hour => utc / ticksPerHour * ticksPerHour
  | .week =>
    let dayStart := dateOf utc
    let daysSinceMonday := (dayOfWeek dayStart + 6) % 7
    dayStart - daysSinceMonday * ticksPerDay
  | .day => dateOf utc

/-- The length of a bucket. -/
def AnalyticsBucket.ticks : AnalyticsBucket → ℤ
  | .hour => ticksPerHour
  | .day => ticksPerDay
  | .week => 7 * ticksPerDay

/-- `AdvanceBucket`: `AddHours` and `AddDays` throw behind the last `DateTime`. -/
def advanceBucket (bucketStartUtc : ℤ) (bucket : AnalyticsBucket) : Option ℤ :=
  if bucketStartUtc + bucket.ticks ≤ maxTicks then some (bucketStartUtc + bucket.ticks) else none

theorem AnalyticsBucket.ticks_pos (bucket : AnalyticsBucket) : 0 < bucket.ticks := by
  cases bucket <;> decide

theorem advanceBucket_eq_some_iff {start next : ℤ} {bucket : AnalyticsBucket} :
    advanceBucket start bucket = some next ↔ next = start + bucket.ticks ∧ next ≤ maxTicks := by
  unfold advanceBucket
  constructor
  · intro h
    split at h
    · cases h
      exact ⟨rfl, by assumption⟩
    · cases h
  · rintro ⟨rfl, hle⟩
    exact if_pos hle

theorem toNat_advance_lt {toUtc start next : ℤ} {bucket : AnalyticsBucket} (hlt : start < toUtc)
    (h : advanceBucket start bucket = some next) : (toUtc - next).toNat < (toUtc - start).toNat := by
  have hpos := bucket.ticks_pos
  have hnext := (advanceBucket_eq_some_iff.1 h).1
  omega

/-- The loop of `EnumerateBuckets`; `none` where a step throws. -/
def enumerateFrom (toUtc : ℤ) (bucket : AnalyticsBucket) (start : ℤ) : Option (List ℤ) :=
  if _hlt : start < toUtc then
    match _h : advanceBucket start bucket with
    | none => none
    | some next => (enumerateFrom toUtc bucket next).map (start :: ·)
  else some []
  termination_by (toUtc - start).toNat
  decreasing_by exact toNat_advance_lt _hlt _h

/-- `EnumerateBuckets`. -/
def enumerateBuckets (fromUtc toUtc : ℤ) (bucket : AnalyticsBucket) : Option (List ℤ) :=
  if toUtc ≤ fromUtc then some []
  else enumerateFrom toUtc bucket (truncateToBucketStart fromUtc bucket)

/-! ## The grid -/

/-- The start of a bucket is a multiple of its length. -/
theorem truncateToBucketStart_eq (utc : ℤ) (bucket : AnalyticsBucket) :
    truncateToBucketStart utc bucket = utc / bucket.ticks * bucket.ticks := by
  cases bucket with
  | hour => rfl
  | day => rfl
  | week =>
    simp only [truncateToBucketStart, dateOf, dayOfWeek, AnalyticsBucket.ticks, ticksPerDay]
    omega

theorem dvd_truncateToBucketStart (utc : ℤ) (bucket : AnalyticsBucket) :
    bucket.ticks ∣ truncateToBucketStart utc bucket :=
  ⟨utc / bucket.ticks, by rw [truncateToBucketStart_eq, mul_comm]⟩

/-- The bucket of an instant contains it. -/
theorem truncateToBucketStart_eq_iff {utc start : ℤ} {bucket : AnalyticsBucket} (h : bucket.ticks ∣ start) :
    truncateToBucketStart utc bucket = start ↔ start ≤ utc ∧ utc < start + bucket.ticks := by
  rw [truncateToBucketStart_eq, cellStart_eq_iff bucket.ticks_pos h]

theorem truncateToBucketStart_le (utc : ℤ) (bucket : AnalyticsBucket) :
    truncateToBucketStart utc bucket ≤ utc :=
  ((truncateToBucketStart_eq_iff (dvd_truncateToBucketStart utc bucket)).1 rfl).1

/-- The bucket of an instant is the bucket of its hour and, but for hours, of its day. -/
theorem truncateToBucketStart_hour (utc : ℤ) :
    truncateToBucketStart (truncateToBucketStart utc .hour) .hour = truncateToBucketStart utc .hour := by
  simp only [truncateToBucketStart, ticksPerHour]
  omega

theorem truncateToBucketStart_dateOf (utc : ℤ) {bucket : AnalyticsBucket} (h : bucket ≠ .hour) :
    truncateToBucketStart (dateOf utc) bucket = truncateToBucketStart utc bucket := by
  cases bucket with
  | hour => exact absurd rfl h
  | day =>
    simp only [truncateToBucketStart, dateOf, ticksPerDay]
    omega
  | week =>
    simp only [truncateToBucketStart_eq, AnalyticsBucket.ticks, dateOf, ticksPerDay]
    omega

/-- The last multiple before an instant. -/
theorem le_truncateToBucketStart {start utc : ℤ} {bucket : AnalyticsBucket} (h : bucket.ticks ∣ start)
    (hle : start ≤ utc) : start ≤ truncateToBucketStart utc bucket := by
  obtain ⟨k, rfl⟩ := h
  rw [truncateToBucketStart_eq, mul_comm bucket.ticks k] at *
  have hquotient := Int.le_ediv_of_mul_le bucket.ticks_pos hle
  exact Int.mul_le_mul_of_nonneg_right hquotient bucket.ticks_pos.le

/-! ## The loop -/

theorem enumerateFrom_of_ge {toUtc start : ℤ} {bucket : AnalyticsBucket} (h : toUtc ≤ start) :
    enumerateFrom toUtc bucket start = some [] := by
  rw [enumerateFrom, dif_neg (not_lt.2 h)]

theorem enumerateFrom_of_none {toUtc start : ℤ} {bucket : AnalyticsBucket} (hlt : start < toUtc)
    (h : advanceBucket start bucket = none) : enumerateFrom toUtc bucket start = none := by
  rw [enumerateFrom, dif_pos hlt]
  split
  · rfl
  · simp_all

theorem enumerateFrom_of_some {toUtc start next : ℤ} {bucket : AnalyticsBucket} (hlt : start < toUtc)
    (h : advanceBucket start bucket = some next) :
    enumerateFrom toUtc bucket start = (enumerateFrom toUtc bucket next).map (start :: ·) := by
  rw [enumerateFrom, dif_pos hlt]
  split
  · simp_all
  · rename_i next' hnext'
    rw [h, Option.some.injEq] at hnext'
    rw [hnext']

/-- The loop gives the tiling from its start on. -/
theorem tiling_of_enumerateFrom {toUtc start : ℤ} {bucket : AnalyticsBucket} {starts : List ℤ}
    (h : enumerateFrom toUtc bucket start = some starts) : Tiling bucket.ticks toUtc start starts := by
  induction start using enumerateFrom.induct toUtc bucket generalizing starts with
  | case1 start hlt hnone =>
    rw [enumerateFrom_of_none hlt hnone] at h
    cases h
  | case2 start hlt next hnext ih =>
    rw [enumerateFrom_of_some hlt hnext] at h
    obtain ⟨rest, hrest, rfl⟩ := Option.map_eq_some_iff.1 h
    have htiling := ih hrest
    rw [(advanceBucket_eq_some_iff.1 hnext).1] at htiling
    exact .cons hlt htiling
  | case3 start hge =>
    rw [enumerateFrom_of_ge (not_lt.1 hge)] at h
    cases h
    exact .nil (not_lt.1 hge)

/-- It throws when the bucket of the last instant reaches beyond the range of `DateTime`. -/
theorem enumerateFrom_isSome_iff {toUtc start : ℤ} {bucket : AnalyticsBucket} (hdvd : bucket.ticks ∣ start)
    (hlt : start < toUtc) : (enumerateFrom toUtc bucket start).isSome = true ↔
      truncateToBucketStart (toUtc - 1) bucket + bucket.ticks ≤ maxTicks := by
  induction start using enumerateFrom.induct toUtc bucket with
  | case1 start _ hnone =>
    have hlast := le_truncateToBucketStart hdvd (show start ≤ toUtc - 1 by omega)
    have hover : ¬ start + bucket.ticks ≤ maxTicks := by
      intro hle
      rw [advanceBucket_eq_some_iff.2 ⟨rfl, hle⟩] at hnone
      cases hnone
    rw [enumerateFrom_of_none hlt hnone]
    simp only [Option.isSome_none, Bool.false_eq_true, false_iff]
    omega
  | case2 start _ next hnext ih =>
    obtain ⟨hstep, hmax⟩ := advanceBucket_eq_some_iff.1 hnext
    rw [enumerateFrom_of_some hlt hnext, Option.isSome_map]
    by_cases hmore : next < toUtc
    · exact ih (hstep ▸ Int.dvd_add hdvd (Int.dvd_refl _)) hmore
    · -- the last bucket
      have hlast : truncateToBucketStart (toUtc - 1) bucket = start :=
        (truncateToBucketStart_eq_iff hdvd).2 ⟨by omega, by omega⟩
      rw [enumerateFrom_of_ge (not_lt.1 hmore), hlast, ← hstep]
      simp [hmax]
  | case3 start hge => exact absurd hlt hge

theorem tiling_of_enumerateBuckets {w : Window} {bucket : AnalyticsBucket} {starts : List ℤ}
    (h : enumerateBuckets w.fromUtc w.toUtc bucket = some starts) :
    Tiling bucket.ticks w.toUtc (truncateToBucketStart w.fromUtc bucket) starts := by
  rw [enumerateBuckets, if_neg (not_le.2 w.lt)] at h
  exact tiling_of_enumerateFrom h

theorem enumerateBuckets_isSome_iff (w : Window) (bucket : AnalyticsBucket) :
    (enumerateBuckets w.fromUtc w.toUtc bucket).isSome = true ↔
      truncateToBucketStart (w.toUtc - 1) bucket + bucket.ticks ≤ maxTicks := by
  have hstart := truncateToBucketStart_le w.fromUtc bucket
  have hlt := w.lt
  rw [enumerateBuckets, if_neg (not_le.2 w.lt),
    enumerateFrom_isSome_iff (dvd_truncateToBucketStart w.fromUtc bucket) (by omega)]

/-- An instant of the window lies in exactly one bucket, its own. -/
theorem existsUnique_bucket {w : Window} {bucket : AnalyticsBucket} {starts : List ℤ}
    (h : enumerateBuckets w.fromUtc w.toUtc bucket = some starts) {utc : ℤ} (hfrom : w.fromUtc ≤ utc)
    (hto : utc < w.toUtc) :
    truncateToBucketStart utc bucket ∈ starts ∧
      ∀ s ∈ starts, (s ≤ utc ∧ utc < s + bucket.ticks ↔ s = truncateToBucketStart utc bucket) := by
  have htiling := tiling_of_enumerateBuckets h
  have hdvd : ∀ s ∈ starts, bucket.ticks ∣ s := fun s hs =>
    htiling.dvd_of_mem (dvd_truncateToBucketStart w.fromUtc bucket) hs
  have hbucket : ∀ s ∈ starts, (s ≤ utc ∧ utc < s + bucket.ticks ↔
      s = truncateToBucketStart utc bucket) := by
    intro s hs
    rw [← truncateToBucketStart_eq_iff (hdvd s hs)]
    exact eq_comm
  refine ⟨?_, hbucket⟩
  obtain ⟨s, hs, hcell⟩ := htiling.exists_cell
    ((truncateToBucketStart_le w.fromUtc bucket).trans hfrom) hto
  rw [← (hbucket s hs).1 hcell]
  exact hs

end WeaponDetection.Backend.Analytics
