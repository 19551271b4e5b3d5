import WeaponDetection.Backend.Analytics.Operational

/-!
# The series of the analytics agree

Every aggregate of `OperationalAnalyticsService` counts the qualifying Alerts by its own keys.  Here each
of them is rewritten to a count of those Alerts alone, and then the totals agree: the buckets, the
Branches and the bands of confidence split one list (`analytics_consistent_iff`).  What can go wrong is
that nothing is computed at all, behind the last instant of `DateTime` or the last `int`.
-/

namespace WeaponDetection.Backend.Analytics

open WeaponDetection.Foundations.Histogram
open WeaponDetection.Backend.AlertSync

/-! ## Statements -/

/-- The detection instant of the Alert lies in the bucket. -/
def inBucket (bucket : AnalyticsBucket) (start : ℤ) (a : AnalyticsAlert) : Bool :=
  start ≤ a.detectedAtUtc && a.detectedAtUtc < start + bucket.ticks

/-- The Alert has a latency sample. -/
def hasSample (a : AnalyticsAlert) : Bool :=
  a.detectedAtUtc ≤ a.receivedAtUtc && a.receivedAtUtc ≤ a.detectedAtUtc + ticksPerDay

/-- The Camera of the Alert belongs to the Branch. -/
def ofBranch (db : AnalyticsDb) (branchId : Guid) (a : AnalyticsAlert) : Bool :=
  db.cameras.any fun c => c.cameraId = a.cameraId && c.branchId = branchId

/-- The point of a bucket, from the Alerts themselves. -/
def detectionPoint (bucket : AnalyticsBucket) (alerts : List AnalyticsAlert) (start : ℤ) : TimeBucketPoint :=
  ⟨start, (alerts.filter (inBucket bucket start)).length⟩

/-- The latency point of a bucket, from the samples themselves. -/
def samplePoint (bucket : AnalyticsBucket) (samples : List AnalyticsAlert) (start : ℤ) : LatencyBucketPoint :=
  ⟨start, average ((samples.filter (inBucket bucket start)).map fun a => (latencyMs a : ℚ)),
    (samples.filter (inBucket bucket start)).length⟩

/-- The point of a Branch, from the Alerts themselves. -/
def branchPoint (db : AnalyticsDb) (alerts : List AnalyticsAlert) (b : Branch) : BranchCountPoint :=
  ⟨b.branchId, b.name, (alerts.filter (ofBranch db b.branchId)).length⟩

/-- What the figures of one view have to say about the qualifying Alerts. -/
structure Consistent (db : AnalyticsDb) (query : AnalyticsQuery) (qualifying : List AnalyticsAlert)
    (view : OperationalAnalyticsView) : Prop where
  contiguous : (view.detectionsOverTime.map TimeBucketPoint.periodStartUtc).IsChain fun s s' =>
    s' = s + query.bucket.ticks
  ascending : (view.detectionsOverTime.map TimeBucketPoint.periodStartUtc).Pairwise (· < ·)
  covers : ∀ utc, query.window.fromUtc ≤ utc → utc < query.window.toUtc →
    ∃ point ∈ view.detectionsOverTime,
      point.periodStartUtc ≤ utc ∧ utc < point.periodStartUtc + query.bucket.ticks
  counted : ∀ point ∈ view.detectionsOverTime,
    point.count = (qualifying.filter (inBucket query.bucket point.periodStartUtc)).length
  once : ∀ a ∈ qualifying, ∃! start,
    start ∈ view.detectionsOverTime.map TimeBucketPoint.periodStartUtc ∧
      inBucket query.bucket start a = true
  total : view.summary.totalDetections = qualifying.length
  bucketTotal : (view.detectionsOverTime.map TimeBucketPoint.count).sum = view.summary.totalDetections
  branchCounted : ∀ point ∈ view.detectionsByBranch,
    point.count = (qualifying.filter (ofBranch db point.branchId)).length
  branchTotal : (view.detectionsByBranch.map BranchCountPoint.count).sum = view.summary.totalDetections
  bandTotal : view.summary.confidenceHigh + view.summary.confidenceMedium + view.summary.confidenceLow =
    view.summary.totalDetections
  latencyStarts : view.latencyOverTime.map LatencyBucketPoint.periodStartUtc =
    view.detectionsOverTime.map TimeBucketPoint.periodStartUtc
  latencyTotal : (view.latencyOverTime.map LatencyBucketPoint.sampleCount).sum =
    view.summary.latencySampleCount
  excluded : view.summary.latencySampleCount + view.summary.latencySamplesExcluded =
    view.summary.totalDetections
  means : ∀ point ∈ view.latencyOverTime,
    let samples := (qualifying.filter hasSample).filter (inBucket query.bucket point.periodStartUtc)
    point.sampleCount = samples.length ∧ point.averageMs = average (samples.map fun a => (latencyMs a : ℚ))

/-- The computation stays within its types: the bucket of the last instant ends within `DateTime`, so
does the day behind each detection whose limit the database computes, and the Alerts are counted by an
`int`. -/
structure WithinRange (platform : Platform) (query : AnalyticsQuery) (qualifying : List AnalyticsAlert) :
    Prop where
  lastBucket : truncateToBucketStart (query.window.toUtc - 1) query.bucket + query.bucket.ticks ≤ maxTicks
  limits : ∀ a ∈ qualifying, a.detectedAtUtc ≤ a.receivedAtUtc ∨ platform.eager = true →
    a.detectedAtUtc + ticksPerDay ≤ maxTicks
  small : qualifying.length < 2 ^ 31

/-! ## Counts -/

section Counts

variable {α κ : Type} [DecidableEq κ] {key : α → κ} {rows : List α}

theorem intCount_eq_some_iff {m n : ℕ} : intCount n = some m ↔ n < 2 ^ 31 ∧ n = m := by
  unfold intCount
  split <;> simp_all

theorem sumAt_one (k : κ) : sumAt key (fun _ => 1) rows k = (rows.filter fun a => key a = k).length := by
  simp [sumAt]

omit [DecidableEq κ] in
theorem intGroups_eq {M : Type} {count : M → ℕ} {groups : List (κ × M)}
    (h : ∀ group ∈ groups, count group.2 < 2 ^ 31) : intGroups count groups = some groups := by
  rw [intGroups, if_pos]
  simpa using h

/-- A group is no larger than the table. -/
theorem intGroups_groupSums {M : Type} [AddCommMonoid M] {count : M → ℕ} {value : α → M}
    (hcount : ∀ k, count (sumAt key value rows k) ≤ n) (hn : n < 2 ^ 31) :
    intGroups count (groupSums key value rows) = some (groupSums key value rows) := by
  refine intGroups_eq fun group hgroup => ?_
  obtain ⟨k, -, rfl⟩ := List.mem_map.1 hgroup
  exact lt_of_le_of_lt (hcount k) hn

/-- Sums and counts of rows side by side. -/
theorem sum_map_pair (f : α → ℤ) (l : List α) :
    (l.map fun a => (f a, 1)).sum = ((l.map f).sum, l.length) := by
  induction l with
  | nil => rfl
  | cons a l ih =>
    rw [List.map_cons, List.sum_cons, ih, List.map_cons, List.sum_cons, List.length_cons, Prod.mk_add_mk,
      Nat.add_comm]

theorem sumAt_pair (f : α → ℤ) (k : κ) : sumAt key (fun a => (f a, 1)) rows k =
    (((rows.filter fun a => key a = k).map f).sum, (rows.filter fun a => key a = k).length) :=
  sum_map_pair f _

end Counts

/-! ## The buckets -/

section Buckets

variable {query : AnalyticsQuery} {qualifying : List AnalyticsAlert}

/-- The period of the database lies in the bucket of the Alert. -/
theorem truncate_periodStart (bucket : AnalyticsBucket) (a : AnalyticsAlert) :
    truncateToBucketStart (periodStart bucket a) bucket = truncateToBucketStart a.detectedAtUtc bucket := by
  unfold periodStart
  split
  · rename_i h
    rw [h, truncateToBucketStart_hour]
  · rename_i h
    exact truncateToBucketStart_dateOf _ h

theorem buildDetectionsOverTime_eq (h : qualifying.length < 2 ^ 31) :
    buildDetectionsOverTime query qualifying =
      (enumerateBuckets query.window.fromUtc query.window.toUtc query.bucket).map fun starts =>
        starts.map fun start => ⟨start,
          (qualifying.filter fun a => truncateToBucketStart a.detectedAtUtc query.bucket = start).length⟩ := by
  have hrows : ∀ k, id (sumAt (periodStart query.bucket) (fun _ => 1) qualifying k) ≤ qualifying.length := by
    intro k
    rw [id, sumAt_one]
    exact List.length_filter_le _ _
  have hrolled : ∀ k, sumAt (fun row : ℤ × ℕ => truncateToBucketStart row.1 query.bucket) Prod.snd
      (groupSums (periodStart query.bucket) (fun _ => 1) qualifying) k =
        (qualifying.filter fun a => truncateToBucketStart a.detectedAtUtc query.bucket = k).length := by
    intro k
    rw [sumAt_groupSums fun t => truncateToBucketStart t query.bucket, sumAt_one]
    simp only [truncate_periodStart]
  have hcounts : ∀ k, id (sumAt (fun row : ℤ × ℕ => truncateToBucketStart row.1 query.bucket) Prod.snd
      (groupSums (periodStart query.bucket) (fun _ => 1) qualifying) k) ≤ qualifying.length := by
    intro k
    rw [id, hrolled]
    exact List.length_filter_le _ _
  unfold buildDetectionsOverTime
  rw [intGroups_groupSums hrows h, Option.bind_eq_bind, Option.bind_some, intGroups_groupSums hcounts h,
    Option.bind_eq_bind, Option.bind_some]
  simp only [getD_groupAt, hrolled]
  cases enumerateBuckets query.window.fromUtc query.window.toUtc query.bucket <;> rfl

theorem cast_sum_latencyMs (samples : List AnalyticsAlert) :
    (samples.map fun a => (latencyMs a : ℚ)).sum = ((samples.map latencyMs).sum : ℤ) := by
  induction samples with
  | nil => rfl
  | cons a samples ih =>
    rw [List.map_cons, List.sum_cons, ih, List.map_cons, List.sum_cons, Int.cast_add]

/-- The point of a bucket is the mean of its samples, and without samples there is none. -/
theorem latencyPoint_samples (start : ℤ) (samples : List AnalyticsAlert) :
    latencyPoint start (some ((samples.map latencyMs).sum, samples.length)) =
      ⟨start, average (samples.map fun a => (latencyMs a : ℚ)), samples.length⟩ := by
  cases samples with
  | nil => rfl
  | cons a samples =>
    have hpos : 0 < (a :: samples).length := Nat.succ_pos _
    rw [latencyPoint, if_pos hpos, average, if_neg (by simp), cast_sum_latencyMs, List.length_map]

theorem buildLatencyOverTime_eq {platform : Platform} {eligible : List AnalyticsAlert}
    (heligible : eligibleLatencySamples platform qualifying = some eligible) (h : eligible.length < 2 ^ 31) :
    buildLatencyOverTime platform query qualifying =
      (enumerateBuckets query.window.fromUtc query.window.toUtc query.bucket).map fun starts =>
        starts.map fun start =>
          let samples := eligible.filter fun a => truncateToBucketStart a.detectedAtUtc query.bucket = start
          ⟨start, average (samples.map fun a => (latencyMs a : ℚ)), samples.length⟩ := by
  have hrows : ∀ k, Prod.snd (sumAt (periodStart query.bucket) (fun a => (latencyMs a, 1)) eligible k) ≤
      eligible.length := by
    intro k
    rw [sumAt_pair]
    exact List.length_filter_le _ _
  have hrolled : ∀ k, sumAt (fun row : ℤ × ℤ × ℕ => truncateToBucketStart row.1 query.bucket) Prod.snd
      (groupSums (periodStart query.bucket) (fun a => (latencyMs a, 1)) eligible) k =
        (((eligible.filter fun a => truncateToBucketStart a.detectedAtUtc query.bucket = k).map latencyMs).sum,
          (eligible.filter fun a => truncateToBucketStart a.detectedAtUtc query.bucket = k).length) := by
    intro k
    rw [sumAt_groupSums fun t => truncateToBucketStart t query.bucket, sumAt_pair]
    simp only [truncate_periodStart]
  have hcounts : ∀ k, Prod.snd (sumAt (fun row : ℤ × ℤ × ℕ => truncateToBucketStart row.1 query.bucket)
      Prod.snd (groupSums (periodStart query.bucket) (fun a => (latencyMs a, 1)) eligible) k) ≤
        eligible.length := by
    intro k
    rw [hrolled]
    exact List.length_filter_le _ _
  have hpoint : ∀ start, latencyPoint start (groupAt
      (groupSums (fun row : ℤ × ℤ × ℕ => truncateToBucketStart row.1 query.bucket) Prod.snd
        (groupSums (periodStart query.bucket) (fun a => (latencyMs a, 1)) eligible)) start) =
      ⟨start, average ((eligible.filter fun a =>
        truncateToBucketStart a.detectedAtUtc query.bucket = start).map fun a => (latencyMs a : ℚ)),
        (eligible.filter fun a => truncateToBucketStart a.detectedAtUtc query.bucket = start).length⟩ := by
    intro start
    rw [← latencyPoint_samples, ← hrolled, groupAt_groupSums]
    split
    · rfl
    · -- no group: no sample
      rename_i hmem
      rw [sumAt_eq_zero fun row hrow heq => hmem (List.mem_map.2 ⟨row, hrow, heq⟩)]
      rfl
  unfold buildLatencyOverTime
  rw [heligible, Option.bind_eq_bind, Option.bind_some, intGroups_groupSums hrows h, Option.bind_eq_bind,
    Option.bind_some, intGroups_groupSums hcounts h, Option.bind_eq_bind, Option.bind_some]
  simp only [hpoint]
  cases enumerateBuckets query.window.fromUtc query.window.toUtc query.bucket <;> rfl

end Buckets

/-! ## Latency samples -/

section Samples

variable {platform : Platform} {qualifying : List AnalyticsAlert}

theorem isEligible_eq {a : AnalyticsAlert}
    (h : a.detectedAtUtc ≤ a.receivedAtUtc ∨ platform.eager = true → a.detectedAtUtc + ticksPerDay ≤ maxTicks) :
    isEligible platform a = some (hasSample a) := by
  unfold isEligible
  by_cases hlimit : a.detectedAtUtc ≤ a.receivedAtUtc ∨ platform.eager = true
  · rw [if_pos hlimit, if_neg (not_lt.2 (h hlimit))]
    rfl
  · rw [if_neg hlimit, hasSample, decide_eq_false (not_or.1 hlimit).1, Bool.false_and]

theorem eligibleLatencySamples_eq (h : ∀ a ∈ qualifying, a.detectedAtUtc ≤ a.receivedAtUtc ∨
    platform.eager = true → a.detectedAtUtc + ticksPerDay ≤ maxTicks) :
    eligibleLatencySamples platform qualifying = some (qualifying.filter hasSample) := by
  induction qualifying with
  | nil => rfl
  | cons a alerts ih =>
    rw [eligibleLatencySamples, isEligible_eq (h a List.mem_cons_self),
      ih fun b hb => h b (List.mem_cons_of_mem a hb), List.filter_cons]
    rfl

/-- The samples exist only where no limit overflows. -/
theorem limit_of_eligible {eligible : List AnalyticsAlert}
    (h : eligibleLatencySamples platform qualifying = some eligible) :
    ∀ a ∈ qualifying, a.detectedAtUtc ≤ a.receivedAtUtc ∨ platform.eager = true →
      a.detectedAtUtc + ticksPerDay ≤ maxTicks := by
  induction qualifying generalizing eligible with
  | nil => simp
  | cons a alerts ih =>
    rw [eligibleLatencySamples] at h
    obtain ⟨keep, hkeep, h⟩ := Option.bind_eq_some_iff.1 h
    obtain ⟨rest, hrest, -⟩ := Option.bind_eq_some_iff.1 h
    intro b hb hlimit
    rcases List.mem_cons.1 hb with rfl | hmem
    · by_contra hover
      rw [isEligible, if_pos hlimit, if_pos (not_le.1 hover)] at hkeep
      cases hkeep
    · exact ih hrest b hmem hlimit

end Samples

/-! ## The Branches -/

section Branches

variable {db : AnalyticsDb} {query : AnalyticsQuery} {platform : Platform} {qualifying : List AnalyticsAlert}

/-- A key finds one row. -/
theorem filter_cameraId {cameras : List Camera} (h : (cameras.map Camera.cameraId).Nodup) {c : Camera}
    (hc : c ∈ cameras) : cameras.filter (fun c' => c'.cameraId = c.cameraId) = [c] := by
  induction cameras with
  | nil => cases hc
  | cons d cameras ih =>
    rw [List.map_cons, List.nodup_cons] at h
    rcases List.mem_cons.1 hc with rfl | hmem
    · have hnone : cameras.filter (fun c' => c'.cameraId = c.cameraId) = [] := by
        rw [List.filter_eq_nil_iff]
        intro c' hc' heq
        exact h.1 (List.mem_map.2 ⟨c', hc', of_decide_eq_true heq⟩)
      rw [List.filter_cons_of_pos (by simp), hnone]
    · have hne : d.cameraId ≠ c.cameraId := fun heq => h.1 (heq ▸ List.mem_map_of_mem hmem)
      rw [List.filter_cons_of_neg (by simpa using hne), ih h.2 hmem]

/-- A qualifying Alert has its Camera in the Branch of the filter. -/
theorem camera_of_mem {a : AnalyticsAlert} (h : a ∈ qualifyingAlerts platform db query) :
    ∃ c ∈ db.cameras, c.cameraId = a.cameraId ∧
      query.branchId.all (fun branchId => c.branchId = branchId) = true := by
  have hmem := (List.mem_filter.1 h).2
  simp only [Bool.and_eq_true, List.any_eq_true, decide_eq_true_eq] at hmem
  obtain ⟨⟨-, c, hc, hid⟩, -⟩ := hmem
  obtain ⟨hcamera, hbranch⟩ := List.mem_filter.1 hc
  exact ⟨c, hcamera, hid, hbranch⟩

theorem exists_camera {a : AnalyticsAlert} (h : a ∈ qualifyingAlerts platform db query) :
    ∃ c ∈ db.cameras, c.cameraId = a.cameraId := by
  obtain ⟨c, hc, hid, -⟩ := camera_of_mem h
  exact ⟨c, hc, hid⟩

theorem ofBranch_eq {a : AnalyticsAlert} {c : Camera} (hc : c ∈ db.cameras) (hid : c.cameraId = a.cameraId)
    (b : Guid) : ofBranch db b a = decide (c.branchId = b) := by
  have hfilter := filter_cameraId db.cameraIds hc
  rw [hid] at hfilter
  have hany : ofBranch db b a =
      (db.cameras.filter fun c' => c'.cameraId = a.cameraId).any fun c' => c'.branchId = b := by
    rw [List.any_filter]
    rfl
  rw [hany, hfilter]
  simp

/-- The join has one row for each qualifying Alert. -/
theorem joinedBranches_cons {a : AnalyticsAlert} {c : Camera} (hc : c ∈ db.cameras)
    (hid : c.cameraId = a.cameraId) (alerts : List AnalyticsAlert) :
    joinedBranches db (a :: alerts) = c.branchId :: joinedBranches db alerts := by
  have hfilter := filter_cameraId db.cameraIds hc
  rw [hid] at hfilter
  rw [joinedBranches, List.flatMap_cons, hfilter]
  rfl

theorem length_joinedBranches (h : ∀ a ∈ qualifying, ∃ c ∈ db.cameras, c.cameraId = a.cameraId) :
    (joinedBranches db qualifying).length = qualifying.length := by
  induction qualifying with
  | nil => rfl
  | cons a alerts ih =>
    obtain ⟨c, hc, hid⟩ := h a List.mem_cons_self
    rw [joinedBranches_cons hc hid, List.length_cons, List.length_cons,
      ih fun b hb => h b (List.mem_cons_of_mem a hb)]

theorem length_filter_joinedBranches (h : ∀ a ∈ qualifying, ∃ c ∈ db.cameras, c.cameraId = a.cameraId)
    (b : Guid) : ((joinedBranches db qualifying).filter (· = b)).length =
      (qualifying.filter (ofBranch db b)).length := by
  induction qualifying with
  | nil => rfl
  | cons a alerts ih =>
    obtain ⟨c, hc, hid⟩ := h a List.mem_cons_self
    have hrest := ih fun b hb => h b (List.mem_cons_of_mem a hb)
    rw [joinedBranches_cons hc hid, List.filter_cons, List.filter_cons, ofBranch_eq hc hid]
    split
    · rw [List.length_cons, List.length_cons, hrest]
    · exact hrest

/-- Every joined row belongs to a Branch of the filter. -/
theorem mem_filteredBranches_of_joined {b : Guid}
    (h : b ∈ joinedBranches db (qualifyingAlerts platform db query)) :
    b ∈ (filteredBranches db query).map Branch.branchId := by
  obtain ⟨a, ha, hb⟩ := List.mem_flatMap.1 h
  obtain ⟨c, hc, hid, hbranch⟩ := camera_of_mem ha
  have hfilter := filter_cameraId db.cameraIds hc
  rw [hid] at hfilter
  rw [hfilter, List.map_singleton, List.mem_singleton] at hb
  obtain ⟨branch, hmem, heq⟩ := List.mem_map.1 (db.branchOfCamera c hc)
  refine List.mem_map.2 ⟨branch, List.mem_filter.2 ⟨hmem, ?_⟩, heq.trans hb.symm⟩
  rw [heq]
  exact hbranch

theorem buildDetectionsByBranch_eq (h : ∀ a ∈ qualifying, ∃ c ∈ db.cameras, c.cameraId = a.cameraId)
    (hsmall : qualifying.length < 2 ^ 31) :
    buildDetectionsByBranch platform db query qualifying =
      some (((filteredBranches db query).map (branchPoint db qualifying)).insertionSort
        fun p q => pointLe platform p q = true) := by
  have hcount : ∀ b, sumAt id (fun _ => 1) (joinedBranches db qualifying) b =
      (qualifying.filter (ofBranch db b)).length := by
    intro b
    rw [sumAt_one, ← length_filter_joinedBranches h]
    rfl
  have hle : ∀ b, id (sumAt id (fun _ => 1) (joinedBranches db qualifying) b) ≤ qualifying.length := by
    intro b
    rw [id, hcount]
    exact List.length_filter_le _ _
  unfold buildDetectionsByBranch
  rw [intGroups_groupSums hle hsmall, Option.bind_eq_bind, Option.bind_some]
  simp only [getD_groupAt, hcount]
  rfl

end Branches

/-! ## The summary -/

section Summary

variable {platform : Platform} {qualifying : List AnalyticsAlert}

/-- The three bands split the Alerts. -/
theorem length_bands (alerts : List AnalyticsAlert) :
    (alerts.filter fun a => highConfidenceThreshold ≤ a.confidence).length +
      (alerts.filter fun a =>
        mediumConfidenceThreshold ≤ a.confidence && a.confidence < highConfidenceThreshold).length +
      (alerts.filter fun a => a.confidence < mediumConfidenceThreshold).length = alerts.length := by
  have hthresholds : mediumConfidenceThreshold < highConfidenceThreshold := by decide +kernel
  induction alerts with
  | nil => rfl
  | cons a alerts ih =>
    simp only [List.filter_cons, List.length_cons]
    by_cases hhigh : highConfidenceThreshold ≤ a.confidence
    · have hmedium : ¬ a.confidence < highConfidenceThreshold := not_lt.2 hhigh
      have hlow : ¬ a.confidence < mediumConfidenceThreshold := fun h => hmedium (h.trans hthresholds)
      simp only [hhigh, hmedium, hlow, decide_true, decide_false, Bool.and_false, if_true,
        Bool.false_eq_true, if_false, List.length_cons]
      omega
    · have hmedium : a.confidence < highConfidenceThreshold := not_le.1 hhigh
      by_cases hlow : a.confidence < mediumConfidenceThreshold
      · simp only [hhigh, hmedium, hlow, not_le.2 hlow, decide_true, decide_false, Bool.false_and, if_true,
          Bool.false_eq_true, if_false, List.length_cons]
        omega
      · simp only [hhigh, hmedium, hlow, not_lt.1 hlow, decide_true, decide_false, Bool.and_self, if_true,
          Bool.false_eq_true, if_false, List.length_cons]
        omega

/-- What the summary says when it is computed. -/
theorem of_buildSummary {summary : AnalyticsSummaryView} (h : buildSummary platform qualifying = some summary) :
    qualifying.length < 2 ^ 31 ∧ (∃ eligible, eligibleLatencySamples platform qualifying = some eligible ∧
      summary.latencySampleCount = eligible.length) ∧
    summary.totalDetections = qualifying.length ∧
    summary.confidenceHigh + summary.confidenceMedium + summary.confidenceLow = qualifying.length ∧
    summary.latencySampleCount + summary.latencySamplesExcluded = qualifying.length := by
  unfold buildSummary at h
  obtain ⟨total, htotal, h⟩ := Option.bind_eq_some_iff.1 h
  obtain ⟨high, hhigh, h⟩ := Option.bind_eq_some_iff.1 h
  obtain ⟨medium, hmedium, h⟩ := Option.bind_eq_some_iff.1 h
  obtain ⟨low, hlow, h⟩ := Option.bind_eq_some_iff.1 h
  obtain ⟨withSnapshot, -, h⟩ := Option.bind_eq_some_iff.1 h
  obtain ⟨eligible, heligible, h⟩ := Option.bind_eq_some_iff.1 h
  obtain ⟨count, hcount, h⟩ := Option.bind_eq_some_iff.1 h
  obtain ⟨hsmall, rfl⟩ := intCount_eq_some_iff.1 htotal
  obtain ⟨-, rfl⟩ := intCount_eq_some_iff.1 hhigh
  obtain ⟨-, rfl⟩ := intCount_eq_some_iff.1 hmedium
  obtain ⟨-, rfl⟩ := intCount_eq_some_iff.1 hlow
  obtain ⟨-, rfl⟩ := intCount_eq_some_iff.1 hcount
  cases h
  exact ⟨hsmall, ⟨eligible, heligible, rfl⟩, rfl, length_bands qualifying, by simp⟩

theorem exists_buildSummary (hsmall : qualifying.length < 2 ^ 31)
    (hlimits : ∀ a ∈ qualifying, a.detectedAtUtc ≤ a.receivedAtUtc ∨ platform.eager = true →
      a.detectedAtUtc + ticksPerDay ≤ maxTicks) : ∃ summary, buildSummary platform qualifying = some summary := by
  have hcount : ∀ p : AnalyticsAlert → Bool,
      intCount (qualifying.filter p).length = some (qualifying.filter p).length := by
    intro p
    exact intCount_eq_some_iff.2 ⟨lt_of_le_of_lt (List.length_filter_le _ _) hsmall, rfl⟩
  unfold buildSummary
  rw [intCount_eq_some_iff.2 ⟨hsmall, rfl⟩, eligibleLatencySamples_eq hlimits]
  simp only [hcount, Option.bind_eq_bind, Option.bind_some]
  exact ⟨_, rfl⟩

end Summary

/-! ## The view -/

section View

variable {platform : Platform} {db : AnalyticsDb} {query : AnalyticsQuery} {starts : List ℤ}
  {alerts : List AnalyticsAlert}

theorem inBucket_eq {start : ℤ} (hdvd : query.bucket.ticks ∣ start) (a : AnalyticsAlert) :
    decide (truncateToBucketStart a.detectedAtUtc query.bucket = start) = inBucket query.bucket start a := by
  rw [inBucket, ← Bool.decide_and, decide_eq_decide]
  exact truncateToBucketStart_eq_iff hdvd

/-- Grouped by the start of a bucket are the Alerts in it. -/
theorem filter_inBucket (h : enumerateBuckets query.window.fromUtc query.window.toUtc query.bucket = some starts)
    {start : ℤ} (hstart : start ∈ starts) :
    alerts.filter (fun a => truncateToBucketStart a.detectedAtUtc query.bucket = start) =
      alerts.filter (inBucket query.bucket start) :=
  List.filter_congr fun a _ => inBucket_eq ((tiling_of_enumerateBuckets h).dvd_of_mem
    (dvd_truncateToBucketStart query.window.fromUtc query.bucket) hstart) a

theorem buildDetectionsOverTime_of_starts
    (h : enumerateBuckets query.window.fromUtc query.window.toUtc query.bucket = some starts)
    (hsmall : alerts.length < 2 ^ 31) :
    buildDetectionsOverTime query alerts = some (starts.map (detectionPoint query.bucket alerts)) := by
  rw [buildDetectionsOverTime_eq hsmall, h, Option.map_some, Option.some.injEq]
  refine List.map_congr_left fun start hstart => ?_
  rw [detectionPoint, filter_inBucket h hstart]

theorem buildLatencyOverTime_of_starts {eligible : List AnalyticsAlert}
    (h : enumerateBuckets query.window.fromUtc query.window.toUtc query.bucket = some starts)
    (heligible : eligibleLatencySamples platform alerts = some eligible) (hsmall : eligible.length < 2 ^ 31) :
    buildLatencyOverTime platform query alerts = some (starts.map (samplePoint query.bucket eligible)) := by
  rw [buildLatencyOverTime_eq heligible hsmall, h, Option.map_some, Option.some.injEq]
  refine List.map_congr_left fun start hstart => ?_
  simp only [samplePoint, filter_inBucket h hstart]

/-- Each Alert of the window is in one bucket, so the buckets split the Alerts. -/
theorem sum_buckets (h : enumerateBuckets query.window.fromUtc query.window.toUtc query.bucket = some starts)
    (hwindow : ∀ a ∈ alerts, query.window.fromUtc ≤ a.detectedAtUtc ∧ a.detectedAtUtc < query.window.toUtc) :
    (starts.map fun start => (alerts.filter (inBucket query.bucket start)).length).sum = alerts.length := by
  have hnodup := (tiling_of_enumerateBuckets h).nodup_cells query.bucket.ticks_pos
  have hsum := sum_sumAt (fun a => truncateToBucketStart a.detectedAtUtc query.bucket) (fun _ => 1) hnodup
    fun a ha => (existsUnique_bucket h (hwindow a ha).1 (hwindow a ha).2).1
  rw [List.map_congr_left fun start hstart => (sumAt_one start).trans
    (congrArg List.length (filter_inBucket h hstart))] at hsum
  rw [hsum]
  simp

/-- So do the Branches. -/
theorem sum_branches : ((filteredBranches db query).map fun b =>
      ((qualifyingAlerts platform db query).filter (ofBranch db b.branchId)).length).sum =
      (qualifyingAlerts platform db query).length := by
  have hcamera : ∀ a ∈ qualifyingAlerts platform db query, ∃ c ∈ db.cameras, c.cameraId = a.cameraId :=
    fun a ha => exists_camera ha
  have hnodup : ((filteredBranches db query).map Branch.branchId).Nodup :=
    db.branchIds.sublist (List.filter_sublist.map _)
  have hsum := sum_sumAt id (fun _ => 1) hnodup
    fun b (hb : b ∈ joinedBranches db (qualifyingAlerts platform db query)) =>
      mem_filteredBranches_of_joined hb
  have hcount : ∀ b : Branch, sumAt id (fun _ => 1) (joinedBranches db (qualifyingAlerts platform db query))
      b.branchId = ((qualifyingAlerts platform db query).filter (ofBranch db b.branchId)).length := by
    intro b
    rw [sumAt_one, ← length_filter_joinedBranches hcamera]
    rfl
  rw [List.map_map, Function.comp_def, List.map_congr_left fun b _ => hcount b] at hsum
  rw [hsum]
  simp [length_joinedBranches hcamera]

theorem window_of_mem {a : AnalyticsAlert} (h : a ∈ qualifyingAlerts platform db query) :
    query.window.fromUtc ≤ a.detectedAtUtc ∧ a.detectedAtUtc < query.window.toUtc := by
  have hmem := (List.mem_filter.1 h).2
  simp only [Bool.and_eq_true, decide_eq_true_eq] at hmem
  exact hmem.1.1

/-- Within the range of its types the view is computed, and its figures agree. -/
theorem exists_consistent (hmissing : branchMissing db query = false)
    (h : WithinRange platform query (qualifyingAlerts platform db query)) :
    ∃ view, getOperational platform db query = some (some view) ∧
      Consistent db query (qualifyingAlerts platform db query) view := by
  obtain ⟨starts, hstarts⟩ := Option.isSome_iff_exists.1
    ((enumerateBuckets_isSome_iff query.window query.bucket).2 h.lastBucket)
  obtain ⟨summary, hsummary⟩ := exists_buildSummary h.small h.limits
  obtain ⟨-, ⟨eligible, heligible, hsamples⟩, htotal, hbands, hexcluded⟩ := of_buildSummary hsummary
  have hfilter := heligible
  rw [eligibleLatencySamples_eq h.limits, Option.some.injEq] at hfilter
  have hsmall : eligible.length < 2 ^ 31 := by
    rw [← hfilter]
    exact lt_of_le_of_lt (List.length_filter_le _ _) h.small
  have hwindow : ∀ a ∈ qualifyingAlerts platform db query,
      query.window.fromUtc ≤ a.detectedAtUtc ∧ a.detectedAtUtc < query.window.toUtc :=
    fun a ha => window_of_mem ha
  have htiling := tiling_of_enumerateBuckets hstarts
  have hstartsOf : (starts.map (detectionPoint query.bucket (qualifyingAlerts platform db query))).map
      TimeBucketPoint.periodStartUtc = starts := by
    rw [List.map_map]
    exact List.map_id _
  refine ⟨⟨summary, starts.map (detectionPoint query.bucket (qualifyingAlerts platform db query)),
    ((filteredBranches db query).map (branchPoint db (qualifyingAlerts platform db query))).insertionSort
      fun p q => pointLe platform p q = true,
    starts.map (samplePoint query.bucket eligible)⟩, ?_, ?_⟩
  · simp only [getOperational, hmissing, hsummary, buildDetectionsOverTime_of_starts hstarts h.small,
      buildDetectionsByBranch_eq (fun a ha => exists_camera ha) h.small,
      buildLatencyOverTime_of_starts hstarts heligible hsmall, Bool.false_eq_true, if_false,
      Option.bind_eq_bind, Option.bind_some, Option.pure_def]
  · refine
      { contiguous := hstartsOf.symm ▸ htiling.isChain
        ascending := hstartsOf.symm ▸ htiling.pairwise_lt query.bucket.ticks_pos
        covers := ?_
        counted := ?_
        once := ?_
        total := htotal
        bucketTotal := ?_
        branchCounted := ?_
        branchTotal := ?_
        bandTotal := hbands.trans htotal.symm
        latencyStarts := ?_
        latencyTotal := ?_
        excluded := by rw [hexcluded, htotal]
        means := ?_ }
    · intro utc hfrom hto
      obtain ⟨s, hs, hcell⟩ := htiling.exists_cell
        ((truncateToBucketStart_le query.window.fromUtc query.bucket).trans hfrom) hto
      exact ⟨_, List.mem_map_of_mem hs, hcell⟩
    · intro point hpoint
      obtain ⟨s, -, rfl⟩ := List.mem_map.1 hpoint
      rfl
    · intro a ha
      obtain ⟨hfrom, hto⟩ := hwindow a ha
      obtain ⟨hmem, honly⟩ := existsUnique_bucket hstarts hfrom hto
      simp only [hstartsOf, inBucket, Bool.and_eq_true, decide_eq_true_eq]
      exact ⟨_, ⟨hmem, (honly _ hmem).2 rfl⟩, fun s hs => (honly s hs.1).1 hs.2⟩
    · rw [htotal, List.map_map]
      exact sum_buckets hstarts hwindow
    · intro point hpoint
      obtain ⟨b, -, rfl⟩ := List.mem_map.1 ((List.mem_insertionSort _).1 hpoint)
      rfl
    · rw [htotal, ((List.perm_insertionSort _ _).map _).sum_eq, List.map_map]
      exact sum_branches
    · rw [hstartsOf, List.map_map]
      exact List.map_id _
    · rw [hsamples, List.map_map]
      exact sum_buckets hstarts fun a ha => hwindow a (List.mem_of_mem_filter (hfilter ▸ ha))
    · intro point hpoint
      obtain ⟨s, -, rfl⟩ := List.mem_map.1 hpoint
      rw [hfilter]
      exact ⟨rfl, rfl⟩

end View

/-- **The analytics agree exactly within the range of their types.**  The service gives no figures for a
Branch that is not there; otherwise it gives figures that agree, or none at all. -/
theorem analytics_consistent_iff (platform : Platform) (db : AnalyticsDb) (query : AnalyticsQuery) :
    (∃ result, getOperational platform db query = some result ∧
        ∀ view ∈ result, Consistent db query (qualifyingAlerts platform db query) view) ↔
      branchMissing db query = true ∨ WithinRange platform query (qualifyingAlerts platform db query) := by
  constructor
  · rintro ⟨result, hresult, -⟩
    by_cases hmissing : branchMissing db query = true
    · exact .inl hmissing
    · refine .inr ?_
      simp only [getOperational, hmissing] at hresult
      obtain ⟨summary, hsummary, hresult⟩ := Option.bind_eq_some_iff.1 hresult
      obtain ⟨points, hpoints, -⟩ := Option.bind_eq_some_iff.1 hresult
      obtain ⟨hsmall, ⟨eligible, heligible, -⟩, -⟩ := of_buildSummary hsummary
      refine ⟨?_, limit_of_eligible heligible, hsmall⟩
      rw [← enumerateBuckets_isSome_iff, Option.isSome_iff_exists]
      rw [buildDetectionsOverTime_eq hsmall] at hpoints
      obtain ⟨starts, hstarts, -⟩ := Option.map_eq_some_iff.1 hpoints
      exact ⟨starts, hstarts⟩
  · rintro (hmissing | h)
    · refine ⟨none, ?_, by simp⟩
      rw [getOperational, if_pos hmissing]
    · by_cases hmissing : branchMissing db query = true
      · refine ⟨none, ?_, by simp⟩
        rw [getOperational, if_pos hmissing]
      · obtain ⟨view, hview, hconsistent⟩ := exists_consistent (Bool.eq_false_iff.2 hmissing) h
        refine ⟨some view, hview, ?_⟩
        rintro _ ⟨⟩
        exact hconsistent

/-- A window up to the last instant: the step behind its last hour throws, without any Alert. -/
theorem last_hour_throws : ∃ (db : AnalyticsDb) (query : AnalyticsQuery),
    query.window.toUtc = maxTicks ∧ query.bucket = .hour ∧ ∀ platform,
      getOperational platform db query = none ∧
        ¬ ∃ result, getOperational platform db query = some result ∧
          ∀ view ∈ result, Consistent db query (qualifyingAlerts platform db query) view := by
  refine ⟨⟨⟨[], []⟩, [], by decide, by decide, by simp⟩,
    ⟨⟨maxTicks - ticksPerHour, maxTicks, by decide, by decide, le_rfl, by decide⟩, .hour, none, none⟩, rfl, rfl,
    fun platform => ?_⟩
  have hthrows : enumerateBuckets (maxTicks - ticksPerHour) maxTicks .hour = none := by
    rw [← Option.not_isSome_iff_eq_none, enumerateBuckets_isSome_iff
      ⟨maxTicks - ticksPerHour, maxTicks, by decide, by decide, le_rfl, by decide⟩]
    decide
  have hnone : getOperational platform ⟨⟨[], []⟩, [], by decide, by decide, by simp⟩
      ⟨⟨maxTicks - ticksPerHour, maxTicks, by decide, by decide, le_rfl, by decide⟩, .hour, none, none⟩ =
        none := by
    obtain ⟨summary, hsummary⟩ := @exists_buildSummary platform [] (by decide) (by simp)
    simp only [getOperational, branchMissing, qualifyingAlerts, List.filter_nil, Option.any_none,
      Bool.false_eq_true, if_false, hsummary, Option.bind_eq_bind, Option.bind_some,
      buildDetectionsOverTime_eq (show ([] : List AnalyticsAlert).length < 2 ^ 31 by decide), hthrows,
      Option.map_none, Option.bind_none]
  refine ⟨hnone, ?_⟩
  rintro ⟨result, hresult, -⟩
  rw [hnone] at hresult
  cases hresult

end WeaponDetection.Backend.Analytics
