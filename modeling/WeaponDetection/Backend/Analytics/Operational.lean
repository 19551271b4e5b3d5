import Mathlib.Data.List.Sort
import Mathlib.Data.Rat.Defs
import WeaponDetection.Backend.AlertSync.Cameras
import WeaponDetection.Backend.Analytics.Window

/-!
# Operational analytics

Models `OperationalAnalyticsService.cs` on the tables of one moment: the qualifying Alerts, the summary
over them and the three series.  An aggregate of the database or of LINQ is an `int` and fails when it
does not fit; doubles are the rationals they stand for.  The counters of the summary that are not taken
from the qualifying Alerts are left out.
-/

namespace WeaponDetection.Backend.Analytics

open WeaponDetection.Foundations.Histogram
open WeaponDetection.Backend.AlertSync

/-! ## Tables -/

/-- The columns of `Alerts` the aggregations read. -/
structure AnalyticsAlert where
  cameraId : Guid
  detectedAtUtc : ℤ
  receivedAtUtc : ℤ
  className : String
  confidence : ℚ
  snapshotReference : Option String
  deriving DecidableEq

/-- The tables with their keys: the two primary keys and the foreign key of a Camera. -/
structure AnalyticsDb extends BranchDb where
  alerts : List AnalyticsAlert
  branchIds : (branches.map Branch.branchId).Nodup
  cameraIds : (cameras.map Camera.cameraId).Nodup
  branchOfCamera : ∀ c ∈ cameras, c.branchId ∈ branches.map Branch.branchId

/-- What the two runtimes decide. -/
structure Platform where
  /-- `=` of two texts under the collation of the database. -/
  equals : String → String → Bool
  /-- A plan evaluates the second comparison also where the first one is false. -/
  eager : Bool
  /-- `StringComparer.OrdinalIgnoreCase` puts the first text not behind the second. -/
  nameLe : String → String → Bool

/-- `AnalyticsQuery`. -/
structure AnalyticsQuery where
  window : Window
  bucket : AnalyticsBucket
  branchId : Option Guid
  detectionType : Option String

/-! ## The qualifying set -/

/-- The Cameras of the Branch filter. -/
def filteredCameras (db : AnalyticsDb) (query : AnalyticsQuery) : List Camera :=
  db.cameras.filter fun c => query.branchId.all fun branchId => c.branchId = branchId

/-- `QualifyingAlerts`. -/
def qualifyingAlerts (platform : Platform) (db : AnalyticsDb) (query : AnalyticsQuery) :
    List AnalyticsAlert :=
  db.alerts.filter fun a =>
    query.window.fromUtc ≤ a.detectedAtUtc && a.detectedAtUtc < query.window.toUtc &&
      (filteredCameras db query).any (fun c => c.cameraId = a.cameraId) &&
      query.detectionType.all (fun detectionType => platform.equals a.className detectionType)

/-- `FilteredBranches`. -/
def filteredBranches (db : AnalyticsDb) (query : AnalyticsQuery) : List Branch :=
  db.branches.filter fun b => query.branchId.all fun branchId => b.branchId = branchId

/-! ## Latency -/

/-- `DATEDIFF(millisecond, …)`: the boundaries of milliseconds passed. -/
def latencyMs (a : AnalyticsAlert) : ℤ := a.receivedAtUtc / 10000 - a.detectedAtUtc / 10000

/-- The two comparisons of `EligibleLatencySamples`; `DATEADD` fails behind the last instant. -/
def isEligible (platform : Platform) (a : AnalyticsAlert) : Option Bool :=
  if a.detectedAtUtc ≤ a.receivedAtUtc ∨ platform.eager = true then
    if maxTicks < a.detectedAtUtc + ticksPerDay then none
    else some (a.detectedAtUtc ≤ a.receivedAtUtc && a.receivedAtUtc ≤ a.detectedAtUtc + ticksPerDay)
  else some false

/-- `EligibleLatencySamples`. -/
def eligibleLatencySamples (platform : Platform) : List AnalyticsAlert → Option (List AnalyticsAlert)
  | [] => some []
  | a :: alerts => do
    let keep ← isEligible platform a
    let rest ← eligibleLatencySamples platform alerts
    return if keep then a :: rest else rest

/-! ## Aggregates -/

/-- A count as an `int`. -/
def intCount (n : ℕ) : Option ℕ := if n < 2 ^ 31 then some n else none

/-- Groups whose counts are `int`s. -/
def intGroups (count : M → ℕ) (groups : List (κ × M)) : Option (List (κ × M)) :=
  if groups.all fun group => count group.2 < 2 ^ 31 then some groups else none

/-- The average of a column; null over no rows. -/
def average (values : List ℚ) : Option ℚ :=
  if values = [] then none else some (values.sum / values.length)

/-- The element at `⌊(n − 1) / 2⌋` in ascending order. -/
def lowerMedian (values : List ℤ) : Option ℤ :=
  (values.insertionSort (· ≤ ·))[(values.length - 1) / 2]?

/-- The largest value of a column; null over no rows. -/
def largest : List ℤ → Option ℤ
  | [] => none
  | value :: values => some (values.foldl max value)

/-! ## `BuildSummaryAsync` -/

/-- `HighConfidenceThreshold`. -/
def highConfidenceThreshold : ℚ := 3 / 4

/-- `MediumConfidenceThreshold`. -/
def mediumConfidenceThreshold : ℚ := 1 / 2

/-- `AnalyticsSummaryView`, of the qualifying Alerts. -/
structure AnalyticsSummaryView where
  totalDetections : ℕ
  meanConfidence : Option ℚ
  confidenceHigh : ℕ
  confidenceMedium : ℕ
  confidenceLow : ℕ
  averageDeliveryLatencyMs : Option ℚ
  medianDeliveryLatencyMs : Option ℤ
  maxDeliveryLatencyMs : Option ℤ
  latencySampleCount : ℕ
  latencySamplesExcluded : ℤ
  alertsWithSnapshot : ℕ
  deriving DecidableEq

/-- `BuildSummaryAsync`. -/
def buildSummary (platform : Platform) (qualifying : List AnalyticsAlert) : Option AnalyticsSummaryView := do
  let total ← intCount qualifying.length
  let high ← intCount (qualifying.filter fun a => highConfidenceThreshold ≤ a.confidence).length
  let medium ← intCount (qualifying.filter fun a =>
    mediumConfidenceThreshold ≤ a.confidence && a.confidence < highConfidenceThreshold).length
  let low ← intCount (qualifying.filter fun a => a.confidence < mediumConfidenceThreshold).length
  let withSnapshot ← intCount (qualifying.filter fun a => a.snapshotReference.isSome).length
  let eligible ← eligibleLatencySamples platform qualifying
  let latencySampleCount ← intCount eligible.length
  return {
    totalDetections := total
    meanConfidence := average (qualifying.map fun a => a.confidence)
    confidenceHigh := high
    confidenceMedium := medium
    confidenceLow := low
    averageDeliveryLatencyMs := average (eligible.map fun a => (latencyMs a : ℚ))
    medianDeliveryLatencyMs := lowerMedian (eligible.map latencyMs)
    maxDeliveryLatencyMs := largest (eligible.map latencyMs)
    latencySampleCount
    latencySamplesExcluded := (total : ℤ) - latencySampleCount
    alertsWithSnapshot := withSnapshot }

/-! ## The series -/

/-- The period the database groups by: the hour of the four date parts, or the date. -/
def periodStart (bucket : AnalyticsBucket) (a : AnalyticsAlert) : ℤ :=
  if bucket = .hour then truncateToBucketStart a.detectedAtUtc .hour else dateOf a.detectedAtUtc

/-- `TimeBucketPoint`. -/
structure TimeBucketPoint where
  periodStartUtc : ℤ
  count : ℕ
  deriving DecidableEq

/-- `BuildDetectionsOverTimeAsync`. -/
def buildDetectionsOverTime (query : AnalyticsQuery) (qualifying : List AnalyticsAlert) :
    Option (List TimeBucketPoint) := do
  let rows ← intGroups id (groupSums (periodStart query.bucket) (fun _ => 1) qualifying)
  let counts ← intGroups id
    (groupSums (fun row : ℤ × ℕ => truncateToBucketStart row.1 query.bucket) Prod.snd rows)
  let starts ← enumerateBuckets query.window.fromUtc query.window.toUtc query.bucket
  return starts.map fun start => ⟨start, (groupAt counts start).getD 0⟩

/-- `BranchCountPoint`. -/
structure BranchCountPoint where
  branchId : Guid
  branchName : String
  count : ℕ
  deriving DecidableEq

/-- The Branch of each Alert, by the join with its Camera. -/
def joinedBranches (db : AnalyticsDb) (qualifying : List AnalyticsAlert) : List Guid :=
  qualifying.flatMap fun a => (db.cameras.filter fun c => c.cameraId = a.cameraId).map Camera.branchId

/-- Descending by count, then by name. -/
def pointLe (platform : Platform) (p q : BranchCountPoint) : Bool :=
  q.count < p.count || (p.count = q.count && platform.nameLe p.branchName q.branchName)

/-- `BuildDetectionsByBranchAsync`. -/
def buildDetectionsByBranch (platform : Platform) (db : AnalyticsDb) (query : AnalyticsQuery)
    (qualifying : List AnalyticsAlert) : Option (List BranchCountPoint) := do
  let counts ← intGroups id (groupSums id (fun _ => 1) (joinedBranches db qualifying))
  let points := (filteredBranches db query).map fun b =>
    ⟨b.branchId, b.name, (groupAt counts b.branchId).getD 0⟩
  return points.insertionSort fun p q => pointLe platform p q = true

/-- `LatencyBucketPoint`. -/
structure LatencyBucketPoint where
  periodStartUtc : ℤ
  averageMs : Option ℚ
  sampleCount : ℕ
  deriving DecidableEq

/-- The point of a bucket. -/
def latencyPoint (start : ℤ) (group : Option (ℤ × ℕ)) : LatencyBucketPoint :=
  match group with
  | some (sum, count) => if 0 < count then ⟨start, some (sum / count), count⟩ else ⟨start, none, 0⟩
  | none => ⟨start, none, 0⟩

/-- `BuildLatencyOverTimeAsync`. -/
def buildLatencyOverTime (platform : Platform) (query : AnalyticsQuery)
    (qualifying : List AnalyticsAlert) : Option (List LatencyBucketPoint) := do
  let eligible ← eligibleLatencySamples platform qualifying
  let rows ← intGroups Prod.snd
    (groupSums (periodStart query.bucket) (fun a => (latencyMs a, 1)) eligible)
  let rolled ← intGroups Prod.snd
    (groupSums (fun row : ℤ × ℤ × ℕ => truncateToBucketStart row.1 query.bucket) Prod.snd rows)
  let starts ← enumerateBuckets query.window.fromUtc query.window.toUtc query.bucket
  return starts.map fun start => latencyPoint start (groupAt rolled start)

/-! ## `GetOperationalAsync` -/

/-- `OperationalAnalyticsView`, without the echo of the filters. -/
structure OperationalAnalyticsView where
  summary : AnalyticsSummaryView
  detectionsOverTime : List TimeBucketPoint
  detectionsByBranch : List BranchCountPoint
  latencyOverTime : List LatencyBucketPoint
  deriving DecidableEq

/-- The Branch of the filter is not there. -/
def branchMissing (db : AnalyticsDb) (query : AnalyticsQuery) : Bool :=
  query.branchId.any fun branchId => !db.branches.any fun b => b.branchId = branchId

/-- `GetOperationalAsync`: null where the Branch is missing, `none` where it throws. -/
def getOperational (platform : Platform) (db : AnalyticsDb) (query : AnalyticsQuery) :
    Option (Option OperationalAnalyticsView) :=
  if branchMissing db query then some none
  else do
    let qualifying := qualifyingAlerts platform db query
    let summary ← buildSummary platform qualifying
    let detectionsOverTime ← buildDetectionsOverTime query qualifying
    let detectionsByBranch ← buildDetectionsByBranch platform db query qualifying
    let latencyOverTime ← buildLatencyOverTime platform query qualifying
    return some ⟨summary, detectionsOverTime, detectionsByBranch, latencyOverTime⟩

end WeaponDetection.Backend.Analytics
