import WeaponDetection.Backend.Contracts
import WeaponDetection.Foundations.DotNet
import WeaponDetection.Foundations.WriteSet

/-!
# Alerts, suppressed detections and Branch quotas

Models the entities `AlertSyncService` writes (`Alert.cs`, `SuppressedDetectionEvent.cs` and
`BranchDailyAlertQuota.cs`), their three tables and the SQL statements that change them.  The unique
keys are not part of the tables here: it is the inserting statement of the service that waits for
and observes a violation.
-/

namespace WeaponDetection.Backend.AlertSync

open WeaponDetection.Foundations

/-! ## The quota day -/

/-- `TimeSpan.TicksPerDay`. -/
def ticksPerDay : ℤ := 864000000000

/-- `DateTime.MaxValue.Ticks`. -/
def maxTicks : ℤ := 3155378975999999999

/-- The days before each month of a common year. -/
def daysToMonth : List ℕ := [0, 31, 59, 90, 120, 151, 181, 212, 243, 273, 304, 334]

/-- Year, month and day of a day counted from 0001-01-01, in periods of 400, 100, 4 and 1 years. -/
def dateOfDay (n : ℕ) : ℕ × ℕ × ℕ :=
  let y400 := n / 146097
  let n := n % 146097
  let y100 := min (n / 36524) 3
  let n := n - y100 * 36524
  let y4 := n / 1461
  let n := n % 1461
  let y1 := min (n / 365) 3
  let n := n - y1 * 365
  let leapYear := y1 == 3 && (y4 != 24 || y100 == 3)
  let starts := daysToMonth.zipIdx.map fun (days, i) => if leapYear && 2 ≤ i then days + 1 else days
  let month := (starts.filter (· ≤ n)).length
  (y400 * 400 + y100 * 100 + y4 * 4 + y1 + 1, month, n - starts.getD (month - 1) 0 + 1)

/-- A number in a fixed count of decimal digits. -/
def paddedDigits : ℕ → ℕ → List Char
  | 0, _ => []
  | width + 1, n => paddedDigits width (n / 10) ++ [Char.ofNat (48 + n % 10)]

/-- `ToString("yyyy-MM-dd")`. -/
def formatDate : ℕ × ℕ × ℕ → String
  | (year, month, day) => String.ofList (paddedDigits 4 year ++ '-' :: paddedDigits 2 month ++
      '-' :: paddedDigits 2 day)

/-- `ResolveLocalDate`.  `ConvertTimeFromUtc` stays within the range of `DateTime`. -/
def resolveLocalDate (detectedAtUtc : DateTime) (timeZone : TimeZone) : String :=
  let localTicks := max 0 (min maxTicks (detectedAtUtc.ticks + timeZone.offset detectedAtUtc.ticks))
  formatDate (dateOfDay (localTicks / ticksPerDay).toNat)

-- 2024-02-29 at 23:30 UTC, two hours east of it.
example : resolveLocalDate ⟨638448462000000000, .utc⟩ ⟨fun _ => 72000000000⟩ = "2024-03-01" := by
  decide +kernel

/-! ## Keys -/

/-- The unique key of both `Alerts` and `SuppressedDetectionEvents`. -/
structure EventKey where
  deviceId : Guid
  eventId : Guid
  deriving DecidableEq

/-- The primary key of `BranchDailyAlertQuotas`. -/
structure Slot where
  branchId : Guid
  localDate : String
  deriving DecidableEq

/-! ## Entities -/

/-- An `ArgumentException` of a constructor. -/
structure ArgumentException where
  message : String
  paramName : String
  deriving DecidableEq

/-- A check of a constructor. -/
def require (condition : Bool) (message paramName : String) : Except ArgumentException Unit :=
  if condition then .ok () else .error ⟨message, paramName⟩

/-- `ClassNameMaxLength`. -/
def classNameMaxLength : ℕ := 200

/-- The class name checks both entities make. -/
def checkClassName (className : String) : Except ArgumentException Unit := do
  require (!DotNet.isNullOrWhiteSpace className) "Class name is required." "className"
  require (DotNet.length (DotNet.trim className) ≤ classNameMaxLength)
    "Class name must not exceed 200 characters." "className"

/-- `Alert`, without the snapshot and the status, which no sync touches. -/
structure Alert where
  alertId : Guid
  deviceId : Guid
  eventId : Guid
  cameraId : Guid
  detectedAtUtc : DateTime
  receivedAtUtc : DateTime
  classId : CsInt
  className : String
  confidence : Double
  frameNumber : CsLong
  frameWidth : CsInt
  frameHeight : CsInt
  bboxLeft : Double
  bboxTop : Double
  bboxWidth : Double
  bboxHeight : Double
  deriving DecidableEq

/-- The checks of the constructor of `Alert`, in its order. -/
def Alert.check (deviceId cameraId : Guid) (evt : DetectionEventDto) :
    Except ArgumentException Unit := do
  require (deviceId ≠ 0) "Device id is required." "deviceId"
  require (evt.eventId ≠ 0) "Event id is required." "eventId"
  require (cameraId ≠ 0) "Camera id is required." "cameraId"
  checkClassName evt.className
  require (!(evt.confidence.isNaN || evt.confidence.lt (.finite 0) || (Double.finite 1).lt evt.confidence))
    "Confidence must be between 0.0 and 1.0 inclusive." "confidence"
  require (0 ≤ evt.frameNumber.val) "Frame number must not be negative." "frameNumber"
  require (0 ≤ evt.frameWidth.val) "Frame width must not be negative." "frameWidth"
  require (0 ≤ evt.frameHeight.val) "Frame height must not be negative." "frameHeight"
  require (!evt.boundingBox.left.lt (.finite 0)) "Bounding box left must not be negative." "bboxLeft"
  require (!evt.boundingBox.top.lt (.finite 0)) "Bounding box top must not be negative." "bboxTop"
  require (!evt.boundingBox.width.lt (.finite 0)) "Bounding box width must not be negative." "bboxWidth"
  require (!evt.boundingBox.height.lt (.finite 0)) "Bounding box height must not be negative."
    "bboxHeight"

/-- `BuildAlert`: the constructor of `Alert` on an event. -/
def buildAlert (newGuid deviceId resolvedCameraId : Guid) (nowUtc : DateTime)
    (evt : DetectionEventDto) : Except ArgumentException Alert :=
  (Alert.check deviceId resolvedCameraId evt).map fun _ =>
    { alertId := newGuid, deviceId, eventId := evt.eventId, cameraId := resolvedCameraId
      detectedAtUtc := evt.detectedAtUtc, receivedAtUtc := nowUtc, classId := evt.classId
      className := DotNet.trim evt.className, confidence := evt.confidence
      frameNumber := evt.frameNumber, frameWidth := evt.frameWidth, frameHeight := evt.frameHeight
      bboxLeft := evt.boundingBox.left, bboxTop := evt.boundingBox.top
      bboxWidth := evt.boundingBox.width, bboxHeight := evt.boundingBox.height }

/-- The entry of an Alert in `IX_Alerts_DeviceId_EventId`. -/
def Alert.key (a : Alert) : EventKey := ⟨a.deviceId, a.eventId⟩

/-- `SuppressedDetectionEvent`. -/
structure SuppressedDetectionEvent where
  deviceId : Guid
  eventId : Guid
  branchId : Guid
  localDate : String
  className : String
  detectedAtUtc : DateTime
  reason : String
  createdAtUtc : DateTime
  deriving DecidableEq

/-- `BranchDailyAlertQuotaReachedReason`. -/
def branchDailyAlertQuotaReachedReason : String := "BRANCH_DAILY_ALERT_QUOTA_REACHED"

/-- `LocalDateLength`. -/
def localDateLength : ℕ := 10

/-- `ReasonMaxLength`. -/
def reasonMaxLength : ℕ := 100

/-- The check of a local date that two of the entities make. -/
def checkLocalDate (localDate : String) : Except ArgumentException Unit :=
  require (!DotNet.isNullOrWhiteSpace localDate && DotNet.length localDate == localDateLength)
    "Local date must be a 10-character yyyy-MM-dd value." "localDate"

/-- The checks of the constructor of `SuppressedDetectionEvent`, in its order. -/
def SuppressedDetectionEvent.check (deviceId eventId : Guid) (slot : Slot) (className reason : String) :
    Except ArgumentException Unit := do
  require (deviceId ≠ 0) "Device id is required." "deviceId"
  require (eventId ≠ 0) "Event id is required." "eventId"
  require (slot.branchId ≠ 0) "Branch id is required." "branchId"
  checkLocalDate slot.localDate
  checkClassName className
  require (!DotNet.isNullOrWhiteSpace reason) "Reason is required." "reason"
  require (DotNet.length (DotNet.trim reason) ≤ reasonMaxLength)
    "Reason must not exceed 100 characters." "reason"

/-- The constructor of `SuppressedDetectionEvent`. -/
def SuppressedDetectionEvent.create (deviceId eventId : Guid) (slot : Slot) (className : String)
    (detectedAtUtc : DateTime) (reason : String) (createdAtUtc : DateTime) :
    Except ArgumentException SuppressedDetectionEvent :=
  (check deviceId eventId slot className reason).map fun _ =>
    { deviceId, eventId, branchId := slot.branchId, localDate := slot.localDate
      className := DotNet.trim className, detectedAtUtc, reason := DotNet.trim reason, createdAtUtc }

/-- Its primary key. -/
def SuppressedDetectionEvent.key (s : SuppressedDetectionEvent) : EventKey := ⟨s.deviceId, s.eventId⟩

/-- The Branch and day it is counted for. -/
def SuppressedDetectionEvent.slot (s : SuppressedDetectionEvent) : Slot := ⟨s.branchId, s.localDate⟩

/-- `BranchDailyAlertQuota`, the columns beside its key. -/
structure BranchDailyAlertQuota where
  acceptedAlertCount : ℕ
  suppressedDetectionCount : ℕ
  gunSuppressedCount : ℕ
  knifeSuppressedCount : ℕ
  firstSuppressedAtUtc : Option DateTime
  lastSuppressedAtUtc : Option DateTime
  deriving DecidableEq

/-- The row its constructor makes. -/
def BranchDailyAlertQuota.fresh : BranchDailyAlertQuota := ⟨0, 0, 0, 0, none, none⟩

/-- The checks of the constructor of `BranchDailyAlertQuota`. -/
def BranchDailyAlertQuota.check (slot : Slot) : Except ArgumentException Unit := do
  require (slot.branchId ≠ 0) "Branch id is required." "branchId"
  checkLocalDate slot.localDate

/-- The conditional increment, on a row that matches it. -/
def BranchDailyAlertQuota.consume (q : BranchDailyAlertQuota) : BranchDailyAlertQuota :=
  { q with acceptedAlertCount := q.acceptedAlertCount + 1 }

/-- The update of `IncrementSuppressionCountersAsync`. -/
def BranchDailyAlertQuota.countSuppression (q : BranchDailyAlertQuota) (isGun isKnife : Bool)
    (nowUtc : DateTime) : BranchDailyAlertQuota :=
  { q with
    suppressedDetectionCount := q.suppressedDetectionCount + 1
    gunSuppressedCount := if isGun then q.gunSuppressedCount + 1 else q.gunSuppressedCount
    knifeSuppressedCount := if isKnife then q.knifeSuppressedCount + 1 else q.knifeSuppressedCount
    firstSuppressedAtUtc := q.firstSuppressedAtUtc.or (some nowUtc)
    lastSuppressedAtUtc := some nowUtc }

/-- The counters still fit their `int` columns. -/
def BranchDailyAlertQuota.fits (q : BranchDailyAlertQuota) : Bool :=
  q.suppressedDetectionCount < 2 ^ 31 && q.gunSuppressedCount < 2 ^ 31 && q.knifeSuppressedCount < 2 ^ 31

/-! ## Tables and writes -/

/-- A row of `Alerts`.  `chargedTo` is not a column: it remembers the quota row whose conditional
increment let the Alert in. -/
structure StoredAlert where
  alert : Alert
  chargedTo : Option Slot
  deriving DecidableEq

/-- The three tables. -/
structure AlertDb where
  alerts : List StoredAlert
  suppressed : List SuppressedDetectionEvent
  quotas : Slot → Option BranchDailyAlertQuota

/-- A statement that changes rows, as it goes through. -/
inductive Write where
  | insertQuota (slot : Slot)
  | consumeQuota (slot : Slot)
  | insertAlert (row : StoredAlert)
  | insertSuppressed (row : SuppressedDetectionEvent)
  | countSuppression (slot : Slot) (isGun isKnife : Bool) (nowUtc : DateTime)
  deriving DecidableEq

/-- What a statement locks until its session ends. -/
inductive Resource where
  | quota (slot : Slot)
  | alert (key : EventKey)
  | suppressed (key : EventKey)
  deriving DecidableEq

/-- The row or index entry a write is about. -/
def Write.resource : Write → Resource
  | .insertQuota slot | .consumeQuota slot | .countSuppression slot _ _ _ => .quota slot
  | .insertAlert row => .alert row.alert.key
  | .insertSuppressed row => .suppressed row.key

/-- What a write makes of the quota row it is about: an update of a missing row changes nothing. -/
def Write.onQuota : Write → Option BranchDailyAlertQuota → Option BranchDailyAlertQuota
  | .insertQuota _, q => q.or (some .fresh)
  | .consumeQuota _, q => q.map .consume
  | .countSuppression _ isGun isKnife nowUtc, q => q.map (·.countSuppression isGun isKnife nowUtc)
  | _, q => q

/-- The Alert a write inserts. -/
def Write.alerts : Write → List StoredAlert
  | .insertAlert row => [row]
  | _ => []

/-- The suppressed detection a write inserts. -/
def Write.suppressed : Write → List SuppressedDetectionEvent
  | .insertSuppressed row => [row]
  | _ => []

/-- The tables after a write. -/
def Write.apply (db : AlertDb) (w : Write) : AlertDb where
  alerts := db.alerts ++ w.alerts
  suppressed := db.suppressed ++ w.suppressed
  quotas slot := if w.resource = .quota slot then w.onQuota (db.quotas slot) else db.quotas slot

/-- What each resource of the tables reads as: a quota row, or the rows under a unique key. -/
def Resource.Cell : Resource → Type
  | .quota _ => Option BranchDailyAlertQuota
  | .alert _ => List StoredAlert
  | .suppressed _ => List SuppressedDetectionEvent

/-- A read of one resource. -/
def AlertDb.read (db : AlertDb) : (r : Resource) → r.Cell
  | .quota slot => db.quotas slot
  | .alert key => db.alerts.filter (·.alert.key = key)
  | .suppressed key => db.suppressed.filter (·.key = key)

theorem read_apply_of_ne (db : AlertDb) (w : Write) (r : Resource) (h : w.resource ≠ r) :
    (w.apply db).read r = db.read r := by
  cases r with
  | quota slot => exact if_neg h
  | alert key =>
    show (db.alerts ++ w.alerts).filter _ = db.alerts.filter _
    cases w <;> simp_all [Write.alerts, Write.resource]
  | suppressed key =>
    show (db.suppressed ++ w.suppressed).filter _ = db.suppressed.filter _
    cases w <;> simp_all [Write.suppressed, Write.resource]

theorem read_apply_congr (db db' : AlertDb) (w : Write)
    (h : db.read w.resource = db'.read w.resource) :
    (w.apply db).read w.resource = (w.apply db').read w.resource := by
  cases w with
  | insertAlert row =>
    show (db.alerts ++ [row]).filter _ = (db'.alerts ++ [row]).filter _
    rw [List.filter_append, List.filter_append]
    exact congrArg (· ++ _) h
  | insertSuppressed row =>
    show (db.suppressed ++ [row]).filter _ = (db'.suppressed ++ [row]).filter _
    rw [List.filter_append, List.filter_append]
    exact congrArg (· ++ _) h
  | insertQuota slot | consumeQuota slot | countSuppression slot =>
    have hq : db.quotas slot = db'.quotas slot := h
    show (if _ then _ else db.quotas slot) = if _ then _ else db'.quotas slot
    rw [hq]

/-- The tables as a store with pending writes. -/
def alertStore : WriteModel AlertDb Write Resource where
  apply db w := w.apply db
  resource := Write.resource
  Cell := Resource.Cell
  read r db := db.read r
  read_apply_of_ne := read_apply_of_ne
  read_apply_congr := read_apply_congr

/-- The tables as a session with these uncommitted writes sees them. -/
abbrev AlertDb.view (db : AlertDb) (pending : List Write) : AlertDb := alertStore.view db pending

theorem quotas_apply_of_eq {w : Write} {slot : Slot} (h : w.resource = .quota slot) (db : AlertDb) :
    (w.apply db).quotas slot = w.onQuota (db.quotas slot) := if_pos h

theorem quotas_apply_of_ne {w : Write} {slot : Slot} (h : w.resource ≠ .quota slot) (db : AlertDb) :
    (w.apply db).quotas slot = db.quotas slot := if_neg h

theorem view_alerts (db : AlertDb) (ws : List Write) :
    (db.view ws).alerts = db.alerts ++ ws.flatMap Write.alerts := by
  induction ws generalizing db with
  | nil => simp
  | cons w ws ih =>
    show ((w.apply db).view ws).alerts = _
    rw [ih, List.flatMap_cons, ← List.append_assoc]
    rfl

theorem view_suppressed (db : AlertDb) (ws : List Write) :
    (db.view ws).suppressed = db.suppressed ++ ws.flatMap Write.suppressed := by
  induction ws generalizing db with
  | nil => simp
  | cons w ws ih =>
    show ((w.apply db).view ws).suppressed = _
    rw [ih, List.flatMap_cons, ← List.append_assoc]
    rfl

theorem view_concat (db : AlertDb) (ws : List Write) (w : Write) :
    db.view (ws ++ [w]) = w.apply (db.view ws) :=
  alertStore.view_concat db ws w

end WeaponDetection.Backend.AlertSync
