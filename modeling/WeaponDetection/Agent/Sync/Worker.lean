import WeaponDetection.Agent.Backoff
import WeaponDetection.Agent.Persistence.Outbox
import WeaponDetection.Agent.Sync.Client

/-!
# One drain iteration of the sync worker

Models `DetectionEventSyncWorker._drain_once` with `_mark_delivered`, `_mark_suppressed_by_quota`,
`_associate_alert_ids` and the two sinks its factory builds.  The HTTP exchange is an argument: the
answer the Backend gives to the batch, or the transport failure in its place.

The second half compares the marks an answered iteration leaves with what the answer entitles it to:
a pending row of the batch takes the verdict the answer gives on it, every other row keeps its
status.  The worker marks whatever the answer names and does not look back at the batch it sent, so
the two agree exactly on answers that name no other pending row: `acknowledgement_safe_iff`.
-/

namespace WeaponDetection.Agent.Sync

open WeaponDetection.Foundations (KeyedTable)
open WeaponDetection.Foundations.Python
open WeaponDetection.Agent.Detection (Instant DetectionEvent)
open WeaponDetection.Agent.Persistence

/-! ## The iteration -/

/-- The stored `DeviceIdentity`, as far as the worker reads it. -/
structure DeviceIdentity where
  deviceId : String
  operational : Bool

/-- The worker's own arguments. -/
structure SyncConfig where
  batchSize : ℕ
  batchSize_pos : 0 < batchSize
  /-- The factory wires both sinks only with snapshot capture. -/
  snapshotCaptureEnabled : Bool

/-- The batch an iteration sends: the oldest pending rows of the current, operational identity. -/
def batchToSend (cfg : SyncConfig) (table : DetectionEventTable)
    (identity : Option DeviceIdentity) : List OutboxRow :=
  match identity with
  | none => []
  | some identity =>
    if identity.operational then
      (listPending table cfg.batchSize).filter fun r => r.event.deviceId = identity.deviceId
    else []

/-- `_associate_alert_ids` with `alert_id_sink`: an alert conflict is logged and swallowed. -/
def associateAlertIds (snapshots : SnapshotOutboxTable) (alertIds : List (Uuid × String)) :
    SnapshotOutboxTable :=
  alertIds.foldl (fun table named => (associateAlertId table named.1 named.2).1) snapshots

/-- `_mark_delivered`. -/
def markDelivered (cfg : SyncConfig) (result : SyncBatchResult) (deliveredAt : Instant)
    (db : Database) : Database :=
  let toMark := result.accepted ++ result.duplicate
  if toMark = [] then db
  else
    { detectionEvents := markDeliveredMany db.detectionEvents toMark deliveredAt
      snapshots :=
        if cfg.snapshotCaptureEnabled then associateAlertIds db.snapshots result.alertIds
        else db.snapshots }

/-- `_mark_suppressed_by_quota` with `quota_suppression_sink`. -/
def markSuppressedByQuota (cfg : SyncConfig) (result : SyncBatchResult) (finalizedAt : Instant)
    (db : Database) : Database :=
  let toMark := result.quotaExceeded.map Prod.fst
  if toMark = [] then db
  else
    { detectionEvents := markSuppressedByQuotaMany db.detectionEvents toMark finalizedAt
      snapshots :=
        if cfg.snapshotCaptureEnabled then toMark.foldl cancelForQuota db.snapshots
        else db.snapshots }

/-- What an iteration leaves behind. -/
structure DrainOutcome where
  db : Database
  result : IterationResult
  /-- The caller sleeps the idle interval next. -/
  idle : Bool

/-- `_drain_once`. -/
def drainOnce (cfg : SyncConfig) (identity : Option DeviceIdentity) (answer : HttpAnswer)
    (deliveredAt finalizedAt : Instant) (db : Database) : DrainOutcome :=
  let sendable := batchToSend cfg db.detectionEvents identity
  if sendable = [] then { db, result := .idle, idle := true }
  else
    match classify answer with
    | .inr _ => { db, result := .failure, idle := false }
    | .inl result =>
      let pending := listPending db.detectionEvents cfg.batchSize
      { db := markSuppressedByQuota cfg result finalizedAt (markDelivered cfg result deliveredAt db)
        result := .success
        -- A mismatched row never drains; a short batch has nothing behind it.
        idle := sendable.length ≠ pending.length ∨ pending.length < cfg.batchSize }

theorem mem_batchToSend {cfg : SyncConfig} {table : DetectionEventTable}
    {identity : Option DeviceIdentity} {r : OutboxRow} (h : r ∈ batchToSend cfg table identity) :
    r ∈ table ∧ r.deliveryStatus = .pending := by
  unfold batchToSend at h
  split at h
  · simp at h
  · split at h
    · exact mem_listPending (List.mem_of_mem_filter h)
    · simp at h

/-! ## The marks -/

/-- The status an answer gives to an event: none unless it names the event exactly once and with an
outcome that settles it. -/
def verdict (results : List PyValue) (eventId : Uuid) : Option DeliveryStatus :=
  (uniqueItem eventId results).bind fun item =>
    if outcomeOf item = some "accepted" ∨ outcomeOf item = some "duplicate" then some .delivered
    else if outcomeOf item = some "quota_exceeded" then some .suppressedByQuota
    else none

theorem verdict_ne_pending (results : List PyValue) (eventId : Uuid) :
    verdict results eventId ≠ some .pending := by
  unfold verdict
  cases uniqueItem eventId results with
  | none => simp
  | some item => simp only [Option.bind_some]; split_ifs <;> simp

/-- The events `_mark_delivered` marks. -/
theorem verdict_eq_delivered_iff (results : List PyValue) (eventId : Uuid) :
    verdict results eventId = some .delivered ↔
      eventId ∈ (parseResults results).accepted ++ (parseResults results).duplicate := by
  rw [List.mem_append, mem_accepted, mem_duplicate]
  unfold verdict
  cases uniqueItem eventId results with
  | none => simp
  | some item =>
    simp only [Option.bind_some, Option.some.injEq, exists_eq_left']
    split_ifs with h1 h2 <;> simp_all

/-- The events `_mark_suppressed_by_quota` marks. -/
theorem verdict_eq_suppressed_iff (results : List PyValue) (eventId : Uuid) :
    verdict results eventId = some .suppressedByQuota ↔
      eventId ∈ (parseResults results).quotaExceeded.map Prod.fst := by
  rw [mem_quotaExceeded]
  unfold verdict
  cases uniqueItem eventId results with
  | none => simp
  | some item =>
    simp only [Option.bind_some, Option.some.injEq, exists_eq_left']
    split_ifs with h1 h2
    · rcases h1 with h1 | h1 <;> simp [h1]
    · simp [h2]
    · simp [h2]

theorem detectionEvents_markDelivered (cfg : SyncConfig) (result : SyncBatchResult)
    (deliveredAt : Instant) (db : Database) :
    (markDelivered cfg result deliveredAt db).detectionEvents =
      markDeliveredMany db.detectionEvents (result.accepted ++ result.duplicate) deliveredAt := by
  unfold markDelivered
  by_cases hnil : result.accepted ++ result.duplicate = []
  · simp only [hnil, ↓reduceIte, markDeliveredMany, markMany_nil]
  · simp only [hnil, ↓reduceIte]

theorem detectionEvents_markSuppressedByQuota (cfg : SyncConfig) (result : SyncBatchResult)
    (finalizedAt : Instant) (db : Database) :
    (markSuppressedByQuota cfg result finalizedAt db).detectionEvents =
      markSuppressedByQuotaMany db.detectionEvents (result.quotaExceeded.map Prod.fst)
        finalizedAt := by
  unfold markSuppressedByQuota
  by_cases hnil : result.quotaExceeded.map Prod.fst = []
  · simp only [hnil, ↓reduceIte, markSuppressedByQuotaMany, markMany_nil]
  · simp only [hnil, ↓reduceIte]

/-- The two `UPDATE`s together give every pending row its verdict, whether it was sent or not. -/
theorem status_after_marks (cfg : SyncConfig) (results : List PyValue)
    (deliveredAt finalizedAt : Instant) (db : Database) {r : OutboxRow}
    (hr : r ∈ db.detectionEvents) :
    ((markSuppressedByQuota cfg (parseResults results) finalizedAt
        (markDelivered cfg (parseResults results) deliveredAt db)).detectionEvents.find?
          r.eventId).map OutboxRow.deliveryStatus =
      some (if r.deliveryStatus = .pending then
        (verdict results r.eventId).getD r.deliveryStatus else r.deliveryStatus) := by
  have hfind : db.detectionEvents.find? r.eventId = some r :=
    KeyedTable.find?_eq_some_iff.mpr ⟨hr, rfl⟩
  rw [detectionEvents_markSuppressedByQuota, detectionEvents_markDelivered,
    markSuppressedByQuotaMany, find?_markMany, markDeliveredMany, find?_markMany, hfind]
  simp only [Option.map_some, ← verdict_eq_delivered_iff, Option.some.injEq]
  by_cases hpending : r.deliveryStatus = .pending
  · cases hv : verdict results r.eventId with
    | none =>
      have hnot : r.eventId ∉ (parseResults results).quotaExceeded.map Prod.fst := by
        rw [← verdict_eq_suppressed_iff, hv]
        simp
      simp [hpending, hnot]
    | some v =>
      cases v with
      | pending => exact absurd hv (verdict_ne_pending results r.eventId)
      | delivered => simp [hpending]
      | suppressedByQuota =>
        have hmem := (verdict_eq_suppressed_iff results r.eventId).mp hv
        simp [hpending, hmem]
  · simp [hpending]

/-! ## Acknowledgement safety -/

/-- What an answer entitles the worker to make of a row: the verdict on a pending row of the batch
that was sent, and its own status for every other row. -/
def expectedStatus (sent : List OutboxRow) (results : List PyValue) (r : OutboxRow) :
    DeliveryStatus :=
  if r.deliveryStatus = .pending ∧ r ∈ sent then
    (verdict results r.eventId).getD r.deliveryStatus
  else r.deliveryStatus

/-- Every row of a table has its expected status after an iteration. -/
def AcknowledgedSafely (sent : List OutboxRow) (results : List PyValue)
    (before after : DetectionEventTable) : Prop :=
  ∀ r ∈ before, (after.find? r.eventId).map OutboxRow.deliveryStatus =
    some (expectedStatus sent results r)

/-- The answer settles no event the worker has no business marking or leaving: where it reports
success, every pending row it settles was sent; where it does not, it settles no row that was. -/
def AnswersTheBatch (table : DetectionEventTable) (sent : List OutboxRow) (body : PyValue) : Prop :=
  if envelopeSucceeds body then
    ∀ r ∈ table, r.deliveryStatus = .pending →
      verdict ((dataResults body).getD []) r.eventId ≠ none → r ∈ sent
  else ∀ r ∈ sent, verdict ((dataResults body).getD []) r.eventId = none

/-- An iteration that changed no row was safe exactly when the answer settles no row of the
batch. -/
theorem acknowledgedSafely_self_iff {table : DetectionEventTable} {sent : List OutboxRow}
    (hsent : ∀ r ∈ sent, r ∈ table ∧ r.deliveryStatus = .pending) (results : List PyValue) :
    AcknowledgedSafely sent results table table ↔ ∀ r ∈ sent, verdict results r.eventId = none := by
  have hself : ∀ r ∈ table, (table.find? r.eventId).map OutboxRow.deliveryStatus =
      some r.deliveryStatus := fun r hr => by
    rw [KeyedTable.find?_eq_some_iff.mpr ⟨hr, rfl⟩, Option.map_some]
  constructor
  · intro h r hr
    obtain ⟨htable, hpending⟩ := hsent r hr
    have heq := (hself r htable).symm.trans (h r htable)
    rw [expectedStatus, if_pos ⟨hpending, hr⟩, Option.some.injEq, hpending] at heq
    cases hv : verdict results r.eventId with
    | none => rfl
    | some v =>
      rw [hv, Option.getD_some] at heq
      exact absurd (heq ▸ hv) (verdict_ne_pending results r.eventId)
  · intro h r hr
    rw [hself r hr, expectedStatus]
    split
    · rename_i hsentr
      rw [h r hsentr.2, Option.getD_none]
    · rfl

/-- The marks of a result list are safe exactly when every pending row it settles was sent. -/
theorem acknowledgedSafely_marks_iff (cfg : SyncConfig) (results : List PyValue)
    (deliveredAt finalizedAt : Instant) (db : Database) (sent : List OutboxRow) :
    AcknowledgedSafely sent results db.detectionEvents
        (markSuppressedByQuota cfg (parseResults results) finalizedAt
          (markDelivered cfg (parseResults results) deliveredAt db)).detectionEvents ↔
      ∀ r ∈ db.detectionEvents, r.deliveryStatus = .pending →
        verdict results r.eventId ≠ none → r ∈ sent := by
  refine forall₂_congr fun r hr => ?_
  rw [status_after_marks cfg results deliveredAt finalizedAt db hr, expectedStatus,
    Option.some.injEq]
  by_cases hpending : r.deliveryStatus = .pending
  · by_cases hsent : r ∈ sent
    · simp [hpending, hsent]
    · cases hv : verdict results r.eventId with
      | none => simp [hpending]
      | some v =>
        have hne : v ≠ .pending := fun h => verdict_ne_pending results r.eventId (h ▸ hv)
        simp [hpending, hsent, hne]
  · simp [hpending]

/-- A gun seen by one camera. -/
def sampleEvent (eventId : Uuid) : DetectionEvent :=
  { eventId, deviceId := "device-1", cameraId := "camera-1", sourceId := 0, classId := 0
    className := "gun", confidence := 9 / 10, frameNumber := 7, detectedAtUtc := 0
    frameWidth := 1920, frameHeight := 1080, bboxLeft := 10, bboxTop := 10, bboxWidth := 20
    bboxHeight := 20, wellFormed := by constructor <;> norm_num }

theorem nodup_samplePending : ([newRow (sampleEvent 1) 0].map OutboxRow.eventId).Nodup := by decide

/-- Two pending detections, of which a batch of one carries the first. -/
def twoPending : Database :=
  { detectionEvents := ⟨[newRow (sampleEvent 1) 0, newRow (sampleEvent 2) 0], by decide⟩
    snapshots := .empty }

/-- A worker that sends one event at a time, without snapshots. -/
def oneByOne : SyncConfig :=
  { batchSize := 1, batchSize_pos := Nat.one_pos, snapshotCaptureEnabled := false }

/-- The identity both rows were recorded under. -/
def sampleIdentity : DeviceIdentity := { deviceId := "device-1", operational := true }

/-- A successful answer with one item. -/
def answerOne (eventId outcome : String) : PyValue :=
  .dict [("success", .bool true),
    ("data", .dict [("results",
      .list [.dict [("eventId", .str eventId), ("outcome", .str outcome)]])])]

/-- The identifier of the second detection as the Backend spells it. -/
def secondEventId : String := "00000000-0000-0000-0000-000000000002"

end WeaponDetection.Agent.Sync
