import WeaponDetection.Agent.Detection.Validation
import WeaponDetection.Foundations.KeyedTable
import Mathlib.Data.List.Sort

/-!
# The Agent's SQLite outbox

Models `persistence/detection_event_repository.py` and `persistence/snapshot_outbox_repository.py`:
the two tables `DetectionEvent` and `SnapshotOutbox` and the operations that read or write them.
Every operation is one SQLite transaction, so it is one function from the database to the database.

Times are instants (the stored ISO-8601 UTC text orders the same way) and identifiers are the
128-bit values of the stored UUID text, which orders the same way as well.
-/

namespace WeaponDetection.Agent.Persistence

open WeaponDetection.Foundations (KeyedTable)
open WeaponDetection.Foundations.Python (Uuid)
open WeaponDetection.Agent.Detection (DetectionEvent DetectionFields Instant)

/-! ## The `DetectionEvent` table -/

/-- `DeliveryStatus`. -/
inductive DeliveryStatus where
  | pending
  | delivered
  | suppressedByQuota
  deriving DecidableEq

/-- One row of the `DetectionEvent` table. -/
structure OutboxRow where
  event : DetectionEvent
  createdAtUtc : Instant
  deliveryStatus : DeliveryStatus
  deliveredAtUtc : Option Instant
  finalizedAtUtc : Option Instant
  deriving DecidableEq

/-- The `EventId` column. -/
abbrev OutboxRow.eventId (r : OutboxRow) : Uuid := r.event.eventId

/-- The `DetectionEvent` table. -/
abbrev DetectionEventTable := KeyedTable OutboxRow.eventId

/-- A Python `int` that `sqlite3` can bind: a signed 64-bit integer. -/
def FitsInteger (i : ℤ) : Prop := -2 ^ 63 ≤ i ∧ i < 2 ^ 63

instance (i : ℤ) : Decidable (FitsInteger i) := inferInstanceAs (Decidable (_ ∧ _))

/-- The `INTEGER` columns of an event can be bound. -/
structure Storable (d : DetectionFields) : Prop where
  sourceId : FitsInteger d.sourceId
  classId : FitsInteger d.classId
  frameNumber : FitsInteger d.frameNumber
  frameWidth : FitsInteger d.frameWidth
  frameHeight : FitsInteger d.frameHeight

instance (d : DetectionFields) : Decidable (Storable d) :=
  decidable_of_iff (FitsInteger d.sourceId ∧ FitsInteger d.classId ∧ FitsInteger d.frameNumber ∧
      FitsInteger d.frameWidth ∧ FitsInteger d.frameHeight)
    ⟨fun ⟨a, b, c, e, f⟩ => ⟨a, b, c, e, f⟩, fun h => ⟨h.1, h.2, h.3, h.4, h.5⟩⟩

/-- The two ways the caller of `insert` tells failures apart. -/
inductive InsertError where
  /-- `DetectionEventAlreadyExistsError`. -/
  | alreadyExists
  /-- Any other exception, `OverflowError` of a parameter binding among them. -/
  | other
  deriving DecidableEq

/-- The row `insert` writes. -/
def newRow (event : DetectionEvent) (createdAtUtc : Instant) : OutboxRow :=
  { event, createdAtUtc, deliveryStatus := .pending, deliveredAtUtc := none
    finalizedAtUtc := none }

/-- `DetectionEventRepository.insert`. -/
def insert (table : DetectionEventTable) (event : DetectionEvent) (createdAtUtc : Instant) :
    Except InsertError DetectionEventTable :=
  match table.find? event.eventId with
  | some _ => .error .alreadyExists
  | none =>
    if Storable event.toDetectionFields then
      match table.insert (newRow event createdAtUtc) with
      | some table' => .ok table'
      | none => .error .alreadyExists
    else .error .other

/-- A successful insert appends exactly the new row, whose identifier was free. -/
theorem insert_eq_ok_iff {table table' : DetectionEventTable} {event : DetectionEvent}
    {createdAtUtc : Instant} :
    insert table event createdAtUtc = .ok table' ↔
      (∀ r ∈ table, r.eventId ≠ event.eventId) ∧ Storable event.toDetectionFields ∧
        table'.rows = table.rows ++ [newRow event createdAtUtc] := by
  unfold insert
  cases hfind : table.find? event.eventId with
  | some r =>
    obtain ⟨hr, hid⟩ := KeyedTable.find?_eq_some_iff.mp hfind
    simp only [reduceCtorEq, false_iff, not_and]
    exact fun hfresh => absurd hid (hfresh r hr)
  | none =>
    have hfresh : ∀ r ∈ table, r.eventId ≠ event.eventId := KeyedTable.find?_eq_none_iff.mp hfind
    by_cases hs : Storable event.toDetectionFields
    · cases hins : table.insert (newRow event createdAtUtc) with
      | none =>
        obtain ⟨r, hr, hid⟩ := KeyedTable.insert_eq_none_iff.mp hins
        exact absurd hid (hfresh r hr)
      | some t =>
        have hrows := (KeyedTable.insert_eq_some_iff.mp hins).2
        simp only [hs, ↓reduceIte, Except.ok.injEq, true_and]
        constructor
        · rintro rfl
          exact ⟨hfresh, hrows⟩
        · rintro ⟨-, hrows'⟩
          exact KeyedTable.ext_rows (hrows.trans hrows'.symm)
    · simp [hs]

/-- The order of `list_pending`: `DetectedAtUtc`, then `EventId`. -/
def pendingOrder (a b : OutboxRow) : Prop :=
  a.event.detectedAtUtc < b.event.detectedAtUtc ∨
    (a.event.detectedAtUtc = b.event.detectedAtUtc ∧ a.eventId ≤ b.eventId)

instance : DecidableRel pendingOrder := fun _ _ => inferInstanceAs (Decidable (_ ∨ _))

/-- `DetectionEventRepository.list_pending`: the oldest `limit` pending rows. -/
def listPending (table : DetectionEventTable) (limit : ℕ) : List OutboxRow :=
  ((table.rows.filter fun r => decide (r.deliveryStatus = .pending)).insertionSort
    pendingOrder).take limit

/-- A row in the pending batch is a pending row of the table. -/
theorem mem_listPending {table : DetectionEventTable} {limit : ℕ} {r : OutboxRow}
    (h : r ∈ listPending table limit) : r ∈ table ∧ r.deliveryStatus = .pending := by
  have hmem := (List.mem_insertionSort pendingOrder).mp (List.mem_of_mem_take h)
  simpa using hmem

/-- The `UPDATE … WHERE EventId IN (…) AND DeliveryStatus = 'pending'` both marking operations
run, with the columns they set. -/
def markMany (set : OutboxRow → OutboxRow) (hset : ∀ r, (set r).event = r.event)
    (table : DetectionEventTable) (eventIds : List Uuid) : DetectionEventTable :=
  table.update (fun r => if r.eventId ∈ eventIds ∧ r.deliveryStatus = .pending then set r else r)
    fun r => by
      split
      · exact congrArg (fun e => e.eventId) (hset r)
      · rfl

/-- `DetectionEventRepository.mark_delivered_many`. -/
def markDeliveredMany (table : DetectionEventTable) (eventIds : List Uuid)
    (deliveredAtUtc : Instant) : DetectionEventTable :=
  markMany (fun r => { r with deliveryStatus := .delivered, deliveredAtUtc := some deliveredAtUtc })
    (fun _ => rfl) table eventIds

/-- `DetectionEventRepository.mark_suppressed_by_quota_many`. -/
def markSuppressedByQuotaMany (table : DetectionEventTable) (eventIds : List Uuid)
    (finalizedAtUtc : Instant) : DetectionEventTable :=
  markMany
    (fun r => { r with deliveryStatus := .suppressedByQuota, finalizedAtUtc := some finalizedAtUtc })
    (fun _ => rfl) table eventIds

/-- What marking does to the row under an identifier. -/
theorem find?_markMany (set : OutboxRow → OutboxRow) (hset : ∀ r, (set r).event = r.event)
    (table : DetectionEventTable) (eventIds : List Uuid) (id : Uuid) :
    (markMany set hset table eventIds).find? id =
      (table.find? id).map fun r =>
        if r.eventId ∈ eventIds ∧ r.deliveryStatus = .pending then set r else r :=
  KeyedTable.find?_update table _ _ id

@[simp] theorem markMany_nil (set : OutboxRow → OutboxRow)
    (hset : ∀ r, (set r).event = r.event) (table : DetectionEventTable) :
    markMany set hset table [] = table :=
  KeyedTable.ext_rows (by simp [markMany])

/-! ## The `SnapshotOutbox` table -/

/-- `CaptureStatus`. -/
inductive CaptureStatus where
  | captured
  | captureFailed
  deriving DecidableEq

/-- `UploadStatus`. -/
inductive UploadStatus where
  | pending
  | uploaded
  | suppressedByQuota
  deriving DecidableEq

/-- `SnapshotOutboxRecord`, one row of the `SnapshotOutbox` table. -/
structure SnapshotOutboxRecord where
  eventId : Uuid
  localPath : String
  captureStatus : CaptureStatus
  uploadStatus : UploadStatus
  backendAlertId : Option String
  contentType : String
  sizeBytes : ℕ
  sha256 : String
  capturedAtUtc : Instant
  uploadedAtUtc : Option Instant
  attemptCount : ℕ
  lastAttemptAtUtc : Option Instant
  lastErrorCategory : Option String
  deriving DecidableEq

/-- The `SnapshotOutbox` table. -/
abbrev SnapshotOutboxTable := KeyedTable SnapshotOutboxRecord.eventId

/-- The Agent's database. -/
structure Database where
  detectionEvents : DetectionEventTable
  snapshots : SnapshotOutboxTable

/-- What the caller of `create_captured` supplies. -/
structure CapturedFile where
  eventId : Uuid
  localPath : String
  contentType : String
  sizeBytes : ℕ
  sha256 : String
  deriving DecidableEq

/-- The row `create_captured` inserts. -/
def CapturedFile.row (file : CapturedFile) (capturedAtUtc : Instant) : SnapshotOutboxRecord :=
  { eventId := file.eventId, localPath := file.localPath, captureStatus := .captured
    uploadStatus := .pending, backendAlertId := none, contentType := file.contentType
    sizeBytes := file.sizeBytes, sha256 := file.sha256, capturedAtUtc
    uploadedAtUtc := none, attemptCount := 0, lastAttemptAtUtc := none
    lastErrorCategory := none }

/-- `SnapshotOutboxRepository.create_captured`: `none` for a row that already exists or an
`EventId` without a `DetectionEvent` row (the foreign key is enforced). -/
def createCaptured (db : Database) (file : CapturedFile) (capturedAtUtc : Instant) :
    Option Database :=
  match db.detectionEvents.find? file.eventId with
  | none => none
  | some _ =>
    (db.snapshots.insert (file.row capturedAtUtc)).map fun snapshots => { db with snapshots }

/-- What `associate_alert_id` answers; `conflict` is `SnapshotOutboxAlertConflictError`. -/
inductive AssociateResult where
  | noRow
  | associated
  | conflict
  deriving DecidableEq

/-- `SnapshotOutboxRepository.associate_alert_id`. -/
def associateAlertId (table : SnapshotOutboxTable) (eventId : Uuid) (alertId : String) :
    SnapshotOutboxTable × AssociateResult :=
  match table.find? eventId with
  | none => (table, .noRow)
  | some row =>
    match row.backendAlertId with
    | some existing => if existing = alertId then (table, .associated) else (table, .conflict)
    | none =>
      (table.update
        (fun r => if r.eventId = eventId then { r with backendAlertId := some alertId } else r)
        (fun r => by split <;> rfl), .associated)

/-- What associating an identifier does to the row of an event: nothing to another event's row, and
an identifier that is already there stays. -/
theorem find?_associateAlertId (table : SnapshotOutboxTable) (eventId : Uuid) (alertId : String)
    (id : Uuid) :
    (associateAlertId table eventId alertId).1.find? id = (table.find? id).map fun row =>
      if row.eventId = eventId then
        { row with backendAlertId := some (row.backendAlertId.getD alertId) }
      else row := by
  have hkeep : ∀ t : SnapshotOutboxTable, (∀ row, t.find? id = some row → row.eventId = eventId →
      ∃ a, row.backendAlertId = some a) →
      t.find? id = (t.find? id).map fun row =>
        if row.eventId = eventId then
          { row with backendAlertId := some (row.backendAlertId.getD alertId) }
        else row := by
    intro t ht
    cases hrow : t.find? id with
    | none => rfl
    | some row =>
      by_cases hid : row.eventId = eventId
      · obtain ⟨a, ha⟩ := ht row hrow hid
        rw [Option.map_some, if_pos hid, ha, Option.getD_some, ← ha]
      · rw [Option.map_some, if_neg hid]
  unfold associateAlertId
  cases hfind : table.find? eventId with
  | none =>
    refine hkeep table fun row hrow hid => ?_
    obtain ⟨hmem, -⟩ := KeyedTable.find?_eq_some_iff.mp hrow
    exact absurd hid (KeyedTable.find?_eq_none_iff.mp hfind row hmem)
  | some row =>
    have hsame : ∀ other, table.find? id = some other → other.eventId = eventId → other = row :=
      fun other hother hid => by
        rw [← hid, KeyedTable.find?_eq_some_iff.mpr ⟨(KeyedTable.find?_eq_some_iff.mp hother).1, rfl⟩,
          Option.some.injEq] at hfind
        exact hfind
    cases halert : row.backendAlertId with
    | some existing =>
      have htable : (if existing = alertId then (table, AssociateResult.associated)
          else (table, AssociateResult.conflict)).1 = table := by split <;> rfl
      simp only [halert, htable]
      exact hkeep table fun other hother hid => ⟨existing, hsame other hother hid ▸ halert⟩
    | none =>
      simp only [halert, KeyedTable.find?_update]
      cases hother : table.find? id with
      | none => rfl
      | some other =>
        by_cases hid : other.eventId = eventId
        · rw [hsame other hother hid, Option.map_some, Option.map_some, halert, Option.getD_none]
        · rw [Option.map_some, Option.map_some, if_neg hid, if_neg hid]

/-- The rows `list_upload_ready` selects. -/
def SnapshotOutboxRecord.UploadReady (r : SnapshotOutboxRecord) : Prop :=
  r.captureStatus = .captured ∧ r.uploadStatus = .pending ∧ r.backendAlertId.isSome

instance (r : SnapshotOutboxRecord) : Decidable r.UploadReady :=
  inferInstanceAs (Decidable (_ ∧ _))

/-- The order of `list_upload_ready`: `CapturedAtUtc`, then `EventId`. -/
def uploadOrder (a b : SnapshotOutboxRecord) : Prop :=
  a.capturedAtUtc < b.capturedAtUtc ∨ (a.capturedAtUtc = b.capturedAtUtc ∧ a.eventId ≤ b.eventId)

instance : DecidableRel uploadOrder := fun _ _ => inferInstanceAs (Decidable (_ ∨ _))

/-- `SnapshotOutboxRepository.list_upload_ready`. -/
def listUploadReady (table : SnapshotOutboxTable) (limit : ℕ) : List SnapshotOutboxRecord :=
  ((table.rows.filter fun r => decide r.UploadReady).insertionSort uploadOrder).take limit

/-- `SnapshotOutboxRepository.mark_uploaded`. -/
def markUploaded (table : SnapshotOutboxTable) (eventId : Uuid) (uploadedAtUtc : Instant) :
    SnapshotOutboxTable :=
  table.update
    (fun r =>
      if r.eventId = eventId ∧ r.uploadStatus = .pending then
        { r with uploadStatus := .uploaded, uploadedAtUtc := some uploadedAtUtc }
      else r)
    fun r => by split <;> rfl

/-- `SnapshotOutboxRepository.record_attempt_failure`. -/
def recordAttemptFailure (table : SnapshotOutboxTable) (eventId : Uuid) (attemptAtUtc : Instant)
    (errorCategory : String) : SnapshotOutboxTable :=
  table.update
    (fun r =>
      if r.eventId = eventId then
        { r with
          attemptCount := r.attemptCount + 1
          lastAttemptAtUtc := some attemptAtUtc
          lastErrorCategory := some errorCategory }
      else r)
    fun r => by split <;> rfl

/-- `SnapshotOutboxRepository.mark_capture_failed`. -/
def markCaptureFailed (table : SnapshotOutboxTable) (eventId : Uuid) : SnapshotOutboxTable :=
  table.update
    (fun r =>
      if r.eventId = eventId ∧ r.captureStatus = .captured then
        { r with captureStatus := .captureFailed }
      else r)
    fun r => by split <;> rfl

/-- `SnapshotOutboxRepository.cancel_for_quota`. -/
def cancelForQuota (table : SnapshotOutboxTable) (eventId : Uuid) : SnapshotOutboxTable :=
  table.update
    (fun r =>
      if r.eventId = eventId ∧ r.uploadStatus = .pending then
        { r with uploadStatus := .suppressedByQuota }
      else r)
    fun r => by split <;> rfl

end WeaponDetection.Agent.Persistence
