import WeaponDetection.Backend.Activation.Registry
import WeaponDetection.Backend.AlertSync.BatchWrites
import WeaponDetection.Backend.Branches.DeviceConfiguration
import WeaponDetection.Backend.Snapshots.Immutability
import WeaponDetection.Foundations.GuidText

/-!
# The requests of a Device

Models the controllers a Device calls with its credentials in the headers, `SyncEventsController.cs`,
`AlertSnapshotUploadController.cs` and `DeviceConfigurationController.cs`, over the tables of all Branches,
one request after another.
-/

namespace WeaponDetection.Backend.DeviceRequests

open WeaponDetection.Foundations
open WeaponDetection.Backend.AlertSync
open WeaponDetection.Backend.Branches (DeviceConfigurationView getConfiguration)
open WeaponDetection.Backend.Snapshots

/-! ## Tables -/

/-- The snapshot of an Alert: its columns of the row, and the file under its reference. -/
structure StoredSnapshot where
  columns : SnapshotColumns
  file : Option Bytes
  deriving DecidableEq

/-- An Alert without a snapshot. -/
def StoredSnapshot.empty : StoredSnapshot := ⟨.empty, none⟩

/-- The tables the requests read and write.  The columns of a Branch are spread over three components: its
id stands in `registry`, its time zone in `timeZoneIds` and the others in `branchDb`. -/
@[ext]
structure BackendDb (p : Credentials.Platform) where
  registry : Credentials.Registry p
  timeZoneIds : Guid → Option String
  branchDb : BranchDb
  alertDb : AlertDb
  snapshots : Guid → StoredSnapshot
  /-- The filtered unique index on `Devices.DeviceId`. -/
  deviceIds : (registry.devices.rows.filterMap fun row => row.device.deviceId).Nodup
  /-- The primary key of `Cameras`. -/
  cameraIds : (branchDb.cameras.map Camera.cameraId).Nodup
  /-- The primary key of `Alerts`. -/
  alertIds : alertDb.alertIds.Nodup
  unset : ∀ alertId, alertId ∉ alertDb.alertIds → snapshots alertId = .empty

/-- The configuration of the Backend and the libraries it runs on. -/
structure Host extends SnapshotRuntime where
  credentials : Credentials.Platform
  options : AlertQuotaOptions
  sha256 : ByteArray → BitVec 256
  /-- `TimeZoneInfo.FindSystemTimeZoneById`, `none` where it throws. -/
  findSystemTimeZoneById : String → Option TimeZone

variable {host : Host}

/-! ## Requests and answers -/

/-- What becomes of the writes of an upload that attaches its snapshot. -/
inductive Storing where
  | done
  /-- `SaveAsync` throws before its rename. -/
  | notMoved
  /-- The request ends between the rename and the commit. -/
  | notSaved
  deriving DecidableEq

/-- `AlertSnapshotUploadRequestDto`, and what the file says of itself. -/
structure SnapshotForm where
  eventId : Option String
  sha256 : Option String
  contentType : Option String
  length : ℤ
  content : Option Bytes
  deriving DecidableEq

/-- The actions of the three controllers, with what the clock and `Guid.NewGuid()` give them. -/
inductive DeviceCall where
  | syncEvents (events : Option (List DetectionEventDto)) (draws : ℕ → Draws)
  | uploadSnapshot (alertId : Guid) (form : SnapshotForm) (receivedAtUtc : DateTime) (storing : Storing)
  | getConfiguration (now : DateTime)

/-- A call with the headers `X-Device-Id` and `X-Device-Secret`; a missing header reads as empty. -/
structure DeviceRequest where
  deviceIdHeader : String
  deviceSecretHeader : String
  call : DeviceCall

/-- The answer of a controller. -/
inductive DeviceAnswer where
  | unauthorized
  | serviceUnavailable
  | validationError (message : String)
  | batchTooLarge
  /-- An exception the controller does not handle. -/
  | unexpectedError
  | synced (results : List SyncEventOutcome)
  | uploaded (outcome : SnapshotUploadOutcome)
  | configuration (view : DeviceConfigurationView)
  deriving DecidableEq

/-- The id in the header. -/
def DeviceRequest.deviceId (request : DeviceRequest) : Guid :=
  (DotNet.guidTryParse request.deviceIdHeader).getD 0

/-! ## `SyncEvents` -/

/-- `MaxBatchSize`. -/
def maxBatchSize : ℕ := 100

/-- `ResolveBranchTimeZoneAsync`. -/
def resolveBranchTimeZone (host : Host) (timeZoneId : Option String) : TimeZone :=
  match timeZoneId with
  | none => ⟨fun _ => 0⟩
  | some id =>
    if DotNet.isNullOrWhiteSpace id then ⟨fun _ => 0⟩
    else (host.findSystemTimeZoneById id).getD ⟨fun _ => 0⟩

/-- What a batch of this Device runs under. -/
def BackendDb.setting (host : Host) (db : BackendDb host.credentials) : SyncSetting :=
  ⟨host.options, host.toRuntime, db.branchDb⟩

/-- The batch of a request. -/
def BackendDb.batch (host : Host) (db : BackendDb host.credentials) (deviceId branchId : Guid)
    (events : List DetectionEventDto) : SyncBatch :=
  ⟨deviceId, branchId, resolveBranchTimeZone host (db.timeZoneIds branchId), events⟩

theorem alertIds_syncEvents (setting : SyncSetting) (batch : SyncBatch) (draws : ℕ → Draws) {db : AlertDb}
    (h : db.alertIds.Nodup) : (syncEvents setting batch draws db).1.alertIds.Nodup :=
  (syncEvents_adds setting batch draws db).alertIds h

theorem unset_syncEvents (setting : SyncSetting) (batch : SyncBatch) (draws : ℕ → Draws) {db : AlertDb}
    {snapshots : Guid → StoredSnapshot} (h : ∀ alertId, alertId ∉ db.alertIds → snapshots alertId = .empty) :
    ∀ alertId, alertId ∉ (syncEvents setting batch draws db).1.alertIds → snapshots alertId = .empty := by
  intro alertId hnew
  obtain ⟨added, halerts, -⟩ := (syncEvents_adds setting batch draws db).alerts
  refine h alertId fun hold => hnew ?_
  rw [AlertDb.alertIds, halerts, List.map_append]
  exact List.mem_append_left _ hold

/-- The tables after a batch. -/
def BackendDb.afterSync (host : Host) (db : BackendDb host.credentials) (deviceId branchId : Guid)
    (events : List DetectionEventDto) (draws : ℕ → Draws) : BackendDb host.credentials :=
  { db with
    alertDb := (AlertSync.syncEvents (db.setting host) (db.batch host deviceId branchId events) draws db.alertDb).1
    alertIds := alertIds_syncEvents _ _ _ db.alertIds
    unset := unset_syncEvents _ _ _ db.unset }

/-- `SyncEvents`, behind the credentials. -/
def syncEvents (host : Host) (db : BackendDb host.credentials) (deviceId branchId : Guid)
    (events : Option (List DetectionEventDto)) (draws : ℕ → Draws) : BackendDb host.credentials × DeviceAnswer :=
  match events with
  | none | some [] => (db, .validationError "At least one event is required.")
  | some events =>
    if maxBatchSize < events.length then (db, .batchTooLarge)
    else
      (db.afterSync host deviceId branchId events draws,
        match (AlertSync.syncEvents (db.setting host) (db.batch host deviceId branchId events) draws db.alertDb).2 with
        | .error _ => .unexpectedError
        | .ok results => .synced results)

/-! ## `UploadSnapshot` -/

/-- `Alerts.SingleOrDefault(a => a.AlertId == alertId)`. -/
def BackendDb.findAlert {p : Credentials.Platform} (db : BackendDb p) (alertId : Guid) : Option StoredAlert :=
  db.alertDb.alerts.find? (·.alert.alertId = alertId)

/-- `Cameras.SingleOrDefault(c => c.CameraId == cameraId)`, of which the Branch counts. -/
def BackendDb.branchOfCamera {p : Credentials.Platform} (db : BackendDb p) (cameraId : Guid) : Option Guid :=
  (db.branchDb.cameras.find? (·.cameraId = cameraId)).map Camera.branchId

theorem unset_update {alertDb : AlertDb} {snapshots : Guid → StoredSnapshot} {alertId : Guid}
    {row : StoredAlert} (hfound : alertDb.alerts.find? (·.alert.alertId = alertId) = some row)
    (h : ∀ id, id ∉ alertDb.alertIds → snapshots id = .empty) (snapshot : StoredSnapshot) :
    ∀ id, id ∉ alertDb.alertIds → Function.update snapshots alertId snapshot id = .empty := by
  intro id hid
  have hne : id ≠ alertId := by
    rintro rfl
    refine hid (List.mem_map.2 ⟨row, List.mem_of_find?_eq_some hfound, ?_⟩)
    simpa using List.find?_some hfound
  rw [Function.update_of_ne hne]
  exact h id hid

/-- The tables with another snapshot of an Alert. -/
def BackendDb.store {p : Credentials.Platform} (db : BackendDb p) (alertId : Guid) (snapshot : StoredSnapshot) :
    BackendDb p :=
  match h : db.findAlert alertId with
  | none => db
  | some _ => { db with
      snapshots := Function.update db.snapshots alertId snapshot
      unset := unset_update h db.unset snapshot }

/-- `UploadAsync` from its load to its answer. -/
def upload (host : Host) (db : BackendDb host.credentials) (request : SnapshotUploadRequest)
    (receivedAtUtc : DateTime) (storing : Storing) : BackendDb host.credentials × DeviceAnswer :=
  match db.findAlert request.alertId with
  | none => (db, .uploaded notFound)
  | some row =>
    let stored := db.snapshots request.alertId
    match decideUpload host.toSnapshotRuntime ⟨request.alertId, row.alert.eventId, stored.columns⟩
      (db.branchOfCamera row.alert.cameraId) receivedAtUtc request with
    | .answered outcome => (db, .uploaded outcome)
    | .attached columns bytes =>
      match storing with
      | .done => (db.store request.alertId ⟨columns, some bytes⟩,
          .uploaded ⟨.accepted, some (buildReference request.alertId), none, none⟩)
      | .notMoved => (db, .unexpectedError)
      | .notSaved => (db.store request.alertId ⟨stored.columns, some bytes⟩, .unexpectedError)
    | _ => (db, .unexpectedError)

/-- `UploadSnapshot`, behind the credentials. -/
def uploadSnapshot (host : Host) (db : BackendDb host.credentials) (branchId alertId : Guid) (form : SnapshotForm)
    (receivedAtUtc : DateTime) (storing : Storing) : BackendDb host.credentials × DeviceAnswer :=
  match DotNet.guidTryParse (form.eventId.getD "") with
  | none => (db, .validationError "A valid eventId is required.")
  | some eventId =>
    upload host db
      { alertId, branchId, eventId, claimedContentType := form.contentType, claimedSha256 := form.sha256
        contentLength := form.length, content := form.content } receivedAtUtc storing

/-! ## The three controllers -/

/-- An action behind the credentials. -/
def answerCall (host : Host) (db : BackendDb host.credentials) (deviceId branchId : Guid) :
    DeviceCall → BackendDb host.credentials × DeviceAnswer
  | .syncEvents events draws => syncEvents host db deviceId branchId events draws
  | .uploadSnapshot alertId form receivedAtUtc storing =>
    uploadSnapshot host db branchId alertId form receivedAtUtc storing
  | .getConfiguration now =>
    match getConfiguration host.sha256 db.branchDb deviceId branchId now with
    | none => (db, .unexpectedError)
    | some view => (db, .configuration view)

/-- A request: the credentials first, which also say whose Branch it is for. -/
def handle (host : Host) (db : BackendDb host.credentials) (request : DeviceRequest) :
    BackendDb host.credentials × DeviceAnswer :=
  match Credentials.validate db.registry request.deviceId (some request.deviceSecretHeader) with
  | .valid branchId _ => answerCall host db request.deviceId branchId request.call
  | .credentialStorageUnavailable => (db, .serviceUnavailable)
  | _ => (db, .unauthorized)

end WeaponDetection.Backend.DeviceRequests
