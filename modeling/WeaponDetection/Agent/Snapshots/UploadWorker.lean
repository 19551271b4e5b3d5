import WeaponDetection.Agent.Snapshots.Reconciliation
import WeaponDetection.Agent.Sync.Worker

/-!
# One drain iteration of the snapshot upload worker

Models `SnapshotUploadWorker._drain_once` and `_upload_one` with `_local_file_hash_and_size`, and how
an iteration ends for the loop around it.  The Backend is a function of what a row uploads.
-/

namespace WeaponDetection.Agent.Snapshots

open WeaponDetection.Foundations (KeyedTable)
open WeaponDetection.Foundations.Python (Uuid)
open WeaponDetection.Agent.Detection (Instant)
open WeaponDetection.Agent.Persistence
open WeaponDetection.Agent.Sync (DeviceIdentity)

/-- The worker's own arguments and the spool it reads. -/
structure UploadConfig where
  batchSize : ℕ
  batchSize_pos : 0 < batchSize
  spoolPath : String
  computeSha256 : Bytes → String

/-- What `SnapshotUploadClient.upload` sends of a row, the file apart. -/
structure UploadRequest where
  alertId : String
  eventId : Uuid
  localPath : String
  contentType : String
  sha256 : String

/-- The upload of a row; `list_upload_ready` guarantees the alert. -/
def uploadRequest (record : SnapshotOutboxRecord) : UploadRequest :=
  { alertId := record.backendAlertId.getD "", eventId := record.eventId, localPath := record.localPath
    contentType := record.contentType, sha256 := record.sha256 }

/-- The answers of the Backend: `none` for `accepted` and `duplicate`, otherwise the reason of the
`SnapshotUploadFailure`. -/
abbrev UploadBackend := UploadRequest → Option String

/-- The `SnapshotOutbox` table and the spool. -/
structure UploadState where
  snapshots : SnapshotOutboxTable
  spool : Spool

/-- What `_local_file_hash_and_size` says of the file of a row, as an `error_category`. -/
def localProblem (cfg : UploadConfig) (spool : Spool) (record : SnapshotOutboxRecord) : Option String :=
  match spool.read? cfg.spoolPath record.localPath with
  | none => some "local_file_missing"
  | some content =>
    if cfg.computeSha256 content ≠ record.sha256 ∨ content.length ≠ record.sizeBytes then
      some "local_file_modified"
    else none

/-- `_upload_one`, with `true` to keep draining. -/
def uploadOne (cfg : UploadConfig) (backend : UploadBackend) (clock : Uuid → Instant) (s : UploadState)
    (record : SnapshotOutboxRecord) : UploadState × Bool :=
  match localProblem cfg s.spool record with
  | some category =>
    -- A local problem never blocks the next row of the batch.
    ({ s with snapshots := recordAttemptFailure s.snapshots record.eventId (clock record.eventId) category },
      true)
  | none =>
    match backend (uploadRequest record) with
    | some reason =>
      ({ s with snapshots := recordAttemptFailure s.snapshots record.eventId (clock record.eventId) reason },
        false)
    | none =>
      ({ snapshots := markUploaded s.snapshots record.eventId (clock record.eventId)
         spool := s.spool.unlink cfg.spoolPath record.localPath }, true)

/-- The loop over the batch. -/
def uploadRows (cfg : UploadConfig) (backend : UploadBackend) (clock : Uuid → Instant) :
    List SnapshotOutboxRecord → UploadState → UploadState × Bool
  | [], s => (s, true)
  | record :: rest, s =>
    match uploadOne cfg backend clock s record with
    | (s', true) => uploadRows cfg backend clock rest s'
    | (s', false) => (s', false)

/-- What the loop around an iteration does before the next one. -/
inductive IterationEnd where
  | idleSleep
  | backoffSleep
  /-- The next iteration starts at once. -/
  | goesOn
  deriving DecidableEq

/-- `_drain_once`. -/
def uploadDrainOnce (cfg : UploadConfig) (identity : Option DeviceIdentity) (backend : UploadBackend)
    (clock : Uuid → Instant) (s : UploadState) : UploadState × IterationEnd :=
  if identity.any (·.operational) then
    let pending := listUploadReady s.snapshots cfg.batchSize
    if pending = [] then (s, .idleSleep)
    else
      match uploadRows cfg backend clock pending s with
      | (s', false) => (s', .backoffSleep)
      | (s', true) => (s', if pending.length < cfg.batchSize then .idleSleep else .goesOn)
  else (s, .idleSleep)

end WeaponDetection.Agent.Snapshots
