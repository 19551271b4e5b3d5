import WeaponDetection.Backend.AlertSync.Cameras
import WeaponDetection.Foundations.UuidText

/-!
# The parts of a snapshot upload

Models `JpegInspector.cs`, `Alert.AttachSnapshot` and the checks `AlertSnapshotUploadService.UploadAsync`
makes of a request before it attaches anything.  SHA-256 is a parameter.
-/

namespace WeaponDetection.Backend.Snapshots

open WeaponDetection.Foundations
open WeaponDetection.Foundations.Python (uuidText)
open WeaponDetection.Backend.AlertSync (ArgumentException Runtime require)

/-- File contents. -/
abbrev Bytes := List UInt8

/-! ## `JpegInspector` -/

/-- Two bytes as a number, high byte first. -/
def bigEndian (hi lo : UInt8) : ℕ := hi.toNat * 256 + lo.toNat

/-- The marker of a frame header. -/
def isStartOfFrame (marker : UInt8) : Bool :=
  0xC0 ≤ marker ∧ marker ≤ 0xCF ∧ marker ∉ [0xC4, 0xC8, 0xCC]

/-- The loop of `TryGetDimensions` on the bytes from `offset` on, with width and height; the first
argument counts the bytes that are still to be skipped. -/
def scanMarkers : ℕ → Bytes → Option (ℕ × ℕ)
  | _, [] => none
  | skip + 1, _ :: rest => scanMarkers skip rest
  | 0, b :: rest =>
    match rest with
    | [] => none
    | marker :: segment =>
      if b ≠ 0xFF then none
      else if marker = 0xFF then scanMarkers 0 rest
      else if (0xD0 ≤ marker ∧ marker ≤ 0xD7) ∨ marker = 0x01 then scanMarkers 1 rest
      else if marker = 0xD9 then none
      else
        match segment with
        | hi :: lo :: body =>
          if bigEndian hi lo < 2 ∨ segment.length < bigEndian hi lo then none
          else if isStartOfFrame marker then
            if bigEndian hi lo < 7 then none
            else
              match body with
              | _ :: h₁ :: h₀ :: w₁ :: w₀ :: _ =>
                if bigEndian w₁ w₀ ≤ 0 ∨ bigEndian h₁ h₀ ≤ 0 then none
                else some (bigEndian w₁ w₀, bigEndian h₁ h₀)
              | _ => none
          else if marker = 0xDA then none
          else scanMarkers (1 + bigEndian hi lo) rest
        | _ => none

/-- `TryGetDimensions`. -/
def tryGetDimensions (data : Bytes) : Option (ℕ × ℕ) :=
  if data.length < 4 ∨ data.take 2 ≠ [0xFF, 0xD8] ∨ data.drop (data.length - 2) ≠ [0xFF, 0xD9] then none
  else scanMarkers 0 (data.drop 2)

/-! ## `Alert.AttachSnapshot` -/

/-- The snapshot columns of an Alert. -/
structure SnapshotColumns where
  snapshotReference : Option String
  snapshotSha256 : Option String
  snapshotContentType : Option String
  snapshotSizeBytes : Option ℕ
  snapshotReceivedAtUtc : Option DateTime
  deriving DecidableEq

/-- An Alert without a snapshot. -/
def SnapshotColumns.empty : SnapshotColumns := ⟨none, none, none, none, none⟩

/-- `AttachSnapshotOutcome`. -/
inductive AttachSnapshotOutcome where
  | attached
  | duplicate
  | conflict
  deriving DecidableEq

/-- `SnapshotReferenceMaxLength`, `SnapshotContentTypeMaxLength` and `SnapshotSha256Length`. -/
def snapshotReferenceMaxLength : ℕ := 2048

@[inherit_doc snapshotReferenceMaxLength] def snapshotContentTypeMaxLength : ℕ := 100

@[inherit_doc snapshotReferenceMaxLength] def snapshotSha256Length : ℕ := 64

/-- The argument checks of `AttachSnapshot`. -/
def checkSnapshot (reference sha256 contentType : String) (sizeBytes : ℕ) : Except ArgumentException Unit := do
  require (!DotNet.isNullOrWhiteSpace reference) "Snapshot reference is required." "snapshotReference"
  require (DotNet.length reference ≤ snapshotReferenceMaxLength)
    "Snapshot reference must not exceed 2048 characters." "snapshotReference"
  require (!DotNet.isNullOrWhiteSpace sha256 && DotNet.length sha256 = snapshotSha256Length)
    "Snapshot SHA-256 must be a 64-character hex digest." "sha256"
  require (!DotNet.isNullOrWhiteSpace contentType) "Snapshot content type is required." "contentType"
  require (DotNet.length contentType ≤ snapshotContentTypeMaxLength)
    "Snapshot content type must not exceed 100 characters." "contentType"
  require (0 < sizeBytes) "Snapshot size must be positive." "sizeBytes"

/-- `AttachSnapshot`: the columns after it, and the outcome. -/
def attachSnapshot (runtime : Runtime) (columns : SnapshotColumns) (reference sha256 contentType : String)
    (sizeBytes : ℕ) (receivedAtUtc : DateTime) :
    Except ArgumentException (SnapshotColumns × AttachSnapshotOutcome) :=
  (checkSnapshot reference sha256 contentType sizeBytes).map fun _ =>
    match columns.snapshotReference with
    | none =>
      ({ snapshotReference := some reference, snapshotSha256 := some sha256
         snapshotContentType := some contentType, snapshotSizeBytes := some sizeBytes
         snapshotReceivedAtUtc := some receivedAtUtc }, .attached)
    | some _ =>
      if columns.snapshotSha256.any fun stored => runtime.equalsOrdinalIgnoreCase stored sha256 then
        (columns, .duplicate)
      else (columns, .conflict)

/-! ## Requests and answers -/

/-- `SnapshotUploadRequest`; the stream is what it yields. -/
structure SnapshotUploadRequest where
  alertId : Guid
  branchId : Guid
  eventId : Guid
  claimedContentType : Option String
  claimedSha256 : Option String
  contentLength : ℤ
  content : Option Bytes
  deriving DecidableEq

/-- `SnapshotUploadOutcomeKind`. -/
inductive SnapshotUploadOutcomeKind where
  | accepted
  | duplicate
  | conflict
  | alertNotOwnedOrFound
  | eventIdMismatch
  | missingFile
  | oversized
  | unsupportedMediaType
  | malformedImage
  deriving DecidableEq

/-- `SnapshotUploadOutcome`. -/
structure SnapshotUploadOutcome where
  kind : SnapshotUploadOutcomeKind
  snapshotReference : Option String
  errorCode : Option String
  errorMessage : Option String
  deriving DecidableEq

/-- `SnapshotUploadOutcome.Rejected`. -/
def rejected (kind : SnapshotUploadOutcomeKind) (errorCode errorMessage : String) : SnapshotUploadOutcome :=
  ⟨kind, none, some errorCode, some errorMessage⟩

/-- `NotFound()`. -/
def notFound : SnapshotUploadOutcome := rejected .alertNotOwnedOrFound "NOT_FOUND" "Alert not found."

/-- The answer to different bytes. -/
def snapshotConflict : SnapshotUploadOutcome :=
  rejected .conflict "SNAPSHOT_CONFLICT" "This alert already has a different snapshot on file."

/-- `MaxSnapshotSizeBytes`. -/
def maxSnapshotSizeBytes : ℕ := 15 * 1024 * 1024

/-- `RequiredContentType`. -/
def requiredContentType : String := "image/jpeg"

/-- What the service runs on. -/
structure SnapshotRuntime extends Runtime where
  /-- `Convert.ToHexString(SHA256.HashData(bytes)).ToLowerInvariant()`. -/
  computeSha256 : Bytes → String

/-- The checks of `UploadAsync` behind the load of the Alert: the Branch of its Camera, where there is
one, and the request; with the bytes of the image. -/
def checkUpload (runtime : SnapshotRuntime) (alertEventId : Guid) (cameraBranchId : Option Guid)
    (request : SnapshotUploadRequest) : Except SnapshotUploadOutcome Bytes :=
  if cameraBranchId ≠ some request.branchId then .error notFound
  else if alertEventId ≠ request.eventId then
    .error (rejected .eventIdMismatch "EVENT_ID_MISMATCH"
      "The submitted eventId does not match the target alert.")
  else
    match request.content with
    | none => .error (rejected .missingFile "MISSING_FILE" "A non-empty snapshot file is required.")
    | some bytes =>
      if request.contentLength ≤ 0 then
        .error (rejected .missingFile "MISSING_FILE" "A non-empty snapshot file is required.")
      else if maxSnapshotSizeBytes < request.contentLength then
        .error (rejected .oversized "FILE_TOO_LARGE" "The snapshot must not exceed 15728640 bytes.")
      else if request.claimedContentType.all fun claimed =>
          !runtime.equalsOrdinalIgnoreCase claimed requiredContentType then
        .error (rejected .unsupportedMediaType "UNSUPPORTED_MEDIA_TYPE"
          "The snapshot content type must be 'image/jpeg'.")
      -- the declared length may understate the stream
      else if maxSnapshotSizeBytes < bytes.length then
        .error (rejected .oversized "FILE_TOO_LARGE" "The snapshot must not exceed 15728640 bytes.")
      else if tryGetDimensions bytes = none then
        .error (rejected .malformedImage "INVALID_IMAGE" "The uploaded file is not a valid JPEG image.")
      else if request.claimedSha256.any fun claimed =>
          claimed ≠ "" && !runtime.equalsOrdinalIgnoreCase claimed (runtime.computeSha256 bytes) then
        .error (rejected .malformedImage "INVALID_IMAGE"
          "The uploaded file's contents do not match the declared checksum.")
      else .ok bytes

/-- `BuildReference`. -/
def buildReference (alertId : Guid) : String := uuidText alertId ++ ".jpg"

/-! ## What they say -/

/-- The bytes that pass are those of the request. -/
theorem content_of_checkUpload {runtime : SnapshotRuntime} {alertEventId : Guid} {cameraBranchId : Option Guid}
    {request : SnapshotUploadRequest} {bytes : Bytes}
    (h : checkUpload runtime alertEventId cameraBranchId request = .ok bytes) : request.content = some bytes := by
  unfold checkUpload at h
  cases hcontent : request.content with
  | none =>
    simp only [hcontent] at h
    split_ifs at h
  | some content =>
    simp only [hcontent] at h
    split_ifs at h
    rw [Except.ok.inj h]

/-- A check that fails neither accepts nor finds a duplicate. -/
theorem kind_of_checkUpload {runtime : SnapshotRuntime} {alertEventId : Guid} {cameraBranchId : Option Guid}
    {request : SnapshotUploadRequest} {outcome : SnapshotUploadOutcome}
    (h : checkUpload runtime alertEventId cameraBranchId request = .error outcome) :
    outcome.kind ≠ .accepted := by
  unfold checkUpload at h
  cases hcontent : request.content with
  | none =>
    simp only [hcontent] at h
    split_ifs at h <;> · rw [← Except.error.inj h]; exact nofun
  | some content =>
    simp only [hcontent] at h
    split_ifs at h <;> · rw [← Except.error.inj h]; exact nofun

section Attach

variable {runtime : Runtime} {columns columns' : SnapshotColumns} {reference sha256 contentType : String}
variable {sizeBytes : ℕ} {receivedAtUtc : DateTime}

/-- An Alert gets a snapshot when it has none. -/
theorem attachSnapshot_attached (h : attachSnapshot runtime columns reference sha256 contentType sizeBytes
    receivedAtUtc = .ok (columns', .attached)) :
    columns.snapshotReference = none ∧ columns'.snapshotReference = some reference ∧
      columns'.snapshotSha256 = some sha256 := by
  unfold attachSnapshot at h
  cases hcheck : checkSnapshot reference sha256 contentType sizeBytes with
  | error e => simp [hcheck, Except.map] at h
  | ok _ =>
    simp only [hcheck, Except.map, Except.ok.injEq] at h
    split at h
    · rename_i hnone
      have hcolumns := (Prod.mk.inj h).1
      exact ⟨hnone, by rw [← hcolumns], by rw [← hcolumns]⟩
    · split at h
      · exact absurd (Prod.mk.inj h).2 nofun
      · exact absurd (Prod.mk.inj h).2 nofun

/-- A duplicate has the digest of the stored snapshot. -/
theorem attachSnapshot_duplicate (h : attachSnapshot runtime columns reference sha256 contentType sizeBytes
    receivedAtUtc = .ok (columns', .duplicate)) :
    ∃ stored, columns.snapshotSha256 = some stored ∧ runtime.equalsOrdinalIgnoreCase stored sha256 = true := by
  unfold attachSnapshot at h
  cases hcheck : checkSnapshot reference sha256 contentType sizeBytes with
  | error e => simp [hcheck, Except.map] at h
  | ok _ =>
    simp only [hcheck, Except.map, Except.ok.injEq] at h
    split at h
    · exact absurd (Prod.mk.inj h).2 nofun
    · split at h
      · rename_i hany
        cases hstored : columns.snapshotSha256 with
        | none => simp [hstored] at hany
        | some stored => exact ⟨stored, rfl, by simpa [hstored] using hany⟩
      · exact absurd (Prod.mk.inj h).2 nofun

end Attach

end WeaponDetection.Backend.Snapshots
