import WeaponDetection.Agent.Persistence.Outbox
import WeaponDetection.Foundations.OrderedDict

/-!
# The snapshot spool

Models `detection/snapshot_capture.py` and the checks of `DetectionIngestHandler._process_snapshot`:
the validation of the JPEG bytes, the quota of the spool directory and the atomic write.

The directory is a dictionary from file names to contents, and a `LocalPath` column is the text of a
path, so that a file of the spool is found through it by comparing texts.
-/

namespace WeaponDetection.Agent.Snapshots

open WeaponDetection.Foundations (KeyedTable OrderedDict)
open WeaponDetection.Foundations.Python (Uuid uuidOfText uuidText uuidText_injective)
open WeaponDetection.Agent.Detection (Instant)
open WeaponDetection.Agent.Persistence

/-- File contents. -/
abbrev Bytes := List UInt8

/-! ## Validation of JPEG bytes -/

/-- `_SOF_MARKERS`. -/
def sofMarkers : List UInt8 :=
  [0xC0, 0xC1, 0xC2, 0xC3, 0xC5, 0xC6, 0xC7, 0xC9, 0xCA, 0xCB, 0xCD, 0xCE, 0xCF]

/-- `_MARKERS_WITHOUT_LENGTH`. -/
def markersWithoutLength : List UInt8 :=
  [0xD8, 0xD9, 0xD0, 0xD1, 0xD2, 0xD3, 0xD4, 0xD5, 0xD6, 0xD7]

/-- `int.from_bytes(.., "big")` of two bytes. -/
def bigEndian (hi lo : UInt8) : ℕ := hi.toNat * 256 + lo.toNat

/-- The loop of `parse_jpeg_dimensions` on the bytes from `i` on; the first argument counts the bytes
that are still to be skipped. -/
def scanSegments : ℕ → Bytes → Option (ℕ × ℕ)
  | _, [] => none
  | skip + 1, _ :: rest => scanSegments skip rest
  | 0, b :: rest =>
    match rest with
    | [] => none
    | marker :: segment =>
      if b ≠ 0xFF ∨ marker = 0xFF then scanSegments 0 rest
      else if marker ∈ markersWithoutLength then scanSegments 1 rest
      else
        match segment with
        | hi :: lo :: body =>
          if bigEndian hi lo < 2 then none
          else if marker ∈ sofMarkers then
            match body with
            | _ :: h₁ :: h₀ :: w₁ :: w₀ :: _ => some (bigEndian w₁ w₀, bigEndian h₁ h₀)
            | _ => none
          else scanSegments (1 + bigEndian hi lo) rest
        | _ => none

/-- `parse_jpeg_dimensions`. -/
def parseJpegDimensions (data : Bytes) : Option (ℕ × ℕ) :=
  if data.length < 4 ∨ data.take 2 ≠ [0xFF, 0xD8] then none else scanSegments 0 (data.drop 2)

/-- `JPEG_MAGIC`. -/
def jpegMagic : Bytes := [0xFF, 0xD8, 0xFF]

/-- `validate_snapshot_bytes`, with the reason of the `SnapshotValidationError`. -/
def validateSnapshotBytes (data : Bytes) (maxFileBytes : ℕ) : Except String (ℕ × ℕ) :=
  if data = [] then .error "empty_payload"
  else if data.length > maxFileBytes then .error "oversized_file"
  else if ¬ jpegMagic <+: data then .error "invalid_jpeg_magic"
  else
    match parseJpegDimensions data with
    | none => .error "undecodable_dimensions"
    | some (width, height) =>
      if width ≤ 0 ∨ height ≤ 0 then .error "undecodable_dimensions" else .ok (width, height)

/-! ## The directory -/

/-- The files of the spool directory under their names. -/
abbrev Spool := OrderedDict String Bytes

/-- `str(spool_path / name)`. -/
def filePath (spoolPath name : String) : String := spoolPath ++ "/" ++ name

theorem filePath_inj {spoolPath name name' : String}
    (h : filePath spoolPath name = filePath spoolPath name') : name = name' := by
  have hlist := congrArg String.toList h
  simp only [filePath, String.toList_append] at hlist
  exact String.toList_injective (List.append_cancel_left hlist)

/-- The final name of a snapshot. -/
def snapshotName (eventId : Uuid) : String := uuidText eventId ++ ".jpg"

theorem snapshotName_injective : Function.Injective snapshotName := by
  intro id id' h
  have hlist := congrArg String.toList h
  simp only [snapshotName, String.toList_append] at hlist
  exact uuidText_injective (String.toList_injective (List.append_cancel_right hlist))

/-- The `LocalPath` of a snapshot. -/
def snapshotPath (spoolPath : String) (eventId : Uuid) : String :=
  filePath spoolPath (snapshotName eventId)

/-- `Path(local_path).is_file()`. -/
def Spool.isFile (spool : Spool) (spoolPath localPath : String) : Bool :=
  spool.entries.any fun file => filePath spoolPath file.1 = localPath

/-- `Path(local_path).unlink()`. -/
def Spool.unlink (spool : Spool) (spoolPath localPath : String) : Spool :=
  spool.filter fun file => filePath spoolPath file.1 ≠ localPath

/-- The names `glob("*.jpg")` matches. -/
def isJpg (name : String) : Bool := ".jpg".toList.isSuffixOf name.toList

/-- `entry.stem` of a name that ends in `.jpg`. -/
def stem (name : String) : String := String.ofList (name.toList.take (name.toList.length - 4))

/-- `spool_usage_bytes`. -/
def Spool.usageBytes (spool : Spool) : ℕ :=
  ((spool.entries.filter fun file => isJpg file.1).map fun file => file.2.length).sum

/-- `os.replace`. -/
def Spool.replace (spool : Spool) (tempName finalName : String) : Spool :=
  match spool.get? tempName with
  | none => spool
  | some content => (spool.pop tempName).set finalName content

theorem Spool.isFile_iff {spool : Spool} {spoolPath localPath : String} :
    spool.isFile spoolPath localPath = true ↔
      ∃ file ∈ spool.entries, filePath spoolPath file.1 = localPath := by
  simp [Spool.isFile]

@[simp] theorem Spool.isFile_unlink_self (spool : Spool) (spoolPath localPath : String) :
    (spool.unlink spoolPath localPath).isFile spoolPath localPath = false := by
  simp [Spool.isFile, Spool.unlink, OrderedDict.filter]

/-- Unlinking only takes files away. -/
theorem Spool.isFile_of_unlink {spool : Spool} {spoolPath localPath other : String}
    (h : (spool.unlink spoolPath localPath).isFile spoolPath other = true) :
    spool.isFile spoolPath other = true := by
  obtain ⟨file, hfile, hpath⟩ := Spool.isFile_iff.mp h
  exact Spool.isFile_iff.mpr ⟨file, (List.mem_filter.mp hfile).1, hpath⟩

/-- Writing a file brings no other one. -/
theorem Spool.isFile_of_set {spool : Spool} {spoolPath name localPath : String} {content : Bytes}
    (h : Spool.isFile (spool.set name content) spoolPath localPath = true) :
    spool.isFile spoolPath localPath = true ∨ localPath = filePath spoolPath name := by
  obtain ⟨file, hfile, hpath⟩ := Spool.isFile_iff.mp h
  rcases OrderedDict.mem_entries_set.mp hfile with ⟨hold, -⟩ | rfl
  · exact .inl (Spool.isFile_iff.mpr ⟨file, hold, hpath⟩)
  · exact .inr hpath.symm

/-! ## The checks before a write -/

/-- The settings `_process_snapshot` reads, and `compute_sha256`. -/
structure CaptureConfig where
  snapshotCaptureEnabled : Bool
  spoolPath : String
  maxFileBytes : ℕ
  maxSpoolBytes : ℕ
  computeSha256 : Bytes → String

/-- `_SnapshotQueueItem`. -/
structure SnapshotQueueItem where
  eventId : String
  data : Bytes

/-- The event whose snapshot `_process_snapshot` goes on to write: `none` where capture is disabled,
the identifier is malformed, the spool is full or the bytes are no acceptable JPEG. -/
def admits (cfg : CaptureConfig) (spool : Spool) (item : SnapshotQueueItem) : Option Uuid :=
  if !cfg.snapshotCaptureEnabled then none
  else
    match uuidOfText item.eventId with
    | none => none
    | some eventId =>
      if spool.usageBytes + item.data.length > cfg.maxSpoolBytes then none
      else
        match validateSnapshotBytes item.data cfg.maxFileBytes with
        | .error _ => none
        | .ok _ => some eventId

/-- The arguments of `create_captured` for a written snapshot. -/
def capturedFile (cfg : CaptureConfig) (eventId : Uuid) (data : Bytes) : CapturedFile :=
  { eventId, localPath := snapshotPath cfg.spoolPath eventId, contentType := "image/jpeg"
    sizeBytes := data.length, sha256 := cfg.computeSha256 data }

end WeaponDetection.Agent.Snapshots
