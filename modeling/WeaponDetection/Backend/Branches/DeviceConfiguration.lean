import Mathlib.Data.List.Sort
import WeaponDetection.Backend.AlertSync.Cameras

/-!
# The configuration of a device

Models `DeviceConfigurationService.cs`: the enabled Cameras of the device's Branch in the order of
their source order, and the version that is a hash over what the pipeline depends on.
-/

namespace WeaponDetection.Backend.Branches

open WeaponDetection.Foundations
open WeaponDetection.Foundations.Python (hexDigitsFrom uuidText)
open WeaponDetection.Backend.AlertSync

/-- `Camera.RequireCameraKey`; `none` where it throws. -/
def requireCameraKey (cameraKey : String) : Option String :=
  if DotNet.isNullOrWhiteSpace cameraKey then none
  else
    let trimmed := DotNet.trim cameraKey
    if DotNet.length trimmed < 3 ∨ 64 < DotNet.length trimmed then none
    else if !matchesCameraKeyPattern trimmed then none
    else if reservedCameraKeys.contains trimmed then none
    else some trimmed

/-- `Camera.OutputPathPrefix`. -/
def outputPathPrefix : String := "cameras/"

/-- `Camera.DeriveOutputPath`; `none` where it throws. -/
def deriveOutputPath (cameraKey : String) : Option String :=
  (requireCameraKey cameraKey).map (outputPathPrefix ++ ·)

/-- `DeviceCameraConfigurationView`. -/
structure DeviceCameraConfigurationView where
  cameraId : Guid
  cameraKey : String
  name : String
  streamUrl : String
  enabled : Bool
  sourceOrder : ℕ
  outputPath : String
  deriving DecidableEq

/-- `DeviceConfigurationView`. -/
structure DeviceConfigurationView where
  schemaVersion : ℕ
  configurationVersion : String
  deviceId : Guid
  branchId : Guid
  generatedAtUtc : DateTime
  cameras : List DeviceCameraConfigurationView
  deriving DecidableEq

/-- The text the version is the hash of. -/
def versionText (cameras : List DeviceCameraConfigurationView) : String :=
  String.join (cameras.map fun c =>
    uuidText c.cameraId ++ "|" ++ c.streamUrl ++ "|" ++ toString c.sourceOrder ++ "|" ++
      c.outputPath ++ ";")

/-- `Convert.ToHexStringLower` of a digest of 32 bytes. -/
def toHexStringLower (digest : BitVec 256) : String := String.ofList (hexDigitsFrom digest.toNat 63 64)

/-- `ComputeConfigurationVersion`; `SHA256.HashData` is a parameter. -/
def computeConfigurationVersion (sha256 : ByteArray → BitVec 256)
    (cameras : List DeviceCameraConfigurationView) : String :=
  toHexStringLower (sha256 (versionText cameras).toUTF8)

/-- The shape of one Camera. -/
def cameraConfiguration (c : Camera) : Option DeviceCameraConfigurationView :=
  (deriveOutputPath c.cameraKey).map fun outputPath =>
    { cameraId := c.cameraId, cameraKey := c.cameraKey, name := c.name, streamUrl := c.rtspUrl
      enabled := c.enabled, sourceOrder := c.sourceOrder, outputPath }

/-- `ORDER BY SourceOrder`. -/
def orderBySourceOrder (cameras : List Camera) : List Camera :=
  cameras.insertionSort fun c c' => c.sourceOrder ≤ c'.sourceOrder

/-- `GetConfigurationAsync`; `none` where a stored key is refused. -/
def getConfiguration (sha256 : ByteArray → BitVec 256) (db : BranchDb) (deviceId branchId : Guid)
    (now : DateTime) : Option DeviceConfigurationView :=
  ((orderBySourceOrder (db.enabledCameras branchId)).mapM cameraConfiguration).map fun cameras =>
    { schemaVersion := 1, configurationVersion := computeConfigurationVersion sha256 cameras
      deviceId, branchId, generatedAtUtc := now, cameras }

end WeaponDetection.Backend.Branches
