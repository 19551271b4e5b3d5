import WeaponDetection.Agent.Configuration.Validation
import WeaponDetection.Foundations.UuidText

/-!
# The cached form of a device configuration

Models `configuration/serialization.py` up to the JSON text: the object `json.dumps` is given and
`json.loads` returns.  Reading an object back is strict about every member, except that a camera key
that is missing or empty is recovered from the output path.
-/

namespace WeaponDetection.Agent.DeviceConfig

open WeaponDetection.Foundations
open WeaponDetection.Foundations.Python

/-- One entry of `cameras` in `serialize_configuration`. -/
def serializeCamera (camera : DeviceCameraConfig) : PyValue :=
  .dict
    [("cameraId", .str (uuidText camera.cameraId)),
      ("cameraKey", .str camera.cameraKey),
      ("name", .str camera.name),
      ("streamUrl", .str camera.streamUrl),
      ("enabled", .bool camera.enabled),
      ("sourceOrder", .int camera.sourceOrder),
      ("outputPath", .str camera.outputPath)]

/-- `serialize_configuration`. -/
def serializeConfiguration (configuration : DeviceConfiguration) : PyValue :=
  .dict
    [("schemaVersion", .int configuration.schemaVersion),
      ("configurationVersion", .str configuration.configurationVersion),
      ("deviceId", .str (uuidText configuration.deviceId)),
      ("branchId", .str (uuidText configuration.branchId)),
      ("cameras", .list (configuration.cameras.map serializeCamera)),
      ("pipelineHash", .str configuration.configurationVersion)]

/-- A member that is a string. -/
def strMember (raw : PyDict) (key : String) : Option String :=
  match raw.get? key with
  | some (.str s) => some s
  | _ => none

/-- A member that is an integer. -/
def intMember (raw : PyDict) (key : String) : Option ℤ :=
  match raw.get? key with
  | some (.int i) => some i
  | _ => none

/-- A member that is a boolean. -/
def boolMember (raw : PyDict) (key : String) : Option Bool :=
  match raw.get? key with
  | some (.bool b) => some b
  | _ => none

/-- `_parse_camera_key`. -/
def parseCameraKey (raw : PyDict) : Option String :=
  match strMember raw "cameraKey" with
  | some (key : String) => if key ≠ "" then some key else recovered
  | none => recovered
where
  recovered : Option String := do
    let path ← strMember raw "outputPath"
    let key := path.toList.drop outputPathPrefix.length
    if outputPathPrefix <+: path.toList ∧ key ≠ [] then some (String.ofList key) else none

/-- `_parse_camera` of the cache; a member of a type no writer produces is `none`. -/
def deserializeCamera : PyValue → Option DeviceCameraConfig
  | .dict raw => do
    return {
      cameraId := ← (← strMember raw "cameraId") |> uuidOfText
      cameraKey := ← parseCameraKey raw
      name := ← strMember raw "name"
      streamUrl := ← strMember raw "streamUrl"
      enabled := ← boolMember raw "enabled"
      sourceOrder := ← intMember raw "sourceOrder"
      outputPath := ← strMember raw "outputPath" }
  | _ => none

/-- `deserialize_configuration`, `none` for `ValueError`. -/
def deserializeConfiguration : PyValue → Option DeviceConfiguration
  | .dict data => do
    let schemaVersion ← intMember data "schemaVersion"
    let configurationVersion ← strMember data "configurationVersion"
    let deviceId ← (← strMember data "deviceId") |> uuidOfText
    let branchId ← (← strMember data "branchId") |> uuidOfText
    match PyDict.get? data "cameras" with
    | some (.list items) =>
      return { schemaVersion, configurationVersion, deviceId, branchId
               cameras := ← items.mapM deserializeCamera }
    | _ => none
  | _ => none

theorem deserializeCamera_serializeCamera {camera : DeviceCameraConfig} (h : camera.cameraKey ≠ "") :
    deserializeCamera (serializeCamera camera) = some camera := by
  have hkey : parseCameraKey [("cameraId", .str (uuidText camera.cameraId)),
      ("cameraKey", .str camera.cameraKey), ("name", .str camera.name),
      ("streamUrl", .str camera.streamUrl), ("enabled", .bool camera.enabled),
      ("sourceOrder", .int camera.sourceOrder), ("outputPath", .str camera.outputPath)] =
        some camera.cameraKey := by
    simp [parseCameraKey, strMember, PyDict.get?, h]
  simp only [serializeCamera, deserializeCamera, hkey]
  simp [strMember, intMember, boolMember, PyDict.get?, uuidOfText_uuidText]

theorem mapM_deserializeCamera {cameras : List DeviceCameraConfig}
    (h : ∀ camera ∈ cameras, camera.cameraKey ≠ "") :
    (cameras.map serializeCamera).mapM deserializeCamera = some cameras := by
  induction cameras with
  | nil => rfl
  | cons camera cameras ih =>
    rw [List.forall_mem_cons] at h
    rw [List.map_cons, List.mapM_cons, deserializeCamera_serializeCamera h.1, ih h.2]
    rfl

/-- **The cache gives back the configuration that was saved.** -/
theorem deserialize_serialize {configuration : DeviceConfiguration}
    (h : ∀ camera ∈ configuration.cameras, camera.cameraKey ≠ "") :
    deserializeConfiguration (serializeConfiguration configuration) = some configuration := by
  simp only [serializeConfiguration, deserializeConfiguration]
  simp [strMember, intMember, PyDict.get?, uuidOfText_uuidText, mapM_deserializeCamera h]

end WeaponDetection.Agent.DeviceConfig
