import WeaponDetection.Agent.Configuration.TypedConfiguration
import WeaponDetection.Backend.Branches.DeviceConfiguration

/-!
# The configuration on its way from the Backend to the Agent

The body `DeviceConfigurationController` answers with, as the JSON value the Agent reads, and what the
Agent's client makes of it.  Of the members, only the instant may be in a text the other side does not
read: .NET writes as many digits of a fraction as it needs, up to seven.
-/

namespace WeaponDetection.Contract

open WeaponDetection.Foundations
open WeaponDetection.Foundations.Python
open WeaponDetection.Foundations.JsonDecoder
open WeaponDetection.Agent
open WeaponDetection.Agent.ConfigCache (Platform UtcDatetime getItem uuid ofChars)
open WeaponDetection.Backend
open WeaponDetection.Backend.AlertSync (paddedDigits)
open WeaponDetection.Backend.Branches (DeviceConfigurationView DeviceCameraConfigurationView)

/-! ## The body -/

/-- The fraction of a second in the text of a `DateTime`, without the zeros at its end. -/
def tickFraction (fraction : ℕ) : List Char :=
  if fraction = 0 then [] else '.' :: ((paddedDigits 7 fraction).reverse.dropWhile (· = '0')).reverse

/-- A `DateTime` in UTC as `System.Text.Json` writes it. -/
def dateTimeText (value : DateTime) : List Char :=
  let ticks := value.ticks.toNat
  let second := ticks / 10000000
  dateText (second / 86400) ++ 'T' :: (clockText (second % 86400) ++ tickFraction (ticks % 10000000) ++ ['Z'])

example : dateTimeText ⟨638448462001250000, .utc⟩ = "2024-02-29T23:30:00.125Z".toList := by decide +kernel

/-- `DeviceCameraConfigDto`. -/
def cameraPayload (view : DeviceCameraConfigurationView) : JsonDict :=
  [(.ofString "cameraId", .str (.ofString (uuidText view.cameraId))),
    (.ofString "cameraKey", .str (.ofString view.cameraKey)),
    (.ofString "name", .str (.ofString view.name)),
    (.ofString "streamUrl", .str (.ofString view.streamUrl)),
    (.ofString "enabled", .bool view.enabled),
    (.ofString "sourceOrder", .int view.sourceOrder),
    (.ofString "outputPath", .str (.ofString view.outputPath))]

/-- `DeviceConfigurationResponseDto`. -/
def configurationPayload (view : DeviceConfigurationView) : JsonDict :=
  [(.ofString "schemaVersion", .int view.schemaVersion),
    (.ofString "configurationVersion", .str (.ofString view.configurationVersion)),
    (.ofString "deviceId", .str (.ofString (uuidText view.deviceId))),
    (.ofString "branchId", .str (.ofString (uuidText view.branchId))),
    (.ofString "generatedAtUtc", .str (ofChars (dateTimeText view.generatedAtUtc))),
    (.ofString "cameras", .list (view.cameras.map fun camera => .dict (cameraPayload camera)))]

/-- `ApiResponse.Ok`; members that are null are left out. -/
def responsePayload (view : DeviceConfigurationView) : JsonValue :=
  .dict [(.ofString "success", .bool true), (.ofString "data", .dict (configurationPayload view))]

/-! ## What the client makes of it -/

/-- The camera as the Agent holds it. -/
def receivedCamera (view : DeviceCameraConfigurationView) : DeviceConfig.DeviceCameraConfig where
  cameraId := view.cameraId
  cameraKey := view.cameraKey
  name := view.name
  streamUrl := view.streamUrl
  enabled := view.enabled
  sourceOrder := view.sourceOrder
  outputPath := view.outputPath

/-- The configuration as the Agent holds it. -/
def received (view : DeviceConfigurationView) : DeviceConfig.DeviceConfiguration where
  schemaVersion := view.schemaVersion
  configurationVersion := view.configurationVersion
  deviceId := view.deviceId
  branchId := view.branchId
  cameras := view.cameras.map receivedCamera

theorem uuid_uuidText (u : Uuid) : uuid (.str (.ofString (uuidText u))) = .ok u :=
  ConfigCache.uuid_eq_ok_iff.2 (ConfigCache.namesUuid_uuidText u)

theorem ok_bind {ε α β : Type} (a : α) (f : α → Except ε β) : (Except.ok a >>= f) = f a := rfl

theorem readCamera_cameraPayload (view : DeviceCameraConfigurationView) :
    ConfigCache.Client.readCamera (cameraPayload view) = .ok (view.cameraId,
      [.str (.ofString view.cameraKey), .str (.ofString view.name), .str (.ofString view.streamUrl),
        .bool view.enabled, .int view.sourceOrder, .str (.ofString view.outputPath)]) := by
  have hid : getItem (cameraPayload view) "cameraId" = .ok (.str (.ofString (uuidText view.cameraId))) := rfl
  have hkey : getItem (cameraPayload view) "cameraKey" = .ok (.str (.ofString view.cameraKey)) := rfl
  have hname : getItem (cameraPayload view) "name" = .ok (.str (.ofString view.name)) := rfl
  have hurl : getItem (cameraPayload view) "streamUrl" = .ok (.str (.ofString view.streamUrl)) := rfl
  have henabled : getItem (cameraPayload view) "enabled" = .ok (.bool view.enabled) := rfl
  have horder : getItem (cameraPayload view) "sourceOrder" = .ok (.int view.sourceOrder) := rfl
  have hpath : getItem (cameraPayload view) "outputPath" = .ok (.str (.ofString view.outputPath)) := rfl
  rw [ConfigCache.Client.readCamera, hid, ok_bind, uuid_uuidText, ok_bind, hkey, ok_bind, hname, ok_bind, hurl,
    ok_bind, henabled, ok_bind, horder, ok_bind, hpath, ok_bind]
  rfl

theorem parseCamera_cameraPayload (view : DeviceCameraConfigurationView) :
    ConfigCache.Client.parseCamera (.dict (cameraPayload view)) = .ok (some (receivedCamera view).raw) := by
  rw [ConfigCache.Client.parseCamera, readCamera_cameraPayload]
  rfl

theorem parseCameras_cameraPayload (views : List DeviceCameraConfigurationView) :
    ConfigCache.Client.parseCameras (views.map fun camera => .dict (cameraPayload camera)) =
      .ok (some ((views.map receivedCamera).map DeviceConfig.DeviceCameraConfig.raw)) := by
  induction views with
  | nil => rfl
  | cons view views ih =>
    rw [List.map_cons, ConfigCache.Client.parseCameras, parseCamera_cameraPayload, ok_bind, ih]
    rfl

/-- The members of the body are read but for the instant. -/
theorem readConfiguration_configurationPayload (platform : Platform) (view : DeviceConfigurationView) :
    ConfigCache.Client.readConfiguration platform (configurationPayload view) =
      (platform.parseIsoUtc (.str (ofChars (dateTimeText view.generatedAtUtc))) >>= fun generatedAtUtc =>
        .ok { schemaVersion := .int view.schemaVersion
              configurationVersion := .str (.ofString view.configurationVersion)
              deviceId := view.deviceId, branchId := view.branchId, generatedAtUtc
              cameras := .list (view.cameras.map fun camera => .dict (cameraPayload camera)) }) := by
  have hschema : getItem (configurationPayload view) "schemaVersion" = .ok (.int view.schemaVersion) := rfl
  have hversion : getItem (configurationPayload view) "configurationVersion" =
      .ok (.str (.ofString view.configurationVersion)) := rfl
  have hdevice : getItem (configurationPayload view) "deviceId" =
      .ok (.str (.ofString (uuidText view.deviceId))) := rfl
  have hbranch : getItem (configurationPayload view) "branchId" =
      .ok (.str (.ofString (uuidText view.branchId))) := rfl
  have hinstant : getItem (configurationPayload view) "generatedAtUtc" =
      .ok (.str (ofChars (dateTimeText view.generatedAtUtc))) := rfl
  have hcameras : getItem (configurationPayload view) "cameras" =
      .ok (.list (view.cameras.map fun camera => .dict (cameraPayload camera))) := rfl
  rw [ConfigCache.Client.readConfiguration, hschema, ok_bind, hversion, ok_bind, hdevice, ok_bind, uuid_uuidText,
    ok_bind, hbranch, ok_bind, uuid_uuidText, ok_bind, hinstant, ok_bind]
  simp only [hcameras, ok_bind]
  rfl

/-- **The client makes of the body the configuration that was served, when it may have as many cameras and the
interpreter reads the instant, and nothing otherwise.** -/
theorem parseSuccess_responsePayload_iff {platform : Platform} {maxCameras : ℕ} {view : DeviceConfigurationView}
    {configuration : ConfigCache.DeviceConfiguration} :
    ConfigCache.Client.parseSuccess platform maxCameras (responsePayload view) = .ok (some configuration) ↔
      view.cameras.length ≤ maxCameras ∧ ∃ generatedAtUtc,
        platform.NamesInstant (.str (ofChars (dateTimeText view.generatedAtUtc))) generatedAtUtc ∧
          configuration = (received view).raw generatedAtUtc := by
  have hparse : ConfigCache.Client.parseSuccess platform maxCameras (responsePayload view) =
      ConfigCache.Client.parseConfiguration platform maxCameras (.dict (configurationPayload view)) := rfl
  rw [hparse, ConfigCache.Client.parseConfiguration, readConfiguration_configurationPayload]
  simp only [← ConfigCache.parseIsoUtc_eq_ok_iff]
  cases platform.parseIsoUtc (.str (ofChars (dateTimeText view.generatedAtUtc))) with
  | error e =>
    by_cases hcaught : e.IsCaught
    · simp [ConfigCache.Client.orNone, bind, Except.bind, pure, Except.pure, hcaught]
    · simp [ConfigCache.Client.orNone, bind, Except.bind, hcaught]
  | ok generatedAtUtc =>
    simp only [ConfigCache.Client.orNone, bind, Except.bind, ConfigCache.Client.finishConfiguration,
      ConfigCache.Client.isInt, List.length_map, true_and, Except.ok.injEq, exists_eq_left',
      parseCameras_cameraPayload]
    by_cases hcount : view.cameras.length ≤ maxCameras
    · simp only [hcount, if_true, true_and, pure, Except.pure, Option.map_some, Except.ok.injEq, Option.some.injEq]
      exact eq_comm
    · simp [hcount]

end WeaponDetection.Contract
