import WeaponDetection.Agent.Configuration.Validation
import WeaponDetection.Agent.Persistence.IsoTime
import WeaponDetection.Foundations.JsonEncoder
import WeaponDetection.Foundations.UuidText

/-!
# The codec of the configuration cache

Models `configuration/serialization.py` on the text of `ConfigCache.ConfigJson`, and the parser of
`configuration/client.py` that makes the configurations it is given.  The decoder converts the two UUIDs
and the instant of a cached object and the UUID of every camera; the other members it passes on as
`json.loads` has read them, whatever their type.

`Denotes` says which object is decoded to which configuration, member by member
(`parseData_eq_ok_iff`).
-/

namespace WeaponDetection.Agent.ConfigCache

open WeaponDetection.Foundations
open WeaponDetection.Foundations.Python
open WeaponDetection.Foundations.JsonDecoder
open WeaponDetection.Foundations.JsonEncoder
open WeaponDetection.Agent.Detection (Instant)
open WeaponDetection.Agent.Persistence (Datetime)
open WeaponDetection.Contract (IsDatetime)

/-! ## Values -/

/-- An aware `datetime` in UTC, by its instant. -/
abbrev UtcDatetime := { instant : Instant // IsDatetime instant }

/-- `DeviceCameraConfig`: the members no reader converts are JSON values. -/
structure DeviceCameraConfig where
  cameraId : Uuid
  cameraKey : PyStr
  name : JsonValue
  streamUrl : JsonValue
  enabled : JsonValue
  sourceOrder : JsonValue
  outputPath : JsonValue

/-- `DeviceConfiguration`. -/
structure DeviceConfiguration where
  schemaVersion : JsonValue
  configurationVersion : JsonValue
  deviceId : Uuid
  branchId : Uuid
  generatedAtUtc : UtcDatetime
  cameras : List DeviceCameraConfig

/-- The exceptions of the modelled functions; a `JSONDecodeError` is a `ValueError`. -/
inductive Exn where
  | keyError
  | typeError
  | valueError
  | attributeError
  | overflowError
  | recursionError
  | osError
  deriving DecidableEq

/-- The handlers `except (KeyError, TypeError, ValueError)` catch it. -/
def Exn.IsCaught (e : Exn) : Prop := e = .keyError ∨ e = .typeError ∨ e = .valueError

instance (e : Exn) : Decidable e.IsCaught := inferInstanceAs (Decidable (_ ∨ _))

/-- What the program takes from the interpreter, its libraries and the host. -/
structure Platform extends JsonDecoder.Interpreter where
  /-- An object in an array in an object can be read. -/
  nesting : 3 ≤ nestingLimit
  /-- `float.__repr__` of a finite float. -/
  floatRepr : ℚ → List Char
  /-- The float that is read where a float was written. -/
  floatRead : ℚ → Double
  floats_read : ReadsBack floatRepr floatRead
  urls : UrlLibrary
  /-- `datetime.fromisoformat`, which reads more texts with every version; `none` for `ValueError`. -/
  fromisoformat : List Char → Option Datetime
  isoformat_read : ∀ instant : UtcDatetime, ∃ parsed,
    fromisoformat (Contract.toIsoUtc instant) = some parsed ∧ parsed.utcOffset = some 0 ∧ parsed.reading = instant
  /-- `astimezone(timezone.utc)` of a naive `datetime`, which is taken to be in the zone of the host. -/
  localToUtc : ℤ → Except Exn UtcDatetime

/-- The characters of a `str`.  Nothing that is done with them tells a lone surrogate from the
replacement character. -/
def charsOf (s : PyStr) : List Char := s.map fun u => if u.isValidChar then Char.ofNat u else '\ufffd'

/-- The `str` of a text. -/
def ofChars (text : List Char) : PyStr := text.map Char.toNat

/-- `data[key]`. -/
def getItem (data : JsonDict) (key : String) : Except Exn JsonValue :=
  match data.get? (.ofString key) with
  | some v => .ok v
  | none => .error .keyError

/-- `UUID(value)`: `None` is a missing argument, and every other value is asked for `replace`. -/
def uuid : JsonValue → Except Exn Uuid
  | .str s =>
    match uuidOfText (String.ofList (charsOf s)) with
    | some u => .ok u
    | none => .error .valueError
  | .null => .error .typeError
  | _ => .error .attributeError

/-- `value.replace("Z", "+00:00")`. -/
def zoneText (text : List Char) : List Char := text.flatMap fun c => if c = 'Z' then "+00:00".toList else [c]

/-- `parsed.astimezone(timezone.utc)`. -/
def Platform.astimezoneUtc (platform : Platform) (parsed : Datetime) : Except Exn UtcDatetime :=
  match parsed.utcOffset with
  | none => platform.localToUtc parsed.reading
  | some offset =>
    if h : IsDatetime (parsed.reading - offset) then .ok ⟨_, h⟩ else .error .overflowError

/-- `_parse_iso_utc`, the same in both modules. -/
def Platform.parseIsoUtc (platform : Platform) : JsonValue → Except Exn UtcDatetime
  | .str s =>
    match platform.fromisoformat (zoneText (charsOf s)) with
    | some parsed => platform.astimezoneUtc parsed
    | none => .error .valueError
  | _ => .error .valueError

/-- `json.loads`. -/
def Platform.jsonLoads (platform : Platform) (text : List Char) : Except Exn JsonValue :=
  match loads platform.toInterpreter text with
  | .ok v => .ok v
  | .error .recursionError => .error .recursionError
  | .error _ => .error .valueError

/-! ## The parser of the client -/

namespace Client

/-- `except (KeyError, TypeError, ValueError): return None`. -/
def orNone {α : Type} : Except Exn α → Except Exn (Option α)
  | .ok a => .ok (some a)
  | .error e => if e.IsCaught then .ok none else .error e

/-- The members of a camera, with only the UUID converted. -/
def readCamera (raw : JsonDict) : Except Exn (Uuid × List JsonValue) := do
  let cameraId ← uuid (← getItem raw "cameraId")
  let cameraKey ← getItem raw "cameraKey"
  let name ← getItem raw "name"
  let streamUrl ← getItem raw "streamUrl"
  let enabled ← getItem raw "enabled"
  let sourceOrder ← getItem raw "sourceOrder"
  let outputPath ← getItem raw "outputPath"
  return (cameraId, [cameraKey, name, streamUrl, enabled, sourceOrder, outputPath])

/-- The type checks of `_parse_camera`. -/
def typedCamera : Uuid × List JsonValue → Option DeviceCameraConfig
  | (cameraId, [.str cameraKey, .str name, .str streamUrl, .bool enabled, .int sourceOrder, .str outputPath]) =>
    some { cameraId, cameraKey, name := .str name, streamUrl := .str streamUrl, enabled := .bool enabled
           sourceOrder := .int sourceOrder, outputPath := .str outputPath }
  | _ => none

/-- `_parse_camera`. -/
def parseCamera : JsonValue → Except Exn (Option DeviceCameraConfig)
  | .dict raw => do return (← orNone (readCamera raw)).bind typedCamera
  | _ => .ok none

/-- The loop over `raw_cameras`. -/
def parseCameras : List JsonValue → Except Exn (Option (List DeviceCameraConfig))
  | [] => .ok (some [])
  | raw :: rest => do
    match ← parseCamera raw with
    | none => return none
    | some camera => return (← parseCameras rest).map (camera :: ·)

/-- `isinstance(value, int)`, which every `bool` is. -/
def isInt : JsonValue → Bool
  | .int _ | .bool _ => true
  | _ => false

/-- The members of a configuration in the order they are read. -/
structure RawConfiguration where
  schemaVersion : JsonValue
  configurationVersion : JsonValue
  deviceId : Uuid
  branchId : Uuid
  generatedAtUtc : UtcDatetime
  cameras : JsonValue

/-- The `try` of `_parse_configuration`. -/
def readConfiguration (platform : Platform) (data : JsonDict) : Except Exn RawConfiguration := do
  let schemaVersion ← getItem data "schemaVersion"
  let configurationVersion ← getItem data "configurationVersion"
  let deviceId ← uuid (← getItem data "deviceId")
  let branchId ← uuid (← getItem data "branchId")
  let generatedAtUtc ← platform.parseIsoUtc (← getItem data "generatedAtUtc")
  let cameras ← getItem data "cameras"
  return { schemaVersion, configurationVersion, deviceId, branchId, generatedAtUtc, cameras }

/-- What `_parse_configuration` does behind the `try`. -/
def finishConfiguration (maxCameras : ℕ) (raw : RawConfiguration) : Except Exn (Option DeviceConfiguration) :=
  match raw.configurationVersion, raw.cameras with
  | .str version, .list items =>
    if isInt raw.schemaVersion = true ∧ items.length ≤ maxCameras then do
      return (← parseCameras items).map fun cameras =>
        { schemaVersion := raw.schemaVersion, configurationVersion := .str version, deviceId := raw.deviceId
          branchId := raw.branchId, generatedAtUtc := raw.generatedAtUtc, cameras }
    else .ok none
  | _, _ => .ok none

/-- `_parse_configuration`. -/
def parseConfiguration (platform : Platform) (maxCameras : ℕ) : JsonValue → Except Exn (Option DeviceConfiguration)
  | .dict data => do
    match ← orNone (readConfiguration platform data) with
    | none => return none
    | some raw => finishConfiguration maxCameras raw
  | _ => .ok none

/-- `_parse_success`, from the body `_safe_json` has read on; `none` for a `ConfigurationFetchFailure`. -/
def parseSuccess (platform : Platform) (maxCameras : ℕ) : JsonValue → Except Exn (Option DeviceConfiguration)
  | .dict payload =>
    match JsonDict.get? payload (.ofString "success") with
    | some (.bool true) =>
      parseConfiguration platform maxCameras ((JsonDict.get? payload (.ofString "data")).getD .null)
    | _ => .ok none
  | _ => .ok none

end Client

/-! ## Writing -/

/-- One entry of `cameras` in `serialize_configuration`. -/
def serializeCamera (camera : DeviceCameraConfig) : JsonValue :=
  .dict
    [(.ofString "cameraId", .str (.ofString (uuidText camera.cameraId))),
      (.ofString "cameraKey", .str camera.cameraKey),
      (.ofString "name", camera.name),
      (.ofString "streamUrl", camera.streamUrl),
      (.ofString "enabled", camera.enabled),
      (.ofString "sourceOrder", camera.sourceOrder),
      (.ofString "outputPath", camera.outputPath)]

/-- The object `serialize_configuration` hands to `json.dumps`. -/
def serializeData (configuration : DeviceConfiguration) : JsonDict :=
  [(.ofString "schemaVersion", configuration.schemaVersion),
    (.ofString "configurationVersion", configuration.configurationVersion),
    (.ofString "deviceId", .str (.ofString (uuidText configuration.deviceId))),
    (.ofString "branchId", .str (.ofString (uuidText configuration.branchId))),
    (.ofString "generatedAtUtc", .str (ofChars (Contract.toIsoUtc configuration.generatedAtUtc))),
    (.ofString "cameras", .list (configuration.cameras.map serializeCamera)),
    (.ofString "pipelineHash", configuration.configurationVersion)]

/-- `serialize_configuration`. -/
def serializeConfiguration (platform : Platform) (configuration : DeviceConfiguration) : List Char :=
  dumps platform.floatRepr (.dict (serializeData configuration))

/-! ## Reading -/

/-- `"cameras/"`. -/
def cameraPrefix : PyStr := .ofString "cameras/"

/-- The key `_parse_camera_key` recovers from `outputPath`. -/
def recoverCameraKey (raw : JsonDict) : Except Exn PyStr := do
  match ← getItem raw "outputPath" with
  | .str path =>
    if cameraPrefix <+: path ∧ path.drop cameraPrefix.length ≠ [] then .ok (path.drop cameraPrefix.length)
    else .error .valueError
  | _ => .error .valueError

/-- `_parse_camera_key`. -/
def parseCameraKey (raw : JsonDict) : Except Exn PyStr :=
  match raw.get? (.ofString "cameraKey") with
  | some (.str key) => if key ≠ [] then .ok key else recoverCameraKey raw
  | _ => recoverCameraKey raw

/-- `_parse_camera`. -/
def parseCamera : JsonValue → Except Exn DeviceCameraConfig
  | .dict raw => do
    let cameraId ← uuid (← getItem raw "cameraId")
    let cameraKey ← parseCameraKey raw
    let name ← getItem raw "name"
    let streamUrl ← getItem raw "streamUrl"
    let enabled ← getItem raw "enabled"
    let sourceOrder ← getItem raw "sourceOrder"
    let outputPath ← getItem raw "outputPath"
    return { cameraId, cameraKey, name, streamUrl, enabled, sourceOrder, outputPath }
  | _ => .error .valueError

/-- `iter(value)`: a `str` yields its characters and a `dict` its keys. -/
def iterate : JsonValue → Except Exn (List JsonValue)
  | .list items => .ok items
  | .str s => .ok (s.map fun u => .str [u])
  | .dict members => .ok (members.map fun kv => .str kv.1)
  | _ => .error .typeError

/-- The `try` of `deserialize_configuration`. -/
def parseData (platform : Platform) (data : JsonDict) : Except Exn DeviceConfiguration := do
  let schemaVersion ← getItem data "schemaVersion"
  let configurationVersion ← getItem data "configurationVersion"
  let deviceId ← uuid (← getItem data "deviceId")
  let branchId ← uuid (← getItem data "branchId")
  let generatedAtUtc ← platform.parseIsoUtc (← getItem data "generatedAtUtc")
  let cameras ← (← iterate (← getItem data "cameras")).mapM parseCamera
  return { schemaVersion, configurationVersion, deviceId, branchId, generatedAtUtc, cameras }

/-- `except (KeyError, TypeError, ValueError) as exc: raise ValueError`. -/
def asValueError {α : Type} : Except Exn α → Except Exn α
  | .ok a => .ok a
  | .error e => .error (if e.IsCaught then .valueError else e)

/-- `deserialize_configuration`. -/
def deserializeConfiguration (platform : Platform) (configJson : List Char) : Except Exn DeviceConfiguration := do
  match ← platform.jsonLoads configJson with
  | .dict data => asValueError (parseData platform data)
  | _ => .error .valueError

/-! ## What an object denotes -/

/-- The value is a text of this UUID. -/
def NamesUuid (v : JsonValue) (u : Uuid) : Prop :=
  ∃ s, v = .str s ∧ uuidOfText (String.ofList (charsOf s)) = some u

/-- The value is a text of this instant. -/
def Platform.NamesInstant (platform : Platform) (v : JsonValue) (instant : UtcDatetime) : Prop :=
  ∃ s parsed, v = .str s ∧ platform.fromisoformat (zoneText (charsOf s)) = some parsed ∧
    platform.astimezoneUtc parsed = .ok instant

/-- A cached camera has this key, or none and a path made of it. -/
def HasCameraKey (raw : JsonDict) (key : PyStr) : Prop :=
  key ≠ [] ∧ (raw.get? (.ofString "cameraKey") = some (.str key) ∨
    (∀ k, raw.get? (.ofString "cameraKey") = some (.str k) → k = []) ∧
      raw.get? (.ofString "outputPath") = some (.str (cameraPrefix ++ key)))

/-- The object is decoded to this camera. -/
structure CameraDenotes (raw : JsonDict) (camera : DeviceCameraConfig) : Prop where
  cameraId : ∃ v, raw.get? (.ofString "cameraId") = some v ∧ NamesUuid v camera.cameraId
  cameraKey : HasCameraKey raw camera.cameraKey
  name : raw.get? (.ofString "name") = some camera.name
  streamUrl : raw.get? (.ofString "streamUrl") = some camera.streamUrl
  enabled : raw.get? (.ofString "enabled") = some camera.enabled
  sourceOrder : raw.get? (.ofString "sourceOrder") = some camera.sourceOrder
  outputPath : raw.get? (.ofString "outputPath") = some camera.outputPath

/-- The value is decoded to these cameras: an array of objects, or anything else without an item. -/
def CamerasDenote : JsonValue → List DeviceCameraConfig → Prop
  | .list items, cameras => items.Forall₂ (fun v camera => ∃ raw, v = .dict raw ∧ CameraDenotes raw camera) cameras
  | .str s, cameras => s = [] ∧ cameras = []
  | .dict members, cameras => members = [] ∧ cameras = []
  | _, _ => False

/-- The object is decoded to this configuration. -/
structure Denotes (platform : Platform) (data : JsonDict) (configuration : DeviceConfiguration) : Prop where
  schemaVersion : data.get? (.ofString "schemaVersion") = some configuration.schemaVersion
  configurationVersion : data.get? (.ofString "configurationVersion") = some configuration.configurationVersion
  deviceId : ∃ v, data.get? (.ofString "deviceId") = some v ∧ NamesUuid v configuration.deviceId
  branchId : ∃ v, data.get? (.ofString "branchId") = some v ∧ NamesUuid v configuration.branchId
  generatedAtUtc : ∃ v, data.get? (.ofString "generatedAtUtc") = some v ∧
    platform.NamesInstant v configuration.generatedAtUtc
  cameras : ∃ v, data.get? (.ofString "cameras") = some v ∧ CamerasDenote v configuration.cameras

theorem getItem_eq_ok_iff {data : JsonDict} {key : String} {v : JsonValue} :
    getItem data key = .ok v ↔ data.get? (.ofString key) = some v := by
  unfold getItem
  cases data.get? (.ofString key) <;> simp

theorem uuid_eq_ok_iff {v : JsonValue} {u : Uuid} : uuid v = .ok u ↔ NamesUuid v u := by
  cases v with
  | str s =>
    simp only [uuid, NamesUuid, JsonValue.str.injEq, exists_eq_left']
    cases uuidOfText (String.ofList (charsOf s)) <;> simp
  | _ => simp [uuid, NamesUuid]

theorem parseIsoUtc_eq_ok_iff {platform : Platform} {v : JsonValue} {instant : UtcDatetime} :
    platform.parseIsoUtc v = .ok instant ↔ platform.NamesInstant v instant := by
  cases v with
  | str s =>
    simp only [Platform.parseIsoUtc, Platform.NamesInstant, JsonValue.str.injEq, exists_eq_left', exists_and_left]
    cases hparsed : platform.fromisoformat (zoneText (charsOf s)) with
    | none => simp
    | some parsed => simp
  | _ => simp [Platform.parseIsoUtc, Platform.NamesInstant]

theorem recoverCameraKey_eq_ok_iff {raw : JsonDict} {key : PyStr} :
    recoverCameraKey raw = .ok key ↔
      key ≠ [] ∧ raw.get? (.ofString "outputPath") = some (.str (cameraPrefix ++ key)) := by
  simp only [recoverCameraKey, bind_eq_ok_iff, getItem_eq_ok_iff]
  constructor
  · rintro ⟨v, hv, hkey⟩
    split at hkey
    · next path =>
      split at hkey
      · next hpath =>
        obtain ⟨⟨rest, rfl⟩, hne⟩ := hpath
        rw [List.drop_left] at hkey hne
        cases hkey
        exact ⟨hne, hv⟩
      · cases hkey
    · cases hkey
  · rintro ⟨hne, hpath⟩
    refine ⟨_, hpath, ?_⟩
    have hdrop : (cameraPrefix ++ key).drop cameraPrefix.length = key := List.drop_left
    simp only [hdrop]
    exact if_pos ⟨List.prefix_append _ _, hne⟩

theorem parseCameraKey_eq_ok_iff {raw : JsonDict} {key : PyStr} :
    parseCameraKey raw = .ok key ↔ HasCameraKey raw key := by
  unfold parseCameraKey HasCameraKey
  split
  · next k hk =>
    by_cases hempty : k = []
    · subst hempty
      simp only [ne_eq, not_true_eq_false, if_false, recoverCameraKey_eq_ok_iff, hk, Option.some.injEq,
        JsonValue.str.injEq, forall_eq', true_and]
      constructor
      · exact fun ⟨hne, hpath⟩ => ⟨hne, .inr hpath⟩
      · rintro ⟨hne, rfl | hpath⟩
        · exact absurd rfl hne
        · exact ⟨hne, hpath⟩
    · simp only [ne_eq, hempty, not_false_eq_true, if_true, Except.ok.injEq, hk, Option.some.injEq,
        JsonValue.str.injEq, forall_eq', false_and, or_false]
      constructor
      · rintro rfl
        exact ⟨hempty, rfl⟩
      · exact fun ⟨_, h⟩ => h
  · next hnot =>
    rw [recoverCameraKey_eq_ok_iff]
    have hnone : ∀ k, raw.get? (.ofString "cameraKey") ≠ some (.str k) := hnot
    simp [hnone]

theorem parseCamera_eq_ok_iff {v : JsonValue} {camera : DeviceCameraConfig} :
    parseCamera v = .ok camera ↔ ∃ raw, v = .dict raw ∧ CameraDenotes raw camera := by
  cases v with
  | dict raw =>
    simp only [parseCamera, bind_eq_ok_iff, getItem_eq_ok_iff, uuid_eq_ok_iff, parseCameraKey_eq_ok_iff,
      pure, Except.pure, Except.ok.injEq, JsonValue.dict.injEq, exists_eq_left']
    constructor
    · rintro ⟨v, hv, id, hid, key, hkey, name, hname, url, hurl, enabled, henabled, order, horder, path, hpath, rfl⟩
      exact ⟨⟨v, hv, hid⟩, hkey, hname, hurl, henabled, horder, hpath⟩
    · rintro ⟨⟨v, hv, hid⟩, hkey, hname, hurl, henabled, horder, hpath⟩
      exact ⟨v, hv, _, hid, _, hkey, _, hname, _, hurl, _, henabled, _, horder, _, hpath, rfl⟩
  | _ => simp [parseCamera]

/-- Characters and keys are no objects. -/
theorem mapM_parseCamera_str {strs : List PyStr} {cameras : List DeviceCameraConfig} :
    (strs.map JsonValue.str).mapM parseCamera = .ok cameras ↔ strs = [] ∧ cameras = [] := by
  rw [mapM_eq_ok_iff]
  cases strs with
  | nil => simp
  | cons s strs => simp [List.forall₂_cons_left_iff, parseCamera]

theorem iterate_parseCamera_eq_ok_iff {v : JsonValue} {cameras : List DeviceCameraConfig} :
    (∃ items, iterate v = .ok items ∧ items.mapM parseCamera = .ok cameras) ↔ CamerasDenote v cameras := by
  cases v with
  | list items =>
    simp only [iterate, CamerasDenote, Except.ok.injEq, exists_eq_left', mapM_eq_ok_iff, parseCamera_eq_ok_iff]
  | str s =>
    have hmap : s.map (fun u => JsonValue.str [u]) = (s.map fun u => [u]).map JsonValue.str := by simp
    simp only [iterate, CamerasDenote, Except.ok.injEq, exists_eq_left', hmap, mapM_parseCamera_str,
      List.map_eq_nil_iff]
  | dict members =>
    have hmap : members.map (fun kv => JsonValue.str kv.1) = (members.map Prod.fst).map JsonValue.str := by simp
    simp only [iterate, CamerasDenote, Except.ok.injEq, exists_eq_left', hmap, mapM_parseCamera_str,
      List.map_eq_nil_iff]
  | _ => simp [iterate, CamerasDenote]

/-- **An object is decoded to what it denotes, and to nothing else.** -/
theorem parseData_eq_ok_iff {platform : Platform} {data : JsonDict} {configuration : DeviceConfiguration} :
    parseData platform data = .ok configuration ↔ Denotes platform data configuration := by
  simp only [parseData, bind_eq_ok_iff, getItem_eq_ok_iff, uuid_eq_ok_iff, parseIsoUtc_eq_ok_iff,
    pure, Except.pure, Except.ok.injEq]
  constructor
  · rintro ⟨schema, hschema, version, hversion, v, hv, device, hdevice, w, hw, branch, hbranch, x, hx, instant,
      hinstant, y, hy, items, hitems, cameras, hcameras, rfl⟩
    exact ⟨hschema, hversion, ⟨v, hv, hdevice⟩, ⟨w, hw, hbranch⟩, ⟨x, hx, hinstant⟩,
      ⟨y, hy, iterate_parseCamera_eq_ok_iff.1 ⟨items, hitems, hcameras⟩⟩⟩
  · rintro ⟨hschema, hversion, ⟨v, hv, hdevice⟩, ⟨w, hw, hbranch⟩, ⟨x, hx, hinstant⟩, ⟨y, hy, hcameras⟩⟩
    obtain ⟨items, hitems, hmap⟩ := iterate_parseCamera_eq_ok_iff.2 hcameras
    exact ⟨_, hschema, _, hversion, v, hv, _, hdevice, w, hw, _, hbranch, x, hx, _, hinstant, y, hy, items, hitems,
      _, hmap, rfl⟩

theorem asValueError_eq_ok_iff {α : Type} {x : Except Exn α} {a : α} : asValueError x = .ok a ↔ x = .ok a := by
  cases x <;> simp [asValueError]

theorem jsonLoads_eq_ok_iff {platform : Platform} {text : List Char} {v : JsonValue} :
    platform.jsonLoads text = .ok v ↔ loads platform.toInterpreter text = .ok v := by
  unfold Platform.jsonLoads
  split <;> simp_all

/-- The text is an object that denotes the configuration. -/
def TextDenotes (platform : Platform) (configJson : List Char) (configuration : DeviceConfiguration) : Prop :=
  ∃ data, loads platform.toInterpreter configJson = .ok (.dict data) ∧ Denotes platform data configuration

theorem deserializeConfiguration_eq_ok_iff {platform : Platform} {configJson : List Char}
    {configuration : DeviceConfiguration} :
    deserializeConfiguration platform configJson = .ok configuration ↔
      TextDenotes platform configJson configuration := by
  simp only [deserializeConfiguration, bind_eq_ok_iff, jsonLoads_eq_ok_iff]
  constructor
  · rintro ⟨v, hv, h⟩
    cases v with
    | dict data => exact ⟨data, hv, parseData_eq_ok_iff.1 (asValueError_eq_ok_iff.1 h)⟩
    | _ => cases h
  · rintro ⟨data, hdata, h⟩
    exact ⟨_, hdata, asValueError_eq_ok_iff.2 (parseData_eq_ok_iff.2 h)⟩

end WeaponDetection.Agent.ConfigCache
