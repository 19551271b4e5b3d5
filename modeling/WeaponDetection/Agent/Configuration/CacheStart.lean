import WeaponDetection.Agent.Configuration.CacheRoundTrip

/-!
# A corrupt configuration cache

Models `configuration/validation.py` on the values the decoder of the cache passes on, and the part of
`DeviceConfigurationCoordinator.start` that reads the cache.  The decoder catches `KeyError`, `TypeError`
and `ValueError`, the coordinator `ConfigurationValidationError` and `ValueError`.  `UUID` raises
`AttributeError` for a number, `<` raises `TypeError` for an order that is none, and `startswith` does not
exist on a list: what is none of the errors that are caught ends `start`.

Which exception ends the decoder (`deserializeConfiguration_eq_error_iff`) and which one the validation
(`validateConfiguration_eq_raised_iff`) is said of the JSON values alone.
-/

namespace WeaponDetection.Agent.ConfigCache

open WeaponDetection.Foundations
open WeaponDetection.Foundations.Python
open WeaponDetection.Foundations.JsonDecoder
open WeaponDetection.Foundations.JsonEncoder
open WeaponDetection.Agent.DeviceConfig (Reason matchesCameraKeyPattern approvedUrlSchemes forbiddenOutputPathSubstrings)
open WeaponDetection.Contract (IsDatetime)

/-! ## Validation -/

/-- How `validate_configuration` ends when it does not return. -/
inductive Stop where
  /-- `ConfigurationValidationError`. -/
  | rejected (reason : Reason)
  | raised (e : Exn)
  deriving DecidableEq

/-- `if p: raise ConfigurationValidationError(reason)`. -/
def rejectIf (p : Prop) [Decidable p] (reason : Reason) : Except Stop Unit :=
  if p then .error (.rejected reason) else .ok ()

/-- `len(members)`: a `dict` holds a key once. -/
def JsonDict.size (members : JsonDict) : ℕ := (members.map Prod.fst).dedup.length

/-- `bool(value)`. -/
def truthy : JsonValue → Bool
  | .null => false
  | .bool b => b
  | .int i => i ≠ 0
  | .float (.finite q) => q ≠ 0
  | .float _ => true
  | .str s => s ≠ []
  | .list items => !items.isEmpty
  | .dict members => !members.isEmpty

/-- The value as an operand of `<` with an `int`. -/
def number : JsonValue → Option Double
  | .bool b => some (.finite (if b then 1 else 0))
  | .int i => some (.finite i)
  | .float d => some d
  | _ => none

/-- `_validate_camera_key`. -/
def validateCameraKey (camera : DeviceCameraConfig) : Except Stop Unit := do
  rejectIf (camera.cameraKey = []) .emptyCameraKey
  rejectIf (matchesCameraKeyPattern (charsOf camera.cameraKey) = false) .invalidCameraKey

/-- The operand `camera.source_order < 0` compares: `TypeError` for a value that is no number. -/
def sourceOrder (camera : DeviceCameraConfig) : Except Stop Double :=
  match number camera.sourceOrder with
  | some order => .ok order
  | none => .error (.raised .typeError)

/-- `_validate_stream_url`: `urlparse` asks what is no `str` for `decode`. -/
def validateStreamUrl (urls : UrlLibrary) (camera : DeviceCameraConfig) : Except Stop Unit := do
  rejectIf (truthy camera.streamUrl = false) .emptyStreamUrl
  match camera.streamUrl with
  | .str url =>
    match urls.urlsplit (charsOf url) with
    | none => .error (.raised .valueError)
    | some (scheme, netloc) => do
      rejectIf (scheme ∉ approvedUrlSchemes) .unapprovedUrlScheme
      rejectIf (netloc = []) .streamUrlNotAbsolute
  | _ => .error (.raised .attributeError)

/-- `_validate_output_path`, with the path it has checked: a number has no `len`, an array and an object
have one but no `startswith`. -/
def validateOutputPath (camera : DeviceCameraConfig) : Except Stop PyStr := do
  rejectIf (truthy camera.outputPath = false) .emptyOutputPath
  match camera.outputPath with
  | .str path =>
    rejectIf (512 < path.length) .outputPathTooLong
    rejectIf (path.head? = some '/'.toNat) .outputPathNotRelative
    rejectIf (∃ token ∈ forbiddenOutputPathSubstrings, token.map Char.toNat <:+: path) .unsafeOutputPath
    rejectIf (∃ u ∈ path, u < ' '.toNat ∨ u = '\x7f'.toNat) .unsafeOutputPath
    rejectIf (path ≠ cameraPrefix ++ camera.cameraKey) .outputPathCameraKeyMismatch
    return path
  | .list items =>
    rejectIf (512 < items.length) .outputPathTooLong
    .error (.raised .attributeError)
  | .dict members =>
    rejectIf (512 < JsonDict.size members) .outputPathTooLong
    .error (.raised .attributeError)
  | _ => .error (.raised .typeError)

/-- The sets of the loop over the cameras. -/
structure Seen where
  cameraIds : List Uuid
  cameraKeys : List PyStr
  sourceOrders : List Double
  outputPaths : List PyStr

/-- One round of the loop. -/
def validateCamera (urls : UrlLibrary) (seen : Seen) (camera : DeviceCameraConfig) : Except Stop Seen := do
  rejectIf (camera.cameraId ∈ seen.cameraIds) .duplicateCameraId
  validateCameraKey camera
  rejectIf (camera.cameraKey ∈ seen.cameraKeys) .duplicateCameraKey
  let order ← sourceOrder camera
  rejectIf (order.lt (.finite 0) = true) .negativeSourceOrder
  rejectIf (order ∈ seen.sourceOrders) .duplicateSourceOrder
  validateStreamUrl urls camera
  let path ← validateOutputPath camera
  rejectIf (path ∈ seen.outputPaths) .duplicateOutputPath
  return ⟨camera.cameraId :: seen.cameraIds, camera.cameraKey :: seen.cameraKeys, order :: seen.sourceOrders,
    path :: seen.outputPaths⟩

/-- `validate_configuration`. -/
def validateConfiguration (urls : UrlLibrary) (expectedDeviceId : Uuid) (maxCameras : ℕ)
    (configuration : DeviceConfiguration) : Except Stop Unit := do
  rejectIf (configuration.schemaVersion.eqInt 1 = false) .unsupportedSchemaVersion
  rejectIf (configuration.deviceId ≠ expectedDeviceId) .deviceIdMismatch
  rejectIf (configuration.branchId = 0) .missingBranchId
  rejectIf (truthy configuration.configurationVersion = false) .missingConfigurationVersion
  rejectIf (maxCameras < configuration.cameras.length) .tooManyCameras
  let _ ← configuration.cameras.foldlM (validateCamera urls) ⟨[], [], [], []⟩
  return

/-! ## Reading the cache at the start -/

/-- The row of `ConfigCache`. -/
structure CacheRow where
  configJson : List Char
  updatedAt : List Char

/-- What ends `start`. -/
inductive StartError where
  /-- `InvalidConfigCacheStateError`. -/
  | invalidConfigCacheState
  | raised (e : Exn)
  deriving DecidableEq

/-- `ConfigCacheRepository.load` of a row that is there: a timestamp without an offset is none. -/
def loadRow (platform : Platform) (row : CacheRow) : Except StartError (List Char) :=
  match platform.fromisoformat row.updatedAt with
  | none => .error .invalidConfigCacheState
  | some parsed =>
    if parsed.utcOffset = none then .error .invalidConfigCacheState
    else
      match platform.astimezoneUtc parsed with
      | .ok _ => .ok row.configJson
      | .error .valueError => .error .invalidConfigCacheState
      | .error e => .error (.raised e)

/-- The `try` of `_load_and_apply_cache`: the configuration to be applied, if there is one. -/
def tryCached (platform : Platform) (expectedDeviceId : Uuid) (maxCameras : ℕ) (configJson : List Char) :
    Except StartError (Option DeviceConfiguration) :=
  match deserializeConfiguration platform configJson with
  | .error e => if e = .valueError then .ok none else .error (.raised e)
  | .ok configuration =>
    match validateConfiguration platform.urls expectedDeviceId maxCameras configuration with
    | .ok () => .ok (some configuration)
    | .error (.rejected _) => .ok none
    | .error (.raised e) => if e = .valueError then .ok none else .error (.raised e)

/-- `_load_and_apply_cache` up to the application. -/
def loadCache (platform : Platform) (expectedDeviceId : Uuid) (maxCameras : ℕ) :
    Option CacheRow → Except StartError (Option DeviceConfiguration)
  | none => .ok none
  | some row => do tryCached platform expectedDeviceId maxCameras (← loadRow platform row)

/-! ## What ends the decoder -/

/-- A value `UUID` asks for a method it does not have. -/
def NoText : JsonValue → Prop
  | .str _ | .null => False
  | _ => True

/-- Bringing the instant of a text to UTC raises this exception. -/
def Platform.InstantRaises (platform : Platform) (v : JsonValue) (e : Exn) : Prop :=
  ∃ s parsed, v = .str s ∧ platform.fromisoformat (zoneText (charsOf s)) = some parsed ∧
    platform.astimezoneUtc parsed = .error e

/-- The UUID of a camera raises this exception. -/
def CameraRaises (v : JsonValue) (e : Exn) : Prop :=
  ∃ raw, v = .dict raw ∧ ∃ cameraId, JsonDict.get? raw (.ofString "cameraId") = some cameraId ∧ NoText cameraId ∧
    e = .attributeError

/-- Behind cameras that can be decoded, one raises this exception. -/
def CamerasRaise (e : Exn) : List JsonValue → Prop
  | [] => False
  | v :: rest => CameraRaises v e ∨ (∃ raw camera, v = .dict raw ∧ CameraDenotes raw camera) ∧ CamerasRaise e rest

/-- The first member of an object that is not decoded raises this exception. -/
def DataRaises (platform : Platform) (data : JsonDict) (e : Exn) : Prop :=
  (∃ v, data.get? (.ofString "schemaVersion") = some v) ∧
  (∃ v, data.get? (.ofString "configurationVersion") = some v) ∧
  ∃ deviceId, data.get? (.ofString "deviceId") = some deviceId ∧
    (NoText deviceId ∧ e = .attributeError ∨ (∃ u, NamesUuid deviceId u) ∧
      ∃ branchId, data.get? (.ofString "branchId") = some branchId ∧
        (NoText branchId ∧ e = .attributeError ∨ (∃ u, NamesUuid branchId u) ∧
          ∃ generatedAtUtc, data.get? (.ofString "generatedAtUtc") = some generatedAtUtc ∧
            (platform.InstantRaises generatedAtUtc e ∨ (∃ t, platform.NamesInstant generatedAtUtc t) ∧
              ∃ cameras, data.get? (.ofString "cameras") = some cameras ∧
                ∃ items, cameras = .list items ∧ CamerasRaise e items)))

/-- The text is nested too deep, or is an object one of whose members raises. -/
def TextRaises (platform : Platform) (configJson : List Char) (e : Exn) : Prop :=
  loads platform.toInterpreter configJson = .error .recursionError ∧ e = .recursionError ∨
    ∃ data, loads platform.toInterpreter configJson = .ok (.dict data) ∧ DataRaises platform data e

section Uncaught

variable {e : Exn}

theorem not_getItem_eq_error (he : ¬ e.IsCaught) (data : JsonDict) (key : String) : getItem data key ≠ .error e := by
  unfold getItem
  split
  · exact fun h => nomatch h
  · rintro ⟨⟩
    exact he (.inl rfl)

theorem uuid_eq_error_iff (he : ¬ e.IsCaught) {v : JsonValue} :
    uuid v = .error e ↔ NoText v ∧ e = .attributeError := by
  have hvalue : Exn.valueError ≠ e := fun h => he (.inr (.inr h.symm))
  have htype : Exn.typeError ≠ e := fun h => he (.inr (.inl h.symm))
  cases v with
  | str s =>
    simp only [uuid, NoText, false_and, iff_false]
    split
    · intro h
      cases h
    · simpa using hvalue
  | null => simpa [uuid, NoText] using htype
  | _ => simp [uuid, NoText, eq_comm]

theorem parseIsoUtc_eq_error_iff (he : ¬ e.IsCaught) {platform : Platform} {v : JsonValue} :
    platform.parseIsoUtc v = .error e ↔ platform.InstantRaises v e := by
  have hvalue : Exn.valueError ≠ e := fun h => he (.inr (.inr h.symm))
  cases v with
  | str s =>
    simp only [Platform.parseIsoUtc, Platform.InstantRaises, JsonValue.str.injEq, exists_eq_left', exists_and_left]
    cases platform.fromisoformat (zoneText (charsOf s)) with
    | none => simpa using hvalue
    | some parsed => simp
  | _ => simpa [Platform.parseIsoUtc, Platform.InstantRaises] using hvalue

theorem not_recoverCameraKey_eq_error (he : ¬ e.IsCaught) (raw : JsonDict) : recoverCameraKey raw ≠ .error e := by
  have hvalue : Exn.valueError ≠ e := fun h => he (.inr (.inr h.symm))
  intro h
  rcases bind_eq_error_iff.1 h with hmissing | ⟨v, -, hrest⟩
  · exact not_getItem_eq_error he _ _ hmissing
  · split at hrest
    · split at hrest
      · cases hrest
      · exact hvalue (Except.error.inj hrest)
    · exact hvalue (Except.error.inj hrest)

theorem not_parseCameraKey_eq_error (he : ¬ e.IsCaught) (raw : JsonDict) : parseCameraKey raw ≠ .error e := by
  unfold parseCameraKey
  split
  · split
    · exact fun h => nomatch h
    · exact not_recoverCameraKey_eq_error he raw
  · exact not_recoverCameraKey_eq_error he raw

theorem parseCamera_eq_error_iff (he : ¬ e.IsCaught) {v : JsonValue} : parseCamera v = .error e ↔ CameraRaises v e := by
  have hvalue : Exn.valueError ≠ e := fun h => he (.inr (.inr h.symm))
  cases v with
  | dict raw =>
    simp only [parseCamera, bind_eq_error_iff, not_getItem_eq_error he, not_parseCameraKey_eq_error he,
      uuid_eq_error_iff he, getItem_eq_ok_iff, pure, Except.pure, reduceCtorEq, false_or, and_false, exists_false,
      or_false, CameraRaises, JsonValue.dict.injEq, exists_eq_left']
  | _ => simpa [parseCamera, CameraRaises] using hvalue

theorem mapM_parseCamera_eq_error_iff (he : ¬ e.IsCaught) {items : List JsonValue} :
    items.mapM parseCamera = .error e ↔ CamerasRaise e items := by
  induction items with
  | nil => simp [CamerasRaise, pure, Except.pure]
  | cons v items ih =>
    rw [List.mapM_cons, bind_eq_error_iff, parseCamera_eq_error_iff he, CamerasRaise]
    simp only [bind_eq_error_iff, ih, pure, Except.pure, reduceCtorEq, and_false, exists_false, or_false,
      parseCamera_eq_ok_iff, exists_and_right]
    rw [exists_comm]

/-- Only an array has items that are objects. -/
theorem iterate_parseCamera_eq_error_iff (he : ¬ e.IsCaught) {v : JsonValue} :
    iterate v = .error e ∨ (∃ items, iterate v = .ok items ∧ items.mapM parseCamera = .error e) ↔
      ∃ items, v = .list items ∧ CamerasRaise e items := by
  have htype : Exn.typeError ≠ e := fun h => he (.inr (.inl h.symm))
  have hnone : ∀ strs : List PyStr, (strs.map JsonValue.str).mapM parseCamera ≠ .error e := by
    intro strs h
    rw [mapM_parseCamera_eq_error_iff he] at h
    cases strs with
    | nil => exact h
    | cons s strs =>
      rcases h with ⟨raw, ⟨⟩, -⟩ | ⟨⟨raw, camera, ⟨⟩, -⟩, -⟩
  cases v with
  | list items => simp [iterate, mapM_parseCamera_eq_error_iff he]
  | str s =>
    have hmap : s.map (fun u => JsonValue.str [u]) = (s.map fun u => [u]).map JsonValue.str := by simp
    simp only [iterate, hmap, reduceCtorEq, Except.ok.injEq, exists_eq_left', hnone, false_or, false_and,
      exists_false]
  | dict members =>
    have hmap : members.map (fun kv => JsonValue.str kv.1) = (members.map Prod.fst).map JsonValue.str := by simp
    simp only [iterate, hmap, reduceCtorEq, Except.ok.injEq, exists_eq_left', hnone, false_or, false_and,
      exists_false]
  | _ => simp [iterate, htype]

theorem parseData_eq_error_iff (he : ¬ e.IsCaught) {platform : Platform} {data : JsonDict} :
    parseData platform data = .error e ↔ DataRaises platform data e := by
  have hcameras : ∀ v, (iterate v = .error e ∨ ∃ items, iterate v = .ok items ∧ items.mapM parseCamera = .error e) =
      ∃ items, v = .list items ∧ CamerasRaise e items := fun v => propext (iterate_parseCamera_eq_error_iff he)
  simp only [parseData, bind_eq_error_iff, not_getItem_eq_error he, uuid_eq_error_iff he,
    parseIsoUtc_eq_error_iff he, getItem_eq_ok_iff, uuid_eq_ok_iff, parseIsoUtc_eq_ok_iff, pure, Except.pure,
    reduceCtorEq, and_false, exists_false, or_false, false_or, hcameras, DataRaises, exists_and_right]

theorem asValueError_eq_error_iff (he : ¬ e.IsCaught) {α : Type} {x : Except Exn α} :
    asValueError x = .error e ↔ x = .error e := by
  cases x with
  | ok a => simp [asValueError]
  | error raised =>
    simp only [asValueError, Except.error.injEq]
    split
    · next hcaught =>
      constructor
      · rintro rfl
        exact absurd (.inr (.inr rfl)) he
      · rintro rfl
        exact absurd hcaught he
    · rfl

/-- **The decoder ends with an exception that is no `ValueError` exactly where a member raises one.** -/
theorem deserializeConfiguration_eq_error_iff (he : ¬ e.IsCaught) {platform : Platform} {configJson : List Char} :
    deserializeConfiguration platform configJson = .error e ↔ TextRaises platform configJson e := by
  have hvalue : Exn.valueError ≠ e := fun h => he (.inr (.inr h.symm))
  have hloads : platform.jsonLoads configJson = .error e ↔
      loads platform.toInterpreter configJson = .error .recursionError ∧ e = .recursionError := by
    unfold Platform.jsonLoads
    split
    · next h => simp [h]
    · next h => simp [h, eq_comm]
    · next hother h => simpa [h, hvalue] using fun heq => absurd heq hother
  simp only [deserializeConfiguration, bind_eq_error_iff, hloads, jsonLoads_eq_ok_iff, TextRaises]
  refine or_congr Iff.rfl ⟨?_, ?_⟩
  · rintro ⟨v, hv, hend⟩
    cases v with
    | dict data => exact ⟨data, hv, (parseData_eq_error_iff he).1 ((asValueError_eq_error_iff he).1 hend)⟩
    | _ => exact absurd (Except.error.inj hend) hvalue
  · rintro ⟨data, hdata, hraises⟩
    exact ⟨_, hdata, (asValueError_eq_error_iff he).2 ((parseData_eq_error_iff he).2 hraises)⟩

end Uncaught

theorem asValueError_isCaught {α : Type} {x : Except Exn α} {e : Exn} (h : asValueError x = .error e)
    (he : e.IsCaught) : e = .valueError := by
  cases x with
  | ok a => cases h
  | error raised =>
    simp only [asValueError, Except.error.injEq] at h
    split at h
    · exact h.symm
    · next hnot => exact absurd (h ▸ he) hnot

/-- Of the exceptions that are caught, `ValueError` is the one that comes out. -/
theorem deserializeConfiguration_isCaught {platform : Platform} {configJson : List Char} {e : Exn}
    (h : deserializeConfiguration platform configJson = .error e) (he : e.IsCaught) : e = .valueError := by
  rcases bind_eq_error_iff.1 h with hloads | ⟨v, -, hend⟩
  · unfold Platform.jsonLoads at hloads
    split at hloads
    · cases hloads
    · cases hloads
      exact absurd he (by decide)
    · cases hloads
      rfl
  · cases v with
    | dict data => exact asValueError_isCaught hend he
    | _ => exact (Except.error.inj hend).symm

/-! ## What ends the validation -/

/-- `_validate_camera_key` lets the key pass. -/
def KeyPasses (camera : DeviceCameraConfig) : Prop :=
  camera.cameraKey ≠ [] ∧ matchesCameraKeyPattern (charsOf camera.cameraKey) = true

/-- The numbers the cameras are ordered by. -/
def orders (cameras : List DeviceCameraConfig) : List Double := cameras.filterMap fun camera => number camera.sourceOrder

/-- The order of a camera is a number of its own. -/
def OrderPasses (before : List DeviceCameraConfig) (camera : DeviceCameraConfig) : Prop :=
  ∃ order, number camera.sourceOrder = some order ∧ order.lt (.finite 0) = false ∧ order ∉ orders before

/-- `_validate_stream_url` lets the URL pass. -/
def UrlPasses (urls : UrlLibrary) (v : JsonValue) : Prop :=
  ∃ url scheme netloc, v = .str url ∧ url ≠ [] ∧ urls.urlsplit (charsOf url) = some (scheme, netloc) ∧
    scheme ∈ approvedUrlSchemes ∧ netloc ≠ []

/-- `_validate_stream_url` raises this exception. -/
def UrlRaises (urls : UrlLibrary) : JsonValue → Exn → Prop
  | .str url, e => url ≠ [] ∧ urls.urlsplit (charsOf url) = none ∧ e = .valueError
  | v, e => truthy v = true ∧ e = .attributeError

/-- The texts among the paths of the cameras. -/
def paths (cameras : List DeviceCameraConfig) : List PyStr :=
  cameras.filterMap fun camera => match camera.outputPath with
    | .str path => some path
    | _ => none

/-- `_validate_output_path` lets the path pass, and no camera before has it. -/
def PathPasses (before : List DeviceCameraConfig) (camera : DeviceCameraConfig) : Prop :=
  ∃ path, camera.outputPath = .str path ∧ path ≠ [] ∧ path.length ≤ 512 ∧ path.head? ≠ some '/'.toNat ∧
    (¬ ∃ token ∈ forbiddenOutputPathSubstrings, token.map Char.toNat <:+: path) ∧
    (¬ ∃ u ∈ path, u < ' '.toNat ∨ u = '\x7f'.toNat) ∧ path = cameraPrefix ++ camera.cameraKey ∧ path ∉ paths before

/-- `_validate_output_path` raises this exception. -/
def PathRaises : JsonValue → Exn → Prop
  | .str _, _ => False
  | .list items, e => items ≠ [] ∧ items.length ≤ 512 ∧ e = .attributeError
  | .dict members, e => members ≠ [] ∧ JsonDict.size members ≤ 512 ∧ e = .attributeError
  | v, e => truthy v = true ∧ e = .typeError

/-- A camera passes behind these cameras. -/
def CameraPasses (urls : UrlLibrary) (before : List DeviceCameraConfig) (camera : DeviceCameraConfig) : Prop :=
  camera.cameraId ∉ before.map DeviceCameraConfig.cameraId ∧ KeyPasses camera ∧
    camera.cameraKey ∉ before.map DeviceCameraConfig.cameraKey ∧ OrderPasses before camera ∧
    UrlPasses urls camera.streamUrl ∧ PathPasses before camera

/-- A camera raises this exception behind these cameras: a rule before it may reject the configuration. -/
def CameraStops (urls : UrlLibrary) (before : List DeviceCameraConfig) (camera : DeviceCameraConfig) (e : Exn) : Prop :=
  camera.cameraId ∉ before.map DeviceCameraConfig.cameraId ∧ KeyPasses camera ∧
    camera.cameraKey ∉ before.map DeviceCameraConfig.cameraKey ∧
    (number camera.sourceOrder = none ∧ e = .typeError ∨ OrderPasses before camera ∧
      (UrlRaises urls camera.streamUrl e ∨ UrlPasses urls camera.streamUrl ∧ PathRaises camera.outputPath e))

/-- Behind cameras that pass, one raises this exception. -/
def CamerasStop (urls : UrlLibrary) (e : Exn) : List DeviceCameraConfig → List DeviceCameraConfig → Prop
  | _, [] => False
  | before, camera :: rest =>
    CameraStops urls before camera e ∨ CameraPasses urls before camera ∧ CamerasStop urls e (camera :: before) rest

/-- A configuration whose validation raises this exception. -/
structure ValidationRaises (urls : UrlLibrary) (expectedDeviceId : Uuid) (maxCameras : ℕ)
    (configuration : DeviceConfiguration) (e : Exn) : Prop where
  schemaVersion : configuration.schemaVersion.eqInt 1 = true
  deviceId : configuration.deviceId = expectedDeviceId
  branchId : configuration.branchId ≠ 0
  configurationVersion : truthy configuration.configurationVersion = true
  count : configuration.cameras.length ≤ maxCameras
  cameras : CamerasStop urls e [] configuration.cameras

/-- What the loop has seen behind these cameras. -/
def Seen.of (before : List DeviceCameraConfig) : Seen :=
  ⟨before.map DeviceCameraConfig.cameraId, before.map DeviceCameraConfig.cameraKey, orders before, paths before⟩

@[simp] theorem rejectIf_eq_ok_iff {p : Prop} [Decidable p] {reason : Reason} {u : Unit} :
    rejectIf p reason = .ok u ↔ ¬ p := by
  unfold rejectIf
  split <;> simp_all

@[simp] theorem rejectIf_ne_raised {p : Prop} [Decidable p] {reason : Reason} {e : Exn} :
    rejectIf p reason ≠ .error (.raised e) := by
  unfold rejectIf
  split <;> simp

theorem validateCameraKey_eq_ok_iff {camera : DeviceCameraConfig} {u : Unit} :
    validateCameraKey camera = .ok u ↔ KeyPasses camera := by
  simp only [validateCameraKey, bind_eq_ok_iff, rejectIf_eq_ok_iff, exists_const, KeyPasses, ne_eq,
    Bool.not_eq_false]

theorem validateCameraKey_ne_raised {camera : DeviceCameraConfig} {e : Exn} :
    validateCameraKey camera ≠ .error (.raised e) := by
  simp [validateCameraKey, bind_eq_error_iff]

theorem sourceOrder_eq_ok_iff {camera : DeviceCameraConfig} {order : Double} :
    sourceOrder camera = .ok order ↔ number camera.sourceOrder = some order := by
  unfold sourceOrder
  cases number camera.sourceOrder <;> simp

theorem sourceOrder_eq_raised_iff {camera : DeviceCameraConfig} {e : Exn} :
    sourceOrder camera = .error (.raised e) ↔ number camera.sourceOrder = none ∧ e = .typeError := by
  unfold sourceOrder
  cases number camera.sourceOrder <;> simp [eq_comm]

theorem validateStreamUrl_eq_ok_iff {urls : UrlLibrary} {camera : DeviceCameraConfig} {u : Unit} :
    validateStreamUrl urls camera = .ok u ↔ UrlPasses urls camera.streamUrl := by
  unfold validateStreamUrl UrlPasses
  cases camera.streamUrl with
  | str url =>
    cases hsplit : urls.urlsplit (charsOf url) with
    | none => simp [bind_eq_ok_iff, hsplit]
    | some parts =>
      obtain ⟨scheme, netloc⟩ := parts
      simp [bind_eq_ok_iff, hsplit, truthy]
  | _ => simp [bind_eq_ok_iff]

theorem validateStreamUrl_eq_raised_iff {urls : UrlLibrary} {camera : DeviceCameraConfig} {e : Exn} :
    validateStreamUrl urls camera = .error (.raised e) ↔ UrlRaises urls camera.streamUrl e := by
  unfold validateStreamUrl
  cases camera.streamUrl with
  | str url =>
    cases hsplit : urls.urlsplit (charsOf url) with
    | none => simp [bind_eq_error_iff, hsplit, truthy, UrlRaises, @eq_comm _ _ e]
    | some parts => simp [bind_eq_error_iff, hsplit, UrlRaises]
  | _ => simp [bind_eq_error_iff, UrlRaises, @eq_comm _ _ e]

theorem validateOutputPath_eq_ok_iff {camera : DeviceCameraConfig} {path : PyStr} :
    validateOutputPath camera = .ok path ↔ camera.outputPath = .str path ∧ path ≠ [] ∧ path.length ≤ 512 ∧
      path.head? ≠ some '/'.toNat ∧
      (¬ ∃ token ∈ forbiddenOutputPathSubstrings, token.map Char.toNat <:+: path) ∧
      (¬ ∃ u ∈ path, u < ' '.toNat ∨ u = '\x7f'.toNat) ∧ path = cameraPrefix ++ camera.cameraKey := by
  unfold validateOutputPath
  cases camera.outputPath with
  | str text =>
    have htruthy : truthy (.str text) = false ↔ text = [] := by simp [truthy]
    simp only [bind_eq_ok_iff, rejectIf_eq_ok_iff, exists_const, htruthy, not_lt, not_not, ne_eq, pure, Except.pure,
      Except.ok.injEq, JsonValue.str.injEq]
    constructor
    · rintro ⟨hne, hlength, hhead, htoken, hcontrol, heq, rfl⟩
      exact ⟨rfl, hne, hlength, hhead, htoken, hcontrol, heq⟩
    · rintro ⟨rfl, hne, hlength, hhead, htoken, hcontrol, heq⟩
      exact ⟨hne, hlength, hhead, htoken, hcontrol, heq, rfl⟩
  | _ => simp [bind_eq_ok_iff]

theorem validateOutputPath_eq_raised_iff {camera : DeviceCameraConfig} {e : Exn} :
    validateOutputPath camera = .error (.raised e) ↔ PathRaises camera.outputPath e := by
  unfold validateOutputPath
  cases camera.outputPath with
  | str text => simp [bind_eq_error_iff, PathRaises, pure, Except.pure]
  | list items => simp [bind_eq_error_iff, PathRaises, truthy, @eq_comm _ _ e]
  | dict members => simp [bind_eq_error_iff, PathRaises, truthy, @eq_comm _ _ e]
  | _ => simp [bind_eq_error_iff, PathRaises, @eq_comm _ _ e]

/-- What a round of the loop adds to the sets. -/
theorem Seen.of_cons {before : List DeviceCameraConfig} {camera : DeviceCameraConfig} {order : Double} {path : PyStr}
    (horder : number camera.sourceOrder = some order) (hpath : camera.outputPath = .str path) :
    Seen.of (camera :: before) =
      ⟨camera.cameraId :: (Seen.of before).cameraIds, camera.cameraKey :: (Seen.of before).cameraKeys,
        order :: (Seen.of before).sourceOrders, path :: (Seen.of before).outputPaths⟩ := by
  simp [Seen.of, orders, paths, horder, hpath]

theorem validateCamera_eq_ok_iff {urls : UrlLibrary} {before : List DeviceCameraConfig} {camera : DeviceCameraConfig}
    {seen : Seen} :
    validateCamera urls (.of before) camera = .ok seen ↔
      CameraPasses urls before camera ∧ Seen.of (camera :: before) = seen := by
  simp only [validateCamera, bind_eq_ok_iff, rejectIf_eq_ok_iff, exists_const, validateCameraKey_eq_ok_iff,
    sourceOrder_eq_ok_iff, validateStreamUrl_eq_ok_iff, validateOutputPath_eq_ok_iff, Bool.not_eq_true, pure,
    Except.pure, Except.ok.injEq]
  constructor
  · rintro ⟨hid, hkey, hkeys, order, horder, hnegative, horders, hurl, path, hpath, hpaths, rfl⟩
    refine ⟨⟨hid, hkey, hkeys, ⟨order, horder, hnegative, horders⟩, hurl, path, hpath.1, ?_⟩, ?_⟩
    · obtain ⟨-, hne, hlength, hhead, htoken, hcontrol, heq⟩ := hpath
      exact ⟨hne, hlength, hhead, htoken, hcontrol, heq, hpaths⟩
    · exact Seen.of_cons horder hpath.1
  · rintro ⟨⟨hid, hkey, hkeys, ⟨order, horder, hnegative, horders⟩, hurl, path, hpath, hne, hlength, hhead, htoken,
      hcontrol, heq, hpaths⟩, rfl⟩
    exact ⟨hid, hkey, hkeys, order, horder, hnegative, horders, hurl, path,
      ⟨hpath, hne, hlength, hhead, htoken, hcontrol, heq⟩, hpaths, (Seen.of_cons horder hpath).symm⟩

theorem validateCamera_eq_raised_iff {urls : UrlLibrary} {before : List DeviceCameraConfig}
    {camera : DeviceCameraConfig} {e : Exn} :
    validateCamera urls (.of before) camera = .error (.raised e) ↔ CameraStops urls before camera e := by
  simp only [validateCamera, bind_eq_error_iff, rejectIf_eq_ok_iff, rejectIf_ne_raised, exists_const,
    validateCameraKey_eq_ok_iff, validateCameraKey_ne_raised, sourceOrder_eq_ok_iff, sourceOrder_eq_raised_iff,
    validateStreamUrl_eq_ok_iff, validateStreamUrl_eq_raised_iff, validateOutputPath_eq_raised_iff,
    Bool.not_eq_true, pure, Except.pure, reduceCtorEq, and_false, or_false, false_or]
  constructor
  · rintro ⟨hid, hkey, hkeys, hnumber | ⟨order, horder, hnegative, horders, hend⟩⟩
    · exact ⟨hid, hkey, hkeys, .inl hnumber⟩
    · exact ⟨hid, hkey, hkeys, .inr ⟨⟨order, horder, hnegative, horders⟩, hend⟩⟩
  · rintro ⟨hid, hkey, hkeys, hnumber | ⟨⟨order, horder, hnegative, horders⟩, hend⟩⟩
    · exact ⟨hid, hkey, hkeys, .inl hnumber⟩
    · exact ⟨hid, hkey, hkeys, .inr ⟨order, horder, hnegative, horders, hend⟩⟩

theorem foldlM_validateCamera_eq_raised_iff {urls : UrlLibrary} {e : Exn} (before cameras : List DeviceCameraConfig) :
    cameras.foldlM (validateCamera urls) (.of before) = .error (.raised e) ↔ CamerasStop urls e before cameras := by
  induction cameras generalizing before with
  | nil => simp [CamerasStop, pure, Except.pure]
  | cons camera cameras ih =>
    rw [List.foldlM_cons, bind_eq_error_iff, validateCamera_eq_raised_iff, CamerasStop, ← ih]
    refine or_congr Iff.rfl ⟨?_, ?_⟩
    · rintro ⟨seen, hpasses, hrest⟩
      obtain ⟨hcamera, rfl⟩ := validateCamera_eq_ok_iff.1 hpasses
      exact ⟨hcamera, hrest⟩
    · exact fun ⟨hcamera, hrest⟩ => ⟨_, validateCamera_eq_ok_iff.2 ⟨hcamera, rfl⟩, hrest⟩

/-- **Validation ends with an exception exactly where a camera it reaches has a member of the wrong type,
or an URL that cannot be split.** -/
theorem validateConfiguration_eq_raised_iff {urls : UrlLibrary} {expectedDeviceId : Uuid} {maxCameras : ℕ}
    {configuration : DeviceConfiguration} {e : Exn} :
    validateConfiguration urls expectedDeviceId maxCameras configuration = .error (.raised e) ↔
      ValidationRaises urls expectedDeviceId maxCameras configuration e := by
  have hfold : configuration.cameras.foldlM (validateCamera urls) ⟨[], [], [], []⟩ = .error (.raised e) ↔ _ :=
    foldlM_validateCamera_eq_raised_iff [] configuration.cameras
  simp only [validateConfiguration, bind_eq_error_iff, rejectIf_eq_ok_iff, rejectIf_ne_raised, exists_const, hfold,
    Bool.not_eq_false, not_not, not_lt, ne_eq, pure, Except.pure, reduceCtorEq, and_false, exists_false, or_false,
    false_or]
  constructor
  · rintro ⟨hschema, hdevice, hbranch, hversion, hcount, hcameras⟩
    exact ⟨hschema, hdevice, hbranch, hversion, hcount, hcameras⟩
  · rintro ⟨hschema, hdevice, hbranch, hversion, hcount, hcameras⟩
    exact ⟨hschema, hdevice, hbranch, hversion, hcount, hcameras⟩

/-! ## The codec and the start -/

/-- The client produces the configuration from some body. -/
def Producible (platform : Platform) (configuration : DeviceConfiguration) : Prop :=
  ∃ maxCameras payload, Client.parseSuccess platform maxCameras payload = .ok (some configuration)

/-- `deserialize_configuration(serialize_configuration(configuration)) == configuration`. -/
def RoundTrips (platform : Platform) (configuration : DeviceConfiguration) : Prop :=
  deserializeConfiguration platform (serializeConfiguration platform configuration) = .ok configuration

/-- The text is refused with a `ValueError`, or read as a configuration that validation accepts or rejects
for every device. -/
def EndsProperly (platform : Platform) (configJson : List Char) : Prop :=
  match deserializeConfiguration platform configJson with
  | .error e => e = .valueError
  | .ok configuration => ∀ expectedDeviceId maxCameras e,
      validateConfiguration platform.urls expectedDeviceId maxCameras configuration ≠ .error (.raised e)

/-- `start` gets past the cache: it has a configuration to apply, or none. -/
def Starts (platform : Platform) (expectedDeviceId : Uuid) (maxCameras : ℕ) (row : CacheRow) : Prop :=
  ∃ result, loadCache platform expectedDeviceId maxCameras (some row) = .ok result

/-- The decoder raises nothing but `ValueError`. -/
theorem only_valueError_iff {platform : Platform} {configJson : List Char} :
    (∀ e, deserializeConfiguration platform configJson = .error e → e = .valueError) ↔
      ∀ e, ¬ e.IsCaught → ¬ TextRaises platform configJson e := by
  constructor
  · intro h e he hraises
    have hvalue := h e ((deserializeConfiguration_eq_error_iff he).2 hraises)
    exact he (.inr (.inr hvalue))
  · intro h e hread
    by_cases he : e.IsCaught
    · exact deserializeConfiguration_isCaught hread he
    · exact absurd ((deserializeConfiguration_eq_error_iff he).1 hread) (h e he)

theorem endsProperly_iff {platform : Platform} {configJson : List Char} :
    EndsProperly platform configJson ↔ (∀ e, ¬ e.IsCaught → ¬ TextRaises platform configJson e) ∧
      ∀ configuration, TextDenotes platform configJson configuration → ∀ expectedDeviceId maxCameras e,
        ¬ ValidationRaises platform.urls expectedDeviceId maxCameras configuration e := by
  simp only [← only_valueError_iff, ← deserializeConfiguration_eq_ok_iff, ← validateConfiguration_eq_raised_iff]
  unfold EndsProperly
  cases deserializeConfiguration platform configJson with
  | error raised => simp
  | ok configuration => simp

/-- The timestamp of a row is aware, and UTC can show it. -/
def IsTimestamp (platform : Platform) (text : List Char) : Prop :=
  ∃ parsed instant, platform.fromisoformat text = some parsed ∧ parsed.utcOffset ≠ none ∧
    platform.astimezoneUtc parsed = .ok instant

theorem loadRow_eq_ok_iff {platform : Platform} {row : CacheRow} {configJson : List Char} :
    loadRow platform row = .ok configJson ↔ IsTimestamp platform row.updatedAt ∧ row.configJson = configJson := by
  unfold loadRow IsTimestamp
  cases hparsed : platform.fromisoformat row.updatedAt with
  | none => simp
  | some parsed =>
    by_cases hnaive : parsed.utcOffset = none
    · simp [hnaive]
    · cases hutc : platform.astimezoneUtc parsed with
      | ok instant => simp [hnaive, hutc]
      | error e => cases e <;> simp [hnaive, hutc]

/-- The handler of `_load_and_apply_cache` catches what is a `ValueError` and what is a rejection. -/
theorem tryCached_eq_ok_iff {platform : Platform} {expectedDeviceId : Uuid} {maxCameras : ℕ} {configJson : List Char} :
    (∃ result, tryCached platform expectedDeviceId maxCameras configJson = .ok result) ↔
      (∀ e, ¬ e.IsCaught → ¬ TextRaises platform configJson e) ∧
      ∀ configuration, TextDenotes platform configJson configuration → ∀ e,
        ValidationRaises platform.urls expectedDeviceId maxCameras configuration e → e = .valueError := by
  simp only [← only_valueError_iff, ← deserializeConfiguration_eq_ok_iff, ← validateConfiguration_eq_raised_iff]
  unfold tryCached
  cases deserializeConfiguration platform configJson with
  | error raised =>
    by_cases hvalue : raised = .valueError
    · simp [hvalue]
    · simp [hvalue]
  | ok configuration =>
    cases hend : validateConfiguration platform.urls expectedDeviceId maxCameras configuration with
    | ok u => simp [hend]
    | error stop =>
      cases stop with
      | rejected reason => simp [hend]
      | raised e =>
        by_cases hvalue : e = .valueError
        · simp [hend, hvalue]
        · simp [hend, hvalue]

theorem starts_iff {platform : Platform} {expectedDeviceId : Uuid} {maxCameras : ℕ} {row : CacheRow} :
    Starts platform expectedDeviceId maxCameras row ↔
      IsTimestamp platform row.updatedAt ∧
      (∀ e, ¬ e.IsCaught → ¬ TextRaises platform row.configJson e) ∧
      ∀ configuration, TextDenotes platform row.configJson configuration → ∀ e,
        ValidationRaises platform.urls expectedDeviceId maxCameras configuration e → e = .valueError := by
  rw [← tryCached_eq_ok_iff, Starts]
  simp only [loadCache, bind_eq_ok_iff, loadRow_eq_ok_iff]
  constructor
  · rintro ⟨result, configJson, ⟨hupdated, rfl⟩, hresult⟩
    exact ⟨hupdated, result, hresult⟩
  · exact fun ⟨hupdated, result, hresult⟩ => ⟨result, _, ⟨hupdated, rfl⟩, hresult⟩

/-- A host in UTC. -/
def plainPlatform : Platform where
  nestingLimit := 4
  intMaxStrDigits := 0
  nesting := by decide
  floatRepr _ := "0.0".toList
  floatRead _ := Double.ofRat 0
  floats_read := readsBack_zero
  urls := ⟨fun _ => true, id⟩
  fromisoformat := Persistence.fromisoformat
  isoformat_read instant := Persistence.fromisoformat_toIsoUtc instant.2
  localToUtc reading := if h : IsDatetime reading then .ok ⟨reading, h⟩ else .error .overflowError

/-- A cached object whose device id is a number. -/
def numericText : List Char :=
  "\x7b\"schemaVersion\": 1, \"configurationVersion\": \"v1\", \"deviceId\": 7\x7d".toList

/-- A body whose only camera has an empty key. -/
def keylessPayload : JsonValue :=
  let camera : JsonValue := .dict
    [(.ofString "cameraId", .str (.ofString "00000000-0000-0000-0000-000000000003")),
      (.ofString "cameraKey", .str []), (.ofString "name", .str []), (.ofString "streamUrl", .str []),
      (.ofString "enabled", .bool true), (.ofString "sourceOrder", .int 0),
      (.ofString "outputPath", .str (.ofString "cameras/front"))]
  .dict [(.ofString "success", .bool true), (.ofString "data", .dict
    [(.ofString "schemaVersion", .int 1), (.ofString "configurationVersion", .str (.ofString "v1")),
      (.ofString "deviceId", .str (.ofString "00000000-0000-0000-0000-000000000001")),
      (.ofString "branchId", .str (.ofString "00000000-0000-0000-0000-000000000002")),
      (.ofString "generatedAtUtc", .str (.ofString "2024-03-01T00:00:00Z")),
      (.ofString "cameras", .list [camera])])]

theorem keylessPayload_parsed : ∃ configuration,
    Client.parseSuccess plainPlatform 1 keylessPayload = .ok (some configuration) ∧
      ∃ camera ∈ configuration.cameras, camera.cameraKey = [] :=
  ⟨_, rfl, _, List.mem_cons_self, rfl⟩

/-- The members of `numericText`. -/
def numericData : JsonDict :=
  [(.ofString "schemaVersion", .int 1), (.ofString "configurationVersion", .str (.ofString "v1")),
    (.ofString "deviceId", .int 7)]

theorem loads_numericText : loads plainPlatform.toInterpreter numericText = .ok (.dict numericData) := by
  have htext : numericText = dumps plainPlatform.floatRepr (.dict numericData) := by decide +kernel
  have hmembers : ∀ kv ∈ numericData, Writable kv.1 ∧ Readable plainPlatform.toInterpreter 3 kv.2 := by
    simp only [numericData, List.forall_mem_cons]
    exact ⟨⟨writable_map_toNat _, .inl rfl⟩, ⟨writable_map_toNat _, writable_map_toNat _⟩,
      ⟨writable_map_toNat _, .inl rfl⟩, fun _ hnil => absurd hnil List.not_mem_nil⟩
  have hreadable : Readable plainPlatform.toInterpreter plainPlatform.nestingLimit (.dict numericData) := hmembers
  rw [htext, loads_dumps plainPlatform.floats_read hreadable]
  rfl

theorem numericText_raises : TextRaises plainPlatform numericText .attributeError :=
  .inr ⟨numericData, loads_numericText, ⟨_, rfl⟩, ⟨_, rfl⟩, _, rfl, .inl ⟨trivial, rfl⟩⟩

end WeaponDetection.Agent.ConfigCache
