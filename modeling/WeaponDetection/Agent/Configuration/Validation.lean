import Mathlib.Data.List.Infix
import WeaponDetection.Foundations.UrlSplit

/-!
# Validation of a device configuration

Models `configuration/models.py` and `configuration/validation.py`: the configuration as the Backend
sends it, with all the fields the rules read, and the rules in source order.  A configuration is
admitted or rejected as a whole (`validateConfiguration_eq_ok_iff`).
-/

namespace WeaponDetection.Agent.DeviceConfig

open WeaponDetection.Foundations
open WeaponDetection.Foundations.Python

/-- `DeviceCameraConfig`. -/
structure DeviceCameraConfig where
  cameraId : Uuid
  cameraKey : String
  name : String
  streamUrl : String
  enabled : Bool
  sourceOrder : ℤ
  outputPath : String
  deriving DecidableEq

/-- `DeviceConfiguration`, `generated_at_utc` apart. -/
structure DeviceConfiguration where
  schemaVersion : ℤ
  configurationVersion : String
  deviceId : Uuid
  branchId : Uuid
  cameras : List DeviceCameraConfig
  deriving DecidableEq

/-! ## Errors -/

/-- The reasons of a `ConfigurationValidationError`. -/
inductive Reason where
  | unsupportedSchemaVersion
  | deviceIdMismatch
  | missingBranchId
  | missingConfigurationVersion
  | tooManyCameras
  | duplicateCameraId
  | emptyCameraKey
  | invalidCameraKey
  | duplicateCameraKey
  | negativeSourceOrder
  | duplicateSourceOrder
  | emptyStreamUrl
  | unapprovedUrlScheme
  | streamUrlNotAbsolute
  | emptyOutputPath
  | outputPathTooLong
  | outputPathNotRelative
  | unsafeOutputPath
  | outputPathCameraKeyMismatch
  | duplicateOutputPath
  deriving DecidableEq

/-- What validation raises. -/
inductive ConfigurationError where
  | validation (reason : Reason)
  /-- `ValueError` of `urlparse`. -/
  | valueError
  deriving DecidableEq

/-- `if p: raise ConfigurationValidationError(reason)`. -/
def rejectIf (p : Prop) [Decidable p] (reason : Reason) : Except ConfigurationError Unit :=
  if p then .error (.validation reason) else .ok ()

@[simp] theorem rejectIf_eq_ok_iff {p : Prop} [Decidable p] {reason : Reason} {u : Unit} :
    rejectIf p reason = .ok u ↔ ¬ p := by
  unfold rejectIf
  split <;> simp_all

/-! ## The rules of one camera -/

-- quantifiers over the characters of a text are decided along the text
scoped instance (priority := 2000) (text : Text) (p : Char → Prop) [DecidablePred p] :
    Decidable (∀ c ∈ text, p c) := List.decidableBAll p text

scoped instance (priority := 2000) (text : Text) (p : Char → Prop) [DecidablePred p] :
    Decidable (∃ c ∈ text, p c) := List.decidableBEx p text

/-- The characters of a camera key. -/
def isKeyChar (c : Char) : Bool := c.isLower || c.isDigit || c = '-'

/-- What `[a-z0-9](?:[a-z0-9-]{1,62}[a-z0-9])` matches as a whole. -/
def IsCameraKey (key : Text) : Prop :=
  3 ≤ key.length ∧ key.length ≤ 64 ∧ (∀ c ∈ key, isKeyChar c = true) ∧
    key.head? ≠ some '-' ∧ key.getLast? ≠ some '-'

instance (key : Text) : Decidable (IsCameraKey key) := inferInstanceAs (Decidable (_ ∧ _))

/-- `_CAMERA_KEY_PATTERN.match(key)`: `$` also matches before a newline at the end. -/
def matchesCameraKeyPattern (key : Text) : Bool :=
  IsCameraKey key ∨ key.getLast? = some '\n' ∧ IsCameraKey key.dropLast

/-- `_validate_camera_key`. -/
def validateCameraKey (camera : DeviceCameraConfig) : Except ConfigurationError Unit := do
  rejectIf (camera.cameraKey.toList = []) .emptyCameraKey
  rejectIf (matchesCameraKeyPattern camera.cameraKey.toList = false) .invalidCameraKey

/-- `_APPROVED_URL_SCHEMES`. -/
def approvedUrlSchemes : List Text := ["rtsp".toList, "rtsps".toList]

/-- `_validate_stream_url`. -/
def validateStreamUrl (lib : UrlLibrary) (camera : DeviceCameraConfig) :
    Except ConfigurationError Unit := do
  rejectIf (camera.streamUrl.toList = []) .emptyStreamUrl
  match lib.urlsplit camera.streamUrl.toList with
  | none => throw .valueError
  | some (scheme, netloc) =>
    rejectIf (scheme ∉ approvedUrlSchemes) .unapprovedUrlScheme
    rejectIf (netloc = []) .streamUrlNotAbsolute

/-- `_FORBIDDEN_OUTPUT_PATH_SUBSTRINGS`. -/
def forbiddenOutputPathSubstrings : List Text :=
  ["..".toList, "://".toList, "\\".toList, "?".toList, "#".toList, "//".toList]

/-- `_OUTPUT_PATH_PREFIX`. -/
def outputPathPrefix : Text := "cameras/".toList

/-- `_validate_output_path`. -/
def validateOutputPath (camera : DeviceCameraConfig) : Except ConfigurationError Unit := do
  let path := camera.outputPath.toList
  rejectIf (path = []) .emptyOutputPath
  rejectIf (512 < path.length) .outputPathTooLong
  rejectIf (path.head? = some '/') .outputPathNotRelative
  rejectIf (∃ token ∈ forbiddenOutputPathSubstrings, token <:+: path) .unsafeOutputPath
  rejectIf (∃ c ∈ path, c < ' ' ∨ c = '\x7f') .unsafeOutputPath
  rejectIf (path ≠ outputPathPrefix ++ camera.cameraKey.toList) .outputPathCameraKeyMismatch

/-! ## The rules of a configuration -/

/-- The values the loop over the cameras has seen. -/
structure Seen where
  cameraIds : List Uuid
  cameraKeys : List String
  sourceOrders : List ℤ
  outputPaths : List String

/-- One round of the loop. -/
def validateCamera (lib : UrlLibrary) (seen : Seen) (camera : DeviceCameraConfig) :
    Except ConfigurationError Seen := do
  rejectIf (camera.cameraId ∈ seen.cameraIds) .duplicateCameraId
  validateCameraKey camera
  rejectIf (camera.cameraKey ∈ seen.cameraKeys) .duplicateCameraKey
  rejectIf (camera.sourceOrder < 0) .negativeSourceOrder
  rejectIf (camera.sourceOrder ∈ seen.sourceOrders) .duplicateSourceOrder
  validateStreamUrl lib camera
  validateOutputPath camera
  rejectIf (camera.outputPath ∈ seen.outputPaths) .duplicateOutputPath
  return ⟨camera.cameraId :: seen.cameraIds, camera.cameraKey :: seen.cameraKeys,
    camera.sourceOrder :: seen.sourceOrders, camera.outputPath :: seen.outputPaths⟩

/-- `validate_configuration`. -/
def validateConfiguration (lib : UrlLibrary) (expectedDeviceId : Uuid) (maxCameras : ℕ)
    (configuration : DeviceConfiguration) : Except ConfigurationError Unit := do
  rejectIf (configuration.schemaVersion ≠ 1) .unsupportedSchemaVersion
  rejectIf (configuration.deviceId ≠ expectedDeviceId) .deviceIdMismatch
  rejectIf (configuration.branchId = 0) .missingBranchId
  rejectIf (configuration.configurationVersion.toList = []) .missingConfigurationVersion
  rejectIf (maxCameras < configuration.cameras.length) .tooManyCameras
  let _ ← configuration.cameras.foldlM (validateCamera lib) ⟨[], [], [], []⟩
  return

/-! ## Paths made of keys -/

theorem isKeyChar_ne {c d : Char} (hc : isKeyChar c = true) (hd : isKeyChar d = false) : c ≠ d := by
  rintro rfl
  rw [hc] at hd
  contradiction

/-- A key character is printable. -/
theorem isKeyChar_printable {c : Char} (h : isKeyChar c = true) : ¬ (c < ' ' ∨ c = '\x7f') := by
  simp only [isKeyChar, Bool.or_eq_true, decide_eq_true_eq] at h
  rintro (hlt | rfl)
  · have hlt' : c.val.toNat < 32 := UInt32.lt_iff_toNat_lt.1 hlt
    rcases h with (hlower | hdigit) | rfl
    · have ha : 97 ≤ c.val.toNat :=
        UInt32.le_iff_toNat_le.1 (of_decide_eq_true (Bool.and_eq_true_iff.1 hlower).1)
      omega
    · have h0 : 48 ≤ c.val.toNat :=
        UInt32.le_iff_toNat_le.1 (of_decide_eq_true (Bool.and_eq_true_iff.1 hdigit).1)
      omega
    · exact absurd hlt' (by decide)
  · revert h
    decide

/-- The path of a camera key has the characters of a key, and a single slash. -/
theorem mem_path {key : Text} (h : ∀ c ∈ key, isKeyChar c = true) {c : Char}
    (hc : c ∈ outputPathPrefix ++ key) : isKeyChar c = true ∨ c = '/' := by
  rcases List.mem_append.1 hc with hc | hc
  · have hall : outputPathPrefix.all (fun c => isKeyChar c = true ∨ c = '/') = true := by decide
    exact of_decide_eq_true (List.all_eq_true.1 hall c hc)
  · exact .inl (h c hc)

theorem not_forbidden {key : Text} (h : ∀ c ∈ key, isKeyChar c = true) :
    ¬ ∃ token ∈ forbiddenOutputPathSubstrings, token <:+: outputPathPrefix ++ key := by
  rintro ⟨token, htoken, hinside⟩
  have hslash : (outputPathPrefix ++ key).count '/' = 1 := by
    have hkey : key.count '/' = 0 := List.count_eq_zero.2 fun hmem => absurd (h _ hmem) (by decide)
    rw [List.count_append, hkey]
    decide
  by_cases hdouble : token = "//".toList
  · have hcount := hinside.sublist.count_le '/'
    rw [hdouble, hslash] at hcount
    exact absurd hcount (by decide)
  · -- every other token has a character that is neither one of a key nor a slash
    have hchar : ∀ t ∈ forbiddenOutputPathSubstrings, t ≠ "//".toList →
        t.any (fun c => isKeyChar c = false ∧ c ≠ '/') = true := by decide
    obtain ⟨c, hct, hc⟩ := List.any_eq_true.1 (hchar token htoken hdouble)
    obtain ⟨hnot, hne⟩ := of_decide_eq_true hc
    rcases mem_path h (hinside.subset hct) with hkey | rfl
    · exact isKeyChar_ne hkey hnot rfl
    · exact hne rfl

/-! ## What is accepted -/

/-- One camera passes its own rules. -/
structure CameraAccepted (lib : UrlLibrary) (camera : DeviceCameraConfig) : Prop where
  key : IsCameraKey camera.cameraKey.toList
  order : 0 ≤ camera.sourceOrder
  url : validateStreamUrl lib camera = .ok ()
  path : camera.outputPath.toList = outputPathPrefix ++ camera.cameraKey.toList

theorem validateOutputPath_eq_ok_iff {camera : DeviceCameraConfig} :
    validateOutputPath camera = .ok () ↔
      camera.outputPath.toList ≠ [] ∧ camera.outputPath.toList.length ≤ 512 ∧
      camera.outputPath.toList.head? ≠ some '/' ∧
      (¬ ∃ token ∈ forbiddenOutputPathSubstrings, token <:+: camera.outputPath.toList) ∧
      (¬ ∃ c ∈ camera.outputPath.toList, c < ' ' ∨ c = '\x7f') ∧
      camera.outputPath.toList = outputPathPrefix ++ camera.cameraKey.toList := by
  simp only [validateOutputPath, bind_eq_ok_iff, rejectIf_eq_ok_iff, exists_const, not_lt,
    not_not, ne_eq]

theorem validateCameraKey_eq_ok_iff {camera : DeviceCameraConfig} :
    validateCameraKey camera = .ok () ↔
      camera.cameraKey.toList ≠ [] ∧ matchesCameraKeyPattern camera.cameraKey.toList = true := by
  simp only [validateCameraKey, bind_eq_ok_iff, rejectIf_eq_ok_iff, exists_const, ne_eq,
    Bool.not_eq_false]

/-- The rules of the key and of the path together ask for a key and the path made of it. -/
theorem key_and_path_iff (camera : DeviceCameraConfig) :
    validateCameraKey camera = .ok () ∧ validateOutputPath camera = .ok () ↔
      IsCameraKey camera.cameraKey.toList ∧
        camera.outputPath.toList = outputPathPrefix ++ camera.cameraKey.toList := by
  rw [validateCameraKey_eq_ok_iff, validateOutputPath_eq_ok_iff]
  constructor
  · rintro ⟨⟨-, hmatch⟩, -, -, -, -, hprintable, hpath⟩
    refine ⟨?_, hpath⟩
    simp only [matchesCameraKeyPattern, Bool.decide_or, Bool.or_eq_true, decide_eq_true_eq] at hmatch
    rcases hmatch with hkey | ⟨hlast, -⟩
    · exact hkey
    · -- a newline at the end of the key would be in the path
      have hmem : '\n' ∈ camera.outputPath.toList := by
        rw [hpath]
        exact List.mem_append_right _ (List.mem_of_getLast? hlast)
      exact absurd ⟨'\n', hmem, .inl (by decide)⟩ hprintable
  · rintro ⟨hkey, hpath⟩
    obtain ⟨hmin, hmax, hchars, -⟩ := id hkey
    refine ⟨⟨?_, ?_⟩, ?_, ?_, ?_, ?_, ?_, hpath⟩
    · intro hnil
      rw [hnil] at hmin
      exact absurd hmin (by decide)
    · simp only [matchesCameraKeyPattern, decide_eq_true_eq]
      exact .inl hkey
    · rw [hpath]
      exact List.cons_ne_nil _ _
    · rw [hpath, List.length_append]
      have hstart : outputPathPrefix.length = 8 := by decide
      omega
    · rw [hpath]
      exact fun h => absurd (Option.some.inj h) (by decide)
    · rw [hpath]
      exact not_forbidden hchars
    · rintro ⟨c, hc, hcontrol⟩
      rw [hpath] at hc
      rcases mem_path hchars hc with hkeyChar | rfl
      · exact isKeyChar_printable hkeyChar hcontrol
      · exact absurd hcontrol (by decide)

/-- What the loop remembers of a camera. -/
def Seen.push (seen : Seen) (camera : DeviceCameraConfig) : Seen :=
  ⟨camera.cameraId :: seen.cameraIds, camera.cameraKey :: seen.cameraKeys,
    camera.sourceOrder :: seen.sourceOrders, camera.outputPath :: seen.outputPaths⟩

theorem validateCamera_eq_ok_iff {lib : UrlLibrary} {seen seen' : Seen}
    {camera : DeviceCameraConfig} :
    validateCamera lib seen camera = .ok seen' ↔
      CameraAccepted lib camera ∧ camera.cameraId ∉ seen.cameraIds ∧
      camera.cameraKey ∉ seen.cameraKeys ∧ camera.sourceOrder ∉ seen.sourceOrders ∧
      camera.outputPath ∉ seen.outputPaths ∧ seen.push camera = seen' := by
  have hpure : (pure (seen.push camera) : Except ConfigurationError Seen) = .ok seen' ↔
      seen.push camera = seen' := ⟨Except.ok.inj, congrArg Except.ok⟩
  simp only [validateCamera, bind_eq_ok_iff, rejectIf_eq_ok_iff, exists_const, not_lt]
  constructor
  · rintro ⟨hid, ⟨⟩, hkey, hkeys, horder, horders, ⟨⟩, hurl, ⟨⟩, hpath, hpaths, heq⟩
    obtain ⟨hisKey, hpathEq⟩ := (key_and_path_iff camera).1 ⟨hkey, hpath⟩
    exact ⟨⟨hisKey, horder, hurl, hpathEq⟩, hid, hkeys, horders, hpaths, hpure.1 heq⟩
  · rintro ⟨⟨hisKey, horder, hurl, hpathEq⟩, hid, hkeys, horders, hpaths, heq⟩
    obtain ⟨hkey, hpath⟩ := (key_and_path_iff camera).2 ⟨hisKey, hpathEq⟩
    exact ⟨hid, (), hkey, hkeys, horder, horders, (), hurl, (), hpath, hpaths, hpure.2 heq⟩

/-- Values without repetition, none of which was seen before. -/
def Fresh {α : Type} (seen values : List α) : Prop := values.Nodup ∧ ∀ v ∈ values, v ∉ seen

theorem fresh_cons {α : Type} {seen values : List α} {v : α} :
    Fresh seen (v :: values) ↔ v ∉ seen ∧ Fresh (v :: seen) values := by
  simp only [Fresh, List.nodup_cons, List.mem_cons, forall_eq_or_imp, not_or]
  constructor
  · rintro ⟨⟨hv, hnodup⟩, hseen, hrest⟩
    exact ⟨hseen, hnodup, fun w hw => ⟨fun h => hv (h ▸ hw), hrest w hw⟩⟩
  · rintro ⟨hseen, hnodup, hrest⟩
    exact ⟨⟨fun hmem => (hrest v hmem).1 rfl, hnodup⟩, hseen, fun w hw => (hrest w hw).2⟩

/-- The loop over the cameras ends. -/
theorem foldlM_validateCamera_iff {lib : UrlLibrary} (cameras : List DeviceCameraConfig)
    (seen : Seen) :
    (∃ seen', cameras.foldlM (validateCamera lib) seen = .ok seen') ↔
      (∀ camera ∈ cameras, CameraAccepted lib camera) ∧
      Fresh seen.cameraIds (cameras.map DeviceCameraConfig.cameraId) ∧
      Fresh seen.cameraKeys (cameras.map DeviceCameraConfig.cameraKey) ∧
      Fresh seen.sourceOrders (cameras.map DeviceCameraConfig.sourceOrder) ∧
      Fresh seen.outputPaths (cameras.map DeviceCameraConfig.outputPath) := by
  induction cameras generalizing seen with
  | nil => simp [Fresh, pure, Except.pure]
  | cons camera cameras ih =>
    simp only [List.foldlM_cons, bind_eq_ok_iff, validateCamera_eq_ok_iff, List.map_cons, fresh_cons,
      List.forall_mem_cons]
    constructor
    · rintro ⟨seen', _, ⟨hcam, hid, hkey, horder, hpath, rfl⟩, hrest⟩
      obtain ⟨hcams, hids, hkeys, horders, hpaths⟩ := (ih _).1 ⟨seen', hrest⟩
      exact ⟨⟨hcam, hcams⟩, ⟨hid, hids⟩, ⟨hkey, hkeys⟩, ⟨horder, horders⟩, hpath, hpaths⟩
    · rintro ⟨⟨hcam, hcams⟩, ⟨hid, hids⟩, ⟨hkey, hkeys⟩, ⟨horder, horders⟩, hpath, hpaths⟩
      obtain ⟨seen', hrest⟩ := (ih (seen.push camera)).2 ⟨hcams, hids, hkeys, horders, hpaths⟩
      exact ⟨seen', _, ⟨hcam, hid, hkey, horder, hpath, rfl⟩, hrest⟩

/-- What `validate_configuration` lets pass. -/
structure Accepted (lib : UrlLibrary) (expectedDeviceId : Uuid) (maxCameras : ℕ)
    (configuration : DeviceConfiguration) : Prop where
  schemaVersion : configuration.schemaVersion = 1
  deviceId : configuration.deviceId = expectedDeviceId
  branchId : configuration.branchId ≠ 0
  configurationVersion : configuration.configurationVersion.toList ≠ []
  count : configuration.cameras.length ≤ maxCameras
  cameras : ∀ camera ∈ configuration.cameras, CameraAccepted lib camera
  cameraIds : (configuration.cameras.map DeviceCameraConfig.cameraId).Nodup
  cameraKeys : (configuration.cameras.map DeviceCameraConfig.cameraKey).Nodup
  sourceOrders : (configuration.cameras.map DeviceCameraConfig.sourceOrder).Nodup

/-- Different keys have different paths. -/
theorem nodup_outputPath {lib : UrlLibrary} {cameras : List DeviceCameraConfig}
    (haccepted : ∀ camera ∈ cameras, CameraAccepted lib camera)
    (hkeys : (cameras.map DeviceCameraConfig.cameraKey).Nodup) :
    (cameras.map DeviceCameraConfig.outputPath).Nodup := by
  rw [List.Nodup, List.pairwise_map] at hkeys ⊢
  refine hkeys.imp_of_mem fun {a b} ha hb hne heq => hne ?_
  have hpaths := congrArg String.toList heq
  rw [(haccepted a ha).path, (haccepted b hb).path] at hpaths
  exact String.toList_injective (List.append_cancel_left hpaths)

/-- **A configuration is accepted exactly when it meets every rule.** -/
theorem validateConfiguration_eq_ok_iff {lib : UrlLibrary} {expectedDeviceId : Uuid}
    {maxCameras : ℕ} {configuration : DeviceConfiguration} :
    validateConfiguration lib expectedDeviceId maxCameras configuration = .ok () ↔
      Accepted lib expectedDeviceId maxCameras configuration := by
  have hfold := @foldlM_validateCamera_iff lib configuration.cameras ⟨[], [], [], []⟩
  simp only [Fresh, List.not_mem_nil, not_false_eq_true, implies_true, and_true] at hfold
  have hpure : (pure PUnit.unit : Except ConfigurationError Unit) = .ok () := rfl
  simp only [validateConfiguration, bind_eq_ok_iff, rejectIf_eq_ok_iff, exists_const, not_lt,
    not_not, ne_eq, hpure, and_true, hfold]
  constructor
  · rintro ⟨hschema, hdevice, hbranch, hversion, hcount, hcameras, hids, hkeys, horders, -⟩
    exact ⟨hschema, hdevice, hbranch, hversion, hcount, hcameras, hids, hkeys, horders⟩
  · rintro ⟨hschema, hdevice, hbranch, hversion, hcount, hcameras, hids, hkeys, horders⟩
    exact ⟨hschema, hdevice, hbranch, hversion, hcount, hcameras, hids, hkeys, horders,
      nodup_outputPath hcameras hkeys⟩

end WeaponDetection.Agent.DeviceConfig
