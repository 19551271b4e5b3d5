import WeaponDetection.Agent.Configuration.CacheStart

/-!
# Configurations with members of the right types

The configurations of `DeviceConfig`, whose members have the types their annotations name, are the values
the client makes and validation accepts: validation decides them as it decides the JSON values they stand
for (`validateConfiguration_raw`).
-/

namespace WeaponDetection.Agent.DeviceConfig

open WeaponDetection.Foundations
open WeaponDetection.Foundations.Python
open WeaponDetection.Foundations.JsonDecoder
open WeaponDetection.Agent.ConfigCache (charsOf charsOf_map_toNat Stop UtcDatetime)

/-! ## Texts as strings of code points -/

theorem toNat_injective : Function.Injective Char.toNat := fun c d h => by
  rw [← Char.ofNat_toNat c, h, Char.ofNat_toNat]

theorem ofString_injective : Function.Injective PyStr.ofString := fun _ _ h =>
  String.toList_injective (List.map_injective_iff.2 toNat_injective h)

@[simp] theorem ofString_eq_nil_iff {s : String} : PyStr.ofString s = [] ↔ s.toList = [] := List.map_eq_nil_iff

@[simp] theorem charsOf_ofString (s : String) : charsOf (.ofString s) = s.toList := charsOf_map_toNat _

/-- A text lies in another exactly when its code points lie in those of the other. -/
theorem map_toNat_infix_iff {a b : List Char} : a.map Char.toNat <:+: b.map Char.toNat ↔ a <:+: b := by
  rw [List.infix_map_iff]
  constructor
  · rintro ⟨mid, hmid, heq⟩
    rwa [List.map_injective_iff.2 toNat_injective heq]
  · exact fun h => ⟨a, h, rfl⟩

/-! ## The values a configuration stands for -/

/-- The camera with its members as JSON values. -/
def DeviceCameraConfig.raw (camera : DeviceCameraConfig) : ConfigCache.DeviceCameraConfig where
  cameraId := camera.cameraId
  cameraKey := .ofString camera.cameraKey
  name := .str (.ofString camera.name)
  streamUrl := .str (.ofString camera.streamUrl)
  enabled := .bool camera.enabled
  sourceOrder := .int camera.sourceOrder
  outputPath := .str (.ofString camera.outputPath)

/-- The configuration with its members as JSON values, and the instant it was generated at. -/
def DeviceConfiguration.raw (configuration : DeviceConfiguration) (generatedAtUtc : UtcDatetime) :
    ConfigCache.DeviceConfiguration where
  schemaVersion := .int configuration.schemaVersion
  configurationVersion := .str (.ofString configuration.configurationVersion)
  deviceId := configuration.deviceId
  branchId := configuration.branchId
  generatedAtUtc
  cameras := configuration.cameras.map DeviceCameraConfig.raw

/-- What the loop has seen, as JSON values. -/
def Seen.raw (seen : Seen) : ConfigCache.Seen where
  cameraIds := seen.cameraIds
  cameraKeys := seen.cameraKeys.map PyStr.ofString
  sourceOrders := seen.sourceOrders.map fun order : ℤ => Double.finite order
  outputPaths := seen.outputPaths.map PyStr.ofString

/-- The same end of the validation. -/
def ConfigurationError.stop : ConfigurationError → Stop
  | .validation reason => .rejected reason
  | .valueError => .raised .valueError

/-! ## One rule after the other -/

theorem bind_mapError {ε ε' α β : Type} {g : ε → ε'} (x : Except ε α) (f : α → Except ε β) :
    (x >>= f).mapError g = x.mapError g >>= fun a => (f a).mapError g := by
  cases x <;> rfl

/-- The same first step, and the same rest behind it. -/
theorem bind_congr_steps {ε α β : Type} {x y : Except ε α} {f g : α → Except ε β} (hstep : x = y)
    (hrest : ∀ a, f a = g a) : x >>= f = y >>= g := by
  rw [hstep, funext hrest]

theorem rejectIf_raw {p q : Prop} [Decidable p] [Decidable q] (h : p ↔ q) (reason : Reason) :
    ConfigCache.rejectIf p reason = (rejectIf q reason).mapError ConfigurationError.stop := by
  unfold ConfigCache.rejectIf rejectIf
  by_cases hq : q
  · rw [if_pos hq, if_pos (h.2 hq)]
    rfl
  · rw [if_neg hq, if_neg (mt h.1 hq)]
    rfl

theorem validateCameraKey_raw (camera : DeviceCameraConfig) :
    ConfigCache.validateCameraKey camera.raw = (validateCameraKey camera).mapError ConfigurationError.stop := by
  unfold ConfigCache.validateCameraKey validateCameraKey
  rw [bind_mapError]
  refine bind_congr_steps (rejectIf_raw ofString_eq_nil_iff _) fun _ => rejectIf_raw ?_ _
  exact iff_of_eq (congrArg (fun text => matchesCameraKeyPattern text = false) (charsOf_ofString _))

theorem truthy_ofString {s : String} : ConfigCache.truthy (.str (.ofString s)) = false ↔ s.toList = [] := by
  simp [ConfigCache.truthy]

theorem validateStreamUrl_raw (urls : UrlLibrary) (camera : DeviceCameraConfig) :
    ConfigCache.validateStreamUrl urls camera.raw =
      (validateStreamUrl urls camera).mapError ConfigurationError.stop := by
  unfold ConfigCache.validateStreamUrl validateStreamUrl
  rw [bind_mapError]
  refine bind_congr_steps (rejectIf_raw truthy_ofString _) fun _ => ?_
  simp only [DeviceCameraConfig.raw, charsOf_ofString]
  cases urls.urlsplit camera.streamUrl.toList with
  | none => rfl
  | some parts =>
    obtain ⟨scheme, netloc⟩ := parts
    simp only [bind_mapError]
    exact bind_congr_steps (rejectIf_raw Iff.rfl _) fun _ => rejectIf_raw Iff.rfl _

theorem validateOutputPath_raw (camera : DeviceCameraConfig) :
    ConfigCache.validateOutputPath camera.raw =
      (validateOutputPath camera).mapError ConfigurationError.stop >>= fun _ => .ok (.ofString camera.outputPath) := by
  unfold ConfigCache.validateOutputPath validateOutputPath
  simp only [bind_mapError, bind_assoc]
  refine bind_congr_steps (rejectIf_raw truthy_ofString _) fun _ => ?_
  simp only [DeviceCameraConfig.raw]
  refine bind_congr_steps (rejectIf_raw ?_ _) fun _ => ?_
  · rw [PyStr.ofString, List.length_map]
  refine bind_congr_steps (rejectIf_raw ?_ _) fun _ => ?_
  · rw [PyStr.ofString, List.head?_map, Option.map_eq_some_iff]
    constructor
    · rintro ⟨c, hc, heq⟩
      rwa [← toNat_injective heq]
    · exact fun h => ⟨_, h, rfl⟩
  refine bind_congr_steps (rejectIf_raw ?_ _) fun _ => ?_
  · exact exists_congr fun token => and_congr_right fun _ => map_toNat_infix_iff
  refine bind_congr_steps (rejectIf_raw ?_ _) fun _ => ?_
  · simp only [PyStr.ofString, List.mem_map]
    constructor
    · rintro ⟨u, ⟨c, hc, rfl⟩, hlow | hdelete⟩
      · exact ⟨c, hc, .inl hlow⟩
      · exact ⟨c, hc, .inr (toNat_injective hdelete)⟩
    · rintro ⟨c, hc, hlow | rfl⟩
      · exact ⟨_, ⟨c, hc, rfl⟩, .inl hlow⟩
      · exact ⟨_, ⟨_, hc, rfl⟩, .inr rfl⟩
  refine bind_congr_steps (rejectIf_raw ?_ _) fun _ => rfl
  have hpath : ConfigCache.cameraPrefix ++ PyStr.ofString camera.cameraKey =
      (outputPathPrefix ++ camera.cameraKey.toList).map Char.toNat := by
    rw [List.map_append]
    rfl
  rw [hpath]
  exact not_congr (List.map_injective_iff.2 toNat_injective).eq_iff

/-- A round of the loop decides a camera as it decides the values it stands for. -/
theorem validateCamera_raw (urls : UrlLibrary) (seen : Seen) (camera : DeviceCameraConfig) :
    ConfigCache.validateCamera urls seen.raw camera.raw =
      (validateCamera urls seen camera).mapError ConfigurationError.stop >>= fun seen => .ok seen.raw := by
  unfold ConfigCache.validateCamera validateCamera
  simp only [bind_mapError, bind_assoc]
  refine bind_congr_steps (rejectIf_raw Iff.rfl _) fun _ => ?_
  refine bind_congr_steps (validateCameraKey_raw camera) fun _ => ?_
  refine bind_congr_steps (rejectIf_raw (List.mem_map_of_injective ofString_injective) _) fun _ => ?_
  change ConfigCache.rejectIf (Double.lt (.finite camera.sourceOrder) (.finite 0) = true) _ >>= _ = _
  refine bind_congr_steps (rejectIf_raw ?_ _) fun _ => ?_
  · rw [Double.lt_finite, decide_eq_true_eq, Int.cast_lt_zero]
  refine bind_congr_steps (rejectIf_raw ?_ _) fun _ => ?_
  · have hinjective : Function.Injective fun order : ℤ => Double.finite order := fun _ _ h =>
      Int.cast_injective (Double.finite.inj h)
    exact List.mem_map_of_injective hinjective
  refine bind_congr_steps (validateStreamUrl_raw urls camera) fun _ => ?_
  rw [validateOutputPath_raw, bind_assoc]
  refine bind_congr_steps rfl fun _ => ?_
  refine bind_congr_steps (rejectIf_raw (List.mem_map_of_injective ofString_injective) _) fun _ => rfl

theorem foldlM_validateCamera_raw (urls : UrlLibrary) (cameras : List DeviceCameraConfig) (seen : Seen) :
    (cameras.map DeviceCameraConfig.raw).foldlM (ConfigCache.validateCamera urls) seen.raw =
      (cameras.foldlM (validateCamera urls) seen).mapError ConfigurationError.stop >>= fun seen => .ok seen.raw := by
  induction cameras generalizing seen with
  | nil => rfl
  | cons camera cameras ih =>
    rw [List.map_cons, List.foldlM_cons, List.foldlM_cons, validateCamera_raw, bind_mapError, bind_assoc, bind_assoc]
    exact bind_congr_steps rfl fun seen' => ih seen'

/-- **Validation decides a configuration as it decides the JSON values it stands for.** -/
theorem validateConfiguration_raw (urls : UrlLibrary) (expectedDeviceId : Uuid) (maxCameras : ℕ)
    (configuration : DeviceConfiguration) (generatedAtUtc : UtcDatetime) :
    ConfigCache.validateConfiguration urls expectedDeviceId maxCameras (configuration.raw generatedAtUtc) =
      (validateConfiguration urls expectedDeviceId maxCameras configuration).mapError ConfigurationError.stop := by
  unfold ConfigCache.validateConfiguration validateConfiguration
  simp only [bind_mapError]
  refine bind_congr_steps (rejectIf_raw ?_ _) fun _ => ?_
  · simp [DeviceConfiguration.raw, JsonValue.eqInt]
  refine bind_congr_steps (rejectIf_raw Iff.rfl _) fun _ => ?_
  refine bind_congr_steps (rejectIf_raw Iff.rfl _) fun _ => ?_
  refine bind_congr_steps (rejectIf_raw truthy_ofString _) fun _ => ?_
  refine bind_congr_steps (rejectIf_raw ?_ _) fun _ => ?_
  · rw [DeviceConfiguration.raw, List.length_map]
  have hloop := foldlM_validateCamera_raw urls configuration.cameras ⟨[], [], [], []⟩
  change (configuration.cameras.map DeviceCameraConfig.raw).foldlM (ConfigCache.validateCamera urls) _ >>= _ = _
  rw [show (⟨[], [], [], []⟩ : ConfigCache.Seen) = Seen.raw ⟨[], [], [], []⟩ from rfl, hloop, bind_assoc]
  rfl

end WeaponDetection.Agent.DeviceConfig
