import WeaponDetection.Backend.Branches.ConfigurationVersion
import WeaponDetection.Backend.Branches.StoredBranches
import WeaponDetection.Contract.BranchReadEdit
import WeaponDetection.Contract.ConfigurationWire

/-!
# Whether the Agent accepts what the Backend serves

Every rule of `validate_configuration` holds of the configuration of a stored Branch but for two: a camera
URL that .NET takes for an absolute `rtsp` URI need not name a host, and the interpreter need not read the
instant (`served_accepted_iff`).
-/

namespace WeaponDetection.Contract

open WeaponDetection.Foundations
open WeaponDetection.Foundations.Python
open WeaponDetection.Agent
open WeaponDetection.Agent.ConfigCache (Platform ofChars)
open WeaponDetection.Backend
open WeaponDetection.Backend.AlertSync (Runtime Camera BranchDb)
open WeaponDetection.Backend.Branches

/-! ## Both sides together -/

/-- `_parse_success` makes a configuration of the body, and `validate_configuration` lets it pass. -/
def AgentAccepts (platform : Platform) (maxCameras : ℕ) (expectedDeviceId : Uuid) (payload : JsonDecoder.JsonValue) :
    Prop :=
  ∃ configuration, ConfigCache.Client.parseSuccess platform maxCameras payload = .ok (some configuration) ∧
    ConfigCache.validateConfiguration platform.urls expectedDeviceId maxCameras configuration = .ok ()

/-- The interpreter reads the instant as .NET writes it. -/
def ReadsInstant (platform : Platform) (now : DateTime) : Prop :=
  ∃ instant, platform.NamesInstant (.str (ofChars (dateTimeText now))) instant

/-- Python splits the URL into an approved scheme and a network location. -/
def PointsToHost (urls : UrlLibrary) (url : String) : Prop :=
  ∃ scheme netloc, urls.urlsplit url.toList = some (scheme, netloc) ∧
    scheme ∈ DeviceConfig.approvedUrlSchemes ∧ netloc ≠ []

/-- The body of a view is accepted when its cameras are and its instant is read. -/
theorem agentAccepts_responsePayload_iff {platform : Platform} {maxCameras : ℕ} {expectedDeviceId : Uuid}
    {view : DeviceConfigurationView} :
    AgentAccepts platform maxCameras expectedDeviceId (responsePayload view) ↔
      ReadsInstant platform view.generatedAtUtc ∧
        DeviceConfig.Accepted platform.urls expectedDeviceId maxCameras (received view) := by
  simp only [AgentAccepts, parseSuccess_responsePayload_iff]
  constructor
  · rintro ⟨configuration, ⟨-, instant, hinstant, rfl⟩, hvalid⟩
    rw [DeviceConfig.validateConfiguration_raw, mapError_eq_ok_iff,
      DeviceConfig.validateConfiguration_eq_ok_iff] at hvalid
    exact ⟨⟨instant, hinstant⟩, hvalid⟩
  · rintro ⟨⟨instant, hinstant⟩, haccepted⟩
    have hcount : view.cameras.length ≤ maxCameras := by
      rw [← List.length_map receivedCamera]
      exact haccepted.count
    refine ⟨(received view).raw instant, ⟨hcount, instant, hinstant, rfl⟩, ?_⟩
    rw [DeviceConfig.validateConfiguration_raw, mapError_eq_ok_iff, DeviceConfig.validateConfiguration_eq_ok_iff]
    exact haccepted

/-! ## Camera keys -/

theorem isKeyChar_of_alphanumeric {c : Char} (h : AlertSync.isCameraKeyAlphanumeric c = true) :
    DeviceConfig.isKeyChar c = true ∧ c ≠ '-' := by
  constructor
  · simp only [AlertSync.isCameraKeyAlphanumeric, Bool.or_eq_true, Bool.and_eq_true, decide_eq_true_eq] at h
    change ((decide ('a' ≤ c) && decide (c ≤ 'z')) || (decide ('0' ≤ c) && decide (c ≤ '9')) ||
      decide (c = '-')) = true
    simp only [Bool.or_eq_true, Bool.and_eq_true, decide_eq_true_eq]
    exact .inl h
  · rintro rfl
    revert h
    decide

/-- A key the Backend stores is a key of the Agent. -/
theorem isCameraKey_of_requireCameraKey {key : String} (h : requireCameraKey key = some key) :
    DeviceConfig.IsCameraKey key.toList := by
  unfold requireCameraKey at h
  simp only at h
  split_ifs at h with hblank hlength hpattern hreserved
  have htrim : DotNet.trim key = key := Option.some.inj h
  rw [htrim] at hpattern
  have hmatch : AlertSync.matchesCameraKeyPattern key = true := by simpa using hpattern
  simp only [AlertSync.matchesCameraKeyPattern, Bool.and_eq_true, decide_eq_true_eq, List.all_eq_true,
    Bool.or_eq_true, beq_iff_eq, Option.any_eq_true] at hmatch
  obtain ⟨⟨⟨⟨hmin, hmax⟩, hchars⟩, first, hfirst, halpha⟩, last, hlast, halpha'⟩ := hmatch
  refine ⟨hmin, hmax, fun c hc => ?_, ?_, ?_⟩
  · rcases hchars c hc with hc | rfl
    · exact (isKeyChar_of_alphanumeric hc).1
    · decide
  · rw [hfirst]
    exact fun heq => (isKeyChar_of_alphanumeric halpha).2 (Option.some.inj heq)
  · rw [hlast]
    exact fun heq => (isKeyChar_of_alphanumeric halpha').2 (Option.some.inj heq)

/-! ## The configuration of a stored Branch -/

/-- What a stored Camera is served as. -/
def servedCamera (c : Camera) : DeviceCameraConfigurationView where
  cameraId := c.cameraId
  cameraKey := c.cameraKey
  name := c.name
  streamUrl := c.rtspUrl
  enabled := c.enabled
  sourceOrder := c.sourceOrder
  outputPath := outputPathPrefix ++ c.cameraKey

theorem cameraConfiguration_eq {runtime : Runtime} {c : Camera} (h : CameraWellFormed runtime c) :
    cameraConfiguration c = some (servedCamera c) := by
  rw [cameraConfiguration, deriveOutputPath, h.cameraKey]
  rfl

theorem mapM_cameraConfiguration_eq {runtime : Runtime} {cameras : List Camera}
    (h : ∀ c ∈ cameras, CameraWellFormed runtime c) :
    cameras.mapM cameraConfiguration = some (cameras.map servedCamera) := by
  induction cameras with
  | nil => rfl
  | cons c cameras ih =>
    obtain ⟨hc, hrest⟩ := List.forall_mem_cons.1 h
    rw [List.mapM_cons, cameraConfiguration_eq hc, ih hrest]
    rfl

/-- The enabled Cameras of a Branch as they are served. -/
def servedCameras (db : BranchDb) (branchId : Uuid) : List DeviceCameraConfigurationView :=
  (orderBySourceOrder (db.enabledCameras branchId)).map servedCamera

theorem mem_orderBySourceOrder {cameras : List Camera} {c : Camera} :
    c ∈ orderBySourceOrder cameras ↔ c ∈ cameras :=
  (List.perm_insertionSort _ cameras).mem_iff

/-- A device of a stored Branch is always answered. -/
theorem getConfiguration_eq {runtime : Runtime} {db : BranchDb} (hdb : WellFormed runtime db)
    (sha256 : ByteArray → BitVec 256) (deviceId branchId : Uuid) (now : DateTime) :
    getConfiguration sha256 db deviceId branchId now = some
      { schemaVersion := 1
        configurationVersion := computeConfigurationVersion sha256 (servedCameras db branchId)
        deviceId, branchId, generatedAtUtc := now, cameras := servedCameras db branchId } := by
  have hcameras : ∀ c ∈ orderBySourceOrder (db.enabledCameras branchId), CameraWellFormed runtime c := by
    intro c hc
    exact hdb.cameras c (List.mem_of_mem_filter (mem_orderBySourceOrder.1 hc))
  rw [getConfiguration, mapM_cameraConfiguration_eq hcameras]
  rfl

/-- A column without repetition among the Cameras of a Branch has none among those served. -/
theorem nodup_served {α : Type} {column : Camera → α} {db : BranchDb} {branchId : Guid}
    (h : ((camerasOf db branchId).map column).Nodup) :
    ((orderBySourceOrder (db.enabledCameras branchId)).map column).Nodup := by
  have hperm := List.perm_insertionSort (fun c c' : Camera => c.sourceOrder ≤ c'.sourceOrder)
    (db.enabledCameras branchId)
  refine (hperm.map column).nodup_iff.2 (h.sublist ?_)
  apply List.Sublist.map
  refine List.monotone_filter_right _ ?_
  intro c hc
  simp only [decide_eq_true_eq] at hc ⊢
  exact hc.1

/-- The version has 64 digits. -/
theorem configurationVersion_ne_nil (sha256 : ByteArray → BitVec 256) (cameras : List DeviceCameraConfigurationView) :
    (computeConfigurationVersion sha256 cameras).toList ≠ [] := by
  rw [computeConfigurationVersion, toHexStringLower, String.toList_ofList]
  exact List.cons_ne_nil _ _

/-! ## What the Agent makes of a camera -/

theorem validateStreamUrl_eq_ok_iff {urls : UrlLibrary} {camera : DeviceConfig.DeviceCameraConfig}
    (hurl : camera.streamUrl.toList ≠ []) :
    DeviceConfig.validateStreamUrl urls camera = .ok () ↔ PointsToHost urls camera.streamUrl := by
  simp only [DeviceConfig.validateStreamUrl, bind_eq_ok_iff, DeviceConfig.rejectIf_eq_ok_iff, exists_const,
    PointsToHost]
  cases hsplit : urls.urlsplit camera.streamUrl.toList with
  | none => simp [throw, throwThe, MonadExceptOf.throw]
  | some parts =>
    obtain ⟨scheme, netloc⟩ := parts
    simp [bind_eq_ok_iff, hurl]

/-- A stored URL is not blank. -/
theorem rtspUrl_ne_nil {runtime : Runtime} {c : Camera} (h : CameraWellFormed runtime c) :
    c.rtspUrl.toList ≠ [] := by
  intro hnil
  have htext := h.rtspUrl
  rw [String.toList_eq_nil_iff.1 hnil] at htext
  exact absurd htext (by decide)

/-- A stored Camera meets every rule of its own but for the one of the URL. -/
theorem cameraAccepted_served_iff {runtime : Runtime} {urls : UrlLibrary} {c : Camera}
    (h : CameraWellFormed runtime c) :
    DeviceConfig.CameraAccepted urls (receivedCamera (servedCamera c)) ↔ PointsToHost urls c.rtspUrl := by
  have hurl := @validateStreamUrl_eq_ok_iff urls (receivedCamera (servedCamera c))
    (rtspUrl_ne_nil h)
  refine ⟨fun haccepted => hurl.1 haccepted.url, fun hpoints => ⟨?_, ?_, hurl.2 hpoints, ?_⟩⟩
  · exact isCameraKey_of_requireCameraKey h.cameraKey
  · exact Int.natCast_nonneg _
  · exact String.toList_append ..

/-- On stored tables the answer is accepted when the interpreter reads the instant and every enabled Camera
has a host. -/
theorem agentAccepts_stored_iff {runtime : Runtime} {db : BranchDb} (hdb : Stored runtime db) {b : AlertSync.Branch}
    (hb : b ∈ db.branches) {platform : Platform} {maxCameras : ℕ}
    (hcount : (db.enabledCameras b.branchId).length ≤ maxCameras) {sha256 : ByteArray → BitVec 256} {deviceId : Uuid}
    {now : DateTime} {view : DeviceConfigurationView}
    (h : getConfiguration sha256 db deviceId b.branchId now = some view) :
    AgentAccepts platform maxCameras deviceId (responsePayload view) ↔
      ReadsInstant platform now ∧ ∀ c ∈ db.enabledCameras b.branchId, PointsToHost platform.urls c.rtspUrl := by
  rw [getConfiguration_eq hdb.toWellFormed] at h
  cases h
  rw [agentAccepts_responsePayload_iff]
  refine and_congr_right fun _ => ?_
  have hwell : ∀ c ∈ db.enabledCameras b.branchId, CameraWellFormed runtime c := fun c hc =>
    hdb.cameras c (List.mem_of_mem_filter hc)
  have hcolumn : ∀ {α β : Type} (served : DeviceConfig.DeviceCameraConfig → β) (stored : Camera → α) (f : α → β),
      (∀ c, served (receivedCamera (servedCamera c)) = f (stored c)) →
        ((servedCameras db b.branchId).map receivedCamera).map served =
          ((orderBySourceOrder (db.enabledCameras b.branchId)).map stored).map f := by
    intro α β served stored f heq
    simp only [servedCameras, List.map_map]
    exact List.map_congr_left fun c _ => heq c
  constructor
  · intro haccepted c hc
    refine (cameraAccepted_served_iff (hwell c hc)).1 (haccepted.cameras _ ?_)
    exact List.mem_map_of_mem (List.mem_map_of_mem (mem_orderBySourceOrder.2 hc))
  · intro hpoints
    refine ⟨rfl, rfl, hdb.branchIds b hb, configurationVersion_ne_nil _ _, ?_, ?_, ?_, ?_, ?_⟩
    · simp only [received, servedCameras, List.length_map]
      rwa [orderBySourceOrder, (List.perm_insertionSort _ _).length_eq]
    · intro camera hcamera
      obtain ⟨served, hserved, rfl⟩ := List.mem_map.1 hcamera
      obtain ⟨c, hc, rfl⟩ := List.mem_map.1 hserved
      have hstored := mem_orderBySourceOrder.1 hc
      exact (cameraAccepted_served_iff (hwell c hstored)).2 (hpoints c hstored)
    · have hids := nodup_served (hdb.nodup_camerasOf b.branchId)
      rw [received, hcolumn _ Camera.cameraId id fun _ => rfl, List.map_id]
      exact hids
    · have hkeys := nodup_served (hdb.cameraKeys b.branchId)
      rw [received, hcolumn _ Camera.cameraKey id fun _ => rfl, List.map_id]
      exact hkeys
    · have horders := nodup_served (hdb.sourceOrders b.branchId)
      rw [received, hcolumn _ Camera.sourceOrder Nat.cast fun _ => rfl]
      exact horders.map Nat.cast_injective

/-! ## Every run -/

/-- **After any sequence of requests the answer to a device is accepted exactly when the interpreter reads its
instant and the URL of every enabled Camera has a host.** -/
theorem served_accepted_iff {runtime : Runtime} {hosts : HostLibrary} {db : BranchDb}
    (hrun : (branchSystem runtime hosts).Reachable db) {b : AlertSync.Branch} (hb : b ∈ db.branches) {maxCameras : ℕ}
    (hcount : (db.enabledCameras b.branchId).length ≤ maxCameras) (platform : Platform)
    (sha256 : ByteArray → BitVec 256) (deviceId : Uuid) (ticks : ℤ) :
    ∃ view, getConfiguration sha256 db deviceId b.branchId ⟨ticks, .utc⟩ = some view ∧
      (AgentAccepts platform maxCameras deviceId (responsePayload view) ↔
        ReadsInstant platform ⟨ticks, .utc⟩ ∧
          ∀ c ∈ db.enabledCameras b.branchId, PointsToHost platform.urls c.rtspUrl) := by
  have hdb := stored_of_reachable hrun
  have hview := getConfiguration_eq hdb.toWellFormed sha256 deviceId b.branchId ⟨ticks, .utc⟩
  exact ⟨_, hview, agentAccepts_stored_iff hdb hb hcount hview⟩

/-! ## A Branch with one Camera -/

/-- The platform as far as these inputs go: an authority is not asked for. -/
def schemeRuntime : Runtime where
  toUpperInvariant := Char.toUpper
  isRtspUri := fun url => "rtsp:".toList.isPrefixOf url.toList

/-- Every text without a delimiter is the host of a URI. -/
def plainHosts : HostLibrary where
  isIpv6 _ := false
  isAuthority _ := true

/-- The creation of `north` with its Camera. -/
def createNorth (rtspUrl : String) : BranchRequest :=
  .create ⟨1, fun _ => 2, true⟩
    ⟨"North", "1 High Street", "desk", "10.0.0.9", none, [some ⟨"Entrance", rtspUrl, "front-entrance"⟩]⟩

theorem reachable_oneCamera {rtspUrl : String}
    (h : handle schemeRuntime plainHosts ⟨[], []⟩ (createNorth rtspUrl) = oneCamera rtspUrl) :
    (branchSystem schemeRuntime plainHosts).Reachable (oneCamera rtspUrl) :=
  .step (.init rfl) (congrArg some h)

/-- The midnight before 1 March 2024. -/
def midnight : DateTime := ⟨638448480000000000, .utc⟩

theorem isDatetime_midnight : IsDatetime 63844848000000000 := by
  constructor <;> decide

theorem zoneText_midnight : ConfigCache.zoneText (ConfigCache.charsOf (ofChars (dateTimeText midnight))) =
    ConfigCache.zoneText (ConfigCache.charsOf (ofChars (toIsoUtc 63844848000000000))) := by
  decide

/-- Midnight is read by every interpreter. -/
theorem readsInstant_midnight (platform : Platform) : ReadsInstant platform midnight := by
  obtain ⟨s, parsed, hs, hread, hutc⟩ := ConfigCache.namesInstant_toIsoUtc platform ⟨_, isDatetime_midnight⟩
  cases hs
  rw [← zoneText_midnight] at hread
  exact ⟨_, _, parsed, rfl, hread, hutc⟩

/-- The Camera has a host. -/
def hostUrl : String := "rtsp://10.0.0.5/main"

theorem reachable_hostUrl : (branchSystem schemeRuntime plainHosts).Reachable (oneCamera hostUrl) :=
  reachable_oneCamera (by decide)

/-- A camera with a host is accepted. -/
theorem host_accepted : ∃ view, getConfiguration (fun _ => 0) (oneCamera hostUrl) 9 1 midnight = some view ∧
    AgentAccepts ConfigCache.plainPlatform 1 9 (responsePayload view) := by
  have hb : north ∈ (oneCamera hostUrl).branches := List.mem_singleton.2 rfl
  have hcount : ((oneCamera hostUrl).enabledCameras north.branchId).length ≤ 1 := by decide +kernel
  obtain ⟨view, hview, hiff⟩ := served_accepted_iff reachable_hostUrl hb hcount ConfigCache.plainPlatform
    (fun _ => 0) 9 638448480000000000
  refine ⟨view, hview, hiff.2 ⟨readsInstant_midnight _, fun c hc => ?_⟩⟩
  cases List.mem_singleton.1 (List.mem_of_mem_filter hc)
  exact ⟨"rtsp".toList, "10.0.0.5".toList, by decide +kernel, by decide, by decide⟩

/-- The Camera has none. -/
def hostlessUrl : String := "rtsp:cam1"

theorem reachable_hostlessUrl : (branchSystem schemeRuntime plainHosts).Reachable (oneCamera hostlessUrl) :=
  reachable_oneCamera (by decide)

theorem not_pointsToHost_hostlessUrl (urls : UrlLibrary) : ¬ PointsToHost urls hostlessUrl := by
  rintro ⟨scheme, netloc, hsplit, -, hnetloc⟩
  have hnone : urls.urlsplit hostlessUrl.toList = some ("rtsp".toList, []) := rfl
  rw [hnone] at hsplit
  cases hsplit
  exact hnetloc rfl

/-- The instant of a seventh digit. -/
def tickLater : DateTime := ⟨638448480000000001, .utc⟩

theorem not_readsInstant_tickLater : ¬ ReadsInstant ConfigCache.plainPlatform tickLater := by
  rintro ⟨instant, s, parsed, hs, hread, -⟩
  cases hs
  have hnone : Agent.Persistence.fromisoformat (ConfigCache.zoneText (ConfigCache.charsOf
      (ofChars (dateTimeText tickLater)))) = none := by decide
  exact Option.some_ne_none _ (hread.symm.trans hnone)

/-- **A camera that an operator saved has the whole configuration rejected, and so has an instant with seven
digits where the interpreter reads six.** -/
theorem configuration_rejected :
    (∃ view, getConfiguration (fun _ => 0) (oneCamera hostlessUrl) 9 1 midnight = some view ∧
      (branchSystem schemeRuntime plainHosts).Reachable (oneCamera hostlessUrl) ∧
      ((oneCamera hostlessUrl).enabledCameras 1).length ≤ 1 ∧
      ¬ AgentAccepts ConfigCache.plainPlatform 1 9 (responsePayload view)) ∧
    ∃ view, getConfiguration (fun _ => 0) (oneCamera hostUrl) 9 1 tickLater = some view ∧
      ¬ AgentAccepts ConfigCache.plainPlatform 1 9 (responsePayload view) := by
  have hstored := stored_of_reachable reachable_hostlessUrl
  have hstored' := stored_of_reachable reachable_hostUrl
  have hb : north ∈ (oneCamera hostlessUrl).branches := List.mem_singleton.2 rfl
  have hb' : north ∈ (oneCamera hostUrl).branches := List.mem_singleton.2 rfl
  have hcount : ((oneCamera hostlessUrl).enabledCameras north.branchId).length ≤ 1 := by decide +kernel
  have hcount' : ((oneCamera hostUrl).enabledCameras north.branchId).length ≤ 1 := by decide +kernel
  have hview := getConfiguration_eq hstored.toWellFormed (fun _ => 0) 9 north.branchId midnight
  have hview' := getConfiguration_eq hstored'.toWellFormed (fun _ => 0) 9 north.branchId tickLater
  refine ⟨⟨_, hview, reachable_hostlessUrl, hcount, fun haccepts => ?_⟩, _, hview', fun haccepts => ?_⟩
  · obtain ⟨-, hpoints⟩ := (agentAccepts_stored_iff hstored hb hcount hview).1 haccepts
    exact not_pointsToHost_hostlessUrl _ (hpoints _ (List.mem_filter.2 ⟨List.mem_cons_self, rfl⟩))
  · exact not_readsInstant_tickLater ((agentAccepts_stored_iff hstored' hb' hcount' hview').1 haccepts).1

end WeaponDetection.Contract
