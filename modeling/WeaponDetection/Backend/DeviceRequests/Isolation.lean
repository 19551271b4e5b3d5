import Mathlib.Data.List.Nodup
import WeaponDetection.Backend.DeviceRequests.Share

/-!
# Devices of one Branch cannot tell or touch the rows of another

`BackendDb.share` is the database with the rows of one Branch only.  `handle_share` says that a request of the
Branch's Device does on it what it does on the whole database, and `branch_isolation` what follows for any
sequence of such requests.
-/

namespace WeaponDetection.Backend.DeviceRequests

open WeaponDetection.Foundations
open WeaponDetection.Backend.AlertSync
open WeaponDetection.Backend.Branches (getConfiguration orderBySourceOrder)
open WeaponDetection.Backend.Snapshots

/-! ## The share of a Branch -/

/-- The table with some of its rows. -/
def filterRows {Row Key : Type} {key : Row → Key} (t : KeyedTable key) (p : Row → Bool) : KeyedTable key :=
  ⟨t.rows.filter p, t.nodup.sublist (List.filter_sublist.map _)⟩

variable {p : Credentials.Platform}

/-- What belongs to a Branch. -/
def BackendDb.tenant (db : BackendDb p) (branchId : Guid) : Tenant where
  branchId := branchId
  isDevice deviceId := db.registry.devices.rows.any fun row =>
    row.branchId = branchId && row.device.deviceId = some deviceId
  isCamera cameraId := db.branchDb.cameras.any fun c => c.branchId = branchId && c.cameraId = cameraId

/-- The rows of the Branch, its Device and the Device's keys. -/
def registryShare (branchId : Guid) (r : Credentials.Registry p) : Credentials.Registry p where
  branches := filterRows r.branches (· = branchId)
  devices := filterRows r.devices (·.branchId = branchId)
  keys := filterRows r.keys fun k => r.devices.rows.any fun row =>
    row.branchId = branchId && row.deviceRecordId = k.deviceRecordId

/-- The rows of the Branch and its Cameras. -/
def branchShare (branchId : Guid) (db : BranchDb) : BranchDb :=
  ⟨db.branches.filter (·.branchId = branchId), db.cameras.filter (·.branchId = branchId)⟩

/-- The snapshots of the Alerts that are left. -/
def snapshotShare (alertDb : AlertDb) (snapshots : Guid → StoredSnapshot) (alertId : Guid) : StoredSnapshot :=
  if alertId ∈ alertDb.alertIds then snapshots alertId else .empty

theorem deviceIds_share (db : BackendDb p) (branchId : Guid) :
    ((registryShare branchId db.registry).devices.rows.filterMap fun row => row.device.deviceId).Nodup :=
  db.deviceIds.sublist (List.filter_sublist.filterMap _)

theorem cameraIds_share (db : BackendDb p) (branchId : Guid) :
    ((branchShare branchId db.branchDb).cameras.map Camera.cameraId).Nodup :=
  db.cameraIds.sublist (List.filter_sublist.map _)

theorem alertIds_share (tenant : Tenant) {alertDb : AlertDb} (h : alertDb.alertIds.Nodup) :
    (alertShare tenant alertDb).alertIds.Nodup :=
  h.sublist (List.filter_sublist.map _)

theorem unset_share (alertDb : AlertDb) (snapshots : Guid → StoredSnapshot) :
    ∀ alertId, alertId ∉ alertDb.alertIds → snapshotShare alertDb snapshots alertId = .empty :=
  fun _ hnew => if_neg hnew

/-- The database with the rows of one Branch. -/
def BackendDb.share (db : BackendDb p) (branchId : Guid) : BackendDb p where
  registry := registryShare branchId db.registry
  timeZoneIds id := if id = branchId then db.timeZoneIds id else none
  branchDb := branchShare branchId db.branchDb
  alertDb := alertShare (db.tenant branchId) db.alertDb
  snapshots := snapshotShare (alertShare (db.tenant branchId) db.alertDb) db.snapshots
  deviceIds := deviceIds_share db branchId
  cameraIds := cameraIds_share db branchId
  alertIds := alertIds_share _ db.alertIds
  unset := unset_share _ _

/-- The rows of all other Branches are as they were. -/
structure SameElsewhere (branchId : Guid) (db later : BackendDb p) : Prop where
  registry : later.registry = db.registry
  timeZoneIds : later.timeZoneIds = db.timeZoneIds
  branchDb : later.branchDb = db.branchDb
  alerts : later.alertDb.alerts.filter (fun row => !(db.tenant branchId).ownsAlert row) =
    db.alertDb.alerts.filter fun row => !(db.tenant branchId).ownsAlert row
  suppressed : later.alertDb.suppressed.filter (fun row => !(db.tenant branchId).ownsSuppressed row) =
    db.alertDb.suppressed.filter fun row => !(db.tenant branchId).ownsSuppressed row
  quotas : ∀ slot, slot.branchId ≠ branchId → later.alertDb.quotas slot = db.alertDb.quotas slot
  snapshots : ∀ row ∈ db.alertDb.alerts, (db.tenant branchId).ownsAlert row = false →
    later.snapshots row.alert.alertId = db.snapshots row.alert.alertId

/-- No other Branch has an Alert under an identifier the call may draw. -/
def DeviceCall.Free (tenant : Tenant) (alertDb : AlertDb) : DeviceCall → Prop
  | .syncEvents _ draws => ∀ n, FreeElsewhere tenant alertDb (draws n).newGuid
  | _ => True

/-! ## Rows that are found on the share -/

/-- A value that occurs once is that of one row. -/
theorem eq_of_nodup_filterMap {α β : Type} {f : α → Option β} {xs : List α} (h : (xs.filterMap f).Nodup) {a b : α}
    {v : β} (ha : a ∈ xs) (hb : b ∈ xs) (hfa : f a = some v) (hfb : f b = some v) : a = b := by
  induction xs with
  | nil => cases ha
  | cons x xs ih =>
    have hrest : (xs.filterMap f).Nodup := h.sublist ((List.sublist_cons_self x xs).filterMap f)
    have hfresh : ∀ y ∈ xs, f x = some v → f y = some v → False := by
      intro y hy hx hfy
      rw [List.filterMap_cons_some hx, List.nodup_cons] at h
      exact h.1 (List.mem_filterMap.2 ⟨y, hy, hfy⟩)
    rcases List.mem_cons.1 ha with rfl | ha'
    · rcases List.mem_cons.1 hb with rfl | hb'
      · rfl
      · exact (hfresh b hb' hfa hfb).elim
    · rcases List.mem_cons.1 hb with rfl | hb'
      · exact (hfresh a ha' hfb hfa).elim
      · exact ih hrest ha' hb'

/-- A row that is found under a unique value is found among some of the rows when it is one of them. -/
theorem find?_filter_of_unique {α β : Type} [DecidableEq β] {f : α → β} {xs : List α} (h : (xs.map f).Nodup)
    (q : α → Bool) (v : β) :
    (xs.filter q).find? (fun a => f a = v) = (xs.find? fun a => f a = v).filter q := by
  induction xs with
  | nil => rfl
  | cons x xs ih =>
    rw [List.map_cons, List.nodup_cons] at h
    rw [List.filter_cons, List.find?_cons]
    by_cases hx : f x = v
    · -- no other row has the value
      have hnone : (xs.filter q).find? (fun a => f a = v) = none := by
        refine List.find?_eq_none.2 fun a ha heq => h.1 ?_
        rw [hx, ← of_decide_eq_true heq]
        exact List.mem_map_of_mem (List.mem_of_mem_filter ha)
      cases hq : q x with
      | true => simp [hx, hq, Option.filter_some]
      | false => simp only [Bool.false_eq_true, if_false, hnone, hx, decide_true, Option.filter_some, hq]
    · have hrest := ih h.2
      cases hq : q x with
      | true => simpa [hx] using hrest
      | false => simpa [hx] using hrest

section Rows

variable {db : BackendDb p} {branchId : Guid}

/-- A Device of the Branch has its only row there. -/
theorem branchId_of_isDevice {deviceId : Guid} (h : (db.tenant branchId).isDevice deviceId = true)
    {row : Credentials.DeviceRow} (hrow : row ∈ db.registry.devices.rows) (hid : row.device.deviceId = some deviceId) :
    row.branchId = branchId := by
  obtain ⟨own, hown, heq⟩ := List.any_eq_true.1 h
  simp only [Bool.and_eq_true, decide_eq_true_eq] at heq
  rw [eq_of_nodup_filterMap db.deviceIds hrow hown hid heq.2]
  exact heq.1

theorem validate_share {deviceId : Guid} (h : (db.tenant branchId).isDevice deviceId = true)
    (presentedSecret : Option String) :
    Credentials.validate (registryShare branchId db.registry) deviceId presentedSecret =
      Credentials.validate db.registry deviceId presentedSecret := by
  have hfind : (registryShare branchId db.registry).devices.rows.find? (fun row =>
      row.device.deviceId = some deviceId) = db.registry.devices.rows.find? fun row =>
        row.device.deviceId = some deviceId := by
    refine find?_filter_of_imp fun row hrow hid => ?_
    exact decide_eq_true (branchId_of_isDevice h hrow (of_decide_eq_true hid))
  unfold Credentials.validate
  rw [hfind]

/-- The credentials of a Device name its Branch. -/
theorem branchId_of_valid {deviceId other deviceRecordId : Guid} {presentedSecret : Option String}
    (h : (db.tenant branchId).isDevice deviceId = true)
    (hvalid : Credentials.validate db.registry deviceId presentedSecret = .valid other deviceRecordId) :
    other = branchId := by
  unfold Credentials.validate at hvalid
  split at hvalid
  · cases hvalid
  split at hvalid
  · cases hvalid
  split at hvalid
  · cases hvalid
  rename_i row hfound
  have hbranch := branchId_of_isDevice h (List.mem_of_find?_eq_some hfound) (by simpa using List.find?_some hfound)
  split at hvalid
  · split at hvalid
    · cases hvalid
    · split at hvalid
      · cases hvalid
        exact hbranch
      · cases hvalid
  · unfold Credentials.classifyUnauthenticatableState at hvalid
    split at hvalid <;> cases hvalid

theorem enabledCameras_share : (branchShare branchId db.branchDb).enabledCameras branchId =
    db.branchDb.enabledCameras branchId := by
  unfold BranchDb.enabledCameras branchShare
  rw [List.filter_filter]
  refine List.filter_congr fun c _ => ?_
  by_cases hc : c.branchId = branchId
  · simp [hc]
  · simp [hc]

theorem findAlert_backend_share (alertId : Guid) :
    (db.share branchId).findAlert alertId = (db.findAlert alertId).filter (db.tenant branchId).ownsAlert :=
  find?_filter_of_unique db.alertIds _ alertId

theorem branchOfCamera_share (cameraId : Guid) :
    (db.share branchId).branchOfCamera cameraId = (db.branchOfCamera cameraId).filter (· = branchId) := by
  have hfind := find?_filter_of_unique db.cameraIds (fun c => decide (c.branchId = branchId)) cameraId
  unfold BackendDb.branchOfCamera
  rw [show (db.share branchId).branchDb.cameras = db.branchDb.cameras.filter (fun c => decide (c.branchId = branchId))
    from rfl, hfind]
  cases db.branchDb.cameras.find? fun a => a.cameraId = cameraId with
  | none => rfl
  | some c =>
    by_cases hc : c.branchId = branchId
    · simp [Option.filter_some, hc]
    · simp [Option.filter_some, hc]

/-- A Camera that is found in the Branch is one of its Cameras. -/
theorem isCamera_of_branchOfCamera {cameraId : Guid} (h : db.branchOfCamera cameraId = some branchId) :
    (db.tenant branchId).isCamera cameraId = true := by
  obtain ⟨c, hfound, hc⟩ := Option.map_eq_some_iff.1 h
  have hid : c.cameraId = cameraId := by simpa using List.find?_some hfound
  refine List.any_eq_true.2 ⟨c, List.mem_of_find?_eq_some hfound, ?_⟩
  simp [hc, hid]

theorem mem_alertIds_share {row : StoredAlert} (hrow : row ∈ db.alertDb.alerts)
    (howns : (db.tenant branchId).ownsAlert row = true) :
    row.alert.alertId ∈ (alertShare (db.tenant branchId) db.alertDb).alertIds :=
  List.mem_map_of_mem (List.mem_filter.2 ⟨hrow, howns⟩)

end Rows

/-! ## One request -/

section Step

variable {host : Host} {db : BackendDb host.credentials} {branchId : Guid}

/-- The tables no request changes. -/
structure SameTables (db later : BackendDb p) : Prop where
  registry : later.registry = db.registry
  timeZoneIds : later.timeZoneIds = db.timeZoneIds
  branchDb : later.branchDb = db.branchDb

theorem SameTables.tenant {db later : BackendDb p} (h : SameTables db later) (branchId : Guid) :
    later.tenant branchId = db.tenant branchId := by
  unfold BackendDb.tenant
  rw [h.registry, h.branchDb]

/-- What makes tables the share of others. -/
theorem eq_share {db later part : BackendDb p} (h : SameTables db later) (hpart : SameTables (db.share branchId) part)
    (halerts : part.alertDb = alertShare (db.tenant branchId) later.alertDb)
    (hsnapshots : part.snapshots = snapshotShare part.alertDb later.snapshots) : part = later.share branchId := by
  have halerts' : part.alertDb = (later.share branchId).alertDb := by
    rw [halerts, ← h.tenant branchId]
    rfl
  refine BackendDb.ext ?_ ?_ ?_ halerts' ?_
  · rw [hpart.registry]
    exact congrArg (registryShare branchId) h.registry.symm
  · rw [hpart.timeZoneIds]
    exact congrArg (fun ids id => if id = branchId then ids id else none) h.timeZoneIds.symm
  · rw [hpart.branchDb]
    exact congrArg (branchShare branchId) h.branchDb.symm
  · rw [hsnapshots, halerts']
    rfl

theorem resolveCameraId_share (runtime : Runtime) (db : BackendDb p) (wireCameraId : String) :
    resolveCameraId runtime (branchShare branchId db.branchDb) branchId wireCameraId =
      resolveCameraId runtime db.branchDb branchId wireCameraId := by
  unfold resolveCameraId
  rw [enabledCameras_share]

theorem checkInput_share {deviceId : Guid} {events : List DetectionEventDto} (evt : DetectionEventDto) :
    ((db.share branchId).setting host).checkInput (db.batch host deviceId branchId events) evt =
      (db.setting host).checkInput (db.batch host deviceId branchId events) evt := by
  have hresolve : ((db.share branchId).setting host).resolve (db.batch host deviceId branchId events) evt =
      (db.setting host).resolve (db.batch host deviceId branchId events) evt :=
    resolveCameraId_share host.toRuntime db evt.cameraId
  unfold SyncSetting.checkInput
  rw [hresolve]

theorem batch_share (deviceId : Guid) (events : List DetectionEventDto) :
    (db.share branchId).batch host deviceId branchId events = db.batch host deviceId branchId events := by
  unfold BackendDb.batch BackendDb.share
  simp only [if_true]

/-- The snapshots of the Branch after a batch: those of its new Alerts are empty. -/
theorem snapshotShare_adds {batch : SyncBatch} {later : AlertDb} (hsends : (db.tenant branchId).Sends batch)
    (hadds : db.alertDb.Adds batch later) :
    snapshotShare (alertShare (db.tenant branchId) later) db.snapshots =
      snapshotShare (alertShare (db.tenant branchId) db.alertDb) db.snapshots := by
  obtain ⟨added, halerts, hdevice⟩ := hadds.alerts
  have hnodup := hadds.alertIds db.alertIds
  rw [AlertDb.alertIds, halerts, List.map_append, List.nodup_append] at hnodup
  have howned : ∀ row ∈ added, (db.tenant branchId).ownsAlert row = true := by
    intro row hrow
    rw [Tenant.ownsAlert, hdevice row hrow, hsends.device, Bool.true_or]
  have hids : (alertShare (db.tenant branchId) later).alertIds =
      (alertShare (db.tenant branchId) db.alertDb).alertIds ++ added.map fun row => row.alert.alertId := by
    simp only [AlertDb.alertIds, alertShare, halerts, List.filter_append, List.map_append,
      List.filter_eq_self.2 howned]
  funext alertId
  unfold snapshotShare
  rw [hids]
  by_cases hold : alertId ∈ (alertShare (db.tenant branchId) db.alertDb).alertIds
  · rw [if_pos hold, if_pos (List.mem_append_left _ hold)]
  · rw [if_neg hold]
    by_cases hnew : alertId ∈ added.map fun row => row.alert.alertId
    · rw [if_pos (List.mem_append_right _ hnew)]
      exact db.unset alertId fun hmem => hnodup.2.2 alertId hmem alertId hnew rfl
    · rw [if_neg fun hmem => (List.mem_append.1 hmem).elim hold hnew]

theorem afterSync_same (deviceId : Guid) (events : List DetectionEventDto) (draws : ℕ → Draws) :
    SameTables db (db.afterSync host deviceId branchId events draws) := ⟨rfl, rfl, rfl⟩

theorem afterSync_alertDb (deviceId : Guid) (events : List DetectionEventDto) (draws : ℕ → Draws) :
    (db.afterSync host deviceId branchId events draws).alertDb =
      (AlertSync.syncEvents (db.setting host) (db.batch host deviceId branchId events) draws db.alertDb).1 := rfl

theorem afterSync_snapshots (deviceId : Guid) (events : List DetectionEventDto) (draws : ℕ → Draws) :
    (db.afterSync host deviceId branchId events draws).snapshots = db.snapshots := rfl

theorem sends_batch {deviceId : Guid} (hdevice : (db.tenant branchId).isDevice deviceId = true)
    (events : List DetectionEventDto) : (db.tenant branchId).Sends (db.batch host deviceId branchId events) :=
  ⟨hdevice, rfl⟩

/-- A batch on the share. -/
theorem batch_on_share {deviceId : Guid} (hdevice : (db.tenant branchId).isDevice deviceId = true)
    (events : List DetectionEventDto) {draws : ℕ → Draws}
    (hfree : ∀ n, FreeElsewhere (db.tenant branchId) db.alertDb (draws n).newGuid) :
    AlertSync.syncEvents ((db.share branchId).setting host) ((db.share branchId).batch host deviceId branchId events)
        draws (db.share branchId).alertDb =
      (alertShare (db.tenant branchId) (db.afterSync host deviceId branchId events draws).alertDb,
        (AlertSync.syncEvents (db.setting host) (db.batch host deviceId branchId events) draws db.alertDb).2) := by
  have hoptions : ((db.share branchId).setting host).options = (db.setting host).options := rfl
  have hbatch := syncEvents_share (sends_batch hdevice events) hoptions checkInput_share hfree
  rw [batch_share, afterSync_alertDb]
  exact hbatch

theorem afterSync_share {deviceId : Guid} (hdevice : (db.tenant branchId).isDevice deviceId = true)
    (events : List DetectionEventDto) {draws : ℕ → Draws}
    (hfree : ∀ n, FreeElsewhere (db.tenant branchId) db.alertDb (draws n).newGuid) :
    (db.share branchId).afterSync host deviceId branchId events draws =
      (db.afterSync host deviceId branchId events draws).share branchId := by
  have halerts := congrArg Prod.fst (batch_on_share hdevice events hfree)
  refine eq_share (afterSync_same _ _ _) (afterSync_same _ _ _) ?_ ?_
  · rw [afterSync_alertDb]
    exact halerts
  · have hadds := syncEvents_adds (db.setting host) (db.batch host deviceId branchId events) draws db.alertDb
    rw [afterSync_snapshots, afterSync_snapshots, afterSync_alertDb, halerts, afterSync_alertDb,
      snapshotShare_adds (sends_batch hdevice events) hadds]
    rfl

theorem syncEvents_backend_share {deviceId : Guid} (hdevice : (db.tenant branchId).isDevice deviceId = true)
    (events : Option (List DetectionEventDto)) {draws : ℕ → Draws}
    (hfree : ∀ n, FreeElsewhere (db.tenant branchId) db.alertDb (draws n).newGuid) :
    syncEvents host (db.share branchId) deviceId branchId events draws =
      ((syncEvents host db deviceId branchId events draws).1.share branchId,
        (syncEvents host db deviceId branchId events draws).2) := by
  unfold syncEvents
  split
  · rfl
  · rfl
  · rename_i events _
    split
    · rfl
    · have hresults := congrArg Prod.snd (batch_on_share hdevice events hfree)
      simp only [afterSync_share hdevice events hfree, hresults]

/-- The decision about an Alert whose Camera is not one of the Branch. -/
theorem decideUpload_other {runtime : SnapshotRuntime} {alert : AlertRow} {cameraBranchId : Option Guid}
    {receivedAtUtc : DateTime} {request : SnapshotUploadRequest} (h : cameraBranchId ≠ some request.branchId) :
    decideUpload runtime alert cameraBranchId receivedAtUtc request = .answered notFound := by
  unfold decideUpload checkUpload
  rw [if_pos h]

theorem decideUpload_share {row : StoredAlert} {alert : AlertRow} {receivedAtUtc : DateTime}
    {request : SnapshotUploadRequest} (hbranch : request.branchId = branchId) :
    decideUpload host.toSnapshotRuntime alert ((db.share branchId).branchOfCamera row.alert.cameraId) receivedAtUtc
        request =
      decideUpload host.toSnapshotRuntime alert (db.branchOfCamera row.alert.cameraId) receivedAtUtc request := by
  rw [branchOfCamera_share]
  cases hcamera : db.branchOfCamera row.alert.cameraId with
  | none => rfl
  | some other =>
    by_cases hother : other = branchId
    · rw [Option.filter_some, if_pos (decide_eq_true hother)]
    · have hne : some other ≠ some request.branchId := by
        rw [hbranch]
        exact fun heq => hother (Option.some.inj heq)
      rw [Option.filter_some, if_neg (by simpa using hother), decideUpload_other hne,
        decideUpload_other (Option.some_ne_none _).symm]

theorem store_eq {db : BackendDb p} {alertId : Guid} {row : StoredAlert} (hfound : db.findAlert alertId = some row)
    (snapshot : StoredSnapshot) : SameTables db (db.store alertId snapshot) ∧
      (db.store alertId snapshot).alertDb = db.alertDb ∧
      (db.store alertId snapshot).snapshots = Function.update db.snapshots alertId snapshot := by
  unfold BackendDb.store
  split
  · rename_i hnone
    rw [hfound] at hnone
    cases hnone
  · exact ⟨⟨rfl, rfl, rfl⟩, rfl, rfl⟩

theorem findAlert_of_owned {db : BackendDb p} {alertId : Guid} {row : StoredAlert}
    (hfound : db.findAlert alertId = some row) (howns : (db.tenant branchId).ownsAlert row = true) :
    (db.share branchId).findAlert alertId = some row := by
  rw [findAlert_backend_share, hfound, Option.filter_some, if_pos howns]

theorem alertId_of_findAlert {db : BackendDb p} {alertId : Guid} {row : StoredAlert}
    (hfound : db.findAlert alertId = some row) : row.alert.alertId = alertId := by
  simpa using List.find?_some hfound

/-- The identifier of an Alert of the Branch is one of the share. -/
theorem mem_share_of_owned {db : BackendDb p} {alertId : Guid} {row : StoredAlert}
    (hfound : db.findAlert alertId = some row) (howns : (db.tenant branchId).ownsAlert row = true) :
    alertId ∈ (alertShare (db.tenant branchId) db.alertDb).alertIds :=
  alertId_of_findAlert hfound ▸ mem_alertIds_share (List.mem_of_find?_eq_some hfound) howns

theorem store_share {db : BackendDb p} {alertId : Guid} {row : StoredAlert} (hfound : db.findAlert alertId = some row)
    (howns : (db.tenant branchId).ownsAlert row = true) (snapshot : StoredSnapshot) :
    (db.share branchId).store alertId snapshot = (db.store alertId snapshot).share branchId := by
  obtain ⟨hsame, halerts, hsnapshots⟩ := store_eq hfound snapshot
  obtain ⟨hsame', halerts', hsnapshots'⟩ := store_eq (findAlert_of_owned hfound howns) snapshot
  refine eq_share hsame hsame' ?_ ?_
  · rw [halerts', halerts]
    rfl
  · rw [hsnapshots', halerts', hsnapshots]
    funext id
    change Function.update (snapshotShare _ db.snapshots) alertId snapshot id =
      snapshotShare (alertShare (db.tenant branchId) db.alertDb) (Function.update db.snapshots alertId snapshot) id
    unfold snapshotShare
    by_cases hid : id = alertId
    · rw [hid, Function.update_self, if_pos (mem_share_of_owned hfound howns), Function.update_self]
    · rw [Function.update_of_ne hid, Function.update_of_ne hid]

theorem upload_share {request : SnapshotUploadRequest} (hbranch : request.branchId = branchId)
    (receivedAtUtc : DateTime) (storing : Storing) :
    upload host (db.share branchId) request receivedAtUtc storing =
      ((upload host db request receivedAtUtc storing).1.share branchId,
        (upload host db request receivedAtUtc storing).2) := by
  unfold upload
  cases hfound : db.findAlert request.alertId with
  | none =>
    have hnone : (db.share branchId).findAlert request.alertId = none := by
      rw [findAlert_backend_share, hfound]
      rfl
    rw [hnone]
  | some row =>
    cases howns : (db.tenant branchId).ownsAlert row with
    | false =>
      -- the Alert of another Branch is answered as one that does not exist
      have hnone : (db.share branchId).findAlert request.alertId = none := by
        rw [findAlert_backend_share, hfound, Option.filter_some, if_neg (by simp [howns])]
      have hcamera : db.branchOfCamera row.alert.cameraId ≠ some request.branchId := by
        intro hsome
        rw [hbranch] at hsome
        rw [Tenant.ownsAlert, isCamera_of_branchOfCamera hsome, Bool.or_true] at howns
        cases howns
      rw [hnone]
      simp only [decideUpload_other hcamera]
    | true =>
      have hsnapshot : (db.share branchId).snapshots request.alertId = db.snapshots request.alertId :=
        if_pos (mem_share_of_owned hfound howns)
      rw [findAlert_of_owned hfound howns]
      simp only [hsnapshot, decideUpload_share hbranch]
      split
      · rfl
      · cases storing with
        | done => simp only [store_share hfound howns]
        | notMoved => rfl
        | notSaved => simp only [store_share hfound howns]
      · rfl

theorem answerCall_share {deviceId : Guid} (hdevice : (db.tenant branchId).isDevice deviceId = true) (call : DeviceCall)
    (hfree : call.Free (db.tenant branchId) db.alertDb) :
    answerCall host (db.share branchId) deviceId branchId call =
      ((answerCall host db deviceId branchId call).1.share branchId,
        (answerCall host db deviceId branchId call).2) := by
  cases call with
  | syncEvents events draws => exact syncEvents_backend_share hdevice events hfree
  | uploadSnapshot alertId form receivedAtUtc storing =>
    simp only [answerCall, uploadSnapshot]
    split
    · rfl
    · exact upload_share rfl receivedAtUtc storing
  | getConfiguration now =>
    have hview : getConfiguration host.sha256 (db.share branchId).branchDb deviceId branchId now =
        getConfiguration host.sha256 db.branchDb deviceId branchId now := by
      change getConfiguration host.sha256 (branchShare branchId db.branchDb) deviceId branchId now = _
      unfold getConfiguration
      rw [enabledCameras_share]
    simp only [answerCall, hview]
    split
    · rfl
    · rfl

/-- **A request of a Device of the Branch does on the Branch's rows what it does on the whole database.** -/
theorem handle_share {request : DeviceRequest} (hdevice : (db.tenant branchId).isDevice request.deviceId = true)
    (hfree : request.call.Free (db.tenant branchId) db.alertDb) :
    handle host (db.share branchId) request =
      ((handle host db request).1.share branchId, (handle host db request).2) := by
  have hvalidate : Credentials.validate (db.share branchId).registry request.deviceId
      (some request.deviceSecretHeader) = Credentials.validate db.registry request.deviceId
        (some request.deviceSecretHeader) := validate_share hdevice _
  unfold handle
  rw [hvalidate]
  cases hvalid : Credentials.validate db.registry request.deviceId (some request.deviceSecretHeader) with
  | valid other deviceRecordId =>
    have hother := branchId_of_valid hdevice hvalid
    simp only [hother]
    exact answerCall_share hdevice request.call hfree
  | _ => rfl

end Step

/-! ## The rows of the other Branches -/

theorem SameElsewhere.refl (branchId : Guid) (db : BackendDb p) : SameElsewhere branchId db db :=
  ⟨rfl, rfl, rfl, rfl, rfl, fun _ _ => rfl, fun _ _ _ => rfl⟩

theorem SameElsewhere.sameTables {branchId : Guid} {db later : BackendDb p} (h : SameElsewhere branchId db later) :
    SameTables db later := ⟨h.registry, h.timeZoneIds, h.branchDb⟩

/-- An Alert of another Branch is still there. -/
theorem SameElsewhere.mem_iff {branchId : Guid} {db later : BackendDb p} (h : SameElsewhere branchId db later)
    {row : StoredAlert} (hother : (db.tenant branchId).ownsAlert row = false) :
    row ∈ later.alertDb.alerts ↔ row ∈ db.alertDb.alerts := by
  have hmem : row ∈ later.alertDb.alerts.filter (fun row => !(db.tenant branchId).ownsAlert row) ↔
      row ∈ db.alertDb.alerts.filter fun row => !(db.tenant branchId).ownsAlert row := by rw [h.alerts]
  simpa [hother] using hmem

theorem SameElsewhere.trans {branchId : Guid} {db mid later : BackendDb p} (h : SameElsewhere branchId db mid)
    (h' : SameElsewhere branchId mid later) : SameElsewhere branchId db later := by
  have htenant := h.sameTables.tenant branchId
  refine ⟨h'.registry.trans h.registry, h'.timeZoneIds.trans h.timeZoneIds, h'.branchDb.trans h.branchDb, ?_, ?_,
    fun slot hslot => (h'.quotas slot hslot).trans (h.quotas slot hslot), fun row hrow hother => ?_⟩
  · rw [← h.alerts, ← htenant]
    exact h'.alerts
  · rw [← h.suppressed, ← htenant]
    exact h'.suppressed
  · rw [← h.snapshots row hrow hother]
    exact h'.snapshots row ((h.mem_iff hother).2 hrow) (htenant ▸ hother)

/-- Identifiers that are free elsewhere stay free. -/
theorem SameElsewhere.free {branchId : Guid} {db later : BackendDb p} (h : SameElsewhere branchId db later)
    {call : DeviceCall} (hfree : call.Free (db.tenant branchId) db.alertDb) :
    call.Free (later.tenant branchId) later.alertDb := by
  rw [h.sameTables.tenant branchId]
  cases call with
  | syncEvents events draws =>
    intro n row hrow hid
    cases howns : (db.tenant branchId).ownsAlert row with
    | true => rfl
    | false =>
      rw [← howns]
      exact hfree n row ((h.mem_iff howns).1 hrow) hid
  | uploadSnapshot alertId form receivedAtUtc storing => trivial
  | getConfiguration now => trivial

section Elsewhere

variable {host : Host} {db : BackendDb host.credentials} {branchId : Guid}

/-- A batch of the Branch's Device adds nothing elsewhere. -/
theorem afterSync_sameElsewhere {deviceId : Guid} (hdevice : (db.tenant branchId).isDevice deviceId = true)
    (events : List DetectionEventDto) (draws : ℕ → Draws) :
    SameElsewhere branchId db (db.afterSync host deviceId branchId events draws) := by
  obtain ⟨⟨added, halerts, hrows⟩, -, ⟨suppressed, hsuppressed, hrows'⟩, hquotas⟩ :=
    syncEvents_adds (db.setting host) (db.batch host deviceId branchId events) draws db.alertDb
  refine ⟨rfl, rfl, rfl, ?_, ?_, hquotas, fun _ _ _ => rfl⟩
  · have hnone : added.filter (fun row => !(db.tenant branchId).ownsAlert row) = [] := by
      refine List.filter_eq_nil_iff.2 fun row hrow => ?_
      have hown : (db.tenant branchId).ownsAlert row = true := by
        rw [Tenant.ownsAlert, hrows row hrow]
        exact Bool.or_eq_true_iff.2 (.inl hdevice)
      simp [hown]
    rw [afterSync_alertDb, halerts, List.filter_append, hnone, List.append_nil]
  · have hnone : suppressed.filter (fun row => !(db.tenant branchId).ownsSuppressed row) = [] := by
      refine List.filter_eq_nil_iff.2 fun row hrow => ?_
      have hown : (db.tenant branchId).ownsSuppressed row = true := by
        rw [Tenant.ownsSuppressed, hrows' row hrow]
        exact Bool.or_eq_true_iff.2 (.inl hdevice)
      simp [hown]
    rw [afterSync_alertDb, hsuppressed, List.filter_append, hnone, List.append_nil]

/-- The snapshot of an Alert of the Branch is no other Branch's. -/
theorem store_sameElsewhere {alertId : Guid} {row : StoredAlert} (hfound : db.findAlert alertId = some row)
    (howns : (db.tenant branchId).ownsAlert row = true) (snapshot : StoredSnapshot) :
    SameElsewhere branchId db (db.store alertId snapshot) := by
  obtain ⟨hsame, halerts, hsnapshots⟩ := store_eq hfound snapshot
  refine ⟨hsame.registry, hsame.timeZoneIds, hsame.branchDb, by rw [halerts], by rw [halerts],
    fun slot _ => by rw [halerts], fun other hother hnot => ?_⟩
  have hne : other.alert.alertId ≠ alertId := by
    intro heq
    have hrow := List.inj_on_of_nodup_map db.alertIds hother (List.mem_of_find?_eq_some hfound)
      (heq.trans (alertId_of_findAlert hfound).symm)
    rw [hrow, howns] at hnot
    cases hnot
  rw [hsnapshots, Function.update_of_ne hne]

/-- A snapshot is stored where the Alert is one of the Branch's Cameras. -/
theorem owns_of_attached {row : StoredAlert} {alert : AlertRow} {receivedAtUtc : DateTime}
    {request : SnapshotUploadRequest} {columns : SnapshotColumns} {bytes : Bytes} (hbranch : request.branchId = branchId)
    (h : decideUpload host.toSnapshotRuntime alert (db.branchOfCamera row.alert.cameraId) receivedAtUtc request =
      .attached columns bytes) : (db.tenant branchId).ownsAlert row = true := by
  by_cases hcamera : db.branchOfCamera row.alert.cameraId = some branchId
  · rw [Tenant.ownsAlert, isCamera_of_branchOfCamera hcamera, Bool.or_true]
  · rw [decideUpload_other (hbranch ▸ hcamera)] at h
    cases h

theorem upload_sameElsewhere {request : SnapshotUploadRequest} (hbranch : request.branchId = branchId)
    (receivedAtUtc : DateTime) (storing : Storing) :
    SameElsewhere branchId db (upload host db request receivedAtUtc storing).1 := by
  unfold upload
  split
  · exact .refl _ _
  · rename_i row hfound
    simp only
    split
    · exact .refl _ _
    · rename_i columns bytes hdecision
      have howns := owns_of_attached hbranch hdecision
      split
      · exact store_sameElsewhere hfound howns _
      · exact .refl _ _
      · exact store_sameElsewhere hfound howns _
    · exact .refl _ _

/-- A request of the Branch's Device changes no row of another Branch. -/
theorem handle_sameElsewhere {request : DeviceRequest}
    (hdevice : (db.tenant branchId).isDevice request.deviceId = true) :
    SameElsewhere branchId db (handle host db request).1 := by
  unfold handle
  cases hvalid : Credentials.validate db.registry request.deviceId (some request.deviceSecretHeader) with
  | valid other deviceRecordId =>
    have hother := branchId_of_valid hdevice hvalid
    simp only [hother]
    cases request.call with
    | syncEvents events draws =>
      simp only [answerCall, syncEvents]
      split
      · exact .refl _ _
      · exact .refl _ _
      · split
        · exact .refl _ _
        · exact afterSync_sameElsewhere hdevice _ draws
    | uploadSnapshot alertId form receivedAtUtc storing =>
      simp only [answerCall, uploadSnapshot]
      split
      · exact .refl _ _
      · rename_i eventId _
        exact @upload_sameElsewhere host db branchId ⟨alertId, branchId, eventId, form.contentType, form.sha256,
          form.length, form.content⟩ rfl receivedAtUtc storing
    | getConfiguration now =>
      simp only [answerCall]
      split
      · exact .refl _ _
      · exact .refl _ _
  | _ => exact .refl _ _

end Elsewhere

/-! ## Any sequence of requests -/

/-- The requests are the Branch's, and what they draw is free elsewhere. -/
def Admitted (branchId : Guid) (requests : List DeviceRequest) (db : BackendDb p) : Prop :=
  ∀ request ∈ requests, (db.tenant branchId).isDevice request.deviceId = true ∧
    request.call.Free (db.tenant branchId) db.alertDb

theorem Admitted.of_sameElsewhere {branchId : Guid} {requests : List DeviceRequest} {db later : BackendDb p}
    (h : Admitted branchId requests db) (hsame : SameElsewhere branchId db later) :
    Admitted branchId requests later := by
  intro request hrequest
  refine ⟨?_, hsame.free (h request hrequest).2⟩
  rw [hsame.sameTables.tenant branchId]
  exact (h request hrequest).1

/-- The share knows the Devices of its Branch. -/
theorem isDevice_share (db : BackendDb p) (branchId : Guid) :
    ((db.share branchId).tenant branchId).isDevice = (db.tenant branchId).isDevice := by
  funext deviceId
  refine any_filter_of_imp fun row _ hrow => ?_
  exact (Bool.and_eq_true_iff.1 hrow).1

/-- The run lemma. -/
theorem serve_sameElsewhere (host : Host) {branchId : Guid} {s : BackendDb host.credentials}
    {requests : List DeviceRequest} (h : Admitted branchId requests s) :
    SameElsewhere branchId s (serve (handle host) s requests).1 := by
  have hstep : ∀ db : BackendDb host.credentials, SameElsewhere branchId s db ∧ Admitted branchId requests db →
      ∀ request ∈ requests, SameElsewhere branchId s (handle host db request).1 ∧
        Admitted branchId requests (handle host db request).1 := by
    intro db hdb request hrequest
    have hsame : SameElsewhere branchId db (handle host db request).1 := handle_sameElsewhere (hdb.2 request hrequest).1
    exact ⟨hdb.1.trans hsame, hdb.2.of_sameElsewhere hsame⟩
  exact (serve_keeps hstep ⟨.refl _ _, h⟩).1

/-- **Devices of one Branch change no row of another, and what they are answered and what becomes of the rows
of their Branch does not depend on the rows of another.** -/
theorem branch_isolation (host : Host) {branchId : Guid} {s t : BackendDb host.credentials}
    (hshare : s.share branchId = t.share branchId) {requests : List DeviceRequest}
    (hdevice : ∀ request ∈ requests, (s.tenant branchId).isDevice request.deviceId = true)
    (hfree : ∀ request ∈ requests, request.call.Free (s.tenant branchId) s.alertDb ∧
      request.call.Free (t.tenant branchId) t.alertDb) :
    SameElsewhere branchId s (serve (handle host) s requests).1 ∧
      (serve (handle host) s requests).2 = (serve (handle host) t requests).2 ∧
      (serve (handle host) s requests).1.share branchId = (serve (handle host) t requests).1.share branchId := by
  have hdevices : (t.tenant branchId).isDevice = (s.tenant branchId).isDevice := by
    rw [← isDevice_share t, ← hshare, isDevice_share]
  have hs : Admitted branchId requests s := fun request hrequest =>
    ⟨hdevice request hrequest, (hfree request hrequest).1⟩
  have ht : Admitted branchId requests t := fun request hrequest =>
    ⟨by rw [hdevices]; exact hdevice request hrequest, (hfree request hrequest).2⟩
  have hkeep : ∀ db : BackendDb host.credentials, Admitted branchId requests db → ∀ request ∈ requests,
      Admitted branchId requests (handle host db request).1 := fun db hdb request hrequest =>
    hdb.of_sameElsewhere (handle_sameElsewhere (hdb request hrequest).1)
  have hstep : ∀ db : BackendDb host.credentials, Admitted branchId requests db → ∀ request ∈ requests,
      handle host (db.share branchId) request =
        ((handle host db request).1.share branchId, (handle host db request).2) := fun db hdb request hrequest =>
    handle_share (hdb request hrequest).1 (hdb request hrequest).2
  exact ⟨serve_sameElsewhere host hs, serve_eq_of_share_eq hkeep hstep hs ht hshare⟩

/-! ## Two Branches -/

/-- A host that neither hashes nor encrypts. -/
def plainHost : Host where
  toRuntime := asciiRuntime
  computeSha256 := fun _ => ""
  credentials := ⟨fun presented hash => presented = hash, some, id⟩
  options := onePerDay
  sha256 := fun _ => 0
  findSystemTimeZoneById := fun _ => none

/-- The row of an activated Device. -/
def deviceRow (deviceRecordId branchId deviceId : Guid) : Credentials.DeviceRow :=
  ⟨deviceRecordId, branchId, ⟨some deviceId, .activated, some "secret"⟩⟩

/-- Branch 2 alone. -/
def depotAlone : BackendDb plainHost.credentials where
  registry := ⟨⟨[2], by decide⟩, ⟨[deviceRow 21 2 1], by decide⟩, .empty⟩
  timeZoneIds id := if id = 2 then some "UTC" else none
  branchDb := sampleBranchDb
  alertDb := emptyTables
  snapshots _ := .empty
  deviceIds := by decide
  cameraIds := by decide
  alertIds := by decide
  unset _ _ := rfl

/-- An Alert of Branch 3. -/
def shopAlert : Alert :=
  { alertId := 300, deviceId := 9, eventId := 11, cameraId := 8, detectedAtUtc := (sampleEvent 11).detectedAtUtc
    receivedAtUtc := (sampleDraws 0).receivedAtUtc, classId := (sampleEvent 11).classId, className := "gun"
    confidence := .finite (9 / 10), frameNumber := (sampleEvent 11).frameNumber
    frameWidth := (sampleEvent 11).frameWidth, frameHeight := (sampleEvent 11).frameHeight, bboxLeft := .finite 10
    bboxTop := .finite 10, bboxWidth := .finite 100, bboxHeight := .finite 100 }

/-- Branch 2 beside another one, which has an Alert under the same event. -/
def depotAndShop : BackendDb plainHost.credentials where
  registry := ⟨⟨[3, 2], by decide⟩, ⟨[deviceRow 31 3 9, deviceRow 21 2 1], by decide⟩, .empty⟩
  timeZoneIds id := if id = 2 then some "UTC" else if id = 3 then some "Asia/Karachi" else none
  branchDb :=
    { branches := ⟨3, "Shop", "2 Quay", "counter"⟩ :: sampleBranchDb.branches
      cameras := ⟨8, 3, "Cam-1", "rtsp://cam/8", true, "front-door", 0⟩ :: sampleBranchDb.cameras }
  alertDb := { emptyTables with alerts := [⟨shopAlert, none⟩] }
  snapshots _ := .empty
  deviceIds := by decide
  cameraIds := by decide
  alertIds := by decide
  unset _ _ := rfl

/-- The Device of Branch 2 sends one detection. -/
def depotSync : DeviceRequest :=
  ⟨"00000000-0000-0000-0000-000000000001", "secret", .syncEvents (some [sampleEvent 11]) fun _ => sampleDraws 0⟩

theorem snapshots_share_of_empty {db : BackendDb p} (h : ∀ id, db.snapshots id = .empty) (branchId alertId : Guid) :
    (db.share branchId).snapshots alertId = .empty := by
  simp only [BackendDb.share, snapshotShare, h, ite_self]

/-- What is left of Branch 2 is the same in both. -/
theorem depot_share_eq : depotAndShop.share 2 = depotAlone.share 2 := by
  refine BackendDb.ext rfl ?_ rfl rfl ?_
  · funext id
    by_cases h : id = 2
    · subst h
      rfl
    · exact (if_neg h).trans (if_neg h).symm
  · -- neither Branch has a snapshot
    funext alertId
    rw [snapshots_share_of_empty fun _ => rfl, snapshots_share_of_empty fun _ => rfl]

/-- What the Device of Branch 2 is answered. -/
theorem depotSync_isolated :
    (serve (handle plainHost) depotAndShop [depotSync]).2 = [.synced [.accepted 11 100]] ∧
      SameElsewhere 2 depotAndShop (serve (handle plainHost) depotAndShop [depotSync]).1 ∧
      (serve (handle plainHost) depotAndShop [depotSync]).2 = (serve (handle plainHost) depotAlone [depotSync]).2 := by
  have hdevice : ∀ request ∈ [depotSync], (depotAndShop.tenant 2).isDevice request.deviceId = true := by
    decide +kernel
  have hfree : ∀ request ∈ [depotSync], request.call.Free (depotAndShop.tenant 2) depotAndShop.alertDb ∧
      request.call.Free (depotAlone.tenant 2) depotAlone.alertDb := by
    intro request hrequest
    rw [List.mem_singleton.1 hrequest]
    refine ⟨fun n row hrow hid => ?_, fun n row hrow => absurd hrow List.not_mem_nil⟩
    have hne : shopAlert.alertId ≠ (sampleDraws 0).newGuid := by decide
    rw [List.mem_singleton.1 hrow] at hid
    exact absurd hid hne
  have hisolated := branch_isolation plainHost depot_share_eq hdevice hfree
  exact ⟨by decide +kernel, hisolated.1, hisolated.2.1⟩

end WeaponDetection.Backend.DeviceRequests
