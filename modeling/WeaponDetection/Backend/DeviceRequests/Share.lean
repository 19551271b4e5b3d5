import WeaponDetection.Backend.DeviceRequests.Requests
import WeaponDetection.Foundations.Server

/-!
# The share of a Branch

The Alerts, suppressed detections and quota rows that belong to one Branch, as tables of their own.  A batch
of one of the Branch's Devices does on them what it does on all tables (`syncEvents_share`).
-/

namespace WeaponDetection.Backend.DeviceRequests

open WeaponDetection.Foundations
open WeaponDetection.Backend.AlertSync
open WeaponDetection.Backend.Snapshots

/-! ## Alerts, suppressed detections and quotas -/

/-- Whose rows are looked at: a Branch, and what belongs to it. -/
structure Tenant where
  branchId : Guid
  isDevice : Guid → Bool
  isCamera : Guid → Bool

/-- An Alert of one of its Devices or of one of its Cameras. -/
def Tenant.ownsAlert (tenant : Tenant) (row : StoredAlert) : Bool :=
  tenant.isDevice row.alert.deviceId || tenant.isCamera row.alert.cameraId

/-- A suppressed detection of one of its Devices or of one of its days. -/
def Tenant.ownsSuppressed (tenant : Tenant) (row : SuppressedDetectionEvent) : Bool :=
  tenant.isDevice row.deviceId || row.branchId = tenant.branchId

/-- The rows of the Branch. -/
def alertShare (tenant : Tenant) (db : AlertDb) : AlertDb where
  alerts := db.alerts.filter tenant.ownsAlert
  suppressed := db.suppressed.filter tenant.ownsSuppressed
  quotas slot := if slot.branchId = tenant.branchId then db.quotas slot else none

/-- The batch is one of the Branch. -/
structure Tenant.Sends (tenant : Tenant) (batch : SyncBatch) : Prop where
  device : tenant.isDevice batch.deviceId = true
  branch : batch.branchId = tenant.branchId

/-- No other Branch has an Alert under this identifier. -/
def FreeElsewhere (tenant : Tenant) (db : AlertDb) (alertId : Guid) : Prop :=
  ∀ row ∈ db.alerts, row.alert.alertId = alertId → tenant.ownsAlert row = true

section AlertShare

variable {tenant : Tenant} {options : AlertQuotaOptions} {batch : SyncBatch} {db : AlertDb} {draws : Draws}
variable {evt : DetectionEventDto} {resolvedCameraId : Guid}

theorem find?_filter_of_imp {α : Type} {p q : α → Bool} {xs : List α} (h : ∀ a ∈ xs, q a = true → p a = true) :
    (xs.filter p).find? q = xs.find? q := by
  rw [List.find?_filter]
  induction xs with
  | nil => rfl
  | cons a xs ih =>
    rw [List.find?_cons, List.find?_cons, ih fun b hb => h b (List.mem_cons_of_mem _ hb)]
    cases hq : q a with
    | true => simp [h a List.mem_cons_self hq]
    | false => simp

theorem any_filter_of_imp {α : Type} {p q : α → Bool} {xs : List α} (h : ∀ a ∈ xs, q a = true → p a = true) :
    (xs.filter p).any q = xs.any q := by
  rw [List.any_filter]
  induction xs with
  | nil => rfl
  | cons a xs ih =>
    rw [List.any_cons, List.any_cons, ih fun b hb => h b (List.mem_cons_of_mem _ hb)]
    cases hq : q a with
    | true => rw [h a List.mem_cons_self hq]; rfl
    | false => rw [Bool.and_false]

/-- An Alert under a key of the Device is one of the Branch. -/
theorem ownsAlert_of_key (hsends : tenant.Sends batch) {row : StoredAlert}
    (h : row.alert.key = batch.key evt) : tenant.ownsAlert row = true := by
  have hdevice : row.alert.deviceId = batch.deviceId := congrArg EventKey.deviceId h
  rw [Tenant.ownsAlert, hdevice, hsends.device, Bool.true_or]

theorem findAlert_share (hsends : tenant.Sends batch) :
    (alertShare tenant db).findAlert (batch.key evt) = db.findAlert (batch.key evt) :=
  find?_filter_of_imp fun _ _ hrow => ownsAlert_of_key hsends (of_decide_eq_true hrow)

theorem isSuppressed_share (hsends : tenant.Sends batch) :
    (alertShare tenant db).isSuppressed (batch.key evt) = db.isSuppressed (batch.key evt) := by
  refine any_filter_of_imp fun row _ hrow => ?_
  have hdevice : row.deviceId = batch.deviceId := congrArg EventKey.deviceId (of_decide_eq_true hrow)
  rw [Tenant.ownsSuppressed, hdevice, hsends.device, Bool.true_or]

theorem quotas_share (hsends : tenant.Sends batch) :
    (alertShare tenant db).quotas (batch.slot evt) = db.quotas (batch.slot evt) :=
  if_pos hsends.branch

/-- The write is to rows of the Branch. -/
def Tenant.Owns (tenant : Tenant) (w : Write) : Prop :=
  (∀ row ∈ w.alerts, tenant.ownsAlert row = true) ∧ (∀ row ∈ w.suppressed, tenant.ownsSuppressed row = true) ∧
    ∀ slot, w.resource = .quota slot → slot.branchId = tenant.branchId

theorem apply_share {w : Write} (h : tenant.Owns w) (db : AlertDb) :
    w.apply (alertShare tenant db) = alertShare tenant (w.apply db) := by
  obtain ⟨halerts, hsuppressed, hquotas⟩ := h
  have hrows : (w.apply db).alerts.filter tenant.ownsAlert = db.alerts.filter tenant.ownsAlert ++ w.alerts := by
    change (db.alerts ++ w.alerts).filter _ = _
    rw [List.filter_append, List.filter_eq_self.2 halerts]
  have hrows' : (w.apply db).suppressed.filter tenant.ownsSuppressed =
      db.suppressed.filter tenant.ownsSuppressed ++ w.suppressed := by
    change (db.suppressed ++ w.suppressed).filter _ = _
    rw [List.filter_append, List.filter_eq_self.2 hsuppressed]
  have hslots : (w.apply (alertShare tenant db)).quotas = (alertShare tenant (w.apply db)).quotas := by
    funext slot
    change (if w.resource = .quota slot then w.onQuota (if _ then _ else _) else if _ then _ else _) =
      if slot.branchId = tenant.branchId then if w.resource = .quota slot then _ else _ else _
    by_cases hslot : slot.branchId = tenant.branchId
    · simp only [hslot, if_true]
    · have hother : w.resource ≠ .quota slot := fun heq => hslot (hquotas slot heq)
      simp only [hslot, hother, if_false]
  unfold alertShare
  rw [hrows, hrows']
  exact congrArg (AlertDb.mk _ _) hslots

theorem owns_quota {w : Write} (hsends : tenant.Sends batch) (hw : w.resource = .quota (batch.slot evt))
    (halerts : w.alerts = []) (hsuppressed : w.suppressed = []) : tenant.Owns w := by
  refine ⟨?_, ?_, fun slot hslot => ?_⟩
  · rw [halerts]
    exact fun row hrow => absurd hrow List.not_mem_nil
  · rw [hsuppressed]
    exact fun row hrow => absurd hrow List.not_mem_nil
  · rw [← Resource.quota.inj (hw.symm.trans hslot)]
    exact hsends.branch

/-- A result on the share, and one on all tables. -/
def shareResult (tenant : Tenant) {α : Type} (result : Except Failure (AlertDb × α)) : Except Failure (AlertDb × α) :=
  result.map fun after => (alertShare tenant after.1, after.2)

theorem insertAlert_share (hsends : tenant.Sends batch) (hfree : FreeElsewhere tenant db draws.newGuid)
    (charge : Option Slot) :
    insertAlert batch draws evt resolvedCameraId charge (alertShare tenant db) =
      shareResult tenant (insertAlert batch draws evt resolvedCameraId charge db) := by
  unfold insertAlert
  cases hbuild : buildAlert draws.newGuid batch.deviceId resolvedCameraId draws.receivedAtUtc evt with
  | error e => rfl
  | ok alert =>
    obtain ⟨-, hid, hdevice, -⟩ := buildAlert_ok hbuild
    have hany : (alertShare tenant db).alerts.any (·.alert.alertId = alert.alertId) =
        db.alerts.any (·.alert.alertId = alert.alertId) :=
      any_filter_of_imp fun row hrow heq => hfree row hrow ((of_decide_eq_true heq).trans hid)
    have howns : tenant.Owns (.insertAlert ⟨alert, charge⟩) := by
      refine ⟨fun row hrow => ?_, fun row hrow => absurd hrow List.not_mem_nil, fun slot hslot => nomatch hslot⟩
      rw [List.mem_singleton.1 hrow, Tenant.ownsAlert, hdevice, hsends.device, Bool.true_or]
    simp only [hany, apply_share howns]
    split
    · rfl
    · rfl

theorem ensureQuotaRowExists_share (hsends : tenant.Sends batch) :
    ensureQuotaRowExists (batch.slot evt) (alertShare tenant db) =
      (ensureQuotaRowExists (batch.slot evt) db).map (alertShare tenant) := by
  unfold ensureQuotaRowExists
  rw [quotas_share hsends]
  split
  · rfl
  · split
    · rfl
    · rw [apply_share (owns_quota hsends rfl rfl rfl)]
      rfl

theorem incrementSuppressionCounters_share (hsends : tenant.Sends batch) :
    incrementSuppressionCounters batch draws evt (alertShare tenant db) =
      (incrementSuppressionCounters batch draws evt db).map (alertShare tenant) := by
  unfold incrementSuppressionCounters
  rw [quotas_share hsends]
  split
  · rfl
  · split
    · rw [apply_share (owns_quota hsends rfl rfl rfl)]
      rfl
    · rfl

theorem recordSuppression_share (hsends : tenant.Sends batch) :
    recordSuppression batch draws evt (alertShare tenant db) =
      (recordSuppression batch draws evt db).map (alertShare tenant) := by
  unfold recordSuppression
  split
  · rfl
  · rename_i row hcreate
    have howns : tenant.Owns (.insertSuppressed row) := by
      refine ⟨fun row hrow => absurd hrow List.not_mem_nil, fun other hother => ?_, fun slot hslot => nomatch hslot⟩
      rw [List.mem_singleton.1 hother, Tenant.ownsSuppressed, create_deviceId hcreate, hsends.device, Bool.true_or]
    rw [apply_share howns, incrementSuppressionCounters_share hsends]

theorem hasRoom_share (hsends : tenant.Sends batch) :
    hasRoom options (batch.slot evt) (alertShare tenant db) = hasRoom options (batch.slot evt) db := by
  unfold hasRoom
  rw [quotas_share hsends]

/-- More quota rows do not take an identifier. -/
theorem FreeElsewhere.of_alerts_eq {db' : AlertDb} {alertId : Guid} (h : FreeElsewhere tenant db alertId)
    (halerts : db'.alerts = db.alerts) : FreeElsewhere tenant db' alertId := by
  intro row hrow
  exact h row (halerts ▸ hrow)

theorem enforceQuotaAndInsert_share (hsends : tenant.Sends batch) (hfree : FreeElsewhere tenant db draws.newGuid) :
    enforceQuotaAndInsert options batch draws evt resolvedCameraId (alertShare tenant db) =
      shareResult tenant (enforceQuotaAndInsert options batch draws evt resolvedCameraId db) := by
  unfold enforceQuotaAndInsert
  rw [ensureQuotaRowExists_share hsends]
  cases hensure : ensureQuotaRowExists (batch.slot evt) db with
  | error failure => rfl
  | ok ensured =>
    simp only [Except.map, hasRoom_share hsends]
    split
    · rw [apply_share (owns_quota (w := .consumeQuota (batch.slot evt)) hsends rfl rfl rfl)]
      refine insertAlert_share hsends (hfree.of_alerts_eq ?_) _
      exact (List.append_nil _).trans (ensureQuotaRowExists_ok hensure).1
    · rw [recordSuppression_share hsends]
      cases recordSuppression batch draws evt ensured with
      | error failure => rfl
      | ok after => rfl

theorem processEvent_share (hsends : tenant.Sends batch) (hfree : FreeElsewhere tenant db draws.newGuid) :
    processEvent options batch draws (alertShare tenant db) evt resolvedCameraId =
      shareResult tenant (processEvent options batch draws db evt resolvedCameraId) := by
  unfold processEvent
  rw [findAlert_share hsends]
  split
  · rfl
  · split
    · exact insertAlert_share hsends hfree _
    · rw [isSuppressed_share hsends]
      split
      · rfl
      · exact enforceQuotaAndInsert_share hsends hfree

/-- What a batch adds takes no identifier elsewhere. -/
theorem FreeElsewhere.adds {later : AlertDb} {alertId : Guid} (h : FreeElsewhere tenant db alertId)
    (hsends : tenant.Sends batch) (hadds : db.Adds batch later) : FreeElsewhere tenant later alertId := by
  obtain ⟨added, halerts, hdevice⟩ := hadds.alerts
  intro row hrow heq
  rw [halerts] at hrow
  rcases List.mem_append.1 hrow with hold | hnew
  · exact h row hold heq
  · rw [Tenant.ownsAlert, hdevice row hnew, hsends.device, Bool.true_or]

theorem processEvents_share {setting setting' : SyncSetting} (hsends : tenant.Sends batch)
    (hoptions : setting'.options = setting.options)
    (hinput : ∀ evt, setting'.checkInput batch evt = setting.checkInput batch evt) {draws : ℕ → Draws}
    {evts : List DetectionEventDto} (hfree : ∀ n, FreeElsewhere tenant db (draws n).newGuid) :
    processEvents setting' batch draws (alertShare tenant db) evts =
      shareResult tenant (processEvents setting batch draws db evts) := by
  induction evts generalizing draws db with
  | nil => rfl
  | cons evt rest ih =>
    cases hcheck : setting.checkInput batch evt with
    | error code =>
      rw [processEvents_reject hcheck, processEvents_reject ((hinput evt).trans hcheck), ih hfree]
      cases processEvents setting batch draws db rest with
      | error failure => rfl
      | ok after => rfl
    | ok resolvedCameraId =>
      have hhead : processEvent setting.options batch (draws 0) (alertShare tenant db) evt resolvedCameraId =
          shareResult tenant (processEvent setting.options batch (draws 0) db evt resolvedCameraId) :=
        processEvent_share hsends (hfree 0)
      cases hevent : processEvent setting.options batch (draws 0) db evt resolvedCameraId with
      | error failure =>
        rw [hevent] at hhead
        rw [processEvents_fail hcheck hevent,
          processEvents_fail ((hinput evt).trans hcheck) (hoptions ▸ hhead)]
        rfl
      | ok after =>
        rw [hevent] at hhead
        rw [processEvents_goOn hcheck hevent, processEvents_goOn ((hinput evt).trans hcheck) (hoptions ▸ hhead),
          ih fun n => (hfree (n + 1)).adds hsends (processEvent_adds hevent)]
        cases processEvents setting batch (fun n => draws (n + 1)) after.1 rest with
        | error failure => rfl
        | ok later => rfl

/-- A batch of the Branch does on the share what it does on all tables. -/
theorem syncEvents_share {setting setting' : SyncSetting} (hsends : tenant.Sends batch)
    (hoptions : setting'.options = setting.options)
    (hinput : ∀ evt, setting'.checkInput batch evt = setting.checkInput batch evt) {draws : ℕ → Draws}
    (hfree : ∀ n, FreeElsewhere tenant db (draws n).newGuid) :
    AlertSync.syncEvents setting' batch draws (alertShare tenant db) =
      (alertShare tenant (AlertSync.syncEvents setting batch draws db).1,
        (AlertSync.syncEvents setting batch draws db).2) := by
  unfold AlertSync.syncEvents
  rw [processEvents_share hsends hoptions hinput hfree]
  cases processEvents setting batch draws db batch.events with
  | error failure => rfl
  | ok after => rfl

end AlertShare

end WeaponDetection.Backend.DeviceRequests
