import Mathlib.Data.List.Nodup
import WeaponDetection.Backend.AlertSync.Replay

/-!
# What a batch writes

A batch adds Alerts and suppressed detections of its own Device, the Alerts under identifiers that were
free, and changes quota rows of its own Branch (`syncEvents_adds`).
-/

namespace WeaponDetection.Backend.AlertSync

open WeaponDetection.Foundations

/-- The identifiers of the Alerts. -/
def AlertDb.alertIds (db : AlertDb) : List Guid := db.alerts.map fun row => row.alert.alertId

/-- The tables after some of the writes of a batch. -/
structure AlertDb.Adds (batch : SyncBatch) (db later : AlertDb) : Prop where
  alerts : ∃ added, later.alerts = db.alerts ++ added ∧ ∀ row ∈ added, row.alert.deviceId = batch.deviceId
  alertIds : db.alertIds.Nodup → later.alertIds.Nodup
  suppressed : ∃ added, later.suppressed = db.suppressed ++ added ∧ ∀ row ∈ added, row.deviceId = batch.deviceId
  quotas : ∀ slot, slot.branchId ≠ batch.branchId → later.quotas slot = db.quotas slot

section Adds

variable {setting : SyncSetting} {options : AlertQuotaOptions} {batch : SyncBatch} {db db' later : AlertDb}
variable {draws : Draws} {evt : DetectionEventDto} {resolvedCameraId : Guid} {outcome : SyncEventOutcome}

theorem AlertDb.Adds.refl (db : AlertDb) : db.Adds batch db where
  alerts := ⟨[], (List.append_nil _).symm, fun _ hrow => absurd hrow List.not_mem_nil⟩
  alertIds := id
  suppressed := ⟨[], (List.append_nil _).symm, fun _ hrow => absurd hrow List.not_mem_nil⟩
  quotas _ _ := rfl

theorem AlertDb.Adds.trans (h : db.Adds batch db') (h' : db'.Adds batch later) : db.Adds batch later := by
  obtain ⟨added, halerts, hdevice⟩ := h.alerts
  obtain ⟨added', halerts', hdevice'⟩ := h'.alerts
  obtain ⟨rows, hsuppressed, hrows⟩ := h.suppressed
  obtain ⟨rows', hsuppressed', hrows'⟩ := h'.suppressed
  refine ⟨⟨added ++ added', ?_, ?_⟩, fun hnodup => h'.alertIds (h.alertIds hnodup), ⟨rows ++ rows', ?_, ?_⟩,
    fun slot hslot => (h'.quotas slot hslot).trans (h.quotas slot hslot)⟩
  · rw [halerts', halerts, List.append_assoc]
  · intro row hrow
    rcases List.mem_append.1 hrow with hrow | hrow
    · exact hdevice row hrow
    · exact hdevice' row hrow
  · rw [hsuppressed', hsuppressed, List.append_assoc]
  · intro row hrow
    rcases List.mem_append.1 hrow with hrow | hrow
    · exact hrows row hrow
    · exact hrows' row hrow

/-- A write to a quota row of the Branch. -/
theorem adds_quota {w : Write} {slot : Slot} (hw : w.resource = .quota slot) (hslot : slot.branchId = batch.branchId)
    (halerts : w.alerts = []) (hsuppressed : w.suppressed = []) : db.Adds batch (w.apply db) where
  alerts := ⟨[], congrArg (db.alerts ++ ·) halerts, fun _ hrow => absurd hrow List.not_mem_nil⟩
  alertIds hnodup := by
    change ((db.alerts ++ w.alerts).map _).Nodup
    rwa [halerts, List.append_nil]
  suppressed := ⟨[], congrArg (db.suppressed ++ ·) hsuppressed, fun _ hrow => absurd hrow List.not_mem_nil⟩
  quotas other hother := by
    refine quotas_apply_of_ne (fun heq => hother ?_) db
    rw [← Resource.quota.inj (hw.symm.trans heq), hslot]

/-- The insert of an Alert under a free identifier. -/
theorem insertAlert_adds {charge : Option Slot}
    (h : insertAlert batch draws evt resolvedCameraId charge db = .ok (db', outcome)) : db.Adds batch db' := by
  unfold insertAlert at h
  split at h
  · cases h
  · rename_i alert hbuild
    obtain ⟨-, hid, hdevice, -⟩ := buildAlert_ok hbuild
    split at h
    · cases h
    · rename_i hfree
      cases h
      refine ⟨⟨[⟨alert, charge⟩], rfl, fun row hrow => ?_⟩, fun hnodup => ?_, ⟨[], rfl, fun _ hrow =>
        absurd hrow List.not_mem_nil⟩, fun slot _ => quotas_apply_of_ne Resource.noConfusion db⟩
      · rw [List.mem_singleton.1 hrow]
        exact hdevice
      · change ((db.alerts ++ [StoredAlert.mk alert charge]).map _).Nodup
        rw [List.map_append, List.map_singleton, ← List.concat_eq_append]
        refine List.Nodup.concat (fun hmem => hfree ?_) hnodup
        obtain ⟨row, hrow, heq⟩ := List.mem_map.1 hmem
        exact List.any_eq_true.2 ⟨row, hrow, decide_eq_true heq⟩

theorem ensureQuotaRowExists_adds {slot : Slot} (hslot : slot.branchId = batch.branchId)
    (h : ensureQuotaRowExists slot db = .ok db') : db.Adds batch db' := by
  unfold ensureQuotaRowExists at h
  split at h
  · cases h
    exact .refl _
  · split at h
    · cases h
    · cases h
      exact adds_quota rfl hslot rfl rfl

theorem incrementSuppressionCounters_adds (h : incrementSuppressionCounters batch draws evt db = .ok db') :
    db.Adds batch db' := by
  unfold incrementSuppressionCounters at h
  split at h
  · cases h
    exact .refl _
  · split at h
    · cases h
      exact adds_quota rfl rfl rfl rfl
    · cases h

/-- The row a suppression leaves names the Device, the Branch and the day. -/
theorem create_deviceId {deviceId eventId : Guid} {slot : Slot} {className reason : String}
    {detectedAtUtc createdAtUtc : DateTime} {row : SuppressedDetectionEvent}
    (h : SuppressedDetectionEvent.create deviceId eventId slot className detectedAtUtc reason createdAtUtc = .ok row) :
    row.deviceId = deviceId := congrArg EventKey.deviceId (create_key_slot h).1

theorem recordSuppression_adds (h : recordSuppression batch draws evt db = .ok db') : db.Adds batch db' := by
  unfold recordSuppression at h
  split at h
  · cases h
  · rename_i row hcreate
    refine AlertDb.Adds.trans ?_ (incrementSuppressionCounters_adds h)
    refine ⟨⟨[], rfl, fun _ hrow => absurd hrow List.not_mem_nil⟩, fun hnodup => ?_, ⟨[row], rfl, fun other hother => ?_⟩,
      fun slot _ => quotas_apply_of_ne Resource.noConfusion db⟩
    · change ((db.alerts ++ []).map _).Nodup
      rwa [List.append_nil]
    · rw [List.mem_singleton.1 hother]
      exact create_deviceId hcreate

/-- An event that gets through. -/
theorem processEvent_adds (h : processEvent options batch draws db evt resolvedCameraId = .ok (db', outcome)) :
    db.Adds batch db' := by
  unfold processEvent at h
  split at h
  · cases h
    exact .refl _
  · split at h
    · exact insertAlert_adds h
    · split at h
      · cases h
        exact .refl _
      · unfold enforceQuotaAndInsert at h
        split at h
        · cases h
        · rename_i ensured hensure
          refine (@ensureQuotaRowExists_adds batch _ _ _ rfl hensure).trans ?_
          split at h
          · exact AlertDb.Adds.trans (adds_quota rfl rfl rfl rfl) (insertAlert_adds h)
          · cases hrecord : recordSuppression batch draws evt ensured with
            | error failure =>
              rw [hrecord] at h
              cases h
            | ok after =>
              rw [hrecord] at h
              cases h
              exact recordSuppression_adds hrecord

theorem processEvents_adds {draws : ℕ → Draws} {evts : List DetectionEventDto} {results : List SyncEventOutcome}
    (h : processEvents setting batch draws db evts = .ok (db', results)) : db.Adds batch db' := by
  induction evts generalizing draws db results with
  | nil =>
    cases h
    exact .refl _
  | cons evt rest ih =>
    rcases processEvents_cons_ok h with
      ⟨code, more, -, hrest, -⟩ | ⟨cameraId, mid, outcome, more, -, hevent, hrest, -⟩
    · exact ih hrest
    · exact (processEvent_adds hevent).trans (ih hrest)

/-- A batch adds what is its own; one that fails adds nothing. -/
theorem syncEvents_adds (setting : SyncSetting) (batch : SyncBatch) (draws : ℕ → Draws) (db : AlertDb) :
    db.Adds batch (syncEvents setting batch draws db).1 := by
  unfold syncEvents
  cases h : processEvents setting batch draws db batch.events with
  | error failure => exact .refl _
  | ok after => exact processEvents_adds h

end Adds

end WeaponDetection.Backend.AlertSync
