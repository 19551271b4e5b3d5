import WeaponDetection.Backend.AlertSync.Sequential

/-!
# Running a batch again

A batch that went through leaves every event it recorded recorded: run again, the batch finds the
Alerts and the suppressed detections of its first run and changes nothing (`sync_replay`).  A batch
that threw has changed nothing, and throws again: whether an event gets through depends on the keys
and counters of the tables, not on the identifiers and times drawn (`processEvents_alike`).
-/

namespace WeaponDetection.Backend.AlertSync

open WeaponDetection.Foundations

/-! ## What an accepted event matches -/

/-- The difference of a finite double and itself is nothing. -/
theorem withinEpsilon_self {d : Double} (h : d.isFinite = true) : withinEpsilon d d = true := by
  obtain ⟨q, rfl⟩ := (Double.isFinite_iff d).mp h
  have hzero : |q + -q| < Double.overflowBound := by
    rw [add_neg_cancel, abs_zero]
    exact pow_pos (by norm_num) 1024
  have hsub : (Double.finite q).add (Double.finite q).neg = .finite (q + -q) := Double.ofRat_of_lt hzero
  rw [withinEpsilon, hsub, add_neg_cancel]
  decide +kernel

/-- A confidence in range is finite. -/
theorem isFinite_of_isConfidenceValid {confidence : Double} (h : isConfidenceValid confidence = true) :
    confidence.isFinite = true := by
  cases confidence with
  | finite q => rfl
  | inf negative => cases negative <;> exact absurd h (by decide)
  | nan => exact absurd h (by decide)

/-- So are the four sides of a box that fits its frame. -/
theorem isFinite_of_isFrameAndBoundingBoxValid {evt : DetectionEventDto}
    (h : isFrameAndBoundingBoxValid evt = true) :
    evt.boundingBox.left.isFinite = true ∧ evt.boundingBox.top.isFinite = true ∧
      evt.boundingBox.width.isFinite = true ∧ evt.boundingBox.height.isFinite = true := by
  simp only [isFrameAndBoundingBoxValid] at h
  split at h
  · cases h
  · split at h
    · cases h
    · rename_i hfinite
      simpa [and_assoc] using hfinite

/-- An event that passed the checks has finite numbers. -/
theorem checkInput_ok {setting : SyncSetting} {batch : SyncBatch} {evt : DetectionEventDto}
    {resolvedCameraId : Guid} (h : setting.checkInput batch evt = .ok resolvedCameraId) :
    isConfidenceValid evt.confidence = true ∧ isFrameAndBoundingBoxValid evt = true ∧
      setting.resolve batch evt = some resolvedCameraId := by
  unfold SyncSetting.checkInput at h
  split at h
  · cases h
  · rename_i hconfidence
    split at h
    · cases h
    · rename_i hbox
      split at h
      · cases h
      · rename_i hresolve
        cases h
        exact ⟨by simpa using hconfidence, by simpa using hbox, hresolve⟩

/-- A built Alert has passed the checks, and carries the identifier drawn for it. -/
theorem buildAlert_ok {newGuid deviceId resolvedCameraId : Guid} {nowUtc : DateTime}
    {evt : DetectionEventDto} {alert : Alert}
    (h : buildAlert newGuid deviceId resolvedCameraId nowUtc evt = .ok alert) :
    Alert.check deviceId resolvedCameraId evt = .ok () ∧ alert.alertId = newGuid ∧
      alert.deviceId = deviceId ∧ alert.cameraId = resolvedCameraId := by
  unfold buildAlert at h
  cases hcheck : Alert.check deviceId resolvedCameraId evt with
  | error e =>
    rw [hcheck] at h
    cases h
  | ok =>
    rw [hcheck] at h
    cases h
    exact ⟨rfl, rfl, rfl, rfl⟩

/-- The Alert built from an event matches it. -/
theorem immutableFieldsMatch_buildAlert {newGuid deviceId resolvedCameraId : Guid} {nowUtc : DateTime}
    {evt : DetectionEventDto} {alert : Alert} (hconfidence : isConfidenceValid evt.confidence = true)
    (hbox : isFrameAndBoundingBoxValid evt = true)
    (h : buildAlert newGuid deviceId resolvedCameraId nowUtc evt = .ok alert) :
    immutableFieldsMatch alert evt resolvedCameraId = true := by
  obtain ⟨hleft, htop, hwidth, hheight⟩ := isFinite_of_isFrameAndBoundingBoxValid hbox
  unfold buildAlert at h
  rw [(buildAlert_ok h).1] at h
  cases h
  simp only [immutableFieldsMatch, withinEpsilon_self (isFinite_of_isConfidenceValid hconfidence),
    withinEpsilon_self hleft, withinEpsilon_self htop, withinEpsilon_self hwidth,
    withinEpsilon_self hheight, beq_self_eq_true, Bool.and_self]

/-! ## Tables that follow -/

/-- Tables reached by running events: rows are only added, and under an enabled quota no Alert is
added for an event that has been suppressed. -/
structure AlertDb.Follows (options : AlertQuotaOptions) (db later : AlertDb) : Prop where
  alerts : db.alerts <+: later.alerts
  suppressed : db.suppressed <+: later.suppressed
  settled : options.enabled = true → ∀ key, db.isSuppressed key = true → db.findAlert key = none →
    later.findAlert key = none

variable {options : AlertQuotaOptions} {setting : SyncSetting} {batch : SyncBatch} {db db' later : AlertDb}
  {evt : DetectionEventDto} {resolvedCameraId : Guid}

theorem AlertDb.Follows.refl (db : AlertDb) : db.Follows options db where
  alerts := List.prefix_refl _
  suppressed := List.prefix_refl _
  settled _ _ _ hnone := hnone

/-- A recorded suppression stays recorded. -/
theorem AlertDb.Follows.isSuppressed (h : db.Follows options later) {key : EventKey}
    (hkey : db.isSuppressed key = true) : later.isSuppressed key = true := by
  obtain ⟨row, hrow, hk⟩ := isSuppressed_eq_true_iff.mp hkey
  exact isSuppressed_eq_true_iff.mpr ⟨row, h.suppressed.subset hrow, hk⟩

/-- An Alert stays the one that is found. -/
theorem AlertDb.Follows.findAlert (h : db.Follows options later) {key : EventKey} {row : StoredAlert}
    (hkey : db.findAlert key = some row) : later.findAlert key = some row := by
  obtain ⟨more, hmore⟩ := h.alerts
  unfold AlertDb.findAlert at hkey ⊢
  rw [← hmore, List.find?_append, hkey]
  rfl

theorem AlertDb.Follows.trans {db₁ db₂ db₃ : AlertDb} (h : db₁.Follows options db₂)
    (h' : db₂.Follows options db₃) : db₁.Follows options db₃ where
  alerts := h.alerts.trans h'.alerts
  suppressed := h.suppressed.trans h'.suppressed
  settled henabled key hkey hnone :=
    h'.settled henabled key (h.isSuppressed hkey) (h.settled henabled key hkey hnone)

/-- Recording suppressions is followed. -/
theorem follows_of_alerts_eq {rows : List SuppressedDetectionEvent} (halerts : later.alerts = db.alerts)
    (hsuppressed : later.suppressed = db.suppressed ++ rows) : db.Follows options later where
  alerts := halerts ▸ List.prefix_refl _
  suppressed := ⟨rows, hsuppressed.symm⟩
  settled _ key _ hnone := by
    unfold AlertDb.findAlert at hnone ⊢
    rwa [halerts]

/-- So is the insert of an Alert whose event is not suppressed. -/
theorem follows_of_alerts_concat {row : StoredAlert} (halerts : later.alerts = db.alerts ++ [row])
    (hsuppressed : later.suppressed = db.suppressed)
    (h : options.enabled = true → db.isSuppressed row.alert.key = false) : db.Follows options later where
  alerts := ⟨[row], halerts.symm⟩
  suppressed := hsuppressed ▸ List.prefix_refl _
  settled henabled key hkey hnone := by
    have hne : row.alert.key ≠ key := by
      intro heq
      rw [← heq, h henabled] at hkey
      cases hkey
    rw [findAlert_eq_none_iff] at hnone ⊢
    intro other hother
    rw [halerts, List.mem_append, List.mem_singleton] at hother
    rcases hother with hold | rfl
    · exact hnone other hold
    · exact hne

/-! ## What an event leaves behind -/

/-- The ways an event that passed the checks gets through. -/
inductive Processed (options : AlertQuotaOptions) (batch : SyncBatch) (draws : Draws) (db : AlertDb)
    (evt : DetectionEventDto) (resolvedCameraId : Guid) : AlertDb → SyncEventOutcome → Prop where
  | known {row : StoredAlert} (hfound : db.findAlert (batch.key evt) = some row) :
      Processed options batch draws db evt resolvedCameraId db
        (duplicateOrConflict row.alert ⟨evt, resolvedCameraId, []⟩)
  | accepted {alert : Alert} {charge : Option Slot} {db' : AlertDb}
      (hnew : db.findAlert (batch.key evt) = none)
      (hunsuppressed : options.enabled = true → db.isSuppressed (batch.key evt) = false)
      (hbuild : buildAlert draws.newGuid batch.deviceId resolvedCameraId draws.receivedAtUtc evt = .ok alert)
      (halerts : db'.alerts = db.alerts ++ [⟨alert, charge⟩]) (hsuppressed : db'.suppressed = db.suppressed) :
      Processed options batch draws db evt resolvedCameraId db' (.accepted evt.eventId alert.alertId)
  | alreadySuppressed (hnew : db.findAlert (batch.key evt) = none) (henabled : options.enabled = true)
      (hold : db.isSuppressed (batch.key evt) = true) :
      Processed options batch draws db evt resolvedCameraId db (quotaExceeded options batch evt)
  | suppressed {row : SuppressedDetectionEvent} {db' : AlertDb}
      (hnew : db.findAlert (batch.key evt) = none) (henabled : options.enabled = true)
      (hcreate : SuppressedDetectionEvent.create batch.deviceId evt.eventId (batch.slot evt) evt.className
        evt.detectedAtUtc branchDailyAlertQuotaReachedReason draws.createdAtUtc = .ok row)
      (halerts : db'.alerts = db.alerts) (hsuppressed : db'.suppressed = db.suppressed ++ [row]) :
      Processed options batch draws db evt resolvedCameraId db' (quotaExceeded options batch evt)

variable {draws : Draws} {outcome : SyncEventOutcome}

/-- The insert adds the Alert it has built. -/
theorem insertAlert_ok {charge : Option Slot}
    (h : insertAlert batch draws evt resolvedCameraId charge db = .ok (db', outcome)) :
    ∃ alert, buildAlert draws.newGuid batch.deviceId resolvedCameraId draws.receivedAtUtc evt = .ok alert ∧
      db' = (Write.insertAlert ⟨alert, charge⟩).apply db ∧ outcome = .accepted evt.eventId alert.alertId := by
  unfold insertAlert at h
  split at h
  · cases h
  · rename_i alert hbuild
    split at h
    · cases h
    · cases h
      exact ⟨alert, hbuild, rfl, rfl⟩

/-- `EnsureQuotaRowExistsAsync` leaves Alerts and suppressed detections alone, and a row where it
looked. -/
theorem ensureQuotaRowExists_ok {slot : Slot} (h : ensureQuotaRowExists slot db = .ok db') :
    db'.alerts = db.alerts ∧ db'.suppressed = db.suppressed ∧ (db'.quotas slot).isSome = true := by
  unfold ensureQuotaRowExists at h
  split at h
  · rename_i hrow
    cases h
    exact ⟨rfl, rfl, hrow⟩
  · split at h
    · cases h
    · cases h
      refine ⟨List.append_nil _, List.append_nil _, ?_⟩
      rw [quotas_apply_of_eq rfl]
      cases db.quotas slot <;> rfl

/-- Counting a suppression leaves Alerts and suppressed detections alone. -/
theorem incrementSuppressionCounters_ok (h : incrementSuppressionCounters batch draws evt db = .ok db') :
    db'.alerts = db.alerts ∧ db'.suppressed = db.suppressed := by
  unfold incrementSuppressionCounters at h
  split at h
  · cases h
    exact ⟨rfl, rfl⟩
  · split at h
    · cases h
      exact ⟨List.append_nil _, List.append_nil _⟩
    · cases h

/-- A recorded suppression is one more row. -/
theorem recordSuppression_ok (h : recordSuppression batch draws evt db = .ok db') :
    ∃ row, SuppressedDetectionEvent.create batch.deviceId evt.eventId (batch.slot evt) evt.className
        evt.detectedAtUtc branchDailyAlertQuotaReachedReason draws.createdAtUtc = .ok row ∧
      db'.alerts = db.alerts ∧ db'.suppressed = db.suppressed ++ [row] := by
  unfold recordSuppression at h
  split at h
  · cases h
  · rename_i row hcreate
    obtain ⟨halerts, hsuppressed⟩ := incrementSuppressionCounters_ok h
    exact ⟨row, hcreate, halerts.trans (List.append_nil _), hsuppressed⟩

/-- The list is complete. -/
theorem processEvent_ok (h : processEvent options batch draws db evt resolvedCameraId = .ok (db', outcome)) :
    Processed options batch draws db evt resolvedCameraId db' outcome := by
  unfold processEvent at h
  split at h
  · cases h
    exact .known ‹_›
  · rename_i hnew
    split at h
    · rename_i hdisabled
      obtain ⟨alert, hbuild, rfl, rfl⟩ := insertAlert_ok h
      refine .accepted hnew ?_ hbuild rfl (List.append_nil _)
      intro henabled
      simp [henabled] at hdisabled
    · rename_i henabled
      rw [Bool.not_eq_true, Bool.not_eq_false'] at henabled
      split at h
      · cases h
        exact .alreadySuppressed hnew henabled ‹_›
      · rename_i hunsuppressed
        rw [Bool.not_eq_true] at hunsuppressed
        unfold enforceQuotaAndInsert at h
        split at h
        · cases h
        · rename_i ensured hensure
          obtain ⟨halerts, hsuppressed, -⟩ := ensureQuotaRowExists_ok hensure
          split at h
          · obtain ⟨alert, hbuild, rfl, rfl⟩ := insertAlert_ok h
            have halerts' : (ensured.alerts ++ []) ++ [⟨alert, some (batch.slot evt)⟩] =
                db.alerts ++ [⟨alert, some (batch.slot evt)⟩] := by
              rw [List.append_nil, halerts]
            have hsuppressed' : (ensured.suppressed ++ []) ++ [] = db.suppressed := by
              rw [List.append_nil, List.append_nil, hsuppressed]
            exact .accepted hnew (fun _ => hunsuppressed) hbuild halerts' hsuppressed'
          · cases hrecord : recordSuppression batch draws evt ensured with
            | error failure =>
              rw [hrecord] at h
              cases h
            | ok after =>
              rw [hrecord] at h
              cases h
              obtain ⟨row, hcreate, halerts', hsuppressed'⟩ := recordSuppression_ok hrecord
              rw [halerts] at halerts'
              rw [hsuppressed] at hsuppressed'
              exact .suppressed hnew henabled hcreate halerts' hsuppressed'

/-- An event is followed. -/
theorem Processed.follows (h : Processed options batch draws db evt resolvedCameraId db' outcome) :
    db.Follows options db' := by
  cases h with
  | known => exact .refl _
  | accepted hnew hunsuppressed hbuild halerts hsuppressed =>
    apply follows_of_alerts_concat halerts hsuppressed
    intro henabled
    rw [buildAlert_key hbuild]
    exact hunsuppressed henabled
  | alreadySuppressed => exact .refl _
  | suppressed hnew henabled hcreate halerts hsuppressed => exact follows_of_alerts_eq halerts hsuppressed

/-- A run is followed. -/
theorem processEvents_follows {draws : ℕ → Draws} {evts : List DetectionEventDto}
    {results : List SyncEventOutcome}
    (h : processEvents setting batch draws db evts = .ok (db', results)) :
    db.Follows setting.options db' := by
  induction evts generalizing draws db results with
  | nil =>
    cases h
    exact .refl _
  | cons evt rest ih =>
    rcases processEvents_cons_ok h with
      ⟨code, more, -, hrest, -⟩ | ⟨resolvedCameraId, mid, outcome, more, -, hevent, hrest, -⟩
    · exact ih hrest
    · exact (processEvent_ok hevent).follows.trans (ih hrest)

/-! ## The second run -/

/-- What a second run answers. -/
def SyncEventOutcome.replayed : SyncEventOutcome → SyncEventOutcome
  | .accepted eventId alertId => .duplicate eventId alertId
  | outcome => outcome

theorem replayed_duplicateOrConflict (existing : Alert) (c : Current) :
    (duplicateOrConflict existing c).replayed = duplicateOrConflict existing c := by
  unfold duplicateOrConflict
  split
  · rfl
  · rfl

/-- An event that has got through is answered from the rows it left, and adds nothing. -/
theorem Processed.replay (h : Processed options batch draws db evt resolvedCameraId db' outcome)
    (hconfidence : isConfidenceValid evt.confidence = true) (hbox : isFrameAndBoundingBoxValid evt = true)
    (hlater : db'.Follows options later) (again : Draws) :
    processEvent options batch again later evt resolvedCameraId = .ok (later, outcome.replayed) := by
  unfold processEvent
  cases h with
  | known hfound =>
    rw [hlater.findAlert hfound, replayed_duplicateOrConflict]
  | accepted hnew hunsuppressed hbuild halerts hsuppressed =>
    rename_i alert charge
    have hkey : alert.key = batch.key evt := buildAlert_key hbuild
    have hfound : db'.findAlert (batch.key evt) = some ⟨alert, charge⟩ := by
      unfold AlertDb.findAlert at hnew ⊢
      rw [halerts, List.find?_append, hnew]
      simp [hkey]
    rw [hlater.findAlert hfound]
    simp only [duplicateOrConflict, immutableFieldsMatch_buildAlert hconfidence hbox hbuild, if_true]
    rfl
  | alreadySuppressed hnew henabled hold =>
    rw [hlater.settled henabled _ hold hnew]
    simp only [henabled, hlater.isSuppressed hold, Bool.not_true, Bool.false_eq_true, if_false, if_true]
    rfl
  | suppressed hnew henabled hcreate halerts hsuppressed =>
    rename_i row
    have hold : db'.isSuppressed (batch.key evt) = true := by
      rw [isSuppressed_eq_true_iff, hsuppressed]
      exact ⟨row, List.mem_append_right _ (List.mem_singleton_self _), (create_key_slot hcreate).1⟩
    have hnew' : db'.findAlert (batch.key evt) = none := by
      unfold AlertDb.findAlert at hnew ⊢
      rwa [halerts]
    rw [hlater.settled henabled _ hold hnew']
    simp only [henabled, hlater.isSuppressed hold, Bool.not_true, Bool.false_eq_true, if_false, if_true]
    rfl

/-- A loop that has gone through goes through again over everything that follows it, and changes
nothing. -/
theorem processEvents_replay {draws : ℕ → Draws} {evts : List DetectionEventDto}
    {results : List SyncEventOutcome} (h : processEvents setting batch draws db evts = .ok (db', results))
    (hlater : db'.Follows setting.options later) (again : ℕ → Draws) :
    processEvents setting batch again later evts = .ok (later, results.map .replayed) := by
  induction evts generalizing draws db results again with
  | nil =>
    cases h
    rfl
  | cons evt rest ih =>
    rcases processEvents_cons_ok h with
      ⟨code, more, hinput, hrest, rfl⟩ | ⟨resolvedCameraId, mid, outcome, more, hinput, hevent, hrest, rfl⟩
    · rw [processEvents_reject hinput, ih hrest again]
      rfl
    · obtain ⟨hconfidence, hbox, -⟩ := checkInput_ok hinput
      -- What the rest of the first run did follows this event too.
      have hmid : mid.Follows setting.options later := (processEvents_follows hrest).trans hlater
      have hagain := (processEvent_ok hevent).replay hconfidence hbox hmid (again 0)
      rw [processEvents_goOn hinput hagain, ih hrest fun n => again (n + 1)]
      rfl

/-! ## What the draws decide -/

/-- The counters of a quota row, without its times. -/
def BranchDailyAlertQuota.counts (q : BranchDailyAlertQuota) : ℕ × ℕ × ℕ × ℕ :=
  (q.acceptedAlertCount, q.suppressedDetectionCount, q.gunSuppressedCount, q.knifeSuppressedCount)

/-- Tables that differ in the identifiers and times drawn only. -/
structure AlertDb.Alike (db other : AlertDb) : Prop where
  alerts : db.alerts.map (·.alert.key) = other.alerts.map (·.alert.key)
  suppressed : db.suppressed.map (·.key) = other.suppressed.map (·.key)
  quotas : ∀ slot, (db.quotas slot).map (·.counts) = (other.quotas slot).map (·.counts)

variable {other : AlertDb} {drawn again : Draws}

theorem AlertDb.Alike.refl (db : AlertDb) : db.Alike db := ⟨rfl, rfl, fun _ => rfl⟩

theorem AlertDb.Alike.findAlert (h : db.Alike other) (key : EventKey) :
    db.findAlert key = none ↔ other.findAlert key = none := by
  have hmem : ∀ tables : AlertDb, tables.findAlert key = none ↔ key ∉ tables.alerts.map (·.alert.key) := by
    intro tables
    rw [findAlert_eq_none_iff]
    simp
  rw [hmem, hmem, h.alerts]

theorem AlertDb.Alike.isSuppressed (h : db.Alike other) (key : EventKey) :
    db.isSuppressed key = other.isSuppressed key := by
  have hmem : ∀ tables : AlertDb, tables.isSuppressed key = true ↔ key ∈ tables.suppressed.map (·.key) := by
    intro tables
    rw [isSuppressed_eq_true_iff]
    simp
  rw [Bool.eq_iff_iff, hmem, hmem, h.suppressed]

/-- Writes that do the same to keys and counters keep tables alike. -/
theorem AlertDb.Alike.apply (h : db.Alike other) {w w' : Write}
    (halerts : w.alerts.map (·.alert.key) = w'.alerts.map (·.alert.key))
    (hsuppressed : w.suppressed.map (·.key) = w'.suppressed.map (·.key)) (hresource : w.resource = w'.resource)
    (hnone : (w.onQuota none).map (·.counts) = (w'.onQuota none).map (·.counts))
    (hsome : ∀ q q' : BranchDailyAlertQuota, q.counts = q'.counts →
      (w.onQuota (some q)).map (·.counts) = (w'.onQuota (some q')).map (·.counts)) :
    (w.apply db).Alike (w'.apply other) where
  alerts := by
    show (db.alerts ++ w.alerts).map _ = (other.alerts ++ w'.alerts).map _
    rw [List.map_append, List.map_append, h.alerts, halerts]
  suppressed := by
    show (db.suppressed ++ w.suppressed).map _ = (other.suppressed ++ w'.suppressed).map _
    rw [List.map_append, List.map_append, h.suppressed, hsuppressed]
  quotas slot := by
    by_cases hslot : w.resource = .quota slot
    · rw [quotas_apply_of_eq hslot, quotas_apply_of_eq (hresource ▸ hslot)]
      have hslot' := h.quotas slot
      cases hq : db.quotas slot with
      | none =>
        rw [hq, Option.map_none, eq_comm, Option.map_eq_none_iff] at hslot'
        rwa [hslot']
      | some q =>
        rw [hq, Option.map_some, eq_comm, Option.map_eq_some_iff] at hslot'
        obtain ⟨q', hq', hcounts⟩ := hslot'
        rw [hq']
        exact hsome q q' hcounts.symm
    · rw [quotas_apply_of_ne hslot, quotas_apply_of_ne (hresource ▸ hslot)]
      exact h.quotas slot

/-- Two runs both fail, with one failure, or both go on from related results. -/
def Agree {α β : Type} (R : α → β → Prop) : Except Failure α → Except Failure β → Prop
  | .error failure, .error failure' => failure = failure'
  | .ok a, .ok b => R a b
  | _, _ => False

theorem Agree.cases {α β : Type} {R : α → β → Prop} {a : Except Failure α} {b : Except Failure β}
    (h : Agree R a b) : (∃ failure, a = .error failure ∧ b = .error failure) ∨
      ∃ x y, a = .ok x ∧ b = .ok y ∧ R x y := by
  cases a with
  | error failure =>
    cases b with
    | error failure' =>
      cases h
      exact .inl ⟨failure, rfl, rfl⟩
    | ok y => exact h.elim
  | ok x =>
    cases b with
    | error failure' => exact h.elim
    | ok y => exact .inr ⟨x, y, rfl, rfl, h⟩

/-- The constructor of an Alert fails, or not, whatever is drawn. -/
theorem insertAlert_alike (h : db.Alike other) {charge : Option Slot}
    (hfresh : ∀ row ∈ db.alerts, row.alert.alertId ≠ drawn.newGuid)
    (hfresh' : ∀ row ∈ other.alerts, row.alert.alertId ≠ again.newGuid) :
    Agree (fun a b => a.1.Alike b.1) (insertAlert batch drawn evt resolvedCameraId charge db)
      (insertAlert batch again evt resolvedCameraId charge other) := by
  unfold insertAlert buildAlert
  cases Alert.check batch.deviceId resolvedCameraId evt with
  | error e => rfl
  | ok =>
    simp only [Except.map, List.any_eq_true, decide_eq_true_eq]
    rw [if_neg fun ⟨row, hrow, hid⟩ => hfresh row hrow hid, if_neg fun ⟨row, hrow, hid⟩ => hfresh' row hrow hid]
    exact h.apply rfl rfl rfl rfl fun _ _ hq => congrArg some hq

theorem ensureQuotaRowExists_alike (h : db.Alike other) (slot : Slot) :
    Agree AlertDb.Alike (ensureQuotaRowExists slot db) (ensureQuotaRowExists slot other) := by
  have hrow : (db.quotas slot).isSome = (other.quotas slot).isSome := by
    rw [← Option.isSome_map (f := (·.counts)), h.quotas slot, Option.isSome_map]
  unfold ensureQuotaRowExists
  rw [hrow]
  split
  · exact h
  · cases BranchDailyAlertQuota.check slot with
    | error e => rfl
    | ok =>
      exact h.apply rfl rfl rfl rfl fun _ _ hq => congrArg some hq

theorem hasRoom_alike (h : db.Alike other) (slot : Slot) : hasRoom options slot db = hasRoom options slot other := by
  have hcounts : ∀ tables : AlertDb, hasRoom options slot tables =
      ((tables.quotas slot).map (·.counts)).any (·.1 < options.maximumPerBranchPerDay) := by
    intro tables
    unfold hasRoom
    cases tables.quotas slot <;> rfl
  rw [hcounts, hcounts, h.quotas slot]

theorem fits_congr {q q' : BranchDailyAlertQuota} (h : q.counts = q'.counts) : q.fits = q'.fits := by
  have hcounts : ∀ r : BranchDailyAlertQuota, r.fits = (decide (r.counts.2.1 < 2 ^ 31) &&
      decide (r.counts.2.2.1 < 2 ^ 31) && decide (r.counts.2.2.2 < 2 ^ 31)) := fun _ => rfl
  rw [hcounts, hcounts, h]

theorem counts_countSuppression {q q' : BranchDailyAlertQuota} (h : q.counts = q'.counts)
    (isGun isKnife : Bool) (nowUtc nowUtc' : DateTime) :
    (q.countSuppression isGun isKnife nowUtc).counts = (q'.countSuppression isGun isKnife nowUtc').counts := by
  simp only [BranchDailyAlertQuota.counts, Prod.mk.injEq] at h
  simp only [BranchDailyAlertQuota.counts, BranchDailyAlertQuota.countSuppression, h]

theorem counts_consume {q q' : BranchDailyAlertQuota} (h : q.counts = q'.counts) :
    q.consume.counts = q'.consume.counts := by
  simp only [BranchDailyAlertQuota.counts, Prod.mk.injEq] at h
  simp only [BranchDailyAlertQuota.counts, BranchDailyAlertQuota.consume, h]

theorem incrementSuppressionCounters_alike (h : db.Alike other) :
    Agree AlertDb.Alike (incrementSuppressionCounters batch drawn evt db)
      (incrementSuppressionCounters batch again evt other) := by
  have hrow := h.quotas (batch.slot evt)
  unfold incrementSuppressionCounters
  cases hq : db.quotas (batch.slot evt) with
  | none =>
    rw [hq, Option.map_none, eq_comm, Option.map_eq_none_iff] at hrow
    rw [hrow]
    exact h
  | some q =>
    rw [hq, Option.map_some, eq_comm, Option.map_eq_some_iff] at hrow
    obtain ⟨q', hq', hcounts⟩ := hrow
    rw [hq']
    have hcount := counts_countSuppression hcounts (isClass "gun" evt) (isClass "knife" evt)
      again.countedAtUtc drawn.countedAtUtc
    simp only [fits_congr hcount]
    split
    · exact AlertDb.Alike.apply h rfl rfl rfl rfl fun _ _ hr =>
        congrArg some (counts_countSuppression hr _ _ _ _)
    · rfl

theorem recordSuppression_alike (h : db.Alike other) :
    Agree AlertDb.Alike (recordSuppression batch drawn evt db) (recordSuppression batch again evt other) := by
  unfold recordSuppression SuppressedDetectionEvent.create
  cases SuppressedDetectionEvent.check batch.deviceId evt.eventId (batch.slot evt) evt.className
      branchDailyAlertQuotaReachedReason with
  | error e => rfl
  | ok => exact incrementSuppressionCounters_alike (h.apply rfl rfl rfl rfl fun _ _ hq => congrArg some hq)

theorem enforceQuotaAndInsert_alike (h : db.Alike other)
    (hfresh : ∀ row ∈ db.alerts, row.alert.alertId ≠ drawn.newGuid)
    (hfresh' : ∀ row ∈ other.alerts, row.alert.alertId ≠ again.newGuid) :
    Agree (fun a b => a.1.Alike b.1) (enforceQuotaAndInsert options batch drawn evt resolvedCameraId db)
      (enforceQuotaAndInsert options batch again evt resolvedCameraId other) := by
  unfold enforceQuotaAndInsert
  rcases (ensureQuotaRowExists_alike h (batch.slot evt)).cases with
    ⟨failure, hdb, hother⟩ | ⟨ensured, ensured', hdb, hother, halike⟩
  · rw [hdb, hother]
    rfl
  · rw [hdb, hother]
    simp only [hasRoom_alike halike]
    split
    · apply insertAlert_alike
      · exact halike.apply rfl rfl rfl rfl fun _ _ hq => congrArg some (counts_consume hq)
      · intro row hrow
        rw [show ((Write.consumeQuota (batch.slot evt)).apply ensured).alerts = db.alerts from
          (List.append_nil _).trans (ensureQuotaRowExists_ok hdb).1] at hrow
        exact hfresh row hrow
      · intro row hrow
        rw [show ((Write.consumeQuota (batch.slot evt)).apply ensured').alerts = other.alerts from
          (List.append_nil _).trans (ensureQuotaRowExists_ok hother).1] at hrow
        exact hfresh' row hrow
    · have hrecord : Agree AlertDb.Alike (recordSuppression batch drawn evt ensured)
          (recordSuppression batch again evt ensured') := recordSuppression_alike halike
      rcases hrecord.cases with ⟨failure, hfail, hfail'⟩ | ⟨after, after', hok, hok', hafter⟩
      · rw [hfail, hfail']
        rfl
      · rw [hok, hok']
        exact hafter

/-- The identifiers drawn are new to the tables. -/
theorem processEvent_alike (h : db.Alike other) (hfresh : ∀ row ∈ db.alerts, row.alert.alertId ≠ drawn.newGuid)
    (hfresh' : ∀ row ∈ other.alerts, row.alert.alertId ≠ again.newGuid) :
    Agree (fun a b => a.1.Alike b.1) (processEvent options batch drawn db evt resolvedCameraId)
      (processEvent options batch again other evt resolvedCameraId) := by
  have hfind := h.findAlert (batch.key evt)
  unfold processEvent
  cases hfound : db.findAlert (batch.key evt) with
  | some row =>
    cases hfound' : other.findAlert (batch.key evt) with
    | none =>
      rw [hfound'] at hfind
      exact absurd (hfound ▸ hfind.mpr rfl) (Option.some_ne_none row)
    | some row' => exact h
  | none =>
    rw [hfind.mp hfound]
    simp only [h.isSuppressed (batch.key evt)]
    split
    · exact insertAlert_alike h hfresh hfresh'
    · split
      · exact h
      · exact enforceQuotaAndInsert_alike h hfresh hfresh'

/-- The first identifiers to be drawn differ from each other and from those of the tables. -/
structure FreshGuids (db : AlertDb) (draws : ℕ → Draws) (count : ℕ) : Prop where
  unused : ∀ i, i < count → ∀ row ∈ db.alerts, row.alert.alertId ≠ (draws i).newGuid
  distinct : ∀ i j, i < count → j < count → (draws i).newGuid = (draws j).newGuid → i = j

/-- Fewer are fresh as well. -/
theorem FreshGuids.mono {draws : ℕ → Draws} {count fewer : ℕ} (h : FreshGuids db draws count)
    (hle : fewer ≤ count) : FreshGuids db draws fewer where
  unused i hi := h.unused i (hi.trans_le hle)
  distinct i j hi hj := h.distinct i j (hi.trans_le hle) (hj.trans_le hle)

/-- After an event, the next ones are fresh. -/
theorem FreshGuids.tail {draws : ℕ → Draws} {count : ℕ} (h : FreshGuids db draws (count + 1))
    (hevent : Processed options batch (draws 0) db evt resolvedCameraId db' outcome) :
    FreshGuids db' (fun n => draws (n + 1)) count where
  unused i hi := by
    have hold : ∀ row ∈ db.alerts, row.alert.alertId ≠ (draws (i + 1)).newGuid :=
      h.unused (i + 1) (Nat.succ_lt_succ hi)
    cases hevent with
    | known | alreadySuppressed => exact hold
    | suppressed _ _ _ halerts =>
      rw [halerts]
      exact hold
    | accepted _ _ hbuild halerts =>
      intro row hrow heq
      rw [halerts, List.mem_append, List.mem_singleton] at hrow
      rcases hrow with hrow | rfl
      · exact hold row hrow heq
      · rw [(buildAlert_ok hbuild).2.1] at heq
        have := h.distinct 0 (i + 1) (Nat.succ_pos _) (Nat.succ_lt_succ hi) heq
        omega
  distinct i j hi hj heq := by
    have := h.distinct (i + 1) (j + 1) (Nat.succ_lt_succ hi) (Nat.succ_lt_succ hj) heq
    omega

/-- Two loops over alike tables fail together or leave alike tables. -/
theorem processEvents_alike {draws again : ℕ → Draws} {evts : List DetectionEventDto} (h : db.Alike other)
    (hfresh : FreshGuids db draws evts.length) (hfresh' : FreshGuids other again evts.length) :
    Agree (fun a b => a.1.Alike b.1) (processEvents setting batch draws db evts)
      (processEvents setting batch again other evts) := by
  induction evts generalizing draws again db other with
  | nil => exact h
  | cons evt rest ih =>
    cases hinput : setting.checkInput batch evt with
    | error code =>
      rw [processEvents_reject hinput, processEvents_reject hinput]
      have hrest : Agree (fun a b => a.1.Alike b.1) (processEvents setting batch draws db rest)
          (processEvents setting batch again other rest) :=
        ih h (hfresh.mono (Nat.le_succ _)) (hfresh'.mono (Nat.le_succ _))
      rcases hrest.cases with ⟨failure, hdb, hother⟩ | ⟨after, after', hdb, hother, halike⟩
      · rw [hdb, hother]
        rfl
      · rw [hdb, hother]
        exact halike
    | ok resolvedCameraId =>
      have hevent : Agree (fun a b => a.1.Alike b.1)
          (processEvent setting.options batch (draws 0) db evt resolvedCameraId)
          (processEvent setting.options batch (again 0) other evt resolvedCameraId) :=
        processEvent_alike h (hfresh.unused 0 (Nat.succ_pos _)) (hfresh'.unused 0 (Nat.succ_pos _))
      rcases hevent.cases with ⟨failure, hdb, hother⟩ | ⟨mid, mid', hdb, hother, halike⟩
      · rw [processEvents_fail hinput hdb, processEvents_fail hinput hother]
        rfl
      · rw [processEvents_goOn hinput hdb, processEvents_goOn hinput hother]
        have hrest : Agree (fun a b => a.1.Alike b.1)
            (processEvents setting batch (fun n => draws (n + 1)) mid.1 rest)
            (processEvents setting batch (fun n => again (n + 1)) mid'.1 rest) :=
          ih halike (hfresh.tail (processEvent_ok hdb)) (hfresh'.tail (processEvent_ok hother))
        rcases hrest.cases with ⟨failure, hdb', hother'⟩ | ⟨after, after', hdb', hother', halike'⟩
        · rw [hdb', hother']
          rfl
        · rw [hdb', hother']
          exact halike'

/-- Run a second time in a row, a batch changes no table: what it accepted is answered as a duplicate
with the same Alert, everything else as before.  A batch that threw throws again, provided that the
identifiers drawn are new. -/
theorem sync_replay (setting : SyncSetting) (batch : SyncBatch) (draws again : ℕ → Draws) (db : AlertDb) :
    (∀ results, (syncEvents setting batch draws db).2 = .ok results →
      syncEvents setting batch again (syncEvents setting batch draws db).1 =
        ((syncEvents setting batch draws db).1, .ok (results.map .replayed))) ∧
    (FreshGuids db draws batch.events.length → FreshGuids db again batch.events.length →
      ∀ failure, (syncEvents setting batch draws db).2 = .error failure →
        syncEvents setting batch again (syncEvents setting batch draws db).1 =
          ((syncEvents setting batch draws db).1, .error failure)) := by
  unfold syncEvents
  cases hrun : processEvents setting batch draws db batch.events with
  | ok after =>
    refine ⟨?_, ?_⟩
    · intro results hresults
      cases hresults
      have hagain : processEvents setting batch again after.1 batch.events =
          .ok (after.1, after.2.map .replayed) := processEvents_replay hrun (.refl _) again
      simp only [hagain]
    · intro _ _ failure hfailure
      cases hfailure
  | error failure =>
    refine ⟨?_, ?_⟩
    · intro results hresults
      cases hresults
    · intro hfresh hfresh' failure' hfailure
      cases hfailure
      have halike : Agree (fun a b => a.1.Alike b.1) (processEvents setting batch draws db batch.events)
          (processEvents setting batch again db batch.events) :=
        processEvents_alike (.refl db) hfresh hfresh'
      rcases halike.cases with ⟨failure', hfirst, hsecond⟩ | ⟨_, _, hfirst, _, _⟩
      · rw [hrun] at hfirst
        cases hfirst
        simp only [hsecond]
      · rw [hrun] at hfirst
        cases hfirst

/-- An event, the same again, and one more than the quota lets in. -/
def fullDay : SyncBatch := ⟨1, 2, ⟨fun _ => 0⟩, [sampleEvent 11, sampleEvent 11, sampleEvent 12]⟩

/-- An event without a class name. -/
def namelessBatch : SyncBatch := ⟨1, 2, ⟨fun _ => 0⟩, [{ sampleEvent 11 with className := " " }]⟩

theorem sync_replay_fullDay :
    (∀ again, syncEvents sampleSetting fullDay again (syncEvents sampleSetting fullDay sampleDraws emptyTables).1 =
      ((syncEvents sampleSetting fullDay sampleDraws emptyTables).1,
        .ok [.duplicate 11 100, .duplicate 11 100, .quotaExceeded 12 1 "2024-02-29"])) ∧
    syncEvents sampleSetting namelessBatch sampleDraws
        (syncEvents sampleSetting namelessBatch sampleDraws emptyTables).1 =
      ((syncEvents sampleSetting namelessBatch sampleDraws emptyTables).1,
        .error (.argument ⟨"Class name is required.", "className"⟩)) := by
  have hfresh : FreshGuids emptyTables sampleDraws 1 := by
    refine ⟨?_, ?_⟩
    · intro i _ row hrow
      exact absurd hrow List.not_mem_nil
    · intro i j hi hj _
      omega
  have hfirst : (syncEvents sampleSetting fullDay sampleDraws emptyTables).2 =
      .ok [.accepted 11 100, .duplicate 11 100, .quotaExceeded 12 1 "2024-02-29"] := by decide +kernel
  have hfailed : (syncEvents sampleSetting namelessBatch sampleDraws emptyTables).2 =
      .error (.argument ⟨"Class name is required.", "className"⟩) := by decide +kernel
  exact ⟨fun again => (sync_replay sampleSetting fullDay sampleDraws again emptyTables).1 _ hfirst,
    (sync_replay sampleSetting namelessBatch sampleDraws sampleDraws emptyTables).2 hfresh hfresh _ hfailed⟩

end WeaponDetection.Backend.AlertSync
