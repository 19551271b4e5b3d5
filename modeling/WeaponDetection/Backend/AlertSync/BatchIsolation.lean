import WeaponDetection.Backend.AlertSync.Replay

/-!
# One event and the rest of its batch

An event that is rejected by the checks of the loop takes no part in the rest of its batch.  The
constructors of `Alert` and `SuppressedDetectionEvent` check more than the loop does, an event id and
a class name: an event that fails there takes the whole batch with it.  `batch_isolated_iff` says
exactly which batches are spared.
-/

namespace WeaponDetection.Backend.AlertSync

open WeaponDetection.Foundations

/-! ## The property -/

/-- The event an outcome is about. -/
def SyncEventOutcome.eventId : SyncEventOutcome → Guid
  | .accepted eventId _ | .duplicate eventId _ | .rejected eventId _ | .quotaExceeded eventId _ _ => eventId

/-- The event was rejected as invalid: a conflict is not. -/
def SyncEventOutcome.isInvalid : SyncEventOutcome → Bool
  | .rejected _ .eventDataConflict => false
  | .rejected _ _ => true
  | _ => false

/-- The events of a batch that were not rejected as invalid. -/
def keptEvents (events : List DetectionEventDto) (results : List SyncEventOutcome) : List DetectionEventDto :=
  ((events.zip results).filter (!·.2.isInvalid)).map (·.1)

/-- A batch returns one outcome per event in the order of the request, and without the events it
rejects as invalid it returns the other outcomes and leaves the same tables. -/
def BatchIsolated (setting : SyncSetting) (batch : SyncBatch) (draws : ℕ → Draws) (db : AlertDb) : Prop :=
  ∃ db' results, syncEvents setting batch draws db = (db', .ok results) ∧
    results.map (·.eventId) = batch.events.map (·.eventId) ∧
    syncEvents setting { batch with events := keptEvents batch.events results } draws db =
      (db', .ok (results.filter (!·.isInvalid)))

/-! ## The condition -/

/-- What the constructors check beyond the loop. -/
structure WellNamed (evt : DetectionEventDto) : Prop where
  eventId : evt.eventId ≠ 0
  notBlank : DotNet.isNullOrWhiteSpace evt.className = false
  notLong : DotNet.length (DotNet.trim evt.className) ≤ classNameMaxLength

/-- An event passes the checks of the loop. -/
def SyncSetting.Passes (setting : SyncSetting) (batch : SyncBatch) (evt : DetectionEventDto) : Prop :=
  isConfidenceValid evt.confidence = true ∧ isFrameAndBoundingBoxValid evt = true ∧
    (setting.resolve batch evt).isSome

/-- The tables answer for an event: an Alert, or a suppression where the quota is enabled. -/
def AlertDb.Recorded (db : AlertDb) (options : AlertQuotaOptions) (key : EventKey) : Prop :=
  db.findAlert key ≠ none ∨ (options.enabled = true ∧ db.isSuppressed key = true)

/-- The first of the events with one id that passes the checks is well named, unless it is known
already. -/
def WellNamedBatch (setting : SyncSetting) (batch : SyncBatch) (known : EventKey → Prop)
    (events : List DetectionEventDto) : Prop :=
  ∀ before evt after, events = before ++ evt :: after → setting.Passes batch evt →
    ¬ known (batch.key evt) → (∀ earlier ∈ before, setting.Passes batch earlier →
      earlier.eventId ≠ evt.eventId) → WellNamed evt

section Condition

variable {setting : SyncSetting} {batch : SyncBatch} {known : EventKey → Prop} {evt : DetectionEventDto}
  {rest : List DetectionEventDto}

/-- The condition, event by event. -/
theorem wellNamedBatch_cons : WellNamedBatch setting batch known (evt :: rest) ↔
    (setting.Passes batch evt → ¬ known (batch.key evt) → WellNamed evt) ∧
    WellNamedBatch setting batch
      (fun key => known key ∨ (setting.Passes batch evt ∧ key = batch.key evt)) rest := by
  refine ⟨fun h => ⟨?_, ?_⟩, fun ⟨hhead, htail⟩ => ?_⟩
  · intro hpasses hnew
    exact h [] evt rest rfl hpasses hnew fun _ hmem => absurd hmem List.not_mem_nil
  · intro before later after heq hpasses hnew hfirst
    refine h (evt :: before) later after (heq ▸ rfl) hpasses (fun hknown => hnew (.inl hknown)) ?_
    intro earlier hmem hearlier hid
    rcases List.mem_cons.mp hmem with rfl | hmem
    · exact hnew (.inr ⟨hearlier, congrArg (EventKey.mk batch.deviceId) hid.symm⟩)
    · exact hfirst earlier hmem hearlier hid
  · intro before later after heq hpasses hnew hfirst
    cases before with
    | nil =>
      cases heq
      exact hhead hpasses hnew
    | cons first before =>
      cases heq
      apply htail before later after rfl hpasses
      · rintro (hknown | ⟨hpass, hkey⟩)
        · exact hnew hknown
        · exact hfirst evt List.mem_cons_self hpass (EventKey.mk.inj hkey).2.symm
      · intro earlier hmem
        exact hfirst earlier (List.mem_cons_of_mem _ hmem)

theorem wellNamedBatch_congr {known' : EventKey → Prop} (h : ∀ key, known key ↔ known' key) :
    WellNamedBatch setting batch known rest ↔ WellNamedBatch setting batch known' rest := by
  rw [show known = known' from funext fun key => propext (h key)]

theorem passes_of_checkInput_ok {resolvedCameraId : Guid} (h : setting.checkInput batch evt = .ok resolvedCameraId) :
    setting.Passes batch evt := by
  obtain ⟨hconfidence, hbox, hresolve⟩ := checkInput_ok h
  exact ⟨hconfidence, hbox, by rw [hresolve]; rfl⟩

/-- A rejection names a code of its own, and the event has not passed. -/
theorem checkInput_error {code : SyncEventErrorCode} (h : setting.checkInput batch evt = .error code) :
    code ≠ .eventDataConflict ∧ ¬ setting.Passes batch evt := by
  unfold SyncSetting.checkInput at h
  split at h
  · rename_i hconfidence
    cases h
    refine ⟨SyncEventErrorCode.noConfusion, fun hpasses => ?_⟩
    simp [hpasses.1] at hconfidence
  · split at h
    · rename_i hbox
      cases h
      refine ⟨SyncEventErrorCode.noConfusion, fun hpasses => ?_⟩
      simp [hpasses.2.1] at hbox
    · split at h
      · rename_i hresolve
        cases h
        refine ⟨SyncEventErrorCode.noConfusion, fun hpasses => ?_⟩
        have hsome := hpasses.2.2
        rw [hresolve] at hsome
        cases hsome
      · cases h

end Condition

/-! ## What the constructors check -/

theorem require_ok_iff {condition : Bool} {message paramName : String} :
    require condition message paramName = .ok () ↔ condition = true := by
  unfold require
  cases condition <;> simp

/-- Checks one after the other. -/
theorem checks_ok_iff {first second : Except ArgumentException Unit} :
    (first >>= fun _ => second) = .ok () ↔ first = .ok () ∧ second = .ok () := by
  cases first with
  | error e => exact ⟨fun h => (nomatch h), fun h => (nomatch h.1)⟩
  | ok => exact ⟨fun h => ⟨rfl, h⟩, fun h => h.2⟩

theorem checkClassName_ok_iff {className : String} : checkClassName className = .ok () ↔
    DotNet.isNullOrWhiteSpace className = false ∧
      DotNet.length (DotNet.trim className) ≤ classNameMaxLength := by
  simp only [checkClassName, checks_ok_iff, require_ok_iff, Bool.not_eq_true', decide_eq_true_eq]

/-- What `Alert` checks of the confidence, the loop has checked. -/
theorem confidence_of_isConfidenceValid {confidence : Double} (h : isConfidenceValid confidence = true) :
    (!(confidence.isNaN || confidence.lt (.finite 0) || (Double.finite 1).lt confidence)) = true := by
  obtain ⟨q, rfl⟩ := (Double.isFinite_iff confidence).mp (isFinite_of_isConfidenceValid h)
  obtain ⟨hzero, hone⟩ := (isConfidenceValid_finite q).mp h
  simp [not_lt.mpr hzero, not_lt.mpr hone]

/-- So it has the frame and the box. -/
theorem frame_of_isFrameAndBoundingBoxValid {evt : DetectionEventDto}
    (h : isFrameAndBoundingBoxValid evt = true) :
    (0 ≤ evt.frameNumber.val ∧ 0 ≤ evt.frameWidth.val ∧ 0 ≤ evt.frameHeight.val) ∧
      evt.boundingBox.left.lt (.finite 0) = false ∧ evt.boundingBox.top.lt (.finite 0) = false ∧
      evt.boundingBox.width.lt (.finite 0) = false ∧ evt.boundingBox.height.lt (.finite 0) = false := by
  simp only [isFrameAndBoundingBoxValid] at h
  split at h
  · cases h
  · rename_i hframe
    split at h
    · cases h
    · split at h
      · cases h
      · rename_i hbox
        rw [not_or, not_or, not_lt, not_lt, not_lt] at hframe
        refine ⟨hframe, ?_⟩
        simpa [and_assoc] using hbox

/-- On an event that passes the checks, with ids that are there, `Alert` checks the rest. -/
theorem alertCheck_ok_iff {deviceId resolvedCameraId : Guid} {evt : DetectionEventDto} (hdevice : deviceId ≠ 0)
    (hcamera : resolvedCameraId ≠ 0) (hconfidence : isConfidenceValid evt.confidence = true)
    (hbox : isFrameAndBoundingBoxValid evt = true) :
    Alert.check deviceId resolvedCameraId evt = .ok () ↔ WellNamed evt := by
  obtain ⟨⟨hnumber, hwidth, hheight⟩, hl, ht, hw, hh⟩ := frame_of_isFrameAndBoundingBoxValid hbox
  simp only [Alert.check, checks_ok_iff, require_ok_iff, checkClassName_ok_iff,
    confidence_of_isConfidenceValid hconfidence, hl, ht, hw, hh, hdevice, hcamera, hnumber, hwidth, hheight,
    decide_true, Bool.not_false, ne_eq, not_false_eq_true, true_and, and_true, decide_eq_true_eq]
  exact ⟨fun h => ⟨h.1, h.2.1, h.2.2⟩, fun h => ⟨h.eventId, h.notBlank, h.notLong⟩⟩

/-- The characters of a number in decimal digits are digits. -/
theorem mem_paddedDigits {width n : ℕ} {c : Char} (h : c ∈ paddedDigits width n) :
    48 ≤ c.toNat ∧ c.toNat < 58 := by
  induction width generalizing n with
  | zero => exact absurd h List.not_mem_nil
  | succ width ih =>
    rcases List.mem_append.mp h with h | h
    · exact ih h
    · rw [List.mem_singleton.mp h]
      have hdigit : ∀ d : Fin 10, 48 ≤ (Char.ofNat (48 + d.val)).toNat ∧
          (Char.ofNat (48 + d.val)).toNat < 58 := by decide
      exact hdigit ⟨n % 10, Nat.mod_lt _ (by norm_num)⟩

theorem length_paddedDigits (width n : ℕ) : (paddedDigits width n).length = width := by
  induction width generalizing n with
  | zero => rfl
  | succ width ih => rw [paddedDigits, List.length_append, ih, List.length_singleton]

/-- A local date is ten characters, none of them blank. -/
theorem checkLocalDate_resolveLocalDate (detectedAtUtc : DateTime) (timeZone : TimeZone) :
    checkLocalDate (resolveLocalDate detectedAtUtc timeZone) = .ok () := by
  obtain ⟨⟨year, month, day⟩, hdate⟩ : ∃ date, resolveLocalDate detectedAtUtc timeZone = formatDate date := by
    simp only [resolveLocalDate]
    exact ⟨_, rfl⟩
  rw [checkLocalDate, require_ok_iff, Bool.and_eq_true, hdate]
  have hmem : ∀ c ∈ (formatDate (year, month, day)).toList, 45 ≤ c.toNat ∧ c.toNat < 58 := by
    intro c hc
    simp only [formatDate, String.toList_ofList, List.mem_append, List.mem_cons] at hc
    rcases hc with (hc | rfl | hc) | rfl | hc
    · have := mem_paddedDigits hc
      omega
    · decide
    · have := mem_paddedDigits hc
      omega
    · decide
    · have := mem_paddedDigits hc
      omega
  have hlength : (formatDate (year, month, day)).toList.length = 10 := by
    simp [formatDate, length_paddedDigits]
  refine ⟨?_, ?_⟩
  · -- The first character is not a space.
    obtain ⟨c, rest, hcons⟩ := List.exists_cons_of_length_eq_add_one hlength
    have hc := hmem c (hcons ▸ List.mem_cons_self)
    have hspace : DotNet.isWhiteSpace c = false := by
      simp [DotNet.isWhiteSpace]
      omega
    simp [DotNet.isNullOrWhiteSpace, hcons, hspace]
  · have hunits : ∀ c ∈ (formatDate (year, month, day)).toList,
        (if c.toNat < 0x10000 then 1 else 2) = 1 := by
      intro c hc
      rw [if_pos (by have := hmem c hc; omega)]
    rw [beq_iff_eq, DotNet.length, List.map_congr_left hunits]
    simp [hlength, localDateLength]

theorem quotaCheck_ok {batch : SyncBatch} (hbranch : batch.branchId ≠ 0) (evt : DetectionEventDto) :
    BranchDailyAlertQuota.check (batch.slot evt) = .ok () := by
  simp only [BranchDailyAlertQuota.check, checks_ok_iff, require_ok_iff, SyncBatch.slot,
    checkLocalDate_resolveLocalDate, and_true]
  exact decide_eq_true hbranch

/-- `SuppressedDetectionEvent` checks the same of an event as `Alert`. -/
theorem suppressedCheck_ok_iff {batch : SyncBatch} (hdevice : batch.deviceId ≠ 0) (hbranch : batch.branchId ≠ 0)
    (evt : DetectionEventDto) :
    SuppressedDetectionEvent.check batch.deviceId evt.eventId (batch.slot evt) evt.className
      branchDailyAlertQuotaReachedReason = .ok () ↔ WellNamed evt := by
  have hreason : (!DotNet.isNullOrWhiteSpace branchDailyAlertQuotaReachedReason) = true ∧
      decide (DotNet.length (DotNet.trim branchDailyAlertQuotaReachedReason) ≤ reasonMaxLength) = true := by
    decide +kernel
  simp only [SuppressedDetectionEvent.check, checks_ok_iff, require_ok_iff, checkClassName_ok_iff, SyncBatch.slot,
    checkLocalDate_resolveLocalDate, hreason, hdevice, hbranch, decide_true, ne_eq, not_false_eq_true, true_and,
    and_true, decide_eq_true_eq]
  exact ⟨fun h => ⟨h.1, h.2.1, h.2.2⟩, fun h => ⟨h.eventId, h.notBlank, h.notLong⟩⟩

/-! ## One event -/

section Event

variable {options : AlertQuotaOptions} {batch : SyncBatch} {draws : Draws} {db db' : AlertDb}
  {evt : DetectionEventDto} {resolvedCameraId : Guid} {outcome : SyncEventOutcome}

theorem recorded_iff {key : EventKey} : db.Recorded options key ↔
    (∃ row ∈ db.alerts, row.alert.key = key) ∨
      (options.enabled = true ∧ ∃ row ∈ db.suppressed, row.key = key) := by
  rw [AlertDb.Recorded, Ne, findAlert_eq_none_iff, isSuppressed_eq_true_iff]
  simp

/-- An event that gets through is recorded, and no other event is. -/
theorem Processed.recorded (h : Processed options batch draws db evt resolvedCameraId db' outcome) (key : EventKey) :
    db'.Recorded options key ↔ db.Recorded options key ∨ key = batch.key evt := by
  cases h with
  | known hfound =>
    refine ⟨.inl, ?_⟩
    rintro (hold | rfl)
    · exact hold
    · exact .inl (by rw [hfound]; exact Option.some_ne_none _)
  | alreadySuppressed hnew henabled hold =>
    refine ⟨.inl, ?_⟩
    rintro (hold' | rfl)
    · exact hold'
    · exact .inr ⟨henabled, hold⟩
  | accepted hnew hunsuppressed hbuild halerts hsuppressed =>
    have hkey := buildAlert_key hbuild
    simp only [recorded_iff, halerts, hsuppressed, List.mem_append, List.mem_singleton, or_and_right, exists_or,
      exists_eq_left, hkey]
    rw [show (batch.key evt = EventKey.mk batch.deviceId evt.eventId) from rfl, @eq_comm _ key]
    exact or_right_comm
  | suppressed hnew henabled hcreate halerts hsuppressed =>
    have hkey := (create_key_slot hcreate).1
    simp only [recorded_iff, halerts, hsuppressed, List.mem_append, List.mem_singleton, or_and_right, exists_or,
      exists_eq_left, hkey, henabled, true_and]
    rw [show (batch.key evt = EventKey.mk batch.deviceId evt.eventId) from rfl, @eq_comm _ key]
    exact or_assoc.symm

/-- The outcome is about the event, and no rejection as invalid. -/
theorem Processed.outcome_kind (h : Processed options batch draws db evt resolvedCameraId db' outcome) :
    outcome.eventId = evt.eventId ∧ outcome.isInvalid = false := by
  cases h with
  | known =>
    unfold duplicateOrConflict
    split
    · exact ⟨rfl, rfl⟩
    · exact ⟨rfl, rfl⟩
  | accepted | alreadySuppressed | suppressed => exact ⟨rfl, rfl⟩

/-- A new event that gets through is well named. -/
theorem Processed.wellNamed (h : Processed options batch draws db evt resolvedCameraId db' outcome)
    (hdevice : batch.deviceId ≠ 0) (hbranch : batch.branchId ≠ 0) (hcamera : resolvedCameraId ≠ 0)
    (hconfidence : isConfidenceValid evt.confidence = true) (hbox : isFrameAndBoundingBoxValid evt = true)
    (hnew : ¬ db.Recorded options (batch.key evt)) : WellNamed evt := by
  cases h with
  | known hfound => exact absurd (.inl (by rw [hfound]; exact Option.some_ne_none _)) hnew
  | alreadySuppressed _ henabled hold => exact absurd (.inr ⟨henabled, hold⟩) hnew
  | accepted _ _ hbuild =>
    exact (alertCheck_ok_iff hdevice hcamera hconfidence hbox).mp (buildAlert_ok hbuild).1
  | suppressed _ _ hcreate =>
    unfold SuppressedDetectionEvent.create at hcreate
    cases hcheck : SuppressedDetectionEvent.check batch.deviceId evt.eventId (batch.slot evt) evt.className
        branchDailyAlertQuotaReachedReason with
    | error e =>
      rw [hcheck] at hcreate
      cases hcreate
    | ok => exact (suppressedCheck_ok_iff hdevice hbranch evt).mp hcheck

/-- A failure of the insert names what the constructor found. -/
theorem insertAlert_error {charge : Option Slot} {failure : Failure}
    (h : insertAlert batch draws evt resolvedCameraId charge db = .error failure)
    (hcheck : Alert.check batch.deviceId resolvedCameraId evt = .ok ()) : failure = .database := by
  unfold insertAlert buildAlert at h
  rw [hcheck] at h
  simp only [Except.map] at h
  split at h
  · cases h
    rfl
  · cases h

/-- An event that is known or well named fails on the database only. -/
theorem processEvent_error {failure : Failure}
    (h : processEvent options batch draws db evt resolvedCameraId = .error failure)
    (hdevice : batch.deviceId ≠ 0) (hbranch : batch.branchId ≠ 0) (hcamera : resolvedCameraId ≠ 0)
    (hconfidence : isConfidenceValid evt.confidence = true) (hbox : isFrameAndBoundingBoxValid evt = true)
    (hnamed : ¬ db.Recorded options (batch.key evt) → WellNamed evt) : failure = .database := by
  unfold processEvent at h
  split at h
  · cases h
  · rename_i hnone
    split at h
    · rename_i hdisabled
      have hnew : ¬ db.Recorded options (batch.key evt) := by
        rintro (hfound | ⟨henabled, -⟩)
        · exact hfound hnone
        · simp [henabled] at hdisabled
      exact insertAlert_error h ((alertCheck_ok_iff hdevice hcamera hconfidence hbox).mpr (hnamed hnew))
    · split at h
      · cases h
      · rename_i hunsuppressed
        have hnew : ¬ db.Recorded options (batch.key evt) := by
          rintro (hfound | ⟨-, hsuppressed⟩)
          · exact hfound hnone
          · exact hunsuppressed hsuppressed
        have hcheck := (alertCheck_ok_iff hdevice hcamera hconfidence hbox).mpr (hnamed hnew)
        have hcheck' := (suppressedCheck_ok_iff hdevice hbranch evt).mpr (hnamed hnew)
        unfold enforceQuotaAndInsert at h
        split at h
        · rename_i hensure
          unfold ensureQuotaRowExists at hensure
          rw [quotaCheck_ok hbranch evt] at hensure
          split at hensure
          · cases hensure
          · cases hensure
        · split at h
          · exact insertAlert_error h hcheck
          · unfold recordSuppression SuppressedDetectionEvent.create incrementSuppressionCounters at h
            rw [hcheck'] at h
            simp only [Except.map] at h
            split at h
            · rename_i hfail
              split at hfail
              · cases hfail
              · split at hfail
                · cases hfail
                · cases hfail
                  cases h
                  rfl
            · cases h

end Event

/-! ## The batch -/

/-- What the callers of `SyncEventsAsync` and the constructors of the rows promise: no id is empty. -/
structure IdsPresent (setting : SyncSetting) (batch : SyncBatch) : Prop where
  device : batch.deviceId ≠ 0
  branch : batch.branchId ≠ 0
  cameras : ∀ c ∈ setting.branchDb.cameras, c.cameraId ≠ 0

section Batch

variable {setting : SyncSetting} {batch : SyncBatch} {draws : ℕ → Draws} {db db' : AlertDb}
  {evts : List DetectionEventDto} {results : List SyncEventOutcome}

/-- A resolved Camera is one of the Branch. -/
theorem resolveCameraId_mem {runtime : Runtime} {branchDb : BranchDb} {branchId cameraId : Guid}
    {wireCameraId : String} (h : resolveCameraId runtime branchDb branchId wireCameraId = some cameraId) :
    ∃ c ∈ branchDb.enabledCameras branchId, c.cameraId = cameraId := by
  simp only [resolveCameraId] at h
  split at h
  · cases h
  · obtain ⟨c, hfound, hid⟩ := Option.map_eq_some_iff.mp h
    split at hfound
    · exact ⟨c, List.mem_of_find?_eq_some hfound, hid⟩
    · exact ⟨c, List.mem_of_find?_eq_some hfound, hid⟩

theorem IdsPresent.resolved (h : IdsPresent setting batch) {evt : DetectionEventDto} {cameraId : Guid}
    (hresolve : setting.resolve batch evt = some cameraId) : cameraId ≠ 0 := by
  obtain ⟨c, hc, rfl⟩ := resolveCameraId_mem hresolve
  exact h.cameras c (List.mem_of_mem_filter hc)

/-- What is known after an event that passed the checks. -/
theorem wellNamedBatch_after {evt : DetectionEventDto} {rest : List DetectionEventDto} {resolvedCameraId : Guid}
    {outcome : SyncEventOutcome} {mid : AlertDb} (hpasses : setting.Passes batch evt)
    (hevent : Processed setting.options batch (draws 0) db evt resolvedCameraId mid outcome) :
    WellNamedBatch setting batch
        (fun key => db.Recorded setting.options key ∨ (setting.Passes batch evt ∧ key = batch.key evt)) rest ↔
      WellNamedBatch setting batch (mid.Recorded setting.options) rest := by
  apply wellNamedBatch_congr
  intro key
  rw [hevent.recorded key, and_iff_right hpasses]

/-- An event that was rejected is known to nobody. -/
theorem wellNamedBatch_rejected {evt : DetectionEventDto} {rest : List DetectionEventDto}
    (hrejected : ¬ setting.Passes batch evt) :
    WellNamedBatch setting batch
        (fun key => db.Recorded setting.options key ∨ (setting.Passes batch evt ∧ key = batch.key evt)) rest ↔
      WellNamedBatch setting batch (db.Recorded setting.options) rest := by
  apply wellNamedBatch_congr
  intro key
  rw [or_iff_left fun h => hrejected h.1]

/-- A batch that goes through is well named. -/
theorem wellNamedBatch_of_ok (hids : IdsPresent setting batch)
    (h : processEvents setting batch draws db evts = .ok (db', results)) :
    WellNamedBatch setting batch (db.Recorded setting.options) evts := by
  induction evts generalizing draws db results with
  | nil =>
    intro before evt after heq
    simp at heq
  | cons evt rest ih =>
    rw [wellNamedBatch_cons]
    rcases processEvents_cons_ok h with
      ⟨code, more, hinput, hrest, rfl⟩ | ⟨resolvedCameraId, mid, outcome, more, hinput, hevent, hrest, rfl⟩
    · have hrejected := (checkInput_error hinput).2
      exact ⟨fun hpasses => absurd hpasses hrejected, (wellNamedBatch_rejected hrejected).mpr (ih hrest)⟩
    · obtain ⟨hconfidence, hbox, hresolve⟩ := checkInput_ok hinput
      have hprocessed := processEvent_ok hevent
      refine ⟨fun _ hnew => ?_, ?_⟩
      · exact hprocessed.wellNamed hids.device hids.branch (hids.resolved hresolve) hconfidence hbox hnew
      · exact (wellNamedBatch_after (passes_of_checkInput_ok hinput) hprocessed).mpr (ih hrest)

/-- A well named batch fails on the database only. -/
theorem processEvents_error (hids : IdsPresent setting batch) {failure : Failure}
    (hnamed : WellNamedBatch setting batch (db.Recorded setting.options) evts)
    (h : processEvents setting batch draws db evts = .error failure) : failure = .database := by
  induction evts generalizing draws db with
  | nil => cases h
  | cons evt rest ih =>
    obtain ⟨hhead, htail⟩ := wellNamedBatch_cons.mp hnamed
    cases hinput : setting.checkInput batch evt with
    | error code =>
      rw [processEvents_reject hinput] at h
      cases hrest : processEvents setting batch draws db rest with
      | error failure' =>
        rw [hrest] at h
        cases h
        exact ih ((wellNamedBatch_rejected (checkInput_error hinput).2).mp htail) hrest
      | ok after =>
        rw [hrest] at h
        cases h
    | ok resolvedCameraId =>
      obtain ⟨hconfidence, hbox, hresolve⟩ := checkInput_ok hinput
      have hpasses := passes_of_checkInput_ok hinput
      cases hevent : processEvent setting.options batch (draws 0) db evt resolvedCameraId with
      | error failure' =>
        rw [processEvents_fail hinput hevent] at h
        cases h
        exact processEvent_error hevent hids.device hids.branch (hids.resolved hresolve) hconfidence hbox
          (hhead hpasses)
      | ok mid =>
        rw [processEvents_goOn hinput hevent] at h
        cases hrest : processEvents setting batch (fun n => draws (n + 1)) mid.1 rest with
        | error failure' =>
          rw [hrest] at h
          cases h
          exact ih ((wellNamedBatch_after hpasses (processEvent_ok hevent)).mp htail) hrest
        | ok after =>
          rw [hrest] at h
          cases h

/-- One outcome for each event, in order. -/
theorem processEvents_eventIds (h : processEvents setting batch draws db evts = .ok (db', results)) :
    results.map (·.eventId) = evts.map (·.eventId) := by
  induction evts generalizing draws db results with
  | nil =>
    cases h
    rfl
  | cons evt rest ih =>
    rcases processEvents_cons_ok h with
      ⟨code, more, hinput, hrest, rfl⟩ | ⟨resolvedCameraId, mid, outcome, more, hinput, hevent, hrest, rfl⟩
    · exact congrArg (evt.eventId :: ·) (ih hrest)
    · rw [List.map_cons, List.map_cons, ih hrest, (processEvent_ok hevent).outcome_kind.1]

/-- Without the events it rejects as invalid a batch does the same. -/
theorem processEvents_kept (h : processEvents setting batch draws db evts = .ok (db', results)) :
    processEvents setting batch draws db (keptEvents evts results) =
      .ok (db', results.filter (!·.isInvalid)) := by
  induction evts generalizing draws db results with
  | nil =>
    cases h
    rfl
  | cons evt rest ih =>
    rcases processEvents_cons_ok h with
      ⟨code, more, hinput, hrest, rfl⟩ | ⟨resolvedCameraId, mid, outcome, more, hinput, hevent, hrest, rfl⟩
    · have hinvalid : (SyncEventOutcome.rejected evt.eventId code).isInvalid = true := by
        have hcode := (checkInput_error hinput).1
        cases code with
        | eventDataConflict => exact absurd rfl hcode
        | invalidConfidence | invalidBoundingBox | unknownCamera => rfl
      rw [List.filter_cons_of_neg (by simp [hinvalid])]
      have hkept : keptEvents (evt :: rest) (.rejected evt.eventId code :: more) = keptEvents rest more := by
        simp [keptEvents, hinvalid]
      rw [hkept]
      exact ih hrest
    · have hvalid : outcome.isInvalid = false := (processEvent_ok hevent).outcome_kind.2
      have hkept : keptEvents (evt :: rest) (outcome :: more) = evt :: keptEvents rest more := by
        simp [keptEvents, hvalid]
      rw [hkept, List.filter_cons_of_pos (by simp [hvalid]), processEvents_goOn hinput hevent, ih hrest]
      rfl

/-- The loop reads the events it is given, not those of the batch. -/
theorem processEvents_with_events (events : List DetectionEventDto) :
    processEvents setting { batch with events } draws db evts = processEvents setting batch draws db evts := by
  induction evts generalizing draws db with
  | nil => rfl
  | cons evt rest ih =>
    simp only [processEvents, ih]
    rfl

end Batch

/-- A detection without a class name behind a good one. -/
def spoiltBatch : SyncBatch := ⟨1, 2, ⟨fun _ => 0⟩, [sampleEvent 11, { sampleEvent 12 with className := " " }]⟩

end WeaponDetection.Backend.AlertSync
