import WeaponDetection.Backend.AlertSync.Cameras
import WeaponDetection.Backend.AlertSync.Statements
import Mathlib.Logic.Relation

/-!
# A batch on its own

`SyncEventsAsync` as one function, for a batch no other session interferes with: an insert never
meets a unique key that was free when it was looked up, so the `catch` branches for a lost race are
not reached.  `syncEvents_exec` connects the function to the interleaved statements: it is what a
single session of `syncSystem` does.
-/

namespace WeaponDetection.Backend.AlertSync

open WeaponDetection.Foundations

/-! ## One event -/

/-- The configuration a batch runs under and the Branch tables it reads. -/
structure SyncSetting where
  options : AlertQuotaOptions
  runtime : Runtime
  branchDb : BranchDb

/-- What an event takes from the clock and from `Guid.NewGuid()`, where it comes to that. -/
structure Draws where
  newGuid : Guid
  receivedAtUtc : DateTime
  createdAtUtc : DateTime
  countedAtUtc : DateTime

/-- The Camera of an event in the Branch of its batch. -/
def SyncSetting.resolve (setting : SyncSetting) (batch : SyncBatch) (evt : DetectionEventDto) : Option Guid :=
  resolveCameraId setting.runtime setting.branchDb batch.branchId evt.cameraId

/-- The checks before the savepoint: the Camera of the event, or what it is rejected with. -/
def SyncSetting.checkInput (setting : SyncSetting) (batch : SyncBatch) (evt : DetectionEventDto) :
    Except SyncEventErrorCode Guid :=
  if !isConfidenceValid evt.confidence then .error .invalidConfidence
  else if !isFrameAndBoundingBoxValid evt then .error .invalidBoundingBox
  else
    match setting.resolve batch evt with
    | none => .error .unknownCamera
    | some resolvedCameraId => .ok resolvedCameraId

/-- The insert of `InsertAlertAsync` and of `EnforceQuotaAndInsertAsync`. -/
def insertAlert (batch : SyncBatch) (draws : Draws) (evt : DetectionEventDto) (resolvedCameraId : Guid)
    (charge : Option Slot) (db : AlertDb) : Except Failure (AlertDb × SyncEventOutcome) :=
  match buildAlert draws.newGuid batch.deviceId resolvedCameraId draws.receivedAtUtc evt with
  | .error e => .error (.argument e)
  | .ok alert =>
    if db.alerts.any (·.alert.alertId = alert.alertId) then .error .database
    else .ok ((Write.insertAlert ⟨alert, charge⟩).apply db, .accepted evt.eventId alert.alertId)

/-- `EnsureQuotaRowExistsAsync`. -/
def ensureQuotaRowExists (slot : Slot) (db : AlertDb) : Except Failure AlertDb :=
  if (db.quotas slot).isSome then .ok db
  else
    match BranchDailyAlertQuota.check slot with
    | .error e => .error (.argument e)
    | .ok () => .ok ((Write.insertQuota slot).apply db)

/-- `IncrementSuppressionCountersAsync`. -/
def incrementSuppressionCounters (batch : SyncBatch) (draws : Draws) (evt : DetectionEventDto)
    (db : AlertDb) : Except Failure AlertDb :=
  match db.quotas (batch.slot evt) with
  | none => .ok db
  | some q =>
    if (q.countSuppression (isClass "gun" evt) (isClass "knife" evt) draws.countedAtUtc).fits then
      .ok ((Write.countSuppression (batch.slot evt) (isClass "gun" evt) (isClass "knife" evt)
        draws.countedAtUtc).apply db)
    else .error .database

/-- `SyncEventOutcome.QuotaExceeded`. -/
def quotaExceeded (options : AlertQuotaOptions) (batch : SyncBatch) (evt : DetectionEventDto) :
    SyncEventOutcome :=
  .quotaExceeded evt.eventId options.maximumPerBranchPerDay (batch.slot evt).localDate

/-- The second half of `EnforceQuotaAndInsertAsync`: the suppression is recorded, then counted. -/
def recordSuppression (batch : SyncBatch) (draws : Draws) (evt : DetectionEventDto) (db : AlertDb) :
    Except Failure AlertDb :=
  match SuppressedDetectionEvent.create batch.deviceId evt.eventId (batch.slot evt) evt.className
      evt.detectedAtUtc branchDailyAlertQuotaReachedReason draws.createdAtUtc with
  | .error e => .error (.argument e)
  | .ok row => incrementSuppressionCounters batch draws evt ((Write.insertSuppressed row).apply db)

/-- The quota row has room for another Alert. -/
def hasRoom (options : AlertQuotaOptions) (slot : Slot) (db : AlertDb) : Bool :=
  (db.quotas slot).any (·.acceptedAlertCount < options.maximumPerBranchPerDay)

/-- `EnforceQuotaAndInsertAsync`. -/
def enforceQuotaAndInsert (options : AlertQuotaOptions) (batch : SyncBatch) (draws : Draws)
    (evt : DetectionEventDto) (resolvedCameraId : Guid) (db : AlertDb) :
    Except Failure (AlertDb × SyncEventOutcome) :=
  match ensureQuotaRowExists (batch.slot evt) db with
  | .error failure => .error failure
  | .ok db =>
    if hasRoom options (batch.slot evt) db then
      insertAlert batch draws evt resolvedCameraId (some (batch.slot evt))
        ((Write.consumeQuota (batch.slot evt)).apply db)
    else (recordSuppression batch draws evt db).map (·, quotaExceeded options batch evt)

/-- An event that passed the checks, from its savepoint on. -/
def processEvent (options : AlertQuotaOptions) (batch : SyncBatch) (draws : Draws) (db : AlertDb)
    (evt : DetectionEventDto) (resolvedCameraId : Guid) : Except Failure (AlertDb × SyncEventOutcome) :=
  match db.findAlert (batch.key evt) with
  | some row => .ok (db, duplicateOrConflict row.alert ⟨evt, resolvedCameraId, []⟩)
  | none =>
    if !options.enabled then insertAlert batch draws evt resolvedCameraId none db
    else if db.isSuppressed (batch.key evt) then .ok (db, quotaExceeded options batch evt)
    else enforceQuotaAndInsert options batch draws evt resolvedCameraId db

/-! ## The batch -/

/-- The loop of `SyncEventsAsync`.  Only an event that passes the checks comes to draw anything, so
the draws are counted by these. -/
def processEvents (setting : SyncSetting) (batch : SyncBatch) :
    (ℕ → Draws) → AlertDb → List DetectionEventDto → Except Failure (AlertDb × List SyncEventOutcome)
  | _, db, [] => .ok (db, [])
  | draws, db, evt :: rest =>
    match setting.checkInput batch evt with
    | .error code =>
      (processEvents setting batch draws db rest).map fun (db, results) =>
        (db, .rejected evt.eventId code :: results)
    | .ok resolvedCameraId =>
      match processEvent setting.options batch (draws 0) db evt resolvedCameraId with
      | .error failure => .error failure
      | .ok (db, outcome) =>
        (processEvents setting batch (fun n => draws (n + 1)) db rest).map fun (db, results) =>
          (db, outcome :: results)

section Rounds

variable {setting : SyncSetting} {batch : SyncBatch} {draws : ℕ → Draws} {db : AlertDb}
  {evt : DetectionEventDto} {rest : List DetectionEventDto}

theorem processEvents_reject {code : SyncEventErrorCode} (hinput : setting.checkInput batch evt = .error code) :
    processEvents setting batch draws db (evt :: rest) =
      (processEvents setting batch draws db rest).map
        fun (after, results) => (after, .rejected evt.eventId code :: results) := by
  rw [processEvents, hinput]

theorem processEvents_fail {resolvedCameraId : Guid} {failure : Failure}
    (hinput : setting.checkInput batch evt = .ok resolvedCameraId)
    (hevent : processEvent setting.options batch (draws 0) db evt resolvedCameraId = .error failure) :
    processEvents setting batch draws db (evt :: rest) = .error failure := by
  simp only [processEvents, hinput, hevent]

theorem processEvents_goOn {resolvedCameraId : Guid} {after : AlertDb} {outcome : SyncEventOutcome}
    (hinput : setting.checkInput batch evt = .ok resolvedCameraId)
    (hevent : processEvent setting.options batch (draws 0) db evt resolvedCameraId = .ok (after, outcome)) :
    processEvents setting batch draws db (evt :: rest) =
      (processEvents setting batch (fun n => draws (n + 1)) after rest).map
        fun (after, results) => (after, outcome :: results) := by
  simp only [processEvents, hinput, hevent]

/-- A round of a loop that goes through: a rejection, or an event that gets through. -/
theorem processEvents_cons_ok {db' : AlertDb} {results : List SyncEventOutcome}
    (h : processEvents setting batch draws db (evt :: rest) = .ok (db', results)) :
    (∃ code more, setting.checkInput batch evt = .error code ∧
      processEvents setting batch draws db rest = .ok (db', more) ∧
      results = .rejected evt.eventId code :: more) ∨
    ∃ resolvedCameraId mid outcome more, setting.checkInput batch evt = .ok resolvedCameraId ∧
      processEvent setting.options batch (draws 0) db evt resolvedCameraId = .ok (mid, outcome) ∧
      processEvents setting batch (fun n => draws (n + 1)) mid rest = .ok (db', more) ∧
      results = outcome :: more := by
  cases hinput : setting.checkInput batch evt with
  | error code =>
    rw [processEvents_reject hinput] at h
    cases hrest : processEvents setting batch draws db rest with
    | error failure =>
      rw [hrest] at h
      cases h
    | ok after =>
      rw [hrest] at h
      cases h
      exact .inl ⟨code, after.2, rfl, rfl, rfl⟩
  | ok resolvedCameraId =>
    cases hevent : processEvent setting.options batch (draws 0) db evt resolvedCameraId with
    | error failure =>
      rw [processEvents_fail hinput hevent] at h
      cases h
    | ok mid =>
      rw [processEvents_goOn hinput hevent] at h
      cases hrest : processEvents setting batch (fun n => draws (n + 1)) mid.1 rest with
      | error failure =>
        rw [hrest] at h
        cases h
      | ok after =>
        rw [hrest] at h
        cases h
        exact .inr ⟨resolvedCameraId, mid.1, mid.2, after.2, rfl, hevent, hrest, rfl⟩

end Rounds

/-- `SyncEventsAsync`: the tables after it, and what it returns or throws.  An exception leaves
through the `await using` of the transaction, which rolls everything back. -/
def syncEvents (setting : SyncSetting) (batch : SyncBatch) (draws : ℕ → Draws) (db : AlertDb) :
    AlertDb × Except Failure (List SyncEventOutcome) :=
  match processEvents setting batch draws db batch.events with
  | .error failure => (db, .error failure)
  | .ok (db', results) => (db', .ok results)

/-! ## One session alone -/

/-- A statement of a session that no other interferes with, its Camera look-up answered by the
tables of the setting. -/
def SyncSetting.AloneStep (setting : SyncSetting) (db : AlertDb) (before after : Session) : Prop :=
  ∃ (env : Surroundings) (move : Move),
    (∀ evt rest, before.stage = .next (evt :: rest) →
      env.resolvedCameraId = setting.resolve before.batch evt) ∧
    before.statement setting.options env db = some move ∧ move ≠ .commit ∧ after = before.after move

/-- The statements of one session, commit aside. -/
abbrev SyncSetting.Alone (setting : SyncSetting) (db : AlertDb) : Session → Session → Prop :=
  Relation.ReflTransGen (setting.AloneStep db)

/-- A session gets from the middle of an event to what a function says of its rest. -/
def SyncSetting.Ends (setting : SyncSetting) (db : AlertDb) (session : Session)
    (rest : List DetectionEventDto) : Except Failure (AlertDb × SyncEventOutcome) → Prop
  | .ok (view, outcome) => ∃ savepoint pending, db.view pending = view ∧
      setting.Alone db session
        ⟨session.batch, .next rest, savepoint, pending, session.results ++ [outcome]⟩
  | .error failure => setting.Alone db session (session.ended (.aborted failure))

section Alone

variable {setting : SyncSetting} {db : AlertDb} {batch : SyncBatch} {c : Current} {draws : Draws}
  {savepoint pending : List Write} {results : List SyncEventOutcome}

/-- What the statements of an event take from its draws. -/
def Draws.at (draws : Draws) : Point → Surroundings
  | .insertSuppressed => ⟨draws.createdAtUtc, draws.newGuid, none⟩
  | .countSuppression => ⟨draws.countedAtUtc, draws.newGuid, none⟩
  | _ => ⟨draws.receivedAtUtc, draws.newGuid, none⟩

theorem aloneStep_event {point : Point} {move : Move} (draws : Draws) (savepoint : List Write)
    (results : List SyncEventOutcome)
    (hmove : eventStatement setting.options (draws.at point) batch (db.view pending) c point = move)
    (hcommit : move ≠ .commit) :
    setting.AloneStep db ⟨batch, .event c point, savepoint, pending, results⟩
      (Session.after ⟨batch, .event c point, savepoint, pending, results⟩ move) := by
  refine ⟨draws.at point, move, ?_, congrArg some hmove, hcommit, rfl⟩
  intro evt rest h
  cases h

/-- A statement that goes on without a result, and the rest of the event. -/
theorem Ends.step {point : Point} (draws : Draws) (effect : Effect) (next : Point)
    {outcome : Except Failure (AlertDb × SyncEventOutcome)}
    (hmove : eventStatement setting.options (draws.at point) batch (db.view pending) c point =
      .goOn effect none (.event c next))
    (h : setting.Ends db
      (Session.perform ⟨batch, .event c point, savepoint, pending, results⟩ effect none (.event c next))
      c.rest outcome) :
    setting.Ends db ⟨batch, .event c point, savepoint, pending, results⟩ c.rest outcome := by
  have hstep := aloneStep_event draws savepoint results hmove Move.noConfusion
  cases outcome with
  | error failure =>
    have hend : setting.Alone db _ (Session.mk batch (.aborted failure) [] [] (results ++ [])) :=
      h.head hstep
    rw [List.append_nil] at hend
    exact hend
  | ok after =>
    obtain ⟨savepoint', pending', hview, hruns⟩ := h
    have hend : setting.Alone db _
        (Session.mk batch (.next c.rest) savepoint' pending' ((results ++ []) ++ [after.2])) :=
      hruns.head hstep
    rw [List.append_nil] at hend
    exact ⟨savepoint', pending', hview, hend⟩

/-- A statement that ends the event. -/
theorem Ends.result {point : Point} {outcome : SyncEventOutcome} {view : AlertDb} (draws : Draws)
    (effect : Effect)
    (hmove : eventStatement setting.options (draws.at point) batch (db.view pending) c point =
      .goOn effect (some outcome) (.next c.rest))
    (hview : db.view (Session.perform ⟨batch, .event c point, savepoint, pending, results⟩ effect
      (some outcome) (.next c.rest)).pending = view) :
    setting.Ends db ⟨batch, .event c point, savepoint, pending, results⟩ c.rest (.ok (view, outcome)) :=
  ⟨_, _, hview, .single (aloneStep_event draws _ _ hmove Move.noConfusion)⟩

/-- A statement that throws. -/
theorem Ends.fail {point : Point} {failure : Failure} (draws : Draws)
    (hmove : eventStatement setting.options (draws.at point) batch (db.view pending) c point =
      .fail failure) :
    setting.Ends db ⟨batch, .event c point, savepoint, pending, results⟩ c.rest (.error failure) :=
  .single (aloneStep_event draws _ _ hmove Move.noConfusion)

theorem insertAlert_ends (draws : Draws) {charge : Option Slot}
    (hfresh : (db.view pending).findAlert (batch.key c.evt) = none) :
    setting.Ends db ⟨batch, .event c (.insertAlert charge), savepoint, pending, results⟩ c.rest
      (insertAlert batch draws c.evt c.resolvedCameraId charge (db.view pending)) := by
  unfold insertAlert
  cases hbuild : buildAlert draws.newGuid batch.deviceId c.resolvedCameraId draws.receivedAtUtc c.evt with
  | error e =>
    apply Ends.fail draws
    simp only [eventStatement, Draws.at, hbuild]
  | ok alert =>
    have hkey : alert.key = batch.key c.evt := buildAlert_key hbuild
    by_cases hid : (db.view pending).alerts.any (·.alert.alertId = alert.alertId) = true
    · simp only [hid, if_true]
      apply Ends.fail draws
      simp only [eventStatement, Draws.at, hbuild, hid, if_true]
    · simp only [hid, Bool.false_eq_true, if_false]
      refine Ends.result draws (.write (.insertAlert ⟨alert, charge⟩)) ?_ (view_concat db pending _)
      simp only [eventStatement, Draws.at, hbuild, hid, hkey, hfresh, Option.isSome_none,
        Bool.false_eq_true, if_false]

theorem incrementSuppressionCounters_ends (draws : Draws) :
    setting.Ends db ⟨batch, .event c .countSuppression, savepoint, pending, results⟩ c.rest
      ((incrementSuppressionCounters batch draws c.evt (db.view pending)).map
        (·, quotaExceeded setting.options batch c.evt)) := by
  unfold incrementSuppressionCounters
  cases hrow : (db.view pending).quotas (batch.slot c.evt) with
  | none =>
    refine Ends.result draws .keep ?_ rfl
    simp only [eventStatement, hrow]
    rfl
  | some q =>
    by_cases hfits : (q.countSuppression (isClass "gun" c.evt) (isClass "knife" c.evt)
        draws.countedAtUtc).fits = true
    · simp only [hfits, if_true]
      refine Ends.result draws (.write (.countSuppression (batch.slot c.evt) (isClass "gun" c.evt)
        (isClass "knife" c.evt) draws.countedAtUtc)) ?_ (view_concat db pending _)
      simp only [eventStatement, Draws.at, hrow, hfits, if_true]
      rfl
    · simp only [hfits, Bool.false_eq_true, if_false]
      apply Ends.fail draws
      simp only [eventStatement, Draws.at, hrow, hfits, Bool.false_eq_true, if_false]

theorem recordSuppression_ends (draws : Draws)
    (hfresh : (db.view pending).isSuppressed (batch.key c.evt) = false) :
    setting.Ends db ⟨batch, .event c .insertSuppressed, savepoint, pending, results⟩ c.rest
      ((recordSuppression batch draws c.evt (db.view pending)).map
        (·, quotaExceeded setting.options batch c.evt)) := by
  unfold recordSuppression
  cases hcreate : SuppressedDetectionEvent.create batch.deviceId c.evt.eventId (batch.slot c.evt)
      c.evt.className c.evt.detectedAtUtc branchDailyAlertQuotaReachedReason draws.createdAtUtc with
  | error e =>
    apply Ends.fail draws
    simp only [eventStatement, Draws.at, hcreate]
  | ok row =>
    have hkey : row.key = batch.key c.evt := (create_key_slot hcreate).1
    refine Ends.step draws (.write (.insertSuppressed row)) .countSuppression ?_ ?_
    · simp only [eventStatement, Draws.at, hcreate, hkey, hfresh, Bool.false_eq_true, if_false]
    · have hview : db.view (pending ++ [.insertSuppressed row]) =
          (Write.insertSuppressed row).apply (db.view pending) := view_concat db pending _
      show setting.Ends db ⟨batch, .event c .countSuppression, savepoint,
        pending ++ [.insertSuppressed row], results ++ []⟩ c.rest
        ((incrementSuppressionCounters batch draws c.evt
          ((Write.insertSuppressed row).apply (db.view pending))).map _)
      rw [← hview]
      exact incrementSuppressionCounters_ends draws

/-- A write of a quota row leaves the look-ups as they are. -/
theorem findAlert_apply_of_alerts_nil {w : Write} (h : w.alerts = []) (view : AlertDb) (key : EventKey) :
    (w.apply view).findAlert key = view.findAlert key := by
  show (view.alerts ++ w.alerts).find? _ = view.alerts.find? _
  rw [h, List.append_nil]

theorem isSuppressed_apply_of_suppressed_nil {w : Write} (h : w.suppressed = []) (view : AlertDb)
    (key : EventKey) : (w.apply view).isSuppressed key = view.isSuppressed key := by
  show (view.suppressed ++ w.suppressed).any _ = view.suppressed.any _
  rw [h, List.append_nil]

theorem consumeQuota_ends (draws : Draws) (hnew : (db.view pending).findAlert (batch.key c.evt) = none)
    (hfresh : (db.view pending).isSuppressed (batch.key c.evt) = false) :
    setting.Ends db ⟨batch, .event c .consumeQuota, savepoint, pending, results⟩ c.rest
      (if hasRoom setting.options (batch.slot c.evt) (db.view pending) then
        insertAlert batch draws c.evt c.resolvedCameraId (some (batch.slot c.evt))
          ((Write.consumeQuota (batch.slot c.evt)).apply (db.view pending))
      else (recordSuppression batch draws c.evt (db.view pending)).map
        (·, quotaExceeded setting.options batch c.evt)) := by
  -- Past the conditional increment the event is suppressed.
  have hexhausted : setting.Ends db ⟨batch, .event c .insertSuppressed, savepoint, pending, results ++ []⟩
      c.rest ((recordSuppression batch draws c.evt (db.view pending)).map
        (·, quotaExceeded setting.options batch c.evt)) := recordSuppression_ends draws hfresh
  unfold hasRoom
  cases hrow : (db.view pending).quotas (batch.slot c.evt) with
  | none =>
    simp only [Option.any_none, Bool.false_eq_true, if_false]
    refine Ends.step draws .keep .insertSuppressed ?_ hexhausted
    simp only [eventStatement, hrow]
  | some q =>
    simp only [Option.any_some, decide_eq_true_eq]
    by_cases hroom : q.acceptedAlertCount < setting.options.maximumPerBranchPerDay
    · rw [if_pos hroom]
      have hview : db.view (pending ++ [.consumeQuota (batch.slot c.evt)]) =
          (Write.consumeQuota (batch.slot c.evt)).apply (db.view pending) := view_concat db pending _
      refine Ends.step draws (.write (.consumeQuota (batch.slot c.evt)))
        (.insertAlert (some (batch.slot c.evt))) ?_ ?_
      · simp only [eventStatement, hrow, hroom, if_true]
      · rw [← hview]
        apply insertAlert_ends draws
        show (db.view (pending ++ [.consumeQuota (batch.slot c.evt)])).findAlert _ = none
        rw [hview, findAlert_apply_of_alerts_nil rfl]
        exact hnew
    · rw [if_neg hroom]
      refine Ends.step draws .keep .insertSuppressed ?_ hexhausted
      simp only [eventStatement, hrow, hroom, if_false]

theorem enforceQuotaAndInsert_ends (draws : Draws)
    (hnew : (db.view pending).findAlert (batch.key c.evt) = none)
    (hfresh : (db.view pending).isSuppressed (batch.key c.evt) = false) :
    setting.Ends db ⟨batch, .event c .lookupQuotaRow, savepoint, pending, results⟩ c.rest
      (enforceQuotaAndInsert setting.options batch draws c.evt c.resolvedCameraId (db.view pending)) := by
  unfold enforceQuotaAndInsert ensureQuotaRowExists
  by_cases hrow : ((db.view pending).quotas (batch.slot c.evt)).isSome = true
  · simp only [hrow, if_true]
    refine Ends.step draws .keep .consumeQuota ?_ (consumeQuota_ends draws hnew hfresh)
    simp only [eventStatement, hrow, if_true]
  · simp only [hrow, Bool.false_eq_true, if_false]
    refine Ends.step draws .keep .insertQuotaRow ?_ ?_
    · simp only [eventStatement, hrow, Bool.false_eq_true, if_false]
    · cases hcheck : BranchDailyAlertQuota.check (batch.slot c.evt) with
      | error e =>
        apply Ends.fail draws
        simp only [eventStatement, hcheck]
      | ok =>
        have hview : db.view (pending ++ [.insertQuota (batch.slot c.evt)]) =
            (Write.insertQuota (batch.slot c.evt)).apply (db.view pending) := view_concat db pending _
        refine Ends.step draws (.write (.insertQuota (batch.slot c.evt))) .consumeQuota ?_ ?_
        · simp only [eventStatement, hcheck, hrow, Bool.false_eq_true, if_false]
        · simp only [← hview]
          apply consumeQuota_ends draws
          · show (db.view (pending ++ [.insertQuota (batch.slot c.evt)])).findAlert _ = none
            rw [hview, findAlert_apply_of_alerts_nil rfl]
            exact hnew
          · show (db.view (pending ++ [.insertQuota (batch.slot c.evt)])).isSuppressed _ = false
            rw [hview, isSuppressed_apply_of_suppressed_nil rfl]
            exact hfresh

/-- From its savepoint on, an event ends the way `processEvent` says. -/
theorem processEvent_ends (draws : Draws) :
    setting.Ends db ⟨batch, .event c .lookupAlert, savepoint, pending, results⟩ c.rest
      (processEvent setting.options batch draws (db.view pending) c.evt c.resolvedCameraId) := by
  unfold processEvent
  cases hfound : (db.view pending).findAlert (batch.key c.evt) with
  | some row =>
    refine Ends.result draws .keep ?_ rfl
    simp only [eventStatement, hfound]
    rfl
  | none =>
    cases henabled : setting.options.enabled with
    | false =>
      refine Ends.step draws .keep (.insertAlert none) ?_ (insertAlert_ends draws hfound)
      simp only [eventStatement, hfound, henabled, Bool.not_false, if_true]
    | true =>
      refine Ends.step draws .keep .lookupSuppressed ?_ ?_
      · simp only [eventStatement, hfound, henabled, Bool.not_true, Bool.false_eq_true, if_false]
      · cases hsuppressed : (db.view pending).isSuppressed (batch.key c.evt) with
        | true =>
          refine Ends.result draws .keep ?_ rfl
          simp only [eventStatement]
          exact if_pos hsuppressed
        | false =>
          refine Ends.step draws .keep .lookupQuotaRow ?_
            (enforceQuotaAndInsert_ends draws hfound hsuppressed)
          simp only [eventStatement]
          exact if_neg (Bool.not_eq_true _ ▸ hsuppressed)

/-- A session gets from the head of the loop to what a function says of the remaining events. -/
def SyncSetting.Finishes (setting : SyncSetting) (db : AlertDb) (session : Session) :
    Except Failure (AlertDb × List SyncEventOutcome) → Prop
  | .ok (view, more) => ∃ savepoint pending, db.view pending = view ∧
      setting.Alone db session ⟨session.batch, .next [], savepoint, pending, session.results ++ more⟩
  | .error failure => ∃ results,
      setting.Alone db session ⟨session.batch, .aborted failure, [], [], results⟩

/-- Some statements that add one result come before the rest. -/
theorem Finishes.head {session : Session} {rest : List DetectionEventDto} {outcome : SyncEventOutcome}
    {savepoint' pending' : List Write} {after : Except Failure (AlertDb × List SyncEventOutcome)}
    (hrun : setting.Alone db session ⟨session.batch, .next rest, savepoint', pending',
      session.results ++ [outcome]⟩)
    (h : setting.Finishes db ⟨session.batch, .next rest, savepoint', pending',
      session.results ++ [outcome]⟩ after) :
    setting.Finishes db session (after.map fun (view, more) => (view, outcome :: more)) := by
  cases after with
  | error failure =>
    obtain ⟨results, hend⟩ := h
    exact ⟨results, hrun.trans hend⟩
  | ok after =>
    obtain ⟨savepoint, pending, hview, hend⟩ := h
    refine ⟨savepoint, pending, hview, ?_⟩
    have hrest : setting.Alone db _ ⟨session.batch, .next [], savepoint, pending,
        (session.results ++ [outcome]) ++ after.2⟩ := hrun.trans hend
    rw [List.append_assoc] at hrest
    exact hrest

/-- The move at the loop head, from what the checks say. -/
def headMove (evt : DetectionEventDto) (rest : List DetectionEventDto) : Except SyncEventErrorCode Guid → Move
  | .error code => .goOn .keep (some (.rejected evt.eventId code)) (.next rest)
  | .ok resolvedCameraId => .goOn .createSavepoint none (.event ⟨evt, resolvedCameraId, rest⟩ .lookupAlert)

theorem loopHead_cons (evt : DetectionEventDto) (rest : List DetectionEventDto) {env : Surroundings}
    (henv : env.resolvedCameraId = setting.resolve batch evt) :
    loopHead env (evt :: rest) = headMove evt rest (setting.checkInput batch evt) := by
  simp only [loopHead, SyncSetting.checkInput, henv]
  split
  · rfl
  · split
    · rfl
    · cases setting.resolve batch evt with
      | none => rfl
      | some resolvedCameraId => rfl

/-- The loop head makes the move the checks decide on. -/
theorem aloneStep_head {input : Except SyncEventErrorCode Guid} (evt : DetectionEventDto)
    (rest : List DetectionEventDto) (savepoint pending : List Write) (results : List SyncEventOutcome)
    (hinput : setting.checkInput batch evt = input) :
    setting.AloneStep db ⟨batch, .next (evt :: rest), savepoint, pending, results⟩
      (Session.after ⟨batch, .next (evt :: rest), savepoint, pending, results⟩ (headMove evt rest input)) := by
  obtain ⟨env, henv⟩ : ∃ env : Surroundings, env.resolvedCameraId = setting.resolve batch evt := by
    generalize setting.resolve batch evt = answer
    exact ⟨⟨evt.createdAtUtc, 0, answer⟩, rfl⟩
  refine ⟨env, headMove evt rest input, ?_, ?_, ?_, rfl⟩
  · intro evt' rest' h
    have hevt : evt = evt' := (List.cons.inj (Stage.next.inj h)).1
    rw [henv, hevt]
  · rw [← hinput]
    exact congrArg some (loopHead_cons evt rest henv)
  · intro hcommit
    cases input with
    | error code => cases hcommit
    | ok resolvedCameraId => cases hcommit

/-- The loop ends the way `processEvents` says. -/
theorem processEvents_finishes (rest : List DetectionEventDto) (draws : ℕ → Draws)
    (savepoint pending : List Write) (results : List SyncEventOutcome) :
    setting.Finishes db ⟨batch, .next rest, savepoint, pending, results⟩
      (processEvents setting batch draws (db.view pending) rest) := by
  induction rest generalizing draws savepoint pending results with
  | nil =>
    refine ⟨savepoint, pending, rfl, ?_⟩
    show setting.Alone db _ ⟨batch, .next [], savepoint, pending, results ++ []⟩
    rw [List.append_nil]
  | cons evt rest ih =>
    cases hinput : setting.checkInput batch evt with
    | error code =>
      have hhead : setting.AloneStep db ⟨batch, .next (evt :: rest), savepoint, pending, results⟩
          ⟨batch, .next rest, savepoint, pending, results ++ [.rejected evt.eventId code]⟩ :=
        aloneStep_head evt rest savepoint pending results hinput
      rw [processEvents_reject hinput]
      exact Finishes.head (.single hhead) (ih draws savepoint pending _)
    | ok resolvedCameraId =>
      -- The savepoint is set to what is pending, and the event starts without a result.
      have hhead : setting.AloneStep db ⟨batch, .next (evt :: rest), savepoint, pending, results⟩
          ⟨batch, .event ⟨evt, resolvedCameraId, rest⟩ .lookupAlert, pending, pending, results ++ []⟩ :=
        aloneStep_head evt rest savepoint pending results hinput
      rw [List.append_nil] at hhead
      have hends : setting.Ends db
          ⟨batch, .event ⟨evt, resolvedCameraId, rest⟩ .lookupAlert, pending, pending, results⟩ rest
          (processEvent setting.options batch (draws 0) (db.view pending) evt resolvedCameraId) :=
        processEvent_ends (draws 0)
      cases hevent : processEvent setting.options batch (draws 0) (db.view pending) evt resolvedCameraId with
      | error failure =>
        rw [hevent] at hends
        rw [processEvents_fail hinput hevent]
        exact ⟨results, hends.head hhead⟩
      | ok after =>
        obtain ⟨view, outcome⟩ := after
        rw [hevent] at hends
        obtain ⟨savepoint', pending', hview, hrun⟩ := hends
        subst hview
        rw [processEvents_goOn hinput hevent]
        exact Finishes.head (hrun.head hhead) (ih _ savepoint' pending' _)

/-- Nobody else holds anything. -/
theorem granted_alone (db : AlertDb) (session : Session) : (SyncState.mk db [session]).Granted 0 session := by
  intro r _ j hj hne
  have hlen : j < 1 := hj
  omega

/-- A statement of a session alone is a step of the system. -/
theorem syncStep_of_aloneStep {before after : Session} (h : setting.AloneStep db before after) :
    ∃ action, syncStep setting.options ⟨db, [before]⟩ action = some ⟨db, [after]⟩ := by
  obtain ⟨env, move, -, hmove, hcommit, rfl⟩ := h
  refine ⟨.advance 0 env, ?_⟩
  simp only [syncStep, List.getElem?_cons_zero, Option.bind_some,
    if_pos (granted_alone db before), hmove, Option.map_some]
  cases move with
  | commit => exact absurd rfl hcommit
  | goOn effect result stage => rfl
  | fail failure => rfl

theorem exec_of_alone {before after : Session} (h : setting.Alone db before after) :
    ∃ actions, (syncSystem setting.options).exec ⟨db, [before]⟩ actions = some ⟨db, [after]⟩ := by
  induction h using Relation.ReflTransGen.head_induction_on with
  | refl => exact ⟨[], rfl⟩
  | head hstep _ ih =>
    obtain ⟨action, haction⟩ := syncStep_of_aloneStep hstep
    obtain ⟨actions, hactions⟩ := ih
    refine ⟨action :: actions, ?_⟩
    rw [TransitionSystem.exec_cons]
    exact (congrArg (Option.bind · _) haction).trans hactions

/-- What a session that has ended has answered. -/
def Session.answer (session : Session) : Option (Except Failure (List SyncEventOutcome)) :=
  match session.stage with
  | .committed => some (.ok session.results)
  | .aborted failure => some (.error failure)
  | _ => none

/-- `syncEvents` is what a session of the interleaved system does when it has the database to itself. -/
theorem syncEvents_exec (setting : SyncSetting) (batch : SyncBatch) (draws : ℕ → Draws) (db : AlertDb) :
    ∃ actions session, (syncSystem setting.options).exec ⟨db, [batch.session]⟩ actions =
        some ⟨(syncEvents setting batch draws db).1, [session]⟩ ∧
      session.answer = some (syncEvents setting batch draws db).2 := by
  have hrun : setting.Finishes db batch.session (processEvents setting batch draws db batch.events) :=
    processEvents_finishes batch.events draws [] [] []
  unfold syncEvents
  cases hevents : processEvents setting batch draws db batch.events with
  | error failure =>
    rw [hevents] at hrun
    obtain ⟨results, halone⟩ := hrun
    obtain ⟨actions, hactions⟩ := exec_of_alone halone
    exact ⟨actions, _, hactions, rfl⟩
  | ok after =>
    rw [hevents] at hrun
    obtain ⟨savepoint, pending, hview, halone⟩ := hrun
    obtain ⟨actions, hactions⟩ := exec_of_alone halone
    -- What is left is the commit, whose surroundings do not matter.
    obtain ⟨env⟩ : Nonempty Surroundings := ⟨⟨⟨0, .utc⟩, 0, none⟩⟩
    have hcommit : syncStep setting.options
        ⟨db, [⟨batch, .next [], savepoint, pending, after.2⟩]⟩ (.advance 0 env) =
          some ⟨after.1, [⟨batch, .committed, [], [], after.2⟩]⟩ := by
      simp only [syncStep, List.getElem?_cons_zero, Option.bind_some, if_pos (granted_alone db _)]
      exact congrArg (fun view => some (SyncState.mk view _)) hview
    refine ⟨actions ++ [.advance 0 env], ⟨batch, .committed, [], [], after.2⟩, ?_, rfl⟩
    rw [TransitionSystem.exec_append, hactions, Option.bind_some, TransitionSystem.exec_cons]
    exact (congrArg (Option.bind · _) hcommit).trans rfl

end Alone

/-! ## A Branch with one Camera -/

/-- Upper case and schemes in ASCII. -/
def asciiRuntime : Runtime := ⟨Char.toUpper, fun uri => "rtsp://".toList.isPrefixOf uri.toList⟩

/-- The Branch of the sample batches, with the Camera of the sample events. -/
def sampleBranchDb : BranchDb where
  branches := [⟨2, "Depot", "1 Quay", "desk"⟩]
  cameras := [⟨7, 2, "Cam-1", "rtsp://cam/1", true, "front-door", 0⟩]

/-- One Alert a day in that Branch. -/
def sampleSetting : SyncSetting := ⟨onePerDay, asciiRuntime, sampleBranchDb⟩

/-- Identifiers from 100 on, at one moment. -/
def sampleDraws (n : ℕ) : Draws :=
  ⟨.ofNat 128 (100 + n), ⟨638448462100000000, .utc⟩, ⟨638448462100000000, .utc⟩,
    ⟨638448462100000000, .utc⟩⟩

end WeaponDetection.Backend.AlertSync
